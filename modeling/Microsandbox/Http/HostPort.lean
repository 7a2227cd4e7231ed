import Microsandbox.Http.Uri

namespace Microsandbox.Http

def isAuthorityByte (c : Char) : Bool := isUriChar c || c == '%'

theorem ne_of_isGenDelim_false {c : Char} (h : isGenDelim c = false) :
    c ≠ ':' ∧ c ≠ '/' ∧ c ≠ '?' ∧ c ≠ '#' ∧ c ≠ '[' ∧ c ≠ ']' ∧ c ≠ '@' := by
  simpa [isGenDelim] using h

theorem Authority.scan_append_of_noDelim {t : List Char} :
    ∀ {l : List Char} {st : AuthorityScan} {i : Nat}, (∀ c ∈ l, isGenDelim c = false) →
      Authority.scan st i (l ++ t) =
        if l.all isAuthorityByte then
          Authority.scan { st with hasPercent := st.hasPercent || l.contains '%' } (i + l.length) t
        else .error .invalidUriChar
  | [], st, i, _ => by simp
  | c :: l, st, i, hl => by
      obtain ⟨h1, h2, h3, h4, h5, h6, h7⟩ := ne_of_isGenDelim_false (hl c (by simp))
      have ih := @Authority.scan_append_of_noDelim t l
      have hl' : ∀ c ∈ l, isGenDelim c = false := fun c hc => hl c (by simp [hc])
      by_cases hp : c = '%'
      · subst hp
        simp [Authority.scan, ih hl', isAuthorityByte, Nat.add_right_comm, Nat.add_assoc]
      · by_cases hu : isUriChar c
        · have hstep : Authority.scan st i (c :: (l ++ t)) = Authority.scan st (i + 1) (l ++ t) := by
            simp [Authority.scan, *]
          rw [List.cons_append, hstep, ih hl']
          simp [isAuthorityByte, hu, Ne.symm hp, Nat.add_assoc, Nat.add_comm 1]
        · simp [Authority.scan, *, isAuthorityByte]

theorem Authority.scan_step {st : AuthorityScan} {i : Nat} {c : Char} (cs : List Char)
    (hc : c ∉ [':', '/', '?', '#', '@']) (h0 : st.colonCnt = 0) :
    (∃ err, Authority.scan st i (c :: cs) = .error err) ∨
      ∃ st', st'.colonCnt = 0 ∧ Authority.scan st i (c :: cs) = Authority.scan st' (i + 1) cs := by
  simp only [List.mem_cons, List.not_mem_nil, or_false, not_or] at hc
  obtain ⟨h1, h2, h3, h4, h5⟩ := hc
  generalize hr : Authority.scan st i (c :: cs) = r
  simp only [Authority.scan, h1, h2, h3, h4, h5, or_self, if_false] at hr
  split_ifs at hr <;> subst hr
  · exact .inl ⟨_, rfl⟩
  · exact .inr ⟨_, by exact h0, rfl⟩
  · exact .inl ⟨_, rfl⟩
  · exact .inr ⟨_, rfl, rfl⟩
  · exact .inr ⟨_, by exact h0, rfl⟩
  · exact .inr ⟨_, by exact h0, rfl⟩
  · exact .inl ⟨_, rfl⟩

theorem Authority.scan_chunk {t : List Char} : ∀ {T : List Char} {st : AuthorityScan} {i : Nat},
    (∀ c ∈ T, c ∉ [':', '/', '?', '#', '@']) → st.colonCnt = 0 →
      (∃ err, Authority.scan st i (T ++ t) = .error err) ∨
        ∃ st', st'.colonCnt = 0 ∧ Authority.scan st i (T ++ t) = Authority.scan st' (i + T.length) t
  | [], st, _, _, h0 => .inr ⟨st, h0, rfl⟩
  | c :: T, _, i, hT, h0 => by
      rw [List.cons_append]
      rcases Authority.scan_step (T ++ t) (hT c (List.mem_cons_self c T)) h0 with h | ⟨st', h0', hs⟩
      · exact .inl h
      rw [hs]
      rcases Authority.scan_chunk (i := i + 1) (fun x hx => hT x (List.mem_cons_of_mem c hx)) h0' with
        h | ⟨st'', h0'', hs'⟩
      · exact .inl h
      · exact .inr ⟨st'', h0'', by rw [hs', List.length_cons, Nat.add_assoc, Nat.add_comm 1]⟩

theorem Authority.scan_port_tail {st : AuthorityScan} {j : Nat} (h0 : st.colonCnt = 0)
    (rest : List Char) :
    Authority.scan st j (':' :: '8' :: '0' :: '8' :: '0' :: '/' :: rest) =
      .ok ({ st with colonCnt := 1 }, j + 5) := by
  simp [Authority.scan, h0, maxColons, show isUriChar '8' = true by decide,
    show isUriChar '0' = true by decide]

theorem ite_error_eq_ok {p : Prop} [Decidable p] {x : ErrorKind} {y : Except ErrorKind Nat} {e : Nat}
    (h : (if p then .error x else y) = .ok e) : y = .ok e := by
  split at h
  · cases h
  · exact h

theorem Authority.scan_of_parse_eq_ok {s : List Char} {e : Nat} (h : Authority.parse s = .ok e) :
    ∃ st, Authority.scan .init 0 s = .ok (st, e) := by
  unfold Authority.parse at h
  split at h
  · cases h
  · obtain rfl := Except.ok.inj (ite_error_eq_ok (ite_error_eq_ok (ite_error_eq_ok (ite_error_eq_ok h))))
    exact ⟨_, ‹_›⟩

theorem Authority.parse_host_port_end {T rest : List Char} {e : Nat}
    (hT : ∀ c ∈ T, c ∉ [':', '/', '?', '#', '@'])
    (h : Authority.parse (T ++ ':' :: '8' :: '0' :: '8' :: '0' :: '/' :: rest) = .ok e) :
    e = T.length + 5 := by
  obtain ⟨st, hs⟩ := Authority.scan_of_parse_eq_ok h
  rcases Authority.scan_chunk (t := ':' :: '8' :: '0' :: '8' :: '0' :: '/' :: rest) (i := 0) hT
    (rfl : AuthorityScan.init.colonCnt = 0) with ⟨err, herr⟩ | ⟨st', h0, hs'⟩
  · rw [herr] at hs
    cases hs
  · rw [hs', Authority.scan_port_tail h0, Except.ok.injEq, Prod.mk.injEq] at hs
    omega

theorem Authority.parse_host_port {T rest : List Char} (hT : ∀ c ∈ T, isGenDelim c = false) :
    Authority.parse (T ++ ':' :: '8' :: '0' :: '8' :: '0' :: '/' :: rest) =
      if T.all isUriChar then .ok (T.length + 5)
      else .error (if T.all isAuthorityByte then .invalidAuthority else .invalidUriChar) := by
  have h8 : isUriChar '8' = true := by decide
  have h0 : isUriChar '0' = true := by decide
  unfold Authority.parse
  rw [Authority.scan_append_of_noDelim hT]
  by_cases ha : T.all isAuthorityByte
  · by_cases hpct : T.contains '%'
    · have : ¬ T.all isUriChar := by
        simp at hpct ⊢
        exact ⟨'%', hpct, by decide⟩
      simp [Authority.scan, AuthorityScan.init, maxColons, ha, this, h8, h0]
      simpa using hpct
    · have : T.all isUriChar := by
        simp [isAuthorityByte] at ha hpct ⊢
        intro c hc
        exact (ha c hc).resolve_right (fun h => hpct (h ▸ hc))
      simp [Authority.scan, AuthorityScan.init, maxColons, ha, this, h8, h0]
      simpa using hpct
  · have : ¬ T.all isUriChar := fun h => ha (by simp [isAuthorityByte] at h ⊢; exact fun c hc => .inl (h c hc))
    simp [ha, this]

theorem Authority.parse_host_port_star {T : List Char} (hT : ∀ c ∈ T, isGenDelim c = false)
    (hu : T.all isUriChar) : Authority.parse (T ++ [':', '8', '0', '8', '0', '*']) = .ok (T.length + 6) := by
  have ha : T.all isAuthorityByte := by
    simp only [List.all_eq_true, isAuthorityByte, Bool.or_eq_true] at hu ⊢
    exact fun c hc => .inl (hu c hc)
  have hpct : '%' ∉ T := fun h => absurd (List.all_eq_true.mp hu '%' h) (by decide)
  unfold Authority.parse
  rw [Authority.scan_append_of_noDelim hT]
  simp [Authority.scan, AuthorityScan.init, maxColons, ha, hpct,
    show isUriChar '8' = true by decide, show isUriChar '0' = true by decide,
    show isUriChar '*' = true by decide]

theorem PathAndQuery.fromShared_eq_ok {s : List Char} {pq : PathAndQuery} :
    PathAndQuery.fromShared s = .ok pq ↔ scanPath s = .ok pq.data := by
  unfold PathAndQuery.fromShared
  split <;> rename_i h
  · obtain ⟨d', hd'⟩ := pq
    simp only [Except.ok.injEq, PathAndQuery.mk.injEq, h]
  · simp [h]

theorem Scheme2.parse_http (R : List Char) :
    Scheme2.parse ('h' :: 't' :: 't' :: 'p' :: ':' :: '/' :: '/' :: R) = .ok (.standard .http) := by
  have : (['h', 't', 't', 'p', ':', '/', '/'] : List Char).map Char.toLower =
      "http://".toList := by decide
  simp [Scheme2.parse, this]

theorem Uri.fromShared_http_host_port {T D : List Char} (hT : ∀ c ∈ T, isGenDelim c = false)
    (hD : scanPath D = .ok D) (hslash : D.head? = some '/') {u : Uri} :
    Uri.fromShared (['h', 't', 't', 'p', ':', '/', '/'] ++ T ++ [':', '8', '0', '8', '0'] ++ D) =
        .ok u ↔
      (utf8Len (['h', 't', 't', 'p', ':', '/', '/'] ++ T ++ [':', '8', '0', '8', '0'] ++ D) ≤ maxLen ∧
        T.all isUriChar) ∧ u = ⟨.standard .http, ⟨T ++ [':', '8', '0', '8', '0']⟩, ⟨D, hD⟩⟩ := by
  obtain ⟨rest, rfl⟩ : ∃ rest, D = '/' :: rest := by
    cases D with
    | nil => simp at hslash
    | cons c rest => simp at hslash; exact ⟨rest, by rw [hslash]⟩
  simp only [List.cons_append, List.append_assoc, List.nil_append]
  unfold Uri.fromShared
  split_ifs with hlen
  · simp [Nat.not_le.mpr hlen]
  · simp [Uri.parseFull, Scheme2.parse_http, Scheme2.split, Protocol.len,
      Authority.parse_host_port hT, Nat.le_of_not_lt hlen]
    by_cases hu : ∀ x ∈ T, isUriChar x = true
    · have hpq : PathAndQuery.fromShared ('/' :: rest) = .ok ⟨'/' :: rest, hD⟩ :=
        PathAndQuery.fromShared_eq_ok.mpr hD
      have hdrop : (T ++ ':' :: '8' :: '0' :: '8' :: '0' :: '/' :: rest).drop (T.length + 5) =
          '/' :: rest := by
        rw [List.drop_append_eq_append_drop]
        simp
      have htake : (T ++ ':' :: '8' :: '0' :: '8' :: '0' :: '/' :: rest).take (T.length + 5) =
          T ++ [':', '8', '0', '8', '0'] := by
        rw [List.take_append_eq_append_take]
        simp
      rw [if_pos hu]
      simp only [Nat.add_eq_zero, Nat.succ_ne_zero, and_false, if_false, hdrop, hpq, htake,
        Except.ok.injEq]
      exact ⟨fun h => ⟨hu, h.symm⟩, fun h => h.2.symm⟩
    · simp [hu]

theorem Uri.fromShared_http_host_port_of_ok {T D : List Char}
    (hT : ∀ c ∈ T, c ∉ [':', '/', '?', '#', '@']) (hD : scanPath D = .ok D) (hslash : D.head? = some '/')
    {u : Uri}
    (h : Uri.fromShared (['h', 't', 't', 'p', ':', '/', '/'] ++ T ++ [':', '8', '0', '8', '0'] ++ D) =
      .ok u) :
    u = ⟨.standard .http, ⟨T ++ [':', '8', '0', '8', '0']⟩, ⟨D, hD⟩⟩ := by
  obtain ⟨rest, rfl⟩ : ∃ rest, D = '/' :: rest := by
    cases D with
    | nil => simp at hslash
    | cons c rest => simp at hslash; exact ⟨rest, by rw [hslash]⟩
  simp only [List.cons_append, List.append_assoc, List.nil_append] at h
  unfold Uri.fromShared at h
  split_ifs at h
  simp only [Uri.parseFull, Scheme2.parse_http, Scheme2.split, Protocol.len] at h
  cases hp : Authority.parse (T ++ ':' :: '8' :: '0' :: '8' :: '0' :: '/' :: rest) with
  | error err => simp [hp] at h
  | ok e =>
      obtain rfl := Authority.parse_host_port_end hT hp
      have hpq : PathAndQuery.fromShared ('/' :: rest) = .ok ⟨'/' :: rest, hD⟩ :=
        PathAndQuery.fromShared_eq_ok.mpr hD
      have hdrop : (T ++ ':' :: '8' :: '0' :: '8' :: '0' :: '/' :: rest).drop (T.length + 5) =
          '/' :: rest := by
        rw [List.drop_append_eq_append_drop]
        simp
      have htake : (T ++ ':' :: '8' :: '0' :: '8' :: '0' :: '/' :: rest).take (T.length + 5) =
          T ++ [':', '8', '0', '8', '0'] := by
        rw [List.take_append_eq_append_take]
        simp
      simp [hp, hpq, hdrop, htake] at h
      exact h.symm

theorem Uri.fromShared_http_host_port_star {T : List Char} (hT : ∀ c ∈ T, isGenDelim c = false)
    (hu : T.all isUriChar)
    (hlen : utf8Len (['h', 't', 't', 'p', ':', '/', '/'] ++ T ++ [':', '8', '0', '8', '0'] ++ ['*']) ≤
      maxLen) :
    Uri.fromShared (['h', 't', 't', 'p', ':', '/', '/'] ++ T ++ [':', '8', '0', '8', '0'] ++ ['*']) =
      .ok ⟨.standard .http, ⟨T ++ [':', '8', '0', '8', '0', '*']⟩, .empty⟩ := by
  have htake : (T ++ [':', '8', '0', '8', '0', '*']).take (T.length + 6) =
      T ++ [':', '8', '0', '8', '0', '*'] := by simp
  have hpq : PathAndQuery.fromShared [] = .ok .empty := rfl
  simp only [List.cons_append, List.append_assoc, List.nil_append, List.singleton_append] at hlen ⊢
  unfold Uri.fromShared
  rw [if_neg (Nat.not_lt.mpr hlen)]
  simp [Uri.parseFull, Scheme2.parse_http, Scheme2.split, Protocol.len,
    Authority.parse_host_port_star hT hu, htake, hpq]

theorem afterLast_of_not_mem {sep : Char} {s : List Char} (h : sep ∉ s) : afterLast sep s = s := by
  rw [afterLast, List.takeWhile_eq_self_iff.mpr, List.reverse_reverse]
  intro c hc
  have : c ≠ sep := fun hcs => h (hcs ▸ List.mem_reverse.mp hc)
  simpa using this

theorem Authority.host_host_port {T : List Char} (hat : '@' ∉ T) (hcolon : ':' ∉ T)
    (hhead : T.head? ≠ some '[') : (⟨T ++ [':', '8', '0', '8', '0']⟩ : Authority).host = T := by
  have hat' : '@' ∉ T ++ [':', '8', '0', '8', '0'] := by
    simp only [List.mem_append, not_or]
    exact ⟨hat, by decide⟩
  have hcolon' : ∀ c ∈ T, (c != ':') = true := fun c hc =>
    bne_iff_ne.mpr fun h => hcolon (h ▸ hc)
  unfold Authority.host
  rw [afterLast_of_not_mem hat']
  cases T with
  | nil => rfl
  | cons c T =>
      simp only [List.cons_append]
      split
      · rename_i h; simp at h; exact absurd (by simp [h.1]) hhead
      · rw [← List.cons_append, List.takeWhile_append_of_pos hcolon']
        simp

theorem Authority.port_host_port (T : List Char) :
    (⟨T ++ [':', '8', '0', '8', '0']⟩ : Authority).port = some 8080 := by
  have : afterLast ':' (T ++ [':', '8', '0', '8', '0']) = ['8', '0', '8', '0'] := by
    simp [afterLast]
  simp [Authority.port, this]
  rfl

theorem Authority.port_host_port_star (T : List Char) :
    (⟨T ++ [':', '8', '0', '8', '0', '*']⟩ : Authority).port = none := by
  have : afterLast ':' (T ++ [':', '8', '0', '8', '0', '*']) = ['8', '0', '8', '0', '*'] := by
    simp [afterLast]
  simp [Authority.port, this]
  rfl

theorem Uri.pathAndQuery?_standard (p : Protocol) (a : Authority) (pq : PathAndQuery) :
    (⟨.standard p, a, pq⟩ : Uri).pathAndQuery? = some pq := by
  simp [Uri.pathAndQuery?]

theorem Uri.host_host_port {T : List Char} (hat : '@' ∉ T) (hcolon : ':' ∉ T)
    (hhead : T.head? ≠ some '[') (s : Scheme) (pq : PathAndQuery) :
    (⟨s, ⟨T ++ [':', '8', '0', '8', '0']⟩, pq⟩ : Uri).host = some T := by
  rw [Uri.host, if_neg (by simp), Authority.host_host_port hat hcolon hhead]

theorem Uri.portU16_host_port (T : List Char) (s : Scheme) (pq : PathAndQuery) :
    (⟨s, ⟨T ++ [':', '8', '0', '8', '0']⟩, pq⟩ : Uri).portU16 = some 8080 := by
  rw [Uri.portU16, if_neg (by simp), Authority.port_host_port]

theorem scanPath_slash (cs : List Char) : scanPath ('/' :: cs) = (scanPath cs).map ('/' :: ·) := by
  simp [scanPath, show isPathChar '/' = true by decide]

theorem PathAndQuery.display_eq_data {pq : PathAndQuery}
    (h : pq.data.head? = some '/' ∨ pq.data.head? = some '*') : pq.display = pq.data := by
  obtain ⟨_ | ⟨c, cs⟩, hd⟩ := pq
  · simp at h
  · simp only [List.head?_cons, Option.some.injEq] at h
    simp [PathAndQuery.display, h]

theorem PathAndQuery.display_head (pq : PathAndQuery) :
    pq.display.head? = some '/' ∨ pq.display.head? = some '*' := by
  obtain ⟨_ | ⟨c, cs⟩, hd⟩ := pq
  · exact .inl rfl
  · dsimp only [PathAndQuery.display]
    split_ifs with hc
    · simpa using hc
    · exact .inl rfl

theorem scanPath_display (pq : PathAndQuery) : scanPath pq.display = .ok pq.display := by
  obtain ⟨_ | ⟨c, cs⟩, hd⟩ := pq
  · rfl
  · dsimp only [PathAndQuery.display]
    split_ifs
    · exact hd
    · simp [scanPath_slash, hd, Except.map]

theorem PathAndQuery.display_canonical (pq : PathAndQuery) (h : pq.data.head? ≠ some '*') :
    pq.display.head? = some '/' ∧ scanPath pq.display = .ok pq.display := by
  refine ⟨?_, scanPath_display pq⟩
  obtain ⟨_ | ⟨c, cs⟩, hd⟩ := pq
  · rfl
  · simp only [List.head?_cons, ne_eq, Option.some.injEq] at h
    simp only [PathAndQuery.display, h, or_false]
    split_ifs with hc
    · rw [hc]; rfl
    · rfl

theorem PathAndQuery.fromShared_display (pq : PathAndQuery) :
    ∃ pq', PathAndQuery.fromShared pq.display = .ok pq' ∧ pq'.data = pq.display ∧
      pq'.display = pq.display :=
  ⟨⟨pq.display, scanPath_display pq⟩, PathAndQuery.fromShared_eq_ok.mpr (scanPath_display pq), rfl,
    PathAndQuery.display_eq_data (PathAndQuery.display_head pq)⟩

end Microsandbox.Http
