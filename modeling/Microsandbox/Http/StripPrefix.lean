import Microsandbox.Http.HostPort
import Microsandbox.Http.Request

namespace Microsandbox.Http

def PathAndQuery.query (pq : PathAndQuery) : Option (List Char) :=
  match pq.data.dropWhile (· != '?') with
  | [] => none
  | _ :: query => some query

def Uri.query (u : Uri) : Option (List Char) := u.pathAndQuery.query

def StripPrefix.segments (s : List Char) : List (List Char) := (s.splitOn '/').drop 1

def StripPrefix.isCapture (segment : List Char) : Bool :=
  ['\x7b'].isPrefixOf segment && ['\x7d'].isSuffixOf segment &&
    !(['\x7b', '\x7b'].isPrefixOf segment) && !(['\x7d', '\x7d'].isSuffixOf segment) &&
    !(['\x7b', '*'].isPrefixOf segment)

def StripPrefix.matchingPrefixLength : List (List Char) → List (List Char) → Nat → Option Nat
  | pathSegment :: path, prefixSegment :: pre, n =>
      if isCapture prefixSegment || pathSegment == prefixSegment then
        matchingPrefixLength path pre (n + 1 + pathSegment.length)
      else if prefixSegment.isEmpty then some (n + 1)
      else none
  | _ :: _, [], n => some (n + 1)
  | [], _ :: _, _ => none
  | [], [], n => some n

def StripPrefix.newPathAndQuery (afterPrefix : List Char) (query : Option (List Char)) : List Char :=
  match afterPrefix.head? == some '/', query with
  | true, none => afterPrefix
  | true, some query => afterPrefix ++ '?' :: query
  | false, none => '/' :: afterPrefix
  | false, some query => '/' :: afterPrefix ++ '?' :: query

def StripPrefix.stripPrefix (uri : Uri) (pre : List Char) : Option Uri := do
  let pathAndQuery ← uri.pathAndQuery?
  let n ← matchingPrefixLength (segments pathAndQuery.path) (segments pre) 0
  match PathAndQuery.fromShared (newPathAndQuery (uri.path.drop n) pathAndQuery.query) with
  | .ok stripped => some ⟨uri.scheme, uri.authority, stripped⟩
  | .error _ => none

def StripPrefix.call {α : Type} (pre : List Char) (inner : Request → α) (req : Request) : α :=
  match stripPrefix req.parts.uri pre with
  | some newUri => inner ⟨{ req.parts with uri := newUri }, req.body⟩
  | none => inner req

def StripPrefix.strippedPath (afterPrefix : List Char) : List Char :=
  if afterPrefix.head? = some '/' then afterPrefix else '/' :: afterPrefix

def StripPrefix.Stripped (path : List Char) (req r : Request) : Prop :=
  r.parts.method = req.parts.method ∧ r.parts.headers = req.parts.headers ∧ r.body = req.body ∧
    r.parts.uri.scheme = req.parts.uri.scheme ∧ r.parts.uri.authority = req.parts.uri.authority ∧
    (req.parts.uri.pathAndQuery?.isSome →
      r.parts.uri.path = path ∧ r.parts.uri.query = req.parts.uri.query)

theorem Uri.pathAndQuery_of_eq_some {u : Uri} {pq : PathAndQuery} (h : u.pathAndQuery? = some pq) :
    u.pathAndQuery = pq := by
  unfold Uri.pathAndQuery? at h
  split_ifs at h
  exact Option.some.inj h

theorem isPathChar_ne {c : Char} (h : isPathChar c) : c ≠ '?' ∧ c ≠ '#' := by
  constructor <;> rintro rfl <;> exact absurd h (by decide)

theorem scanPath_eq_self_parts : ∀ {d : List Char}, scanPath d = .ok d →
    (∀ c ∈ d.takeWhile (· != '?'), isPathChar c) ∧
      ∀ q, d.dropWhile (· != '?') = '?' :: q → scanQuery q = .ok q
  | [], _ => by simp
  | c :: cs, h => by
      simp only [scanPath] at h
      split_ifs at h with h1 h2 h3
      · obtain ⟨d', hd', hcs⟩ := map_cons_eq_ok.mp h
        obtain rfl := (List.cons.inj hcs).2
        subst h1
        simpa using hd'
      · cases h
      · obtain ⟨d', hd', hcs⟩ := map_cons_eq_ok.mp h
        obtain rfl := (List.cons.inj hcs).2
        obtain ⟨ih1, ih2⟩ := scanPath_eq_self_parts hd'
        have hc : (c != '?') = true := bne_iff_ne.mpr h1
        simp only [List.takeWhile_cons, List.dropWhile_cons, hc, if_true, List.mem_cons]
        exact ⟨fun x hx => hx.elim (· ▸ h3) (ih1 x), ih2⟩

theorem PathAndQuery.path_pathChars (pq : PathAndQuery) : ∀ c ∈ pq.path, isPathChar c := by
  unfold PathAndQuery.path
  split
  · simp [isPathChar]
  · exact (scanPath_eq_self_parts pq.canonical).1

theorem Uri.path_pathChars (u : Uri) : ∀ c ∈ u.path, isPathChar c := by
  unfold Uri.path
  split_ifs
  · exact u.pathAndQuery.path_pathChars
  · simp

theorem PathAndQuery.query_scanQuery {pq : PathAndQuery} {q : List Char} (h : pq.query = some q) :
    scanQuery q = .ok q := by
  unfold PathAndQuery.query at h
  split at h <;> cases h
  rename_i c hd
  obtain rfl : c = '?' := by
    simpa [hd] using List.head_dropWhile_not (· != '?') pq.data (by simp [hd])
  exact (scanPath_eq_self_parts pq.canonical).2 _ hd

theorem scanPath_pathChars_append {p r r' : List Char} (hp : ∀ c ∈ p, isPathChar c)
    (hr : scanPath r = .ok r') : scanPath (p ++ r) = .ok (p ++ r') := by
  induction p with
  | nil => exact hr
  | cons c p ih =>
      have hc := hp c (List.mem_cons_self c p)
      simp [scanPath, isPathChar_ne hc, hc, ih fun x hx => hp x (List.mem_cons_of_mem c hx),
        Except.map]

theorem StripPrefix.newPathAndQuery_eq (afterPrefix : List Char) (query : Option (List Char)) :
    newPathAndQuery afterPrefix query = strippedPath afterPrefix ++ query.elim [] ('?' :: ·) := by
  unfold newPathAndQuery strippedPath
  cases h : afterPrefix.head? == some '/' <;> cases query <;>
    simp_all [beq_iff_eq]

theorem StripPrefix.strippedPath_pathChars {afterPrefix : List Char}
    (h : ∀ c ∈ afterPrefix, isPathChar c) : ∀ c ∈ strippedPath afterPrefix, isPathChar c := by
  unfold strippedPath
  split_ifs
  · exact h
  · exact List.forall_mem_cons.mpr ⟨by decide, h⟩

theorem StripPrefix.strippedPath_slash (afterPrefix : List Char) :
    ∃ s, strippedPath afterPrefix = '/' :: s := by
  unfold strippedPath
  split_ifs with h
  · obtain ⟨s, rfl⟩ : ∃ s, afterPrefix = '/' :: s := by
      cases afterPrefix <;> simp_all
    exact ⟨s, rfl⟩
  · exact ⟨afterPrefix, rfl⟩

theorem StripPrefix.scanPath_newPathAndQuery {afterPrefix : List Char} {query : Option (List Char)}
    (hafter : ∀ c ∈ afterPrefix, isPathChar c) (hquery : ∀ q, query = some q → scanQuery q = .ok q) :
    scanPath (newPathAndQuery afterPrefix query) = .ok (newPathAndQuery afterPrefix query) := by
  rw [newPathAndQuery_eq]
  refine scanPath_pathChars_append (strippedPath_pathChars hafter) ?_
  cases query with
  | none => rfl
  | some q => simp [scanPath, hquery q rfl, Except.map]

theorem PathAndQuery.path_query_eq {pq : PathAndQuery} {s : List Char} {query : Option (List Char)}
    (hs : ∀ c ∈ s, isPathChar c) (hd : pq.data = '/' :: s ++ query.elim [] ('?' :: ·)) :
    pq.path = '/' :: s ∧ pq.query = query := by
  have hne : ∀ c ∈ '/' :: s, (c != '?') = true := fun c hc =>
    bne_iff_ne.mpr (isPathChar_ne ((List.forall_mem_cons.mpr ⟨by decide, hs⟩) c hc)).1
  unfold PathAndQuery.path PathAndQuery.query
  rw [hd, List.takeWhile_append_of_pos hne, List.dropWhile_append_of_pos hne]
  cases query <;> simp

theorem StripPrefix.stripPrefix_eq_some {uri : Uri} {pre : List Char} {pq : PathAndQuery} {n : Nat}
    (hpq : uri.pathAndQuery? = some pq)
    (hn : matchingPrefixLength (segments pq.path) (segments pre) 0 = some n) :
    ∃ u, stripPrefix uri pre = some u ∧ u.scheme = uri.scheme ∧ u.authority = uri.authority ∧
      u.path = strippedPath (uri.path.drop n) ∧ u.query = pq.query := by
  have hafter : ∀ c ∈ uri.path.drop n, isPathChar c := fun c hc =>
    uri.path_pathChars c (List.mem_of_mem_drop hc)
  have hscan : scanPath (newPathAndQuery (uri.path.drop n) pq.query) =
      .ok (newPathAndQuery (uri.path.drop n) pq.query) :=
    scanPath_newPathAndQuery hafter fun _ => PathAndQuery.query_scanQuery
  obtain ⟨s, hs⟩ := strippedPath_slash (uri.path.drop n)
  have hpath : PathAndQuery.path ⟨_, hscan⟩ = '/' :: s ∧ PathAndQuery.query ⟨_, hscan⟩ = pq.query :=
    PathAndQuery.path_query_eq
      (fun c hc => strippedPath_pathChars hafter c (hs ▸ List.mem_cons_of_mem '/' hc))
      (by show newPathAndQuery _ _ = _; rw [newPathAndQuery_eq, hs])
  have hshared : PathAndQuery.fromShared (newPathAndQuery (uri.path.drop n) pq.query) =
      .ok ⟨_, hscan⟩ := PathAndQuery.fromShared_eq_ok.mpr hscan
  have hne : newPathAndQuery (uri.path.drop n) pq.query ≠ [] := by
    simp [newPathAndQuery_eq, hs]
  refine ⟨⟨uri.scheme, uri.authority, ⟨_, hscan⟩⟩, ?_, rfl, rfl, ?_, hpath.2⟩
  · simp only [stripPrefix, hpq, Option.bind_eq_bind, Option.some_bind, hn, Uri.pathAndQuery_of_eq_some hpq,
      hshared]
  · rw [Uri.path, if_pos (Or.inl hne), hpath.1, hs]

theorem StripPrefix.call_eq_id {α : Type} (pre : List Char) (inner : Request → α) (req : Request) :
    call pre inner req = inner (call pre id req) := by
  unfold call
  split <;> rfl

@[simp] theorem StripPrefix.call_id_parts (pre : List Char) (req : Request) :
    (call pre id req).parts.method = req.parts.method ∧
      (call pre id req).parts.headers = req.parts.headers ∧ (call pre id req).body = req.body := by
  unfold call
  split <;> exact ⟨rfl, rfl, rfl⟩

theorem StripPrefix.call_id_stripped {pre path out : List Char} {n : Nat} {req : Request}
    (hpath : req.parts.uri.path = path) (hne : path ≠ [])
    (hn : matchingPrefixLength (segments path) (segments pre) 0 = some n)
    (hout : strippedPath (path.drop n) = out) : Stripped out req (call pre id req) := by
  cases hpq : req.parts.uri.pathAndQuery? with
  | none =>
      rw [show call pre id req = req by simp [call, stripPrefix, hpq]]
      exact ⟨rfl, rfl, rfl, rfl, rfl, fun h => by simp [hpq] at h⟩
  | some pq =>
      have hpq' := Uri.pathAndQuery_of_eq_some hpq
      have hpqpath : pq.path = path := by
        unfold Uri.path at hpath
        split_ifs at hpath
        · exact hpq' ▸ hpath
        · exact absurd hpath.symm hne
      obtain ⟨u, hu, hs, ha, hp, hq⟩ := stripPrefix_eq_some hpq (hpqpath ▸ hn)
      rw [show call pre id req = ⟨{ req.parts with uri := u }, req.body⟩ by simp [call, hu]]
      exact ⟨rfl, rfl, rfl, hs, ha, fun _ =>
        ⟨hout ▸ hpath ▸ hp, hq.trans (congrArg PathAndQuery.query hpq').symm⟩⟩

end Microsandbox.Http
