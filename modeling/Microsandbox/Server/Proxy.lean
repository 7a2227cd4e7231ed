import Microsandbox.Http.HostPort

namespace Microsandbox.Server

open Microsandbox.Http

def localhostUri : Uri := ⟨.standard .http, ⟨"localhost:8080".toList⟩, .slash⟩

theorem fromStr_localhost : Uri.fromStr "http://localhost:8080/" = .ok localhostUri := rfl

def proxyUri (originalUri : Uri) («namespace» sandboxName : String) : Uri :=
  let targetHost := "sandbox-" ++ sandboxName ++ "." ++ «namespace» ++ ".internal"
  let uriString := match originalUri.pathAndQuery? with
    | some pathAndQuery => "http://" ++ targetHost ++ ":" ++ "8080" ++ String.mk pathAndQuery.display
    | none => "http://" ++ targetHost ++ ":" ++ "8080" ++ "/"
  match Uri.fromStr uriString with
  | .ok uri => uri
  | .error _ => localhostUri

def ProxiedTo (uri originalUri : Uri) («namespace» sandboxName : String) : Prop :=
  uri.scheme = .standard .http ∧ '@' ∉ uri.authority.data ∧
    uri.host = some ("sandbox-" ++ sandboxName ++ "." ++ «namespace» ++ ".internal").data ∧
    uri.portU16 = some 8080 ∧
    uri.pathAndQuery?.map PathAndQuery.display =
      some ((originalUri.pathAndQuery?.map PathAndQuery.display).getD ['/'])

theorem proxyUri_escapes_sandbox_host :
    ¬ ∀ (originalUri : Uri) («namespace» sandboxName : String),
      proxyUri originalUri «namespace» sandboxName = localhostUri ∨
        ProxiedTo (proxyUri originalUri «namespace» sandboxName) originalUri «namespace» sandboxName := by
  intro h
  rcases h ⟨.none, ⟨[]⟩, .slash⟩ "ns" "x@evil.example:80/" with h | h
  · exact absurd h (by decide)
  · exact absurd h.2.2.1 (by decide)

theorem proxyUri_targetHost_forall {p : Char → Prop} {«namespace» sandboxName : String}
    (hlit : ∀ c ∈ "sandbox-".data ++ ".".data ++ ".internal".data, p c)
    (hns : ∀ c ∈ «namespace».data, p c) (hsb : ∀ c ∈ sandboxName.data, p c) :
    ∀ c ∈ ("sandbox-" ++ sandboxName ++ "." ++ «namespace» ++ ".internal").data, p c := by
  simp only [String.data_append, List.mem_append] at hlit ⊢
  rintro c ((((hc | hc) | hc) | hc) | hc)
  · exact hlit c (.inl (.inl hc))
  · exact hsb c hc
  · exact hlit c (.inl (.inr hc))
  · exact hns c hc
  · exact hlit c (.inr hc)

theorem not_mem_of_isGenDelim_false {c : Char} (h : isGenDelim c = false) :
    c ∉ [':', '/', '?', '#', '@'] := by
  obtain ⟨h1, h2, h3, h4, -, -, h7⟩ := ne_of_isGenDelim_false h
  simp [h1, h2, h3, h4, h7]

theorem proxyUri_eq (originalUri : Uri) («namespace» sandboxName : String) :
    proxyUri originalUri «namespace» sandboxName =
      match Uri.fromShared (['h', 't', 't', 'p', ':', '/', '/'] ++
          ("sandbox-" ++ sandboxName ++ "." ++ «namespace» ++ ".internal").data ++
          [':', '8', '0', '8', '0'] ++ (originalUri.pathAndQuery?.map PathAndQuery.display).getD ['/']) with
      | .ok uri => uri
      | .error _ => localhostUri := by
  unfold proxyUri
  cases originalUri.pathAndQuery? <;> simp [Uri.fromStr]

theorem proxyPath_canonical {originalUri : Uri}
    (hstar : ∀ pq, originalUri.pathAndQuery? = some pq → pq.data.head? ≠ some '*') :
    ((originalUri.pathAndQuery?.map PathAndQuery.display).getD ['/']).head? = some '/' ∧
      scanPath ((originalUri.pathAndQuery?.map PathAndQuery.display).getD ['/']) =
        .ok ((originalUri.pathAndQuery?.map PathAndQuery.display).getD ['/']) := by
  cases hpq : originalUri.pathAndQuery? with
  | none => exact ⟨rfl, rfl⟩
  | some pq => simpa using pq.display_canonical (hstar pq hpq)

theorem proxiedTo_host_port {originalUri : Uri} {«namespace» sandboxName : String} {D : List Char}
    (hD : scanPath D = .ok D) (hDeq : (originalUri.pathAndQuery?.map PathAndQuery.display).getD ['/'] = D)
    (hslash : D.head? = some '/')
    (hT : ∀ c ∈ ("sandbox-" ++ sandboxName ++ "." ++ «namespace» ++ ".internal").data,
      c ∉ [':', '/', '?', '#', '@']) :
    ProxiedTo ⟨.standard .http, ⟨("sandbox-" ++ sandboxName ++ "." ++ «namespace» ++ ".internal").data ++
      [':', '8', '0', '8', '0']⟩, ⟨D, hD⟩⟩ originalUri «namespace» sandboxName := by
  have hat : '@' ∉ ("sandbox-" ++ sandboxName ++ "." ++ «namespace» ++ ".internal").data :=
    fun h => hT _ h (by decide)
  have hcolon : ':' ∉ ("sandbox-" ++ sandboxName ++ "." ++ «namespace» ++ ".internal").data :=
    fun h => hT _ h (by decide)
  have hhead : ("sandbox-" ++ sandboxName ++ "." ++ «namespace» ++ ".internal").data.head? ≠ some '[' := by
    simp [String.data_append]
  refine ⟨rfl, ?_, Uri.host_host_port hat hcolon hhead _ _, Uri.portU16_host_port _ _ _, ?_⟩
  · simp only [List.mem_append, not_or]
    exact ⟨hat, by decide⟩
  · rw [Uri.pathAndQuery?_standard, Option.map_some', PathAndQuery.display_eq_data (.inl hslash), hDeq]

theorem proxyUri_targets_sandbox (originalUri : Uri) («namespace» sandboxName : String)
    (hns : ∀ c ∈ «namespace».data, c ∉ [':', '/', '?', '#', '@'])
    (hsb : ∀ c ∈ sandboxName.data, c ∉ [':', '/', '?', '#', '@'])
    (hstar : ∀ pq, originalUri.pathAndQuery? = some pq → pq.data.head? ≠ some '*') :
    proxyUri originalUri «namespace» sandboxName = localhostUri ∨
      ProxiedTo (proxyUri originalUri «namespace» sandboxName) originalUri «namespace» sandboxName := by
  have hT := proxyUri_targetHost_forall (by decide) hns hsb
  have hD := proxyPath_canonical hstar
  rw [proxyUri_eq]
  split
  · rename_i u h
    obtain rfl := Uri.fromShared_http_host_port_of_ok hT hD.2 hD.1 h
    exact .inr (proxiedTo_host_port hD.2 rfl hD.1 hT)
  · exact .inl rfl

theorem slashUri_not_star :
    ∀ pq, (⟨.none, ⟨[]⟩, .slash⟩ : Uri).pathAndQuery? = some pq → pq.data.head? ≠ some '*' := by
  rintro pq h
  simp only [Uri.pathAndQuery?, ne_eq, not_true_eq_false, or_true, if_true, Option.some.injEq] at h
  subst h
  decide

theorem proxyUri_targets_sandbox_sample :
    (∀ c ∈ "tenant".data, c ∉ [':', '/', '?', '#', '@']) ∧
    (∀ c ∈ "box[1]".data, c ∉ [':', '/', '?', '#', '@']) ∧
    (∀ pq, (⟨.none, ⟨[]⟩, .slash⟩ : Uri).pathAndQuery? = some pq → pq.data.head? ≠ some '*') ∧
    (proxyUri ⟨.none, ⟨[]⟩, .slash⟩ "tenant" "box[1]" = localhostUri ∨
      ProxiedTo (proxyUri ⟨.none, ⟨[]⟩, .slash⟩ "tenant" "box[1]") ⟨.none, ⟨[]⟩, .slash⟩ "tenant" "box[1]") :=
  have h1 : ∀ c ∈ "tenant".data, c ∉ [':', '/', '?', '#', '@'] := by decide
  have h2 : ∀ c ∈ "box[1]".data, c ∉ [':', '/', '?', '#', '@'] := by decide
  ⟨h1, h2, slashUri_not_star, proxyUri_targets_sandbox _ _ _ h1 h2 slashUri_not_star⟩

theorem proxyUri_targetHost_all_isUriChar («namespace» sandboxName : String) :
    ("sandbox-" ++ sandboxName ++ "." ++ «namespace» ++ ".internal").data.all isUriChar =
      (sandboxName.data.all isUriChar && «namespace».data.all isUriChar) := by
  have h1 : "sandbox-".data.all isUriChar = true := by decide
  have h2 : ".".data.all isUriChar = true := by decide
  have h3 : ".internal".data.all isUriChar = true := by decide
  simp only [String.data_append, List.all_append, h1, h2, h3, Bool.true_and, Bool.and_true]

theorem proxyUri_text_utf8Len («namespace» sandboxName : String) (D : List Char) :
    utf8Len (['h', 't', 't', 'p', ':', '/', '/'] ++
        ("sandbox-" ++ sandboxName ++ "." ++ «namespace» ++ ".internal").data ++
        [':', '8', '0', '8', '0'] ++ D) =
      utf8Len sandboxName.data + utf8Len «namespace».data + utf8Len D + 30 := by
  have h1 : utf8Len ['h', 't', 't', 'p', ':', '/', '/'] = 7 := rfl
  have h2 : utf8Len "sandbox-".data = 8 := rfl
  have h3 : utf8Len ".".data = 1 := rfl
  have h4 : utf8Len ".internal".data = 9 := rfl
  have h5 : utf8Len [':', '8', '0', '8', '0'] = 5 := rfl
  simp only [String.data_append, utf8Len_append, h1, h2, h3, h4, h5]
  omega

theorem proxyUri_falls_back_iff (originalUri : Uri) («namespace» sandboxName : String)
    (hns : ∀ c ∈ «namespace».data, isGenDelim c = false)
    (hsb : ∀ c ∈ sandboxName.data, isGenDelim c = false)
    (hstar : ∀ pq, originalUri.pathAndQuery? = some pq → pq.data.head? ≠ some '*') :
    (proxyUri originalUri «namespace» sandboxName = localhostUri ↔
      ¬ («namespace».data.all isUriChar ∧ sandboxName.data.all isUriChar ∧
        utf8Len sandboxName.data + utf8Len «namespace».data +
          utf8Len ((originalUri.pathAndQuery?.map PathAndQuery.display).getD ['/']) + 30 ≤ maxLen)) ∧
    («namespace».data.all isUriChar ∧ sandboxName.data.all isUriChar ∧
        utf8Len sandboxName.data + utf8Len «namespace».data +
          utf8Len ((originalUri.pathAndQuery?.map PathAndQuery.display).getD ['/']) + 30 ≤ maxLen →
      ProxiedTo (proxyUri originalUri «namespace» sandboxName) originalUri «namespace» sandboxName) := by
  have hT := proxyUri_targetHost_forall (by decide) hns hsb
  have hD := proxyPath_canonical hstar
  have hparse := fun u => Uri.fromShared_http_host_port (u := u) hT hD.2 hD.1
  rw [proxyUri_text_utf8Len, proxyUri_targetHost_all_isUriChar, Bool.and_eq_true] at hparse
  have hfits : ∀ {L S N : Prop}, (L ∧ S ∧ N) ↔ (N ∧ S ∧ L) :=
    ⟨fun ⟨l, s, n⟩ => ⟨n, s, l⟩, fun ⟨n, s, l⟩ => ⟨l, s, n⟩⟩
  have hproxied := proxiedTo_host_port hD.2 rfl hD.1 fun c hc => not_mem_of_isGenDelim_false (hT c hc)
  rw [proxyUri_eq]
  split
  · rename_i u h
    obtain ⟨hfit, rfl⟩ := (hparse u).mp h
    refine ⟨iff_of_false (fun heq => ?_) (not_not.mpr (hfits.mp hfit)), fun _ => hproxied⟩
    simpa [localhostUri] using congrArg (fun u : Uri => u.authority.data.head?) heq
  · rename_i e h
    have hunfit : ¬ _ := fun hfit => by
      rw [(hparse _).mpr ⟨hfits.mpr hfit, rfl⟩] at h
      cases h
    exact ⟨iff_of_true rfl hunfit, fun hfit => absurd hfit hunfit⟩

theorem proxyUri_falls_back_iff_sample :
    (∀ c ∈ "tenant".data, isGenDelim c = false) ∧ (∀ c ∈ "my box".data, isGenDelim c = false) ∧
    (∀ pq, (⟨.none, ⟨[]⟩, .slash⟩ : Uri).pathAndQuery? = some pq → pq.data.head? ≠ some '*') ∧
    proxyUri ⟨.none, ⟨[]⟩, .slash⟩ "tenant" "my box" = localhostUri ∧
    ProxiedTo (proxyUri ⟨.none, ⟨[]⟩, .slash⟩ "tenant" "box-1") ⟨.none, ⟨[]⟩, .slash⟩ "tenant" "box-1" :=
  have h1 : ∀ c ∈ "tenant".data, isGenDelim c = false := by decide
  have h2 : ∀ c ∈ "my box".data, isGenDelim c = false := by decide
  have h3 : ∀ c ∈ "box-1".data, isGenDelim c = false := by decide
  ⟨h1, h2, slashUri_not_star,
    (proxyUri_falls_back_iff _ _ _ h1 h2 slashUri_not_star).1.mpr (by decide),
    (proxyUri_falls_back_iff _ _ _ h1 h3 slashUri_not_star).2 (by decide)⟩

theorem proxyUri_asterisk_form_loses_port (originalUri : Uri) («namespace» sandboxName : String)
    (hns : ∀ c ∈ «namespace».data, isGenDelim c = false)
    (hsb : ∀ c ∈ sandboxName.data, isGenDelim c = false)
    (hnsu : «namespace».data.all isUriChar) (hsbu : sandboxName.data.all isUriChar)
    (hlen : utf8Len sandboxName.data + utf8Len «namespace».data + 31 ≤ maxLen)
    (hstar : originalUri.pathAndQuery? = some .star) :
    proxyUri originalUri «namespace» sandboxName =
        ⟨.standard .http, ⟨("sandbox-" ++ sandboxName ++ "." ++ «namespace» ++ ".internal").data ++
          [':', '8', '0', '8', '0', '*']⟩, .empty⟩ ∧
      (proxyUri originalUri «namespace» sandboxName).portU16 = none := by
  have hu : ("sandbox-" ++ sandboxName ++ "." ++ «namespace» ++ ".internal").data.all isUriChar := by
    rw [proxyUri_targetHost_all_isUriChar, hsbu, hnsu]
    rfl
  have hD : (originalUri.pathAndQuery?.map PathAndQuery.display).getD ['/'] = ['*'] := by
    rw [hstar]
    rfl
  have hparse := Uri.fromShared_http_host_port_star (proxyUri_targetHost_forall (by decide) hns hsb) hu
    (by rw [proxyUri_text_utf8Len]; exact hlen)
  rw [proxyUri_eq, hD, hparse]
  exact ⟨rfl, by rw [Uri.portU16, if_neg (by simp), Authority.port_host_port_star]⟩

theorem proxyUri_asterisk_form_loses_port_sample :
    Uri.fromStr "*" = .ok ⟨.none, ⟨[]⟩, .star⟩ ∧
    (∀ c ∈ "tenant".data, isGenDelim c = false) ∧ (∀ c ∈ "box-1".data, isGenDelim c = false) ∧
    "tenant".data.all isUriChar ∧ "box-1".data.all isUriChar ∧
    utf8Len "box-1".data + utf8Len "tenant".data + 31 ≤ maxLen ∧
    (⟨.none, ⟨[]⟩, .star⟩ : Uri).pathAndQuery? = some .star ∧
    (proxyUri ⟨.none, ⟨[]⟩, .star⟩ "tenant" "box-1" =
        ⟨.standard .http, ⟨("sandbox-" ++ "box-1" ++ "." ++ "tenant" ++ ".internal").data ++
          [':', '8', '0', '8', '0', '*']⟩, .empty⟩ ∧
      (proxyUri ⟨.none, ⟨[]⟩, .star⟩ "tenant" "box-1").portU16 = none) :=
  have h1 : ∀ c ∈ "tenant".data, isGenDelim c = false := by decide
  have h2 : ∀ c ∈ "box-1".data, isGenDelim c = false := by decide
  have h3 : "tenant".data.all isUriChar := by decide
  have h4 : "box-1".data.all isUriChar := by decide
  have h5 : utf8Len "box-1".data + utf8Len "tenant".data + 31 ≤ maxLen := by decide
  have h6 : (⟨.none, ⟨[]⟩, .star⟩ : Uri).pathAndQuery? = some .star := by decide
  ⟨rfl, h1, h2, h3, h4, h5, h6, proxyUri_asterisk_form_loses_port _ _ _ h1 h2 h3 h4 h5 h6⟩

end Microsandbox.Server
