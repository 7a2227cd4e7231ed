import Microsandbox.Http.Uri

namespace Microsandbox.Http

abbrev Bytes := List UInt8

def isVisibleAscii (b : UInt8) : Bool := (32 ≤ b && b < 127) || b == 9

structure HeaderValue where
  bytes : Bytes
  deriving DecidableEq, Repr

def HeaderValue.toStr (v : HeaderValue) : Option String :=
  if v.bytes.all isVisibleAscii then some ⟨v.bytes.map fun b => Char.ofNat b.toNat⟩ else none

def asciiLower (s : String) : List Char := s.data.map Char.toLower

structure HeaderMap where
  entries : List (String × HeaderValue)
  deriving DecidableEq, Repr

def HeaderMap.get (headers : HeaderMap) (name : String) : Option HeaderValue :=
  (headers.entries.find? fun h => asciiLower h.1 == asciiLower name).map (·.2)

inductive Body where
  | data (bytes : Bytes)
  | streamError (message : String)
  deriving DecidableEq, Repr

structure Parts where
  method : String
  uri : Uri
  headers : HeaderMap
  deriving DecidableEq, Repr

structure Request where
  parts : Parts
  body : Body
  deriving DecidableEq, Repr

def stripPrefix (s pre : String) : Option String :=
  if pre.data <+: s.data then some ⟨s.data.drop pre.length⟩ else none

theorem stripPrefix_eq_some {s pre r : String} : stripPrefix s pre = some r ↔ s = pre ++ r := by
  unfold stripPrefix
  split_ifs with h
  · obtain ⟨t, ht⟩ := h
    have hd : s.data.drop pre.length = t := by rw [← ht]; exact List.drop_left _ _
    rw [hd, Option.some.injEq, String.ext_iff, String.ext_iff, String.data_append, ← ht,
      List.append_cancel_left_eq]
  · simp only [reduceCtorEq, false_iff]
    rintro rfl
    exact h (by simp)

theorem stripPrefix_getD_eq {s pre cred : String} :
    cred = (stripPrefix s pre).getD s ↔
      (∃ t, s = pre ++ t ∧ cred = t) ∨ (¬ ∃ t, s = pre ++ t) ∧ cred = s := by
  cases h : stripPrefix s pre with
  | some r =>
      obtain rfl := stripPrefix_eq_some.mp h
      have huniq : ∀ t, pre ++ r = pre ++ t ↔ t = r := fun t => by
        rw [String.ext_iff, String.ext_iff, String.data_append, String.data_append,
          List.append_cancel_left_eq, eq_comm]
      simp [huniq]
  | none =>
      have hno : ¬ ∃ t, s = pre ++ t := fun ⟨t, ht⟩ => by
        rw [(stripPrefix_eq_some (r := t)).mpr ht] at h
        cases h
      simpa [hno] using fun hs => absurd ⟨cred, hs⟩ hno

end Microsandbox.Http
