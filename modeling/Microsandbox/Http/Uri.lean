import Mathlib.Data.List.Basic

namespace Microsandbox.Http

inductive ErrorKind where
  | invalidUriChar
  | invalidAuthority
  | invalidFormat
  | schemeTooLong
  | empty
  | tooLong
  deriving DecidableEq, Repr

inductive Protocol where
  | http
  | https
  deriving DecidableEq, Repr

def Protocol.len : Protocol → Nat
  | .http => 4
  | .https => 5

inductive Scheme where
  | none
  | standard (p : Protocol)
  | other (name : List Char)
  deriving DecidableEq, Repr

inductive Scheme2 where
  | none
  | standard (p : Protocol)
  | other (len : Nat)
  deriving DecidableEq, Repr

def maxLen : Nat := 65534

def maxSchemeLen : Nat := 64

def maxColons : Nat := 8

def utf8Len : List Char → Nat
  | [] => 0
  | c :: cs => c.utf8Size + utf8Len cs

theorem utf8Len_append (a b : List Char) : utf8Len (a ++ b) = utf8Len a + utf8Len b := by
  induction a with
  | nil => simp [utf8Len]
  | cons c a ih => simp [utf8Len, ih, Nat.add_assoc]

def isSchemeChar (c : Char) : Bool :=
  c.isAlphanum || c == '+' || c == '-' || c == '.'

def isUriChar (c : Char) : Bool :=
  c.isAlphanum || ['!', '#', '$', '&', '\'', '(', ')', '*', '+', ',', '-', '.', '/', ':', ';', '=',
    '?', '@', '[', ']', '_', '~'].contains c

def isGenDelim (c : Char) : Bool :=
  [':', '/', '?', '#', '[', ']', '@'].contains c

def isPathChar (c : Char) : Bool :=
  let b := c.toNat
  b == 0x21 || b == 0x22 || (0x24 ≤ b && b ≤ 0x3B) || b == 0x3D || (0x40 ≤ b && b ≤ 0x5F) ||
    (0x61 ≤ b && b ≤ 0x7E) || 0x7F ≤ b

def isQueryChar (c : Char) : Bool :=
  let b := c.toNat
  b == 0x21 || (0x24 ≤ b && b ≤ 0x3B) || b == 0x3D || (0x3F ≤ b && b ≤ 0x7E) || 0x7F ≤ b

def scanQuery : List Char → Except ErrorKind (List Char)
  | [] => .ok []
  | c :: cs =>
      if c = '#' then .ok []
      else if isQueryChar c then (scanQuery cs).map (c :: ·)
      else .error .invalidUriChar

def scanPath : List Char → Except ErrorKind (List Char)
  | [] => .ok []
  | c :: cs =>
      if c = '?' then (scanQuery cs).map (c :: ·)
      else if c = '#' then .ok []
      else if isPathChar c then (scanPath cs).map (c :: ·)
      else .error .invalidUriChar

theorem map_cons_eq_ok {e : Except ErrorKind (List Char)} {c : Char} {d : List Char} :
    e.map (c :: ·) = .ok d ↔ ∃ d', e = .ok d' ∧ d = c :: d' := by
  cases e <;> simp [Except.map, eq_comm]

theorem scanQuery_idem : ∀ {s d : List Char}, scanQuery s = .ok d → scanQuery d = .ok d
  | [], _, h => by cases h; rfl
  | c :: cs, d, h => by
      simp only [scanQuery] at h
      split_ifs at h with h1 h2
      · cases h; rfl
      · obtain ⟨d', hd', rfl⟩ := map_cons_eq_ok.mp h
        simp [scanQuery, h1, h2, scanQuery_idem hd', Except.map]

theorem scanPath_idem : ∀ {s d : List Char}, scanPath s = .ok d → scanPath d = .ok d
  | [], _, h => by cases h; rfl
  | c :: cs, d, h => by
      simp only [scanPath] at h
      split_ifs at h with h1 h2 h3
      · obtain ⟨d', hd', rfl⟩ := map_cons_eq_ok.mp h
        simp [scanPath, h1, scanQuery_idem hd', Except.map]
      · cases h; rfl
      · obtain ⟨d', hd', rfl⟩ := map_cons_eq_ok.mp h
        simp [scanPath, h1, h2, h3, scanPath_idem hd', Except.map]

structure PathAndQuery where
  data : List Char
  canonical : scanPath data = .ok data
  deriving DecidableEq, Repr

def PathAndQuery.fromShared (s : List Char) : Except ErrorKind PathAndQuery :=
  match h : scanPath s with
  | .ok d => .ok ⟨d, scanPath_idem h⟩
  | .error e => .error e

def PathAndQuery.empty : PathAndQuery := ⟨[], rfl⟩

def PathAndQuery.slash : PathAndQuery := ⟨['/'], rfl⟩

def PathAndQuery.star : PathAndQuery := ⟨['*'], rfl⟩

def PathAndQuery.display (pq : PathAndQuery) : List Char :=
  match pq.data with
  | [] => ['/']
  | c :: cs => if c = '/' ∨ c = '*' then c :: cs else '/' :: c :: cs

structure Authority where
  data : List Char
  deriving DecidableEq, Repr

structure AuthorityScan where
  colonCnt : Nat
  startBracket : Bool
  endBracket : Bool
  hasPercent : Bool
  atSignPos : Option Nat
  deriving DecidableEq, Repr

def AuthorityScan.init : AuthorityScan := ⟨0, false, false, false, none⟩

def Authority.scan : AuthorityScan → Nat → List Char → Except ErrorKind (AuthorityScan × Nat)
  | st, i, [] => .ok (st, i)
  | st, i, c :: cs =>
      if c = '/' ∨ c = '?' ∨ c = '#' then .ok (st, i)
      else if c = ':' then
        if maxColons ≤ st.colonCnt then .error .invalidAuthority
        else scan { st with colonCnt := st.colonCnt + 1 } (i + 1) cs
      else if c = '[' then
        if st.hasPercent || st.startBracket then .error .invalidAuthority
        else scan { st with startBracket := true } (i + 1) cs
      else if c = ']' then
        if !st.startBracket || st.endBracket then .error .invalidAuthority
        else scan { st with endBracket := true, colonCnt := 0, hasPercent := false } (i + 1) cs
      else if c = '@' then
        scan { st with atSignPos := some i, colonCnt := 0, hasPercent := false } (i + 1) cs
      else if c = '%' then scan { st with hasPercent := true } (i + 1) cs
      else if isUriChar c then scan st (i + 1) cs
      else .error .invalidUriChar

def Authority.parse (s : List Char) : Except ErrorKind Nat :=
  match Authority.scan .init 0 s with
  | .error e => .error e
  | .ok (st, e) =>
      if st.startBracket ≠ st.endBracket then .error .invalidAuthority
      else if 1 < st.colonCnt then .error .invalidAuthority
      else if 0 < e ∧ st.atSignPos = some (e - 1) then .error .invalidAuthority
      else if st.hasPercent then .error .invalidAuthority
      else .ok e

def Authority.parseNonEmpty (s : List Char) : Except ErrorKind Nat :=
  if s = [] then .error .empty else Authority.parse s

def Authority.fromShared (s : List Char) : Except ErrorKind Authority :=
  match Authority.parseNonEmpty s with
  | .error e => .error e
  | .ok e => if e ≠ s.length then .error .invalidUriChar else .ok ⟨s⟩

def afterLast (sep : Char) (s : List Char) : List Char :=
  (s.reverse.takeWhile (· != sep)).reverse

def Authority.host (a : Authority) : List Char :=
  match afterLast '@' a.data with
  | '[' :: rest => ('[' :: rest).take (('[' :: rest).indexOf ']' + 1)
  | hostPort => hostPort.takeWhile (· != ':')

def digitsValue : List Char → Nat → Option Nat
  | [], n => some n
  | c :: cs, n => if c.isDigit then digitsValue cs (10 * n + (c.toNat - '0'.toNat)) else none

def parseU16 (s : List Char) : Option Nat :=
  let digits := match s with
    | '+' :: rest => rest
    | _ => s
  if digits = [] then none
  else match digitsValue digits 0 with
    | some n => if n ≤ 65535 then some n else none
    | none => none

def Authority.port (a : Authority) : Option Nat :=
  if ':' ∈ a.data then parseU16 (afterLast ':' a.data) else none

def Scheme2.scanOther (s : List Char) : Nat → List Char → Except ErrorKind Scheme2
  | _, [] => .ok .none
  | i, c :: cs =>
      if c = ':' then
        if s.length < i + 3 then .ok .none
        else if (s.drop (i + 1)).take 2 ≠ ['/', '/'] then .ok .none
        else if maxSchemeLen < i then .error .schemeTooLong
        else .ok (.other i)
      else if isSchemeChar c then scanOther s (i + 1) cs
      else .ok .none

def Scheme2.parse (s : List Char) : Except ErrorKind Scheme2 :=
  if 7 ≤ s.length ∧ (s.take 7).map Char.toLower = "http://".toList then .ok (.standard .http)
  else if 8 ≤ s.length ∧ (s.take 8).map Char.toLower = "https://".toList then
    .ok (.standard .https)
  else if 3 < s.length then Scheme2.scanOther s 0 s
  else .ok .none

structure Uri where
  scheme : Scheme
  authority : Authority
  pathAndQuery : PathAndQuery
  deriving DecidableEq, Repr

def Scheme2.split (s : List Char) : Scheme2 → Scheme × List Char
  | .none => (.none, s)
  | .standard p => (.standard p, s.drop (p.len + 3))
  | .other n => (.other (s.take n), s.drop (n + 3))

def Uri.parseFull (s : List Char) : Except ErrorKind Uri :=
  match Scheme2.parse s with
  | .error e => .error e
  | .ok scheme2 =>
      let (scheme, rest) := scheme2.split s
      match Authority.parse rest with
      | .error e => .error e
      | .ok authorityEnd =>
          if scheme = .none then
            if authorityEnd ≠ rest.length then .error .invalidFormat
            else .ok ⟨.none, ⟨rest⟩, .empty⟩
          else if authorityEnd = 0 then .error .invalidFormat
          else match PathAndQuery.fromShared (rest.drop authorityEnd) with
            | .error e => .error e
            | .ok pq => .ok ⟨scheme, ⟨rest.take authorityEnd⟩, pq⟩

def Uri.fromShared (s : List Char) : Except ErrorKind Uri :=
  if maxLen < utf8Len s then .error .tooLong
  else match s with
    | [] => .error .empty
    | ['/'] => .ok ⟨.none, ⟨[]⟩, .slash⟩
    | ['*'] => .ok ⟨.none, ⟨[]⟩, .star⟩
    | [c] => (Authority.fromShared [c]).map fun authority => ⟨.none, authority, .empty⟩
    | '/' :: rest => (PathAndQuery.fromShared ('/' :: rest)).map fun pq => ⟨.none, ⟨[]⟩, pq⟩
    | _ => Uri.parseFull s

def Uri.fromStr (s : String) : Except ErrorKind Uri := Uri.fromShared s.data

def Uri.pathAndQuery? (u : Uri) : Option PathAndQuery :=
  if u.scheme ≠ .none ∨ u.authority.data = [] then some u.pathAndQuery else none

def PathAndQuery.path (pq : PathAndQuery) : List Char :=
  match pq.data.takeWhile (· != '?') with
  | [] => ['/']
  | p => p

def Uri.path (u : Uri) : List Char :=
  if u.pathAndQuery.data ≠ [] ∨ u.scheme ≠ .none then u.pathAndQuery.path else []

def Uri.host (u : Uri) : Option (List Char) :=
  if u.authority.data = [] then none else some u.authority.host

def Uri.portU16 (u : Uri) : Option Nat :=
  if u.authority.data = [] then none else u.authority.port

end Microsandbox.Http
