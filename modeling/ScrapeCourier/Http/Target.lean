import ScrapeCourier.Number.Unsigned
import ScrapeCourier.Text.Utf8

namespace ScrapeCourier.Http

inductive TargetError
  | empty
  | tooLong
  | schemeTooLong
  | badCharacter
  | badAuthority
  | badForm
  deriving DecidableEq, Repr

def TargetError.message : TargetError → String
  | .empty => "empty string"
  | .tooLong => "uri too long"
  | .schemeTooLong => "scheme too long"
  | .badCharacter => "invalid uri character"
  | .badAuthority => "invalid authority"
  | .badForm => "invalid format"

namespace Target

/-- Schemes may hold a tilde here, other than in URLs. -/
def isSchemeChar (c : Char) : Bool := Ascii.isSchemeChar c || c == '~'

def endsAuthority (c : Char) : Bool := c == '/' || c == '?' || c == '#'

def isAuthorityChar (c : Char) : Bool :=
  Ascii.isAlphanum c || "!$&'()*+,-.;=_~".toList.contains c

def isPathChar (c : Char) : Bool :=
  let n := c.toNat
  n == 0x21 || n == 0x22 || (0x24 ≤ n && n ≤ 0x3B) || n == 0x3D || (0x40 ≤ n && n ≤ 0x5F) ||
    (0x61 ≤ n && n ≤ 0x7E) || 0x80 ≤ n

def isQueryChar (c : Char) : Bool :=
  let n := c.toNat
  n == 0x21 || (0x24 ≤ n && n ≤ 0x3B) || n == 0x3D || (0x3F ≤ n && n ≤ 0x7E) || 0x80 ≤ n

/-- What the characters of an authority amount to so far: colons and percent signs count from the
last `@` or `]` on. -/
structure AuthorityScan where
  colons : Nat := 0
  opened : Bool := false
  closed : Bool := false
  percent : Bool := false
  atEnd : Bool := false

namespace AuthorityScan

def step (a : AuthorityScan) (c : Char) : Except TargetError AuthorityScan :=
  let a' := { a with atEnd := c == '@' }
  if c = ':' then
    if 8 ≤ a.colons then .error .badAuthority else .ok { a' with colons := a.colons + 1 }
  else if c = '[' then
    if a.percent || a.opened then .error .badAuthority else .ok { a' with opened := true }
  else if c = ']' then
    if !a.opened || a.closed then .error .badAuthority
    else .ok { a' with closed := true, colons := 0, percent := false }
  else if c = '@' then .ok { a' with colons := 0, percent := false }
  else if c = '%' then .ok { a' with percent := true }
  else if isAuthorityChar c then .ok a'
  else .error .badCharacter

def finish (a : AuthorityScan) : Except TargetError Unit :=
  if a.opened != a.closed || 1 < a.colons || a.atEnd || a.percent then .error .badAuthority
  else .ok ()

end AuthorityScan

/-- At most one colon and no percent sign outside the userinfo and the brackets, brackets in one
pair, and something after an `@`. -/
def checkAuthority (s : List Char) : Except TargetError Unit := do
  (← s.foldlM AuthorityScan.step {}).finish

end Target

structure Authority where
  text : List Char
  nonempty : text ≠ []
  valid : Target.checkAuthority text = .ok ()
  deriving DecidableEq

namespace Authority

def read (s : List Char) : Except TargetError Authority :=
  if h : s = [] then .error .empty
  else match hs : Target.checkAuthority s with
    | .ok () => .ok ⟨s, h, hs⟩
    | .error e => .error e

def afterColon? (s : List Char) : Option (List Char) :=
  if s.contains ':' then some (s.reverse.takeWhile (· ≠ ':')).reverse else none

def port? (a : Authority) : Option Nat := (afterColon? a.text).bind (Unsigned.read? 65536)

end Authority

inductive Scheme
  | http
  | https
  | other (name : List Char)
  deriving DecidableEq

def Scheme.text : Scheme → List Char
  | .http => "http".toList
  | .https => "https".toList
  | .other name => name

structure PathQuery where
  path : List Char
  query : Option (List Char)
  rooted : path.head? = some '/'
  path_valid : path.all Target.isPathChar
  query_valid : query.all (·.all Target.isQueryChar)
  deriving DecidableEq

namespace PathQuery

def text (p : PathQuery) : List Char :=
  p.path ++ match p.query with
    | some q => '?' :: q
    | none => []

/-- Reads a path that starts with a slash or is empty, which stands for the slash alone. -/
def read (s : List Char) : Except TargetError PathQuery :=
  let path := s.takeWhile fun c => c ≠ '?' && c ≠ '#'
  let rest := s.dropWhile fun c => c ≠ '?' && c ≠ '#'
  let path := if path.isEmpty then ['/'] else path
  let query := match rest with
    | '?' :: q => some (q.takeWhile (· ≠ '#'))
    | _ => none
  if h : path.head? = some '/' ∧ path.all Target.isPathChar ∧
      query.all (·.all Target.isQueryChar) then .ok ⟨path, query, h.1, h.2.1, h.2.2⟩
  else .error .badCharacter

end PathQuery

inductive Target
  | origin (path : PathQuery)
  | asterisk
  | server (authority : Authority)
  | absolute (scheme : Scheme) (authority : Authority) (path : PathQuery)
  deriving DecidableEq

namespace Target

def authority? : Target → Option Authority
  | .server a => some a
  | .absolute _ a _ => some a
  | _ => none

def text : Target → List Char
  | .origin p => p.text
  | .asterisk => ['*']
  | .server a => a.text
  | .absolute s a p => s.text ++ "://".toList ++ a.text ++ p.text

def port? (t : Target) : Option Nat := t.authority?.bind Authority.port?

def splitScheme (s : List Char) : Except TargetError (Option (Scheme × List Char)) :=
  if Ascii.sameWord (s.take 7) "http://".toList then .ok (some (.http, s.drop 7))
  else if Ascii.sameWord (s.take 8) "https://".toList then .ok (some (.https, s.drop 8))
  else
    let name := s.takeWhile isSchemeChar
    if (s.drop name.length).take 3 = "://".toList && 3 < s.length then
      if 64 < name.length then .error .schemeTooLong
      else .ok (some (.other name, s.drop (name.length + 3)))
    else .ok none

def readAbsolute (scheme : Scheme) (s : List Char) : Except TargetError Target := do
  if s.isEmpty then throw .empty
  let authority := s.takeWhile (!endsAuthority ·)
  checkAuthority authority
  if authority.isEmpty then throw .badForm
  let authority ← Authority.read authority
  return .absolute scheme authority (← PathQuery.read (s.dropWhile (!endsAuthority ·)))

def readServer (s : List Char) : Except TargetError Target := do
  let authority := s.takeWhile (!endsAuthority ·)
  checkAuthority authority
  if authority.length ≠ s.length then throw (if s.length = 1 then .badCharacter else .badForm)
  return .server (← Authority.read authority)

def parse (s : List Char) : Except TargetError Target := do
  if 65534 < Utf8.size s then throw .tooLong
  if s = [] then throw .empty
  if s = ['*'] then return .asterisk
  if s.head? = some '/' then return .origin (← PathQuery.read s)
  match ← splitScheme s with
  | some (scheme, rest) => readAbsolute scheme rest
  | none => readServer s

end Target

end ScrapeCourier.Http
