import ScrapeCourier.Http.Fields
import ScrapeCourier.Http.Reader

namespace ScrapeCourier.Http

inductive HeadFault
  | fieldName
  | fieldValue
  | lineEnd
  | status
  | token
  | tooManyFields
  | version
  deriving DecidableEq, Repr

def HeadFault.message : HeadFault → String
  | .fieldName => "invalid header name"
  | .fieldValue => "invalid header value"
  | .lineEnd => "invalid new line"
  | .status => "invalid response status"
  | .token => "invalid token"
  | .tooManyFields => "too many headers"
  | .version => "invalid HTTP version"

inductive Version
  | http10
  | http11
  deriving DecidableEq, Repr

def Version.text : Version → String
  | .http10 => "HTTP/1.0"
  | .http11 => "HTTP/1.1"

@[ext]
structure Method where
  octets : Octets
  nonempty : octets ≠ []
  token : octets.all isToken

namespace Method

instance : DecidableEq Method := fun _ _ => decidable_of_iff _ Method.ext_iff.symm

def ofOctets? (s : Octets) : Option Method :=
  if h : s ≠ [] ∧ s.all isToken then some ⟨s, h.1, h.2⟩ else none

def get : Method := ⟨Octets.ofAscii "GET", by decide, by decide⟩
def head : Method := ⟨Octets.ofAscii "HEAD", by decide, by decide⟩
def post : Method := ⟨Octets.ofAscii "POST", by decide, by decide⟩
def connect : Method := ⟨Octets.ofAscii "CONNECT", by decide, by decide⟩

end Method

structure FieldLine where
  name : Octets
  value : Octets

structure RequestHead where
  method : Method
  target : List Char
  version : Version
  lines : List FieldLine

structure ResponseHead where
  version : Version
  code : Nat
  lines : List FieldLine

namespace Head

open Reader

abbrev HeadReader := Reader HeadFault

/-- Skips blank lines and takes the first octet of the start line. -/
def startLine : HeadReader UInt8
  | [] => .incomplete
  | b :: s =>
    if b = Octet.lf then startLine s
    else if b = Octet.cr then
      match s with
      | [] => .incomplete
      | c :: t => if c = Octet.lf then startLine t else .malformed .lineEnd
    else .done b s

def methodFrom (b : UInt8) : HeadReader Method := do
  if !isToken b then fail .token
  else
    let (more, stop) ← run isToken
    match Method.ofOctets? (b :: more) with
    | some m => if stop = Octet.space then return m else fail .token
    | none => fail .token

def isTargetOctet (b : UInt8) : Bool := 33 ≤ b && b ≠ 127

def target : HeadReader (List Char) := do
  let (octets, stop) ← run isTargetOctet
  if stop ≠ Octet.space || octets.isEmpty then fail .token
  else match Utf8.decode? octets with
    | some text => return text
    | none => fail .token

def versionFrom (b : UInt8) : HeadReader Version := do
  if b ≠ 72 then fail .version
  else
    literal .version (Octets.ofAscii "TTP/1.")
    let minor ← octet
    if minor = 48 then return .http10
    else if minor = 49 then return .http11
    else fail .version

def endLine (e : HeadFault) : HeadReader Unit := do lineEnd e (← octet)

def fieldLineFrom (b : UInt8) : HeadReader FieldLine := do
  if !isToken b then fail .fieldName
  else
    let (more, stop) ← run isToken
    if stop ≠ Octet.colon then fail .fieldName
    else
      let (value, stop) ← run isFieldOctet
      lineEnd .fieldValue stop
      return ⟨b :: more, value.trimBlanks⟩

def fieldLines (room : Nat) : HeadReader (List FieldLine) := do
  let b ← octet
  if b = Octet.lf || b = Octet.cr then
    lineEnd .lineEnd b
    return []
  else
    let line ← fieldLineFrom b
    match room with
    | 0 => fail .tooManyFields
    | k + 1 => return line :: (← fieldLines k)

def maxFields : Nat := 128

def request : HeadReader RequestHead := do
  let method ← methodFrom (← startLine)
  let target ← target
  let version ← versionFrom (← octet)
  endLine .lineEnd
  return ⟨method, target, version, ← fieldLines maxFields⟩

def digit : HeadReader Nat := do
  let b ← octet
  if Octet.isDigit b then return b.toNat - 48 else fail .status

/-- The rest of a status line: nothing, or a space and a phrase, which is dropped. -/
def phrase : HeadReader Unit := do
  let b ← octet
  if b = Octet.space then
    let (_, stop) ← run isFieldOctet
    lineEnd .status stop
  else lineEnd .status b

def response : HeadReader ResponseHead := do
  let version ← versionFrom (← startLine)
  expect .version Octet.space
  let hundreds ← digit
  let tens ← digit
  let units ← digit
  phrase
  return ⟨version, hundreds * 100 + tens * 10 + units, ← fieldLines maxFields⟩

end Head

end ScrapeCourier.Http
