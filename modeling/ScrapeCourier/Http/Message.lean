import ScrapeCourier.Http.Chunked
import ScrapeCourier.Http.Head
import ScrapeCourier.Http.Status
import ScrapeCourier.Http.Target

namespace ScrapeCourier.Http

structure Request where
  method : Method
  target : Target
  version : Version
  fields : Fields
  body : Octets

structure Response where
  status : Status
  version : Version
  fields : Fields
  body : Octets

inductive FramingError
  | malformed (fault : HeadFault)
  | incomplete
  | missingHost
  | badTarget (cause : TargetError)
  | badFieldName
  | badFieldValue
  | badStatus
  | badContentLength (value : Octets)
  | badChunk
  | truncated (expected actual : Nat)
  deriving DecidableEq, Repr

def FramingError.message : FramingError → String
  | .malformed fault => "malformed HTTP message: " ++ fault.message
  | .incomplete => "incomplete HTTP message"
  | .missingHost => "missing Host header"
  | .badTarget cause => "invalid request target: " ++ cause.message
  | .badFieldName => "invalid header name: invalid HTTP header name"
  | .badFieldValue => "invalid header value: failed to parse header value"
  | .badStatus => "invalid status code: invalid status code"
  | .badContentLength value =>
    "invalid Content-Length: " ++ String.ofList (Utf8.decodeLossy value)
  | .badChunk => "invalid chunked body"
  | .truncated expected actual => s!"body truncated: expected {expected} bytes, got {actual}"

inductive Framing
  | chunked
  | counted (n : Nat)
  | toEnd
  | absent

namespace Framing

def isChunked (h : Fields) : Bool :=
  (h.values .transferEncoding).any fun v =>
    v.octets.all Octet.isVisible &&
      (Octets.ofAscii "chunked").hasInfix (v.octets.map Octet.toLower)

def contentLength? (v : FieldValue) : Option Nat :=
  v.text?.bind fun s => Unsigned.read? UInt64.size s

/-- The chunked coding wins over a length, of which the first counts; `other` applies to a message
with neither. -/
def ofFields (other : Framing) (h : Fields) : Except FramingError Framing :=
  if isChunked h then .ok .chunked
  else match h.first? .contentLength with
    | none => .ok other
    | some v =>
      match contentLength? v with
      | some n => .ok (.counted n)
      | none => .error (.badContentLength v.octets)

def read : Framing → Octets → Except FramingError Octets
  | .chunked, s =>
    match Chunked.body s with
    | .done body _ => .ok body
    | .incomplete => .error .incomplete
    | .malformed () => .error .badChunk
  | .counted n, s => if s.length < n then .error (.truncated n s.length) else .ok (s.take n)
  | .toEnd, s => .ok s
  | .absent, _ => .ok []

end Framing

def readHead {α : Type} (r : Head.HeadReader α) (s : Octets) : Except FramingError (α × Octets) :=
  match r s with
  | .done head rest => .ok (head, rest)
  | .incomplete => .error .incomplete
  | .malformed fault => .error (.malformed fault)

def FieldLine.field (l : FieldLine) : Except FramingError Field :=
  match FieldName.ofOctets? l.name, FieldValue.ofOctets? l.value with
  | none, _ => .error .badFieldName
  | _, none => .error .badFieldValue
  | some n, some v => .ok ⟨n, v⟩

def Fields.ofLines (ls : List FieldLine) : Except FramingError Fields := do
  return Fields.ofList (← ls.mapM FieldLine.field)

/-- A path is joined to the server that the first Host field names; any other target stands for
itself. -/
def Target.resolve (s : List Char) (h : Fields) : Except FramingError Target :=
  if s.head? ≠ some '/' then (Target.parse s).mapError .badTarget
  else match ((h.first? .host).bind FieldValue.text?).filter (!·.isEmpty) with
    | some host => (Target.parse ("http://".toList ++ host ++ s)).mapError .badTarget
    | none => .error .missingHost

namespace Request

def decode (s : Octets) : Except FramingError Request := do
  let (head, rest) ← readHead Head.request s
  let fields ← Fields.ofLines head.lines
  let target ← Target.resolve head.target fields
  let framing ← Framing.ofFields .absent fields
  return ⟨head.method, target, head.version, fields, ← framing.read rest⟩

end Request

namespace Response

def decode (s : Octets) : Except FramingError Response := do
  let (head, rest) ← readHead Head.response s
  let status ← match Status.ofNat? head.code with
    | some status => .ok status
    | none => .error .badStatus
  let fields ← Fields.ofLines head.lines
  let framing ← Framing.ofFields .toEnd fields
  return ⟨status, head.version, fields, ← framing.read rest⟩

end Response

def crlf : Octets := [Octet.cr, Octet.lf]

def encodeLine (name value : Octets) : Octets := name ++ Octets.ofAscii ": " ++ value ++ crlf

def isFramingField (n : FieldName) : Bool :=
  n = .contentLength || n = .transferEncoding || n = .connection

def Fields.carried (h : Fields) : Fields := h.filter (!isFramingField ·)

def Fields.encode (h : Fields) : Octets :=
  h.carried.toList.flatMap fun f => encodeLine f.name.canonical f.value.octets

def encodeContentLength (body : Octets) : Octets :=
  encodeLine (Octets.ofAscii "Content-Length") (Utf8.encode (Unsigned.text body.length))

/-- Writes a request with its whole target; the server that the target names stands in a Host field
if the request has none. -/
def Request.encode (r : Request) : Octets :=
  let host := if r.fields.has .host then none else r.target.authority?
  r.method.octets ++ [Octet.space] ++ Utf8.encode r.target.text ++
    Octets.ofAscii " HTTP/1.1" ++ crlf ++
    (match host with
      | some a => encodeLine (Octets.ofAscii "Host") (Utf8.encode a.text)
      | none => []) ++
    r.fields.encode ++ (if r.body.isEmpty then [] else encodeContentLength r.body) ++ crlf ++
    r.body

def Response.encode (r : Response) : Octets :=
  Octets.ofAscii "HTTP/1.1 " ++ Utf8.encode (Unsigned.text r.status.code) ++ [Octet.space] ++
    Octets.ofAscii r.status.phrase ++ crlf ++ r.fields.encode ++ encodeContentLength r.body ++
    crlf ++ r.body

end ScrapeCourier.Http
