import ScrapeCourier.Exchange.Basic

namespace ScrapeCourier.Wire

open Http

def origin (u : Url) : List Char := u.path.text ++ u.queryText

def hostText (u : Url) : List Char := (u.host.map Url.Host.text).getD [] ++ u.portText

/-- The octets of a request, which asks for the connection to end after the response. -/
def request (c : Call) : Octets :=
  c.method.octets ++ [Octet.space] ++ Utf8.encode (origin c.url) ++ Octets.ofAscii " HTTP/1.1" ++
    crlf ++ encodeLine (Octets.ofAscii "Host") (Utf8.encode (hostText c.url)) ++
    c.fields.encode ++ encodeLine (Octets.ofAscii "Connection") (Octets.ofAscii "close") ++
    encodeContentLength c.body ++ crlf ++ c.body

def maxFields : Nat := 100

def trimmed (s : List Char) : List Char :=
  ((s.dropWhile (· == ' ')).reverse.dropWhile (· == ' ')).reverse

def parts (v : FieldValue) : Option (List (List Char)) :=
  v.text?.map fun s => (s.splitOn ',').map trimmed

def length? (vs : List FieldValue) : Option Nat := do
  let ns ← (← vs.mapM parts).flatten.mapM fun s => (Unsigned.digits? s).filter (· < UInt64.size)
  match ns with
  | [] => none
  | n :: ns => if ns.all (· = n) then some n else none

def endsChunked (vs : List FieldValue) : Bool :=
  match (vs.getLast?.bind parts).bind List.getLast? with
  | some s => Ascii.sameWord s "chunked".toList
  | none => false

def hasBody (m : Method) (s : Status) : Bool :=
  m ≠ .head && s.code ≠ 204 && s.code ≠ 304 && 200 ≤ s.code

def framing? (m : Method) (s : Status) (version : Version) (h : Fields) : Option Framing :=
  if !hasBody m s then some .absent
  else if h.has .transferEncoding then
    if version = .http10 then none
    else if endsChunked (h.values .transferEncoding) then some .chunked
    else some .toEnd
  else if h.has .contentLength then (length? (h.values .contentLength)).map .counted
  else some .toEnd

/-- A chunked body has an empty line behind its last chunk, or behind fields that follow it. -/
def body (f : Framing) (s : Octets) : Except TransportKind Octets :=
  match f with
  | .chunked =>
    match Chunked.body s with
    | .done body rest =>
      if (crlf ++ crlf).hasInfix (crlf ++ rest) then .ok body else .error .other
    | _ => .error .other
  | f => (f.read s).mapError fun _ => .other

/-- Interim responses come before the one that counts, and `fuel` is more than their number. -/
def readFrom (m : Method) : Nat → Octets → Option (Answer TransportKind)
  | 0, _ => none
  | fuel + 1, s => do
    let (head, rest) ← (readHead Head.response s).toOption
    let status ← Status.ofNat? head.code
    let fields ← (Fields.ofLines head.lines).toOption
    if maxFields < head.lines.length then none
    else if status.code < 200 && status.code ≠ 101 then readFrom m fuel rest
    else
      let framing ← framing? m status head.version fields
      return ⟨status, fields, body framing rest⟩

def reply (m : Method) (s : Octets) : Reply :=
  match readFrom m (s.length + 1) s with
  | some a => .answer a
  | none => .lost .other

end ScrapeCourier.Wire
