import ScrapeCourier.Number.Decimal
import ScrapeCourier.Scrape.Error
import ScrapeCourier.Text.Blank
import ScrapeCourier.Time.Duration
import ScrapeCourier.Url.Parser

namespace ScrapeCourier

open Http

structure Job where
  /-- The value that links the job and its result; empty if the job has none. -/
  id : FieldValue
  method : Method
  url : Url
  /-- The port as the target names it, be it the default or not. -/
  port : Option Nat
  fields : Fields
  body : Octets

namespace Job

def timeoutField : FieldName :=
  ⟨Octets.ofAscii "x-prometheus-scrape-timeout-seconds", by decide, by decide, by decide⟩

def ofRequest (r : Request) : Except Url.UrlError Job := do
  let url ← Url.parse r.target.text
  return ⟨(r.fields.first? .id).getD .empty, r.method, url, r.target.port?, r.fields, r.body⟩

def decode (raw : Octets) : Except JobDecodeError Job := do
  let r ← (Request.decode raw).mapError .framing
  (ofRequest r).mapError .target

def scrapeId (j : Job) : List Char := Utf8.decodeLossy j.id.octets

def quoted (v : FieldValue) : List Char :=
  '"' :: v.octets.flatMap (fun b =>
    if b = 34 then ['\\', '"']
    else if Octet.isVisible b then [Char.ofNat b.toNat]
    else '\\' :: 'x' :: Nat.toDigits 16 b.toNat) ++ ['"']

def readTimeout? (s : List Char) : Option Duration := do
  let d ← Decimal.read? (Blank.trim s)
  Duration.ofRat? (← d.seconds?)

def timeout (j : Job) : Except JobError Duration :=
  match j.fields.first? timeoutField with
  | none => .error .missingTimeout
  | some v =>
    match v.text? with
    | none => .error (.badTimeout (quoted v))
    | some s =>
      match readTimeout? s with
      | some d => .ok d
      | none => .error (.badTimeout s)

def inReach (received d : Duration) : Bool :=
  received.nanos + d.nanos < UInt64.size / 2 * 1_000_000_000

/-- The time from the moment at which the job is received until its deadline. -/
def deadline (j : Job) (received : Duration := .zero) : Except JobError Duration := do
  let d ← j.timeout
  if inReach received d then return d
  else throw (.badTimeout (Shortest.text d.seconds.floor.toNat ++ "s is out of range".toList))

end Job

end ScrapeCourier
