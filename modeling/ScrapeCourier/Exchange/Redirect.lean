import ScrapeCourier.Exchange.Call
import ScrapeCourier.Exchange.Reference
import ScrapeCourier.Url.Parser

namespace ScrapeCourier

open Http

namespace Redirect

def location : FieldName := ⟨Octets.ofAscii "location", by decide, by decide, by decide⟩
def referer : FieldName := ⟨Octets.ofAscii "referer", by decide, by decide, by decide⟩

def namesOf (names : List String) : List FieldName :=
  names.filterMap fun n => FieldName.ofLower? (Octets.ofAscii n)

def privateFields : List FieldName :=
  namesOf ["authorization", "cookie", "cookie2", "proxy-authorization", "www-authenticate"]

def payloadFields : List FieldName :=
  namesOf ["content-type", "content-length", "content-encoding", "transfer-encoding"]

def isRedirect (s : Status) : Bool := [301, 302, 303, 307, 308].contains s.code

/-- Whether the other place is asked for what it holds, and not handed what was posted. -/
def asksAnew (s : Status) : Bool := [301, 302, 303].contains s.code

def place? (u : Url) (h : Fields) : Option (Except Url.UrlError Url) := do
  let v ← h.first? location
  let reference ← Reference.read? (← Utf8.decode? v.octets)
  let asked ← Reference.read? { u with fragment := none }.chars
  let next := (reference.against asked).text
  if (Target.parse next).isOk then some (Url.parse next) else none

def changesServer (u v : Url) : Bool := u.host ≠ v.host || u.effectivePort? ≠ v.effectivePort?

/-- The URL that was asked, which is not told in clear text if it was asked in cipher. -/
def referer? (u v : Url) : Option FieldValue :=
  if u.scheme = "https".toList && v.scheme = "http".toList then none
  else FieldValue.ofOctets? (Utf8.encode { u.withoutUserinfo with fragment := none }.chars)

def fields (u v : Url) (h : Fields) : Fields :=
  let kept := if changesServer u v then h.removeAll privateFields else h
  match referer? u v with
  | some r => kept.insert referer r
  | none => kept

/-- Whatever the method was, nothing is handed to a place to see instead. Only asking for the head of
an answer stays what it is. -/
def anew (s : Status) (c : Call) : Call :=
  if s.code = 303 || (asksAnew s && c.method = .post) then
    { c with
      method := if c.method = .head then .head else .get
      fields := c.fields.removeAll payloadFields
      body := [] }
  else c

def next? (c : Call) (s : Status) (h : Fields) : Option (Except Url.UrlError Call) :=
  if isRedirect s then
    (place? c.url h).map fun place => place.map fun v =>
      { anew s c with url := v, fields := fields c.url v (anew s c).fields }
  else none

end Redirect

end ScrapeCourier
