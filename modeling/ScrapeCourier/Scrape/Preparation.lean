import ScrapeCourier.Agent.Config
import ScrapeCourier.Exchange.Call
import ScrapeCourier.Scrape.Job

namespace ScrapeCourier

open Http

namespace Preparation

/-- The fields that concern the connection to the relay and go no further. -/
def relayFields : List FieldName :=
  [.connection, .contentLength, .host, .proxyAuthorization, .te, .trailer, .transferEncoding,
    .upgrade, .keepAlive, .proxyConnection]

def isRelayField (n : FieldName) : Bool := relayFields.contains n

def forwarded (h : Fields) : Fields := h.removeAll relayFields

def toHttps (u : Url) : Except JobError Url :=
  match u.setSpecialScheme? "https".toList with
  | some v => .ok v
  | none => .error (.badTarget u.chars .scheme)

def schemeName : List Char := "_scheme".toList

def asksForHttps (u : Url) : Bool :=
  (u.queryPairs.find? (·.1 = schemeName)).any (·.2 = "https".toList)

def withoutSchemePairs (u : Url) : Url :=
  match u.queryPairs.filter (·.1 ≠ schemeName) with
  | [] => u.clearQuery
  | ps => u.setQueryPairs ps

def overrideScheme (u : Url) : Except JobError Url :=
  if asksForHttps u then toHttps (withoutSchemePairs u) else .ok u

/-- A port that the job does not name is not restricted. -/
def checkPort (port : Option Nat) (rule : PortRule) : Except JobError Unit :=
  match port with
  | some p => if rule.permits p then .ok () else .error (.portNotAllowed p)
  | none => .ok ()

def loopbackName : List Char := "127.0.0.1".toList

def toLoopback (u : Url) (port : Option Nat) : Except JobError Url :=
  match port with
  | none => .ok u
  | some p =>
    match (u.setHost? loopbackName).bind (·.setPort? (some p)) with
    | some v => .ok v
    | none => .error (.badTarget u.chars .loopback)

def bearer? (token : List Char) : Option FieldValue :=
  (FieldValue.ofOctets? (Octets.ofAscii "Bearer " ++ Utf8.encode token)).map fun v =>
    { v with secret := true }

def readBearer (files : Files) (path : String) : Except JobError FieldValue :=
  match files.readText path with
  | .error e => .error (.tokenUnread path e)
  | .ok text =>
    match bearer? (Blank.trim text) with
    | some v => .ok v
    | none => .error .badToken

/-- Adds the token in the place of any authorization, and asks for https. -/
def authorize (files : Files) (path : Option String) (h : Fields) (u : Url) :
    Except JobError (Fields × Url) :=
  match path with
  | none => .ok (h, u)
  | some path => do
    let v ← readBearer files path
    return (h.insert .authorization v, ← toHttps u)

end Preparation

open Preparation in
def Job.prepare (c : Config) (files : Files) (j : Job) : Except JobError Call := do
  let url ← overrideScheme j.url
  let (fields, url) ← authorize files c.tokenPath (forwarded j.fields) url
  checkPort j.port c.allowPort
  let url ← if c.useLocalhost then toLoopback url j.port else .ok url
  match c.federation with
  | none => return ⟨j.method, url, fields, j.body⟩
  | some f =>
    match f.endpoint with
    | .ok endpoint => return ⟨.get, endpoint, fields, []⟩
    | .error e => throw (.badTarget f.base.chars (.federation e))

end ScrapeCourier
