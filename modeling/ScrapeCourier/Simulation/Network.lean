import ScrapeCourier.Agent.Basic
import ScrapeCourier.Exchange.Wire

namespace ScrapeCourier

open Http

inductive Link
  | up
  | down
  deriving DecidableEq, Repr

inductive Behaviour
  | send (octets : Octets)
  | hang

def Behaviour.answer (status : Status) (fields : Fields) (body : Octets) : Behaviour :=
  .send (Response.encode ⟨status, .http11, fields, body⟩)

structure Network where
  link : Link
  pollUri : List Char
  pushUri : List Char
  polls : List Behaviour
  targets : List (List Char × Behaviour)
  pushes : List (Octets × Behaviour)

structure Sighting where
  method : Octets
  uri : List Char
  fields : Fields
  body : Octets

namespace Network

def uriOf (u : Url) : List Char := { u.withoutUserinfo with fragment := none }.chars

def refuser : List Char := "127.0.0.9".toList

def refuses (n : Network) (u : Url) : Bool :=
  n.link = .down || (u.host.map Url.Host.text) = some refuser

def inCipher (u : Url) : Bool := u.scheme = "https".toList

def hostAndPort (u : Url) : List Char :=
  ((u.host.map Url.Host.text).getD []) ++
    match u.effectivePort? with
    | some p => ':' :: Unsigned.text p
    | none => []

/-- What is seen of a request; of one in cipher, only where it goes. -/
def sees (n : Network) (c : Call) : Option Sighting :=
  if n.refuses c.url then none
  else if inCipher c.url then some ⟨Method.connect.octets, hostAndPort c.url, .empty, []⟩
  else some ⟨c.method.octets, uriOf c.url, c.fields, c.body⟩

def nothingThere : Behaviour := .answer .notFound .empty (Octets.ofAscii "no such target")

def taken : Behaviour := .answer .ok .empty []

def idOf (message : Octets) : Octets :=
  match Response.decode message with
  | .ok r => ((r.fields.first? .id).map FieldValue.octets).getD []
  | .error _ => []

/-- What a place does, and the network after it. The polls that hang are the ones that none is left
for. -/
def behave (n : Network) (c : Call) : Behaviour × Network :=
  let uri := uriOf c.url
  if uri = n.pollUri then
    match n.polls with
    | [] => (.hang, n)
    | b :: bs => (b, { n with polls := bs })
  else if uri = n.pushUri then
    (((n.pushes.find? (·.1 = idOf c.body)).map (·.2)).getD taken, n)
  else (((n.targets.find? (·.1 = uri)).map (·.2)).getD nothingThere, n)

def reply (n : Network) (c : Call) : Option Reply × Network :=
  if n.refuses c.url || inCipher c.url then (some (.lost .connect), n)
  else match n.behave c with
    | (.hang, n) => (none, n)
    | (.send octets, n) => (some (Wire.reply c.method octets), n)

end Network

end ScrapeCourier
