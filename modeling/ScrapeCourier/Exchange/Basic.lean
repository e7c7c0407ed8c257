import ScrapeCourier.Exchange.Error
import ScrapeCourier.Exchange.Redirect

namespace ScrapeCourier

open Http

structure Answer (ε : Type) where
  status : Status
  fields : Fields
  body : Except ε Octets

inductive Reply
  | answer (a : Answer TransportKind)
  | lost (kind : TransportKind)

structure Exchange where
  /-- The URL that failures name. -/
  origin : Url
  call : Call
  followed : Nat

abbrev Outcome := Except TransportError (Answer TransportError)

inductive Progress
  | waiting (x : Exchange)
  | ended (o : Outcome)

namespace Exchange

def maxRedirects : Nat := 10

def start (c : Call) : Progress :=
  let c := c.signed
  if Call.isPossible c.url then .waiting ⟨c.url, c.accepting, 0⟩
  else .ended (.error ⟨.other, .unsupported, c.url.chars⟩)

def located (u : Url) (a : Answer TransportKind) : Answer TransportError :=
  ⟨a.status, a.fields, a.body.mapError fun kind =>
    ⟨kind, .readingBody, { u with fragment := none }.chars⟩⟩

def redirected (x : Exchange) (c : Call) : Progress :=
  if maxRedirects ≤ x.followed then .ended (.error ⟨.other, .redirecting, x.call.url.chars⟩)
  else if Call.isPossible c.url then .waiting { x with call := c, followed := x.followed + 1 }
  else .ended (.error ⟨.other, .unsupported, c.url.chars⟩)

def receive (x : Exchange) : Reply → Progress
  | .lost kind => .ended (.error ⟨kind, .sending, x.origin.chars⟩)
  | .answer a =>
    match Redirect.next? x.call a.status a.fields with
    | some (.ok c) => x.redirected c
    | some (.error _) => .ended (.error ⟨.other, .unsupported, x.origin.chars⟩)
    | none => .ended (.ok (located x.call.url a))

end Exchange

end ScrapeCourier
