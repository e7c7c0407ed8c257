import ScrapeCourier.Agent.Session
import ScrapeCourier.Simulation.Network

namespace ScrapeCourier

structure Rehearsal where
  agent : Agent
  network : Network
  session : Session := {}
  now : Nat := 0
  received : List Nat := []

namespace Rehearsal

def perform (r : Rehearsal) (e : Session.Event) : Rehearsal :=
  { r with session := r.session.step r.agent e }

def age (r : Rehearsal) (i : Nat) : Duration :=
  (Duration.ofNanos? (r.now - (r.received[i]?).getD r.now)).getD .zero

/-- A job is begun as soon as it is received, with the files as they were at first. -/
def outset (r : Rehearsal) : Task.Outset where
  files := r.agent.files
  received := (Duration.ofNanos? r.now).getD .zero

def serve (r : Rehearsal) (i : Nat) : Nat → Rehearsal
  | 0 => r
  | fuel + 1 =>
    match (r.session.tasks[i]?).bind Task.pending? with
    | none => r
    | some x =>
      match r.network.reply x.call with
      | (none, network) => { r with network }
      | (some reply, network) =>
        serve ({ r with network }.perform (.task i (.reply reply (r.age i)))) i fuel

def maxRequests : Nat := 2 * (Exchange.maxRedirects + 2)

def beginJobs (r : Rehearsal) : Rehearsal :=
  let fresh := List.range' r.received.length (r.session.tasks.length - r.received.length)
  fresh.foldl (fun r i =>
    serve (({ r with received := r.received ++ [r.now] }).perform (.task i (.begin r.outset))) i
      maxRequests) r

def due? (r : Rehearsal) (i : Nat) : Option Nat := do
  let t ← r.session.tasks[i]?
  let nanos ← t.dueNanos? r.agent
  return (r.received[i]?).getD 0 + nanos

def nextDue? (r : Rehearsal) : Option (Nat × Nat) :=
  (List.range r.session.tasks.length).foldl (fun best i =>
    match r.due? i, best with
    | none, best => best
    | some t, none => some (i, t)
    | some t, some (j, u) => some (if t < u then (i, t) else (j, u))) none

def passUntil (r : Rehearsal) (limit : Nat) : Nat → Rehearsal
  | 0 => r
  | fuel + 1 =>
    match r.nextDue? with
    | none => r
    | some (i, t) =>
      if limit < t then { r with now := max r.now limit }
      else
        let r := { r with now := max r.now t }
        passUntil (serve (r.perform (.task i (.reply (.lost .timeout) (r.age i)))) i maxRequests)
          limit fuel

def maxTimeouts (r : Rehearsal) : Nat := 2 * r.session.tasks.length + 1

def passTo (r : Rehearsal) (limit : Nat) : Rehearsal := r.passUntil limit r.maxTimeouts

def drain (r : Rehearsal) : Rehearsal :=
  ((r.perform .drain).passTo (r.now + r.agent.config.drainTimeout.nanos)).perform
    (.settle r.agent.config.drainTimeout)

/-- Replies to the one poll. There is no result if nothing answers it. -/
def servePoll (r : Rehearsal) : Nat → Option Rehearsal
  | 0 => none
  | fuel + 1 =>
    match r.session.loop with
    | .claiming x =>
      match r.network.reply x.call with
      | (none, _) => none
      | (some reply, network) => servePoll ({ r with network }.perform (.reply reply)) fuel
    | _ => some r

def pollOnce (r : Rehearsal) : Option Rehearsal := do
  let r ← (r.perform .claim).servePoll maxRequests
  return r.beginJobs.drain

/-- Goes on until the agent is shut down, which it is when nothing answers a poll. -/
def serveRun (r : Rehearsal) : Nat → Option Rehearsal
  | 0 => none
  | fuel + 1 =>
    match r.session.loop with
    | .ready _ => serveRun (r.perform .turn) fuel
    | .polling _ x =>
      match r.network.reply x.call with
      | (none, network) => some ({ r with network }.perform .shutdown)
      | (some reply, network) =>
        serveRun (beginJobs ({ r with network }.perform (.reply reply))) fuel
    | .resting wait _ =>
      let waited := r.passTo (r.now + wait.nanos)
      serveRun ({ waited with now := max waited.now (r.now + wait.nanos) }.perform (.wake wait)) fuel
    | _ => some r

def maxTurns (r : Rehearsal) : Nat := (r.network.polls.length + 1) * (maxRequests + 3)

def runOn (r : Rehearsal) (cancelled : Bool) : Option Rehearsal :=
  let r := r.perform .run
  if cancelled then drain (r.perform .shutdown) else (r.serveRun r.maxTurns).map drain

end Rehearsal

end ScrapeCourier
