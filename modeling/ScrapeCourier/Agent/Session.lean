import ScrapeCourier.Agent.Task
import ScrapeCourier.Metrics.Counts
import ScrapeCourier.Time.Backoff

namespace ScrapeCourier

inductive Loop
  | idle
  /-- Polls once. -/
  | claiming (exchange : Exchange)
  | ready (backoff : Backoff)
  | polling (backoff : Backoff) (exchange : Exchange)
  | resting (wait : Duration) (backoff : Backoff)
  | draining

/-- A notice, with the number of the job that it is about unless it is about a poll. -/
structure Session.Entry where
  task : Option Nat
  notice : Notice

structure Session where
  loop : Loop := .idle
  tasks : List Task := []
  counts : Counts := {}
  history : List Session.Entry := []

namespace Session

inductive Event
  | claim
  | run
  | turn
  | reply (r : Reply)
  /-- The wait after a failed poll is over if it has taken as long as it was to take. -/
  | wake (waited : Duration)
  | shutdown
  | drain
  /-- The wait for the jobs is over if none is under way or it has taken too long. -/
  | settle (waited : Duration)
  | task (i : Nat) (e : Task.Event)

def tally? : Notice → Option Tally
  | .claimed _ => some .jobStarted
  | .pollFailed _ (some _) => some .pollError
  | .scrapeFailed .. => some .scrapeError
  | .pushFailed .. => some .pushError
  | .finished _ => some .jobFinished
  | _ => none

def note (s : Session) (task : Option Nat) (n : Notice) : Session :=
  { s with
    history := s.history ++ [⟨task, n⟩]
    counts := match tally? n with
      | some t => s.counts.record t
      | none => s.counts }

def noteAll (s : Session) (task : Option Nat) (ns : List Notice) : Session :=
  ns.foldl (fun s n => s.note task n) s

def isQuiet (s : Session) : Bool := s.tasks.all Task.isDone

def enroll (s : Session) (j : Job) : Session :=
  { s with tasks := s.tasks ++ [Task.claimed j] }.note (some s.tasks.length) (.claimed j)

def claimed (s : Session) : Progress → Session
  | .waiting x => { s with loop := .claiming x }.note none (.called .poll x)
  | .ended o =>
    match Poll.conclude o with
    | .ok j => { s with loop := .idle }.enroll j
    | .error cause => { s with loop := .idle }.note none (.pollFailed cause none)

/-- Goes on with the poll of an agent that goes on polling: a job starts the waits afresh, and a
failure is followed by the next wait. -/
def polled (s : Session) (b : Backoff) : Progress → Session
  | .waiting x => { s with loop := .polling b x }.note none (.called .poll x)
  | .ended o =>
    match Poll.conclude o with
    | .ok j => { s with loop := .ready b.reset }.enroll j
    | .error cause =>
      let (wait, b) := b.next
      { s with loop := .resting wait b }.note none (.pollFailed cause (some wait))

def startPoll (a : Agent) : Progress := Exchange.start (Poll.call a.pollUrl a.config.fqdn)

def advance (a : Agent) (s : Session) (i : Nat) (e : Task.Event) : Session :=
  match s.tasks[i]? with
  | none => s
  | some t => { s with tasks := s.tasks.set i (t.step a e).1 }.noteAll i (t.step a e).2

def step (a : Agent) (s : Session) : Event → Session
  | .task i e => s.advance a i e
  | .claim =>
    match s.loop with
    | .idle => s.claimed (startPoll a)
    | _ => s
  | .run =>
    match s.loop with
    | .idle => { s with loop := .ready (.start a.config.retryInitial a.config.retryLongest) }
    | _ => s
  | .turn =>
    match s.loop with
    | .ready b => s.polled b (startPoll a)
    | _ => s
  | .reply r =>
    match s.loop with
    | .claiming x => s.claimed (x.receive r)
    | .polling b x => s.polled b (x.receive r)
    | _ => s
  | .wake waited =>
    match s.loop with
    | .resting wait b => if wait.nanos ≤ waited.nanos then { s with loop := .ready b } else s
    | _ => s
  | .shutdown =>
    match s.loop with
    | .ready _ | .polling .. | .resting .. => { s with loop := .draining }
    | _ => s
  | .drain =>
    match s.loop with
    | .idle => { s with loop := .draining }
    | _ => s
  | .settle waited =>
    match s.loop with
    | .draining =>
      if s.isQuiet || a.config.drainTimeout.nanos ≤ waited.nanos then
        { s with loop := .idle }.note none (.drained s.isQuiet)
      else s
    | _ => s

def run (a : Agent) (s : Session) (es : List Event) : Session := es.foldl (step a) s

end Session

end ScrapeCourier
