import ScrapeCourier.Agent.Basic
import ScrapeCourier.Scrape.Execution

namespace ScrapeCourier

inductive Task
  | claimed (job : Job)
  | scraping (job : Job) (deadline : Duration) (prepared : Call) (exchange : Exchange)
  | pushing (job : Job) (execution : Execution) (since : Duration) (exchange : Exchange)
  | done (job : Job) (execution : Execution) (since : Duration) (outcome : Except PushError Unit)

namespace Task

def job : Task → Job
  | .claimed j | .scraping j .. | .pushing j .. | .done j .. => j

def isDone : Task → Bool
  | .done .. => true
  | _ => false

def pending? : Task → Option Exchange
  | .scraping _ _ _ x | .pushing _ _ _ x => some x
  | _ => none

def message (j : Job) (e : Execution) (since : Duration) : Octets :=
  e.reported.encode j.id (e.left since)

/-- The nanoseconds after the job was received at which the pending request is given up. -/
def dueNanos? (a : Agent) : Task → Option Nat
  | .scraping _ d _ _ => some d.nanos
  | .pushing _ e since _ =>
    some (since.nanos + (ScrapeResult.pushBound (e.left since) a.config.pushGrace).nanos)
  | _ => none

abbrev Step := Task × List Notice

def pushed (j : Job) (e : Execution) (since : Duration) : Progress → Step
  | .waiting x => (.pushing j e since x, [.called .push x])
  | .ended o =>
    match Push.conclude o with
    | .ok () => (.done j e since (.ok ()), [.finished j])
    | .error cause => (.done j e since (.error cause), [.pushFailed j cause, .finished j])

def deliver (a : Agent) (j : Job) (e : Execution) (now : Duration) : Step :=
  let notices := match e.result with
    | .ok _ => []
    | .error cause => [.scrapeFailed j cause]
  let (t, more) := pushed j e now (Exchange.start (Push.call a.pushUrl (message j e now)))
  (t, notices ++ more)

def scraped (a : Agent) (j : Job) (deadline : Duration) (prepared : Call) (now : Duration) :
    Progress → Step
  | .waiting x => (.scraping j deadline prepared x, [.called .scrape x])
  | .ended o => deliver a j ⟨Execution.conclude prepared.url o, some deadline⟩ now

/-- What there is when a job is begun: the files, the point in time at which it was received, and the
time since. -/
structure Outset where
  files : Files := fun _ => .error .notFound
  received : Duration := .zero
  now : Duration := .zero

/-- Begins a job. Nothing is sent to a target once the deadline is reached. -/
def begin (a : Agent) (j : Job) (o : Outset) : Step :=
  match j.deadline o.received with
  | .error cause => deliver a j ⟨.error cause, none⟩ o.now
  | .ok deadline =>
    match j.prepare a.config o.files with
    | .error cause => deliver a j ⟨.error cause, some deadline⟩ o.now
    | .ok prepared =>
      if (deadline.minus o.now).isZero then
        deliver a j ⟨.error (.deadlineExceeded prepared.url.chars), some deadline⟩ o.now
      else scraped a j deadline prepared o.now (Exchange.start prepared)

inductive Event
  | begin (o : Outset)
  | reply (r : Reply) (now : Duration)

/-- Events that the task does not wait for leave it as it is. -/
def step (a : Agent) : Task → Event → Step
  | .claimed j, .begin o => begin a j o
  | .scraping j d prepared x, .reply r now => scraped a j d prepared now (x.receive r)
  | .pushing j e since x, .reply r _ => pushed j e since (x.receive r)
  | t, _ => (t, [])

end Task

end ScrapeCourier
