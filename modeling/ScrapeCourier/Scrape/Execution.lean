import ScrapeCourier.Exchange.Basic
import ScrapeCourier.Scrape.Result

namespace ScrapeCourier

structure Execution where
  result : Except JobError ScrapeResult
  deadline : Option Duration

namespace Execution

def reported (e : Execution) : ScrapeResult :=
  match e.result with
  | .ok r => r
  | .error cause => .ofError cause

def left (e : Execution) (now : Duration) : Duration :=
  match e.deadline with
  | some d => d.minus now
  | none => .zero

/-- A target that takes too long has exceeded the deadline. -/
def failure (target : Url) (cause : TransportError) : JobError :=
  if cause.kind = .timeout then .deadlineExceeded target.chars else .failed target.chars cause

def conclude (target : Url) : Outcome → Except JobError ScrapeResult
  | .error cause => .error (failure target cause)
  | .ok a =>
    match a.body with
    | .ok body => .ok ⟨a.status, a.fields, body⟩
    | .error cause => .error (failure target cause)

end Execution

end ScrapeCourier
