import ScrapeCourier.Agent.Config
import ScrapeCourier.Relay.Poll
import ScrapeCourier.Relay.Push

namespace ScrapeCourier

structure Agent where
  config : Config
  /-- As they were when the agent was set up. -/
  files : Files
  pollUrl : Url
  pushUrl : Url

def Agent.ofConfig (config : Config) (files : Files) : Except ConfigError Agent := do
  let pollUrl ← config.pollUrl
  let pushUrl ← config.pushUrl
  return ⟨config, files, pollUrl, pushUrl⟩

inductive Leg
  | poll
  | scrape
  | push
  deriving DecidableEq, Repr

inductive Notice
  | called (leg : Leg) (exchange : Exchange)
  | claimed (job : Job)
  /-- A poll that is followed by another one comes with the wait before it. -/
  | pollFailed (cause : PollError) (retryIn : Option Duration)
  | scrapeFailed (job : Job) (cause : JobError)
  | pushFailed (job : Job) (cause : PushError)
  | finished (job : Job)
  | drained (complete : Bool)

end ScrapeCourier
