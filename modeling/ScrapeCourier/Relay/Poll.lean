import ScrapeCourier.Exchange.Basic
import ScrapeCourier.Scrape.Job

namespace ScrapeCourier

open Http

inductive PollError
  | transport (cause : TransportError)
  | refused (status : Status)
  | unread (cause : JobDecodeError)

def PollError.message : PollError → String
  | .transport cause => "error polling (" ++ cause.kind.text ++ "): " ++ cause.message
  | .refused status => "relay returned status " ++ status.describe ++ " for poll"
  | .unread cause => cause.message

namespace Poll

def call (url : Url) (fqdn : String) : Call := ⟨.post, url, .empty, Utf8.encode fqdn.toList⟩

def conclude : Outcome → Except PollError Job
  | .error e => .error (.transport e)
  | .ok a =>
    if a.status.isSuccess then do
      let body ← a.body.mapError .transport
      (Job.decode body).mapError .unread
    else .error (.refused a.status)

end Poll

end ScrapeCourier
