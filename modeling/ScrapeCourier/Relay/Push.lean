import ScrapeCourier.Exchange.Basic

namespace ScrapeCourier

open Http

inductive PushError
  | transport (cause : TransportError)
  | refused (status : Status)

def PushError.message : PushError → String
  | .transport cause => "error pushing (" ++ cause.kind.text ++ "): " ++ cause.message
  | .refused status => "relay returned status " ++ status.describe ++ " for push"

namespace Push

def call (url : Url) (message : Octets) : Call := ⟨.post, url, .empty, message⟩

/-- The body of the relay's answer does not count. -/
def conclude : Outcome → Except PushError Unit
  | .error e => .error (.transport e)
  | .ok a => if a.status.isSuccess then .ok () else .error (.refused a.status)

end Push

end ScrapeCourier
