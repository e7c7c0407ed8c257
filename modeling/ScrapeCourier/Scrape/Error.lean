import ScrapeCourier.Exchange.Error
import ScrapeCourier.Http.Message
import ScrapeCourier.Text.Files

namespace ScrapeCourier

inductive JobDecodeError
  | framing (cause : Http.FramingError)
  | target (cause : Url.UrlError)

def JobDecodeError.message : JobDecodeError → String
  | .framing cause => "error reading request: " ++ cause.message
  | .target cause => "invalid scrape target URL: " ++ cause.message

inductive TargetFault
  | scheme
  | loopback
  | federation (cause : Url.UrlError)

def TargetFault.message : TargetFault → String
  | .scheme => "cannot switch scheme to https"
  | .loopback => "cannot rewrite host to loopback"
  | .federation cause => cause.message

inductive JobError
  | missingTimeout
  | badTimeout (text : List Char)
  | tokenUnread (path : String) (cause : FileError)
  | badToken
  | portNotAllowed (port : Nat)
  | badTarget (url : List Char) (fault : TargetFault)
  | failed (url : List Char) (cause : TransportError)
  | deadlineExceeded (url : List Char)

def JobError.message : JobError → String
  | .missingTimeout => "missing scrape timeout header x-prometheus-scrape-timeout-seconds"
  | .badTimeout text => "invalid scrape timeout header value: " ++ String.ofList text
  | .tokenUnread path cause =>
    "cannot read token from token-path " ++ path ++ ": " ++ cause.message
  | .badToken => "token from token-path is not a valid header value"
  | .portNotAllowed port => s!"client does not have permissions to scrape port {port}"
  | .badTarget url fault =>
    "cannot rewrite scrape target " ++ String.ofList url ++ ": " ++ fault.message
  | .failed url cause => "failed to scrape " ++ String.ofList url ++ ": " ++ cause.message
  | .deadlineExceeded url => "failed to scrape " ++ String.ofList url ++ ": deadline exceeded"

end ScrapeCourier
