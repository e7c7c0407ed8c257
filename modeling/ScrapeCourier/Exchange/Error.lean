import ScrapeCourier.Url.Basic

namespace ScrapeCourier

inductive TransportKind
  | timeout
  | connect
  | tls
  | other
  deriving DecidableEq, Repr

def TransportKind.text : TransportKind → String
  | .timeout => "timeout"
  | .connect => "connect"
  | .tls => "tls"
  | .other => "transport"

inductive TransportStage
  | unsupported
  | sending
  | redirecting
  | readingBody
  deriving DecidableEq, Repr

structure TransportError where
  kind : TransportKind
  stage : TransportStage
  url : List Char
  deriving DecidableEq

def TransportStage.text : TransportStage → String
  | .unsupported => "builder error"
  | .sending => "error sending request"
  | .redirecting => "error following redirect"
  | .readingBody => "error decoding response body"

def TransportError.message (e : TransportError) : String :=
  e.stage.text ++ " for url (" ++ String.ofList e.url ++ ")"

end ScrapeCourier
