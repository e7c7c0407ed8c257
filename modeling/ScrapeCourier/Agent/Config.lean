import ScrapeCourier.Agent.Endpoint
import ScrapeCourier.Text.Files
import ScrapeCourier.Text.Quoted
import ScrapeCourier.Time.Duration

namespace ScrapeCourier

inductive PortRule
  | any
  | only (port : Nat)
  deriving DecidableEq, Repr

inductive TlsFault
  | badBundle
  | badIdentity
  | strayBlock
  | nothingToShow
  deriving DecidableEq, Repr

def TlsFault.message (_ : TlsFault) : String := "builder error"

def TlsFault.detail : TlsFault → String
  | .badBundle => "invalid certificate encoding"
  | .badIdentity => "unexpected error: Invalid identity PEM file"
  | .strayBlock => "unexpected error: No valid certificate was found"
  | .nothingToShow => "unexpected error: private key or certificate not found"

inductive ConfigError
  | missingProxyUrl
  | badUrl (cause : BadUrl)
  | badAllowPort (text : List Char)
  | badMetricsAddress (text : List Char)
  | localhostNeedsPort
  | keyWithoutCert
  | certWithoutKey
  | federationWithoutMatch
  | zeroRetryWait
  | unreadFile (path : String) (cause : FileError)
  | badTls (path : String) (fault : TlsFault)

def ConfigError.message : ConfigError → String
  | .missingProxyUrl => "--proxy-url flag must be specified"
  | .badUrl cause => cause.message
  | .badAllowPort text =>
    "invalid allow-port " ++ Quoted.text text ++ ": expected \"*\" or a port number"
  | .badMetricsAddress text => "invalid metrics address " ++ Quoted.text text
  | .localhostNeedsPort => "client must restrict access on localhost to a single port"
  | .keyWithoutCert => "--tls-key requires --tls-cert"
  | .certWithoutKey => "--tls-cert requires --tls-key"
  | .federationWithoutMatch =>
    "minimum one --match flag must be specified with --federate-url"
  | .zeroRetryWait => "retry initial wait must be greater than zero"
  | .unreadFile path cause => "failed to read " ++ path ++ ": " ++ cause.message
  | .badTls path fault => "invalid TLS material in " ++ path ++ ": " ++ fault.message

/-- The error and what caused it, the nearest first. -/
def ConfigError.causes (e : ConfigError) : List String :=
  e.message :: match e with
    | .badUrl cause => [cause.cause.message]
    | .unreadFile _ cause => [cause.message]
    | .badTls _ fault => [fault.message, fault.detail]
    | _ => []

namespace PortRule

def permits : PortRule → Nat → Bool
  | .any, _ => true
  | .only p, q => p = q

def read (s : List Char) : Except ConfigError PortRule :=
  let s := Blank.trim s
  if s = ['*'] then .ok .any
  else match Unsigned.read? 65536 s with
    | some p => .ok (.only p)
    | none => .error (.badAllowPort s)

end PortRule

structure TlsFiles where
  caCert : Option String := none
  clientCert : Option String := none
  clientKey : Option String := none
  insecure : Bool := false

structure Config where
  fqdn : String
  relay : Url
  tls : TlsFiles := {}
  tokenPath : Option String := none
  useLocalhost : Bool := false
  allowPort : PortRule := .any
  retryInitial : Duration := .ofSeconds 1
  retryLongest : Duration := .ofSeconds 5
  pushGrace : Duration := .ofSeconds 5
  drainTimeout : Duration := .ofSeconds 30
  federation : Option Federation := none

namespace Config

def validate (c : Config) : Except ConfigError Unit := do
  if c.useLocalhost && c.allowPort = .any then throw .localhostNeedsPort
  if c.tls.clientCert.isNone && c.tls.clientKey.isSome then throw .keyWithoutCert
  if c.tls.clientCert.isSome && c.tls.clientKey.isNone then throw .certWithoutKey
  if (c.federation.map (·.selectors.isEmpty)).getD false then throw .federationWithoutMatch
  if c.retryInitial.isZero then throw .zeroRetryWait

def pollUrl (c : Config) : Except ConfigError Url :=
  (Endpoint.ofRelay c.relay "poll".toList).mapError .badUrl

def pushUrl (c : Config) : Except ConfigError Url :=
  (Endpoint.ofRelay c.relay "push".toList).mapError .badUrl

end Config

end ScrapeCourier
