import ScrapeCourier.Agent.Config
import ScrapeCourier.Agent.SocketAddress
import ScrapeCourier.Time.Span

namespace ScrapeCourier

inductive Setting
  | fqdn
  | proxyUrl
  | tlsCacert
  | tlsCert
  | tlsKey
  | insecureSkipVerify
  | metricsAddr
  | tokenPath
  | useLocalhost
  | allowPort
  | retryInitialWait
  | retryMaxWait
  | pushGrace
  | drainTimeout
  | federateUrl
  | selector
  | help
  | version
  deriving DecidableEq, Repr

inductive Shape
  | text
  | path
  | span
  | flag
  /-- Given any number of times, with values between semicolons. -/
  | many
  deriving DecidableEq, Repr

inductive ArgError
  | displayHelp
  | displayVersion
  | invalidValue
  | valueValidation
  | unknownArgument
  | argumentConflict
  | tooManyValues
  deriving DecidableEq, Repr

namespace Setting

def all : List Setting :=
  [.fqdn, .proxyUrl, .tlsCacert, .tlsCert, .tlsKey, .insecureSkipVerify, .metricsAddr, .tokenPath,
    .useLocalhost, .allowPort, .retryInitialWait, .retryMaxWait, .pushGrace, .drainTimeout,
    .federateUrl, .selector, .help, .version]

def name : Setting → String
  | .fqdn => "fqdn"
  | .proxyUrl => "proxy-url"
  | .tlsCacert => "tls-cacert"
  | .tlsCert => "tls-cert"
  | .tlsKey => "tls-key"
  | .insecureSkipVerify => "insecure-skip-verify"
  | .metricsAddr => "metrics-addr"
  | .tokenPath => "token-path"
  | .useLocalhost => "use-localhost"
  | .allowPort => "allow-port"
  | .retryInitialWait => "retry-initial-wait"
  | .retryMaxWait => "retry-max-wait"
  | .pushGrace => "push-grace"
  | .drainTimeout => "drain-timeout"
  | .federateUrl => "federate-url"
  | .selector => "match"
  | .help => "help"
  | .version => "version"

def environment? : Setting → Option String
  | .fqdn => "AGENT_FQDN"
  | .proxyUrl => "PROXY_URL"
  | .tlsCacert => "TLS_CACERT"
  | .tlsCert => "TLS_CERT"
  | .tlsKey => "TLS_KEY"
  | .insecureSkipVerify => "INSECURE_SKIP_VERIFY"
  | .metricsAddr => "METRICS_ADDR"
  | .tokenPath => "TOKEN_PATH"
  | .useLocalhost => "USE_LOCALHOST"
  | .allowPort => "ALLOW_PORT"
  | .retryInitialWait => "RETRY_INITIAL_WAIT"
  | .retryMaxWait => "RETRY_MAX_WAIT"
  | .pushGrace => "PUSH_GRACE"
  | .drainTimeout => "DRAIN_TIMEOUT"
  | .federateUrl => "FEDERATE_URL"
  | .selector => "FEDERATE_MATCH"
  | .help => none
  | .version => none

def shape : Setting → Shape
  | .fqdn | .proxyUrl | .metricsAddr | .allowPort | .federateUrl => .text
  | .tlsCacert | .tlsCert | .tlsKey | .tokenPath => .path
  | .retryInitialWait | .retryMaxWait | .pushGrace | .drainTimeout => .span
  | .insecureSkipVerify | .useLocalhost | .help | .version => .flag
  | .selector => .many

def named? (name : List Char) : Option Setting := all.find? (·.name.toList = name)

def letter? : Char → Option Setting
  | 'h' => some .help
  | 'V' => some .version
  | _ => none

def valuesOf (s : Setting) (text : List Char) : List (List Char) :=
  if s.shape = .many then text.splitOn ';' else [text]

def check (s : Setting) (value : List Char) : Except ArgError Unit :=
  match s.shape with
  | .text | .many => .ok ()
  | .path => if value.isEmpty then .error .invalidValue else .ok ()
  | .span => if (Span.read? value).isSome then .ok () else .error .valueValidation
  | .flag =>
    if value = "true".toList || value = "false".toList then .ok () else .error .invalidValue

end Setting

abbrev Given := List (Setting × List (List Char))

namespace Given

def values (g : Given) (s : Setting) : List (List Char) :=
  g.flatMap fun (t, vs) => if t = s then vs else []

def has (g : Given) (s : Setting) : Bool := g.any (·.1 = s)

def add (g : Given) (s : Setting) (text : List Char) : Except ArgError Given := do
  if s = .help then throw .displayHelp
  if s = .version then throw .displayVersion
  if g.has s && s.shape ≠ .many then throw .argumentConflict
  (s.valuesOf text).forM s.check
  return g ++ [(s, s.valuesOf text)]

end Given

namespace Arguments

/-- The last setting on the command line, with its text once that is there. It is taken only when
the next one starts, so that an unknown argument right behind it is noticed first. -/
abbrev Pending := Option (Setting × Option (List Char))

def settle (g : Given) : Pending → Except ArgError Given
  | none => .ok g
  | some (_, none) => .error .invalidValue
  | some (s, some text) => g.add s text

/-- One argument that names settings by their first letters. -/
def letters (g : Given) (p : Pending) : List Char → Except ArgError (Given × Pending)
  | [] => .ok (g, p)
  | c :: cs =>
    match Setting.letter? c with
    | none => .error .unknownArgument
    | some s => do
      let g ← settle g p
      letters (← g.add s "true".toList) none cs

def long (g : Given) (p : Pending) (arg : List Char) : Except ArgError (Given × Pending) :=
  let name := arg.takeWhile (· ≠ '=')
  let text := match arg.dropWhile (· ≠ '=') with
    | [] => none
    | _ :: t => some t
  match Setting.named? name, text with
  | none, _ => .error .unknownArgument
  | some s, some text =>
    if s.shape = .flag then .error .tooManyValues
    else do return (← (← settle g p).add s text, none)
  | some s, none =>
    if s.shape = .flag then do return (← (← settle g p).add s "true".toList, none)
    else do return (← settle g p, some (s, none))

def value (g : Given) (p : Pending) (arg : List Char) : Except ArgError (Given × Pending) :=
  match p with
  | some (s, none) => .ok (g, some (s, some arg))
  | _ => .error .unknownArgument

/-- Reads the command line. Nothing may follow two hyphens alone. -/
def scan (g : Given) (p : Pending) : List (List Char) → Except ArgError Given
  | [] => settle g p
  | arg :: rest =>
    match arg with
    | ['-', '-'] => if rest.isEmpty then settle g p else .error .unknownArgument
    | '-' :: '-' :: name => do
      let (g, p) ← long g p name
      scan g p rest
    | '-' :: c :: cs => do
      let (g, p) ← letters g p (c :: cs)
      scan g p rest
    | _ => do
      let (g, p) ← value g p arg
      scan g p rest

def addEnvironment (env : String → Option String) (g : Given) : Except ArgError Given :=
  Setting.all.foldlM (fun g s =>
    match s.environment?.bind env with
    | some text => if g.has s then .ok g else g.add s text.toList
    | none => .ok g) g

end Arguments

structure Arguments where
  fqdn : Option String
  proxyUrl : Option (List Char)
  tls : TlsFiles
  metricsAddr : List Char
  tokenPath : Option String
  useLocalhost : Bool
  allowPort : List Char
  retryInitial : Duration
  retryLongest : Duration
  pushGrace : Duration
  drainTimeout : Duration
  federateUrl : Option (List Char)
  selectors : List (List Char)

namespace Arguments

def defaultMetricsAddr : List Char := "0.0.0.0:9369".toList

def ofGiven (g : Given) : Arguments :=
  let text? (s : Setting) : Option (List Char) := (g.values s).head?
  let string? (s : Setting) : Option String := (text? s).map String.ofList
  let flag (s : Setting) : Bool := text? s = some "true".toList
  let span (s : Setting) (d : Duration) : Duration := ((text? s).bind Span.read?).getD d
  { fqdn := string? .fqdn
    proxyUrl := text? .proxyUrl
    tls :=
      { caCert := string? .tlsCacert
        clientCert := string? .tlsCert
        clientKey := string? .tlsKey
        insecure := flag .insecureSkipVerify }
    metricsAddr := (text? .metricsAddr).getD defaultMetricsAddr
    tokenPath := string? .tokenPath
    useLocalhost := flag .useLocalhost
    allowPort := (text? .allowPort).getD ['*']
    retryInitial := span .retryInitialWait (.ofSeconds 1)
    retryLongest := span .retryMaxWait (.ofSeconds 5)
    pushGrace := span .pushGrace (.ofSeconds 5)
    drainTimeout := span .drainTimeout (.ofSeconds 30)
    federateUrl := text? .federateUrl
    selectors := g.values .selector }

def read (args : List String) (env : String → Option String) : Except ArgError Arguments := do
  let g ← scan [] none (args.map String.toList)
  return ofGiven (← addEnvironment env g)

/-- An address without a host is one on all interfaces; an empty text is none. -/
def readMetricsAddr (s : List Char) : Except ConfigError (Option SocketAddress) :=
  let s := Blank.trim s
  if s.isEmpty then .ok none
  else
    let full := if s.head? = some ':' then "0.0.0.0".toList ++ s else s
    match SocketAddress.read? full with
    | some a => .ok (some a)
    | none => .error (.badMetricsAddress s)

def config (a : Arguments) (hostName : String) :
    Except ConfigError (Config × Option SocketAddress) := do
  let proxyUrl ← match a.proxyUrl with
    | some s => if (Blank.trim s).isEmpty then throw .missingProxyUrl else pure s
    | none => throw .missingProxyUrl
  let federation ← match a.federateUrl with
    | some s =>
      let base ← (Endpoint.readBase s).mapError .badUrl
      pure (some (Federation.mk base a.selectors))
    | none => pure none
  let relay ← (Endpoint.readBase proxyUrl).mapError .badUrl
  let metricsAddr ← readMetricsAddr a.metricsAddr
  let allowPort ← PortRule.read a.allowPort
  let c : Config :=
    { fqdn := a.fqdn.getD hostName, relay, allowPort, federation
      tls := a.tls
      tokenPath := a.tokenPath
      useLocalhost := a.useLocalhost
      retryInitial := a.retryInitial
      retryLongest := a.retryLongest
      pushGrace := a.pushGrace
      drainTimeout := a.drainTimeout }
  c.validate
  return (c, metricsAddr)

end Arguments

end ScrapeCourier
