import ScrapeCourier.Agent.Arguments
import ScrapeCourier.Agent.Basic
import ScrapeCourier.Tls.Material

namespace ScrapeCourier

inductive StartupError
  | usage (cause : ArgError)
  | config (cause : ConfigError)
  | client (cause : ConfigError)
  | endpoints (cause : ConfigError)

namespace StartupError

/-- Asking for help or for the version is no failure. -/
def exitCode : StartupError → UInt32
  | .usage .displayHelp | .usage .displayVersion => 0
  | .usage _ => 2
  | _ => 1

def causeLines : List String → String
  | [cause] => "    " ++ cause ++ "\n"
  | causes => String.join (causes.mapIdx fun i cause => s!"    {i}: " ++ cause ++ "\n")

def reportOf (context : String) (cause : ConfigError) : String :=
  "Error: " ++ context ++ "\n\nCaused by:\n" ++ causeLines cause.causes

def report? : StartupError → Option String
  | .usage _ => none
  | .config cause => reportOf "Invalid configuration" cause
  | .client cause => reportOf "Failed to build HTTP client" cause
  | .endpoints cause => reportOf "Failed to resolve relay endpoints" cause

end StartupError

namespace Startup

def versionText : String := "scrape-relay-agent 0.1.0\n"

structure Ready where
  agent : Agent
  metricsAddr : Option SocketAddress

def agent (args : List String) (env : String → Option String) (hostName : String)
    (files : Files) : Except StartupError Ready := do
  let arguments ← (Arguments.read args env).mapError .usage
  let (config, metricsAddr) ← (arguments.config hostName).mapError .config
  (config.tls.check files).mapError .client
  let agent ← (Agent.ofConfig config files).mapError .endpoints
  return ⟨agent, metricsAddr⟩

end Startup

end ScrapeCourier
