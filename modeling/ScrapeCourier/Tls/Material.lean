import ScrapeCourier.Agent.Config
import ScrapeCourier.Tls.Pem

namespace ScrapeCourier

namespace Pem

/-- Any blocks will do where certificates to trust are looked for. -/
def checkBundle (s : Octets) : Except TlsFault Unit :=
  match read? s with
  | some _ => .ok ()
  | none => .error .badBundle

def checkIdentity (s : Octets) : Except TlsFault Unit :=
  match read? s with
  | none => .error .badIdentity
  | some blocks =>
    if !blocks.all fun b => b.kind = .certificate || b.kind = .privateKey then .error .strayBlock
    else if blocks.any (·.kind = .certificate) && blocks.any (·.kind = .privateKey) then .ok ()
    else .error .nothingToShow

end Pem

namespace TlsFiles

def readFile (files : Files) (path : String) : Except ConfigError Octets :=
  (files path).mapError (.unreadFile path ·)

def checkBundle (files : Files) (path : String) : Except ConfigError Unit := do
  (Pem.checkBundle (← readFile files path)).mapError (.badTls path)

def checkIdentity (files : Files) (certPath keyPath : String) : Except ConfigError Unit := do
  let cert ← readFile files certPath
  let key ← readFile files keyPath
  (Pem.checkIdentity (cert ++ Octet.lf :: key)).mapError (.badTls certPath)

/-- Whether a client can be made of the files. A certificate without a key, or a key without a
certificate, is not looked at. -/
def check (files : Files) (t : TlsFiles) : Except ConfigError Unit := do
  match t.caCert with
  | some path => checkBundle files path
  | none => pure ()
  match t.clientCert, t.clientKey with
  | some certPath, some keyPath => checkIdentity files certPath keyPath
  | _, _ => pure ()

end TlsFiles

end ScrapeCourier
