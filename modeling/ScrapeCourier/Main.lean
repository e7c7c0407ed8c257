import ScrapeCourier.Agent.Session
import ScrapeCourier.Agent.Startup
import ScrapeCourier.Exchange.Wire
import ScrapeCourier.Metrics.Page
import Std.Async
import Std.Sync.Channel

namespace ScrapeCourier.Program

open Http Std.Async

def fileError : IO.Error → FileError
  | .noFileOrDirectory _ number text =>
    if number = 2 then .notFound else .other number.toNat text
  | .inappropriateType _ number text | .otherError number text | .resourceExhausted _ number text
  | .permissionDenied _ number text | .invalidArgument _ number text =>
    if number = 20 then .notDirectory else if number = 21 then .isDirectory
    else .other number.toNat text
  | e => .other 5 (toString e)

def readFile (path : String) : IO (Except FileError Octets) := do
  try return .ok (← IO.FS.readBinFile path).toList
  catch e => return .error (fileError e)

def readFiles (paths : List String) : IO Files := do
  let read ← paths.mapM fun path => return (path, ← readFile path)
  return fun path => ((read.find? (·.1 = path)).map (·.2)).getD (.error .notFound)

def paths (args : List String) (env : String → Option String) : List String :=
  match Arguments.read args env with
  | .error _ => []
  | .ok a => [a.tls.caCert, a.tls.clientCert, a.tls.clientKey, a.tokenPath].filterMap id

def receiveLimit : UInt64 := 65536

partial def receiveAll (socket : TCP.Socket.Client) (sofar : ByteArray) : Async ByteArray := do
  match ← socket.recv? receiveLimit with
  | none => return sofar
  | some octets => receiveAll socket (sofar ++ octets)

def addressOf (ip : Std.Net.IPAddr) (port : UInt16) : Std.Net.SocketAddress :=
  match ip with
  | .v4 addr => .v4 ⟨addr, port⟩
  | .v6 addr => .v6 ⟨addr, port⟩

def connect (u : Url) : Async TCP.Socket.Client := do
  let port := (u.effectivePort?.getD 80).toUInt16
  let name := String.ofList ((u.host.map Url.Host.text).getD [])
  let found ← DNS.getAddrInfo name ""
  match found[0]? with
  | none => throw (IO.userError "no address")
  | some ip =>
    let socket ← (TCP.Socket.Client.mk : IO TCP.Socket.Client)
    socket.connect (addressOf ip port)
    return socket

def converse (c : Call) (socket : TCP.Socket.Client) : Async Reply := do
  socket.send (ByteArray.mk (Wire.request c).toArray)
  let octets ← receiveAll socket .empty
  return Wire.reply c.method octets.toList

/-- Sends a request and takes the reply; `connected` is told once there is a connection. -/
def exchange (c : Call) (connected : IO.Ref Bool) : Async Reply := do
  if c.url.scheme = "https".toList then return .lost .tls
  try
    let socket ← connect c.url
    connected.set true
    converse c socket
  catch _ => return .lost (if ← connected.get then .other else .connect)

def detach (act : Async Unit) : IO Unit := discard act.toIO

def say (line : String) : IO Unit := do
  IO.println line
  (← IO.getStdout).flush

def pageOctets (p : Page) : Octets :=
  let typed : Fields := match p.body with
    | some (type, _) =>
      match FieldName.ofOctets? (Octets.ofAscii "content-type"),
          FieldValue.ofOctets? (Octets.ofAscii type) with
      | some n, some v => Fields.empty.insert n v
      | _, _ => .empty
    | none => .empty
  Response.encode ⟨p.status, .http11, typed, ((p.body.map (·.2)).map fun text =>
    Utf8.encode text.toList).getD []⟩

def answerPage (socket : TCP.Socket.Client) (counts : Counts) : Async Unit := do
  match ← socket.recv? receiveLimit with
  | none => return
  | some octets =>
    match Head.request octets.toList with
    | .done head _ =>
      let page := Page.respond counts head.method.octets.toChars head.target
      socket.send (ByteArray.mk (pageOctets page).toArray)
    | _ => return
  socket.shutdown

partial def acceptLoop (server : TCP.Socket.Server) (counts : IO.Ref Counts) : Async Unit := do
  let socket ← server.accept
  try answerPage socket (← counts.get) catch _ => pure ()
  acceptLoop server counts

def listenAddress? : SocketAddress → Option Std.Net.SocketAddress
  | .v4 a port => (Std.Net.IPv4Addr.ofString (String.ofList a.text)).map (.v4 ⟨·, port.toUInt16⟩)
  | .v6 a _ port => (Std.Net.IPv6Addr.ofString (String.ofList a.text)).map (.v6 ⟨·, port.toUInt16⟩)

def servePage (addr : SocketAddress) (counts : IO.Ref Counts) : IO Unit := do
  try
    let some address := listenAddress? addr | throw (IO.userError "no such address")
    let server ← TCP.Socket.Server.mk
    server.bind address
    server.listen 128
    detach (acceptLoop server counts)
  catch e => say s!"WARN Metrics endpoint not started: {e}"

inductive Message
  | event (e : Session.Event)
  | begin (task : Nat)
  | reply (task : Option Nat) (serial : Nat) (r : Reply)
  deriving Inhabited

structure Work where
  agent : Agent
  session : Session
  inbox : Std.Channel.Sync Message
  counts : IO.Ref Counts
  received : Array Nat
  /-- The number of the last request of each job, and of the polls. -/
  awaited : List (Option Nat × Nat)
  serial : Nat

partial def pauseUntil (moment : Nat) : Async Unit := do
  let now ← IO.monoNanosNow
  if now < moment then
    sleep (.ofNat (min ((moment - now) / 1_000_000 + 1) 1_000_000_000))
    pauseUntil moment

def connectNanos : Nat := 30 * 1_000_000_000

namespace Work

def age (w : Work) (i : Nat) : IO Duration := do
  let now ← IO.monoNanosNow
  return (Duration.ofNanos? (now - w.received.getD i now)).getD .zero

/-- Sends a request, and sees to it that it comes to an end. -/
def send (w : Work) (task : Option Nat) (x : Exchange) : IO Work := do
  let serial := w.serial + 1
  let reply (r : Reply) : Async Unit := w.inbox.send (.reply task serial r)
  let start ← IO.monoNanosNow
  let connected ← IO.mkRef false
  detach do reply (← exchange x.call connected)
  detach do
    pauseUntil (start + connectNanos)
    if !(← connected.get) then reply (.lost .timeout)
  match task with
  | none => pure ()
  | some i =>
    match (w.session.tasks[i]?).bind (·.dueNanos? w.agent) with
    | none => pure ()
    | some due => detach do
        pauseUntil (w.received.getD i start + due)
        reply (.lost .timeout)
  return { w with serial, awaited := (task, serial) :: w.awaited.filter (·.1 ≠ task) }

def act (w : Work) (entry : Session.Entry) : IO Work := do
  match entry.notice with
  | .called _ x => w.send entry.task x
  | .claimed _ =>
    (entry.task.map fun i => w.inbox.send (.begin i)).getD (pure ())
    return { w with received := w.received.push (← IO.monoNanosNow) }
  | .pollFailed cause wait =>
    say s!"ERROR Error polling: {cause.message}"
    match wait with
    | none => return w
    | some d =>
      let now ← IO.monoNanosNow
      detach do
        pauseUntil (now + d.nanos)
        w.inbox.send (.event (.wake d))
      return w
  | .scrapeFailed _ cause => say s!"ERROR Scrape failed: {cause.message}"; return w
  | .pushFailed _ cause =>
    say s!"ERROR Failed to push scrape response: {cause.message}"
    return w
  | .finished _ | .drained _ => return w

def step (w : Work) (e : Session.Event) : IO Work := do
  let session := w.session.step w.agent e
  w.counts.set session.counts
  let fresh := session.history
  fresh.foldlM act { w with session := { session with history := [] } }

def forget (w : Work) : Work :=
  if w.session.isQuiet then
    { w with session := { w.session with tasks := [] }, received := #[] }
  else w

def isAwaited (w : Work) (task : Option Nat) (serial : Nat) : Bool :=
  w.awaited.contains (task, serial)

/-- A job is begun with the token file as it is now. -/
def outset (w : Work) (i : Nat) : IO Task.Outset := do
  let files ← readFiles w.agent.config.tokenPath.toList
  let received := (Duration.ofNanos? (w.received.getD i 0)).getD .zero
  return ⟨files, received, ← w.age i⟩

def take (w : Work) : Message → IO Work
  | .event .shutdown => do
    let now ← IO.monoNanosNow
    let w ← w.step .shutdown
    detach do
      pauseUntil (now + w.agent.config.drainTimeout.nanos)
      w.inbox.send (.event (.settle w.agent.config.drainTimeout))
    return w
  | .event e => w.step e
  | .begin i => do w.step (.task i (.begin (← w.outset i)))
  | .reply task serial r => do
    if !w.isAwaited task serial then return w
    let w := { w with awaited := w.awaited.filter (·.1 ≠ task) }
    match task with
    | none => w.step (.reply r)
    | some i => w.step (.task i (.reply r (← w.age i)))

partial def loop (w : Work) : IO Unit := do
  match w.session.loop with
  | .idle => return
  | .ready _ => loop (← w.forget.step .turn)
  | .draining =>
    if w.session.isQuiet then loop (← w.step (.settle .zero))
    else loop (← w.take (← w.inbox.recv))
  | _ => loop (← w.take (← w.inbox.recv))

end Work

def onSignal (signal : Signal) (inbox : Std.Channel.Sync Message) : IO Unit := do
  let waiter ← Signal.Waiter.mk signal false
  let fired ← waiter.wait
  detach do
    discard <| await fired
    inbox.send (.event .shutdown)

def work (ready : Startup.Ready) : IO Unit := do
  let inbox ← Std.Channel.Sync.new
  let counts ← IO.mkRef ({} : Counts)
  match ready.metricsAddr with
  | some addr => servePage addr counts
  | none => pure ()
  onSignal .sigterm inbox
  onSignal .sigint inbox
  let w : Work := ⟨ready.agent, {}, inbox, counts, #[], [], 0⟩
  (← w.step .run).loop

def settings : List String := Setting.all.filterMap Setting.environment?

end ScrapeCourier.Program

open ScrapeCourier in
def main (args : List String) : IO UInt32 := do
  let given ← Program.settings.mapM fun name => return (name, ← IO.getEnv name)
  let env (name : String) : Option String := (given.find? (·.1 = name)).bind (·.2)
  let hostName ← try Std.Async.System.getHostName catch _ => pure "localhost"
  let files ← Program.readFiles (Program.paths args env)
  match Startup.agent args env hostName files with
  | .ok ready =>
    Program.work ready
    return 0
  | .error e =>
    match e with
    | .usage .displayVersion => IO.print Startup.versionText
    | _ => pure ()
    match e.report? with
    | some report => IO.eprint report
    | none => pure ()
    return e.exitCode
