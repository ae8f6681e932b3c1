import CeloVpn.Library.Runs
import CeloVpn.Service.Lines

/-!
# The service as a system of events

Every slot the event loop can call, and the command handler of a client
connection. A callback whose source is not pending (a reply to no request, a tick
of a deleted timer, a signal of a socket that is gone) leaves the state alone.
-/
namespace CeloVpn.Service
open Runs

/-- What the event loop delivers. -/
inductive Callback
  | connectionOpened
  | connectionClosed (client : ℕ)
  /-- A client's command line, with the object it parses to. -/
  | command (client : ℕ) (line : QByteArray) (jObj : QJsonObject)
  /-- The `error` signal of a template reply. -/
  | templateError (request : ℕ)
  /-- The `finished` signal of a template reply, with the bytes it holds. -/
  | templateFinished (request : ℕ) (bytes : QByteArray)
  | reconnectTimeout
  | stateTimer
  /-- The log file changed; its content, if it can be opened. -/
  | logFileChanged (content : Option QByteArray)
  | socketReadyRead (bytes : QByteArray)
  | socketError (error : ℤ)
  | socketConnected
  /-- The management socket changes its state with no slot attached to it. -/
  | socketStatus (isOpen isValid connected : Bool)
  | processError (error : ℤ)
  /-- `mProcess`, or a released process object, found its process dead. -/
  | processDied (wasReleased : Bool) (exitCode : ℤ) (crashed : Bool)

def Callback.isTick : Callback → Bool
  | .stateTimer => true
  | _ => false

/-- The bytes that arrive at the management socket. -/
def Callback.socketBytes : Callback → Option QByteArray
  | .socketReadyRead bytes => some bytes
  | _ => none

structure Event where
  world : World
  callback : Callback

namespace OpenvpnManager

/-- The cached state of a client's connection. -/
def clientState (client : ℕ) (m : OpenvpnManager) : VpnState :=
  ((m.connections.find? (·.id == client)).map (·.m_state)).getD .disconnected

/-- Run a slot of one client connection. -/
def onConnection (client : ℕ) (f : QVPNClientConnection → QVPNClientConnection)
    (m : OpenvpnManager) : OpenvpnManager :=
  { m with connections := m.connections.map fun c => if c.id = client then f c else c }

/-- The arguments `socket_readyRead` reads out of a `cmdStart` object. -/
def attemptOf (jObj : QJsonObject) : Attempt where
  encryption := (jObj.value "encryption".toList).toInt
  serverId := (jObj.value "serverid".toList).toInt
  server := (jObj.value "server".toList).toString.removeLineBreaks
  port := (jObj.value "port".toList).toString.removeLineBreaks
  templateUrl := (jObj.value "template".toList).toString.removeLineBreaks
  localPort := (jObj.value "localport".toList).toString.removeLineBreaks
  tcpOrUdp := (jObj.value "tcporudp".toList).toString.removeLineBreaks
  fixDNS := (jObj.value "fixDNS".toList).toBool
  dns1 := (jObj.value "dns1".toList).toString.removeLineBreaks
  dns2 := (jObj.value "dns2".toList).toString.removeLineBreaks

/-- The `cmdStart` branch: an established connection is stopped first, and
`start()` stops once more. -/
def commandStart (host : Host) (w : World) (jObj : QJsonObject) (m : OpenvpnManager) :
    OpenvpnManager :=
  let m := m.serviceLog "socket_readyRead: Start VPN Command".toList
  let m := (m.netDown host w false).serviceLog
    "Got cmdStart command from socket, calling start on vpn manager".toList
  let m := if m.mState = .connected then m.stop host w else m
  m.start host w (attemptOf jObj)

/-- One round of the loop of `QVPNClientConnection::socket_readyRead`. -/
def command (host : Host) (w : World) (client : ℕ) (line : QByteArray) (jObj : QJsonObject)
    (m : OpenvpnManager) : OpenvpnManager :=
  let m := m.serviceLog ("Command read from socket: ".toList ++ QString.ofBytes line)
  let cmd := (jObj.value "cmd".toList).toInt
  if cmd = cmdKillRunningOpenvpn then m.killRunningOpenvpn host w
  else if cmd = cmdGetStatus then
    let m := m.serviceLog ("socket_readyRead: Get Status Command: state (".toList ++
      QString.number (m.clientState client).toInt ++ ")".toList)
    m.onConnection client fun c => c.vpnStateChanged c.m_state
  else if cmd = cmdSetCredentials then
    m.setVPNCredentials (jObj.value "vpnusername".toList).toString
      (jObj.value "vpnpassword".toList).toString
  else if cmd = cmdNetdown then m.netDown host w true
  else if cmd = cmdStart then m.commandStart host w jObj
  else if cmd = cmdStop then
    (m.serviceLog "socket_readyRead: Stop VPN Command".toList).stop host w
  else m.serviceLog "socket_readyRead - Unknown command recieved.".toList

/-- The constructor of a connection: its cached state begins as disconnected. -/
def openConnection (m : OpenvpnManager) : OpenvpnManager :=
  { m with
    connections := m.connections ++ [⟨m.nextConnection, .disconnected, []⟩]
    nextConnection := m.nextConnection + 1
    log := ("ClientConnection created with socket descriptor ".toList ++
      QString.number m.nextConnection) :: m.log
    history := .opened m.mState :: m.history }

/-- A reply reports an error before it finishes. -/
def failRequest (request : ℕ) (m : OpenvpnManager) : OpenvpnManager :=
  { m with requests := m.requests.map fun r =>
      if r.id = request then { r with failed := true } else r }

/-- A finished reply is in flight no longer. -/
def takeRequest (request : ℕ) (m : OpenvpnManager) : OpenvpnManager :=
  { m with requests := m.requests.eraseP (·.id == request) }

/-- A single shot that has fired is armed no longer. -/
def takeReconnectTimer (m : OpenvpnManager) : OpenvpnManager :=
  { m with reconnectTimers := m.reconnectTimers - 1 }

/-- The request whose reply a callback finishes. -/
def finishing (m : OpenvpnManager) : Callback → Option TemplateRequest
  | .templateFinished request _ => m.requests.find? (·.id == request)
  | _ => none

/-- One callback of the event loop. -/
def deliver (host : Host) (w : World) (m : OpenvpnManager) : Callback → OpenvpnManager
  | .connectionOpened => m.openConnection
  | .connectionClosed client =>
    { m with connections := m.connections.filter (·.id != client) }
  | .command client line jObj =>
    if m.connections.any (·.id == client) then m.command host w client line jObj else m
  | .templateError request =>
    match m.requests.find? fun r => r.id == request && !r.failed with
    | some reply => (m.failRequest request).getTemplateError host w reply
    | none => m
  | .templateFinished request bytes =>
    match m.requests.find? (·.id == request) with
    | some reply => (m.takeRequest request).getTemplateFinished host w reply bytes
    | none => m
  | .reconnectTimeout =>
    if 0 < m.reconnectTimers then m.takeReconnectTimer.reconnectTimeout host w else m
  | .stateTimer => if m.mStateTimer then m.checkState host w else m
  | .logFileChanged content =>
    if m.mFileSystemWatcher then m.openvpnLogfileChanged host w content else m
  | .socketReadyRead bytes =>
    match m.mSocket with
    | some socket =>
      let socket := { socket with buffer := socket.buffer ++ bytes }
      ({ m with mSocket := some socket }).socketReadyRead host w socket
    | none => m
  | .socketError error => if m.mSocket.isSome then m.socketError error else m
  | .socketConnected =>
    match m.mSocket with
    | some socket =>
      ({ m with mSocket := some { socket with connected := true } }).serviceLog
        "Socket to openvpn connected".toList
    | none => m
  | .socketStatus isOpen isValid connected =>
    { m with mSocket := m.mSocket.map fun s => ⟨isOpen, isValid, connected, s.buffer⟩ }
  | .processError error =>
    if m.processLives ∨ 0 < m.released then m.processError error else m
  | .processDied wasReleased exitCode crashed =>
    if wasReleased then
      if 0 < m.released then
        ({ m with released := m.released - 1 }).processDied host w exitCode crashed
      else m
    else if m.processLives then
      ({ m with mProcess := some .notRunning }).processDied host w exitCode crashed
    else m

/-- One event: the questions are counted anew. -/
def step (host : Host) (m : OpenvpnManager) (e : Event) : OpenvpnManager :=
  ({ m with asked := 0 }).deliver host e.world e.callback

/-- The states of a manager just constructed. -/
def Initial (m : OpenvpnManager) : Prop := ∃ u, m = initial u

/-- The states some run of the service ends in. -/
abbrev ReachableBy (host : Host) : OpenvpnManager → Prop := Reachable (step host) Initial

end OpenvpnManager

/-- No openvpn is found, the clock stands at one reading, and whatever is tried
succeeds. -/
def World.quiet (now : ℤ) : World where
  listing _ := ⟨1, []⟩
  clock _ := now
  refused _ := false
  logExists _ := true
  obfsproxyListing _ := []
  adapters := .listed []
  configOpens := true
  windows10 := true
  launchFailure := none
  execResult := 0
  processStarts := true
  processId := 4242
  killedExitCode := 62097
  killedCrashed := true
  rightsFailure := none
  netDownOutput := []
  replyErrorString := []

/-- A service installed for a platform, its addresses complete already. -/
def Host.on (platform : Platform) : Host := ⟨platform, "/opt/celovpn".toList, id⟩

/-- The same answers, but a process listing finds openvpn, on any platform. -/
def World.busy (now : ℤ) : World :=
  { World.quiet now with listing := fun _ => ⟨0, "4242 openvpn.exe".toList⟩ }

/-- Members that happen to be zero. -/
def Indeterminate.zero : Indeterminate := ⟨0, false, false, false, 0, 0, 0, false, false, false⟩

/-- A command with the members it needs. -/
def Callback.send (client : ℕ) (jObj : QJsonObject) : Callback := .command client [] jObj

/-- A line of the management socket arrives. -/
def Callback.line (s : String) : Callback :=
  .socketReadyRead (QString.toLatin1 (s.toList ++ ['\n']))

/-- A `cmdStart` object. -/
def startObject (serverId : ℤ) (port template : String) : QJsonObject :=
  [("cmd".toList, .ofInt cmdStart), ("serverid".toList, .ofInt serverId),
    ("server".toList, .string "vpn.example".toList), ("port".toList, .string port.toList),
    ("template".toList, .string template.toList)]

def stopObject : QJsonObject := [("cmd".toList, .ofInt cmdStop)]

end CeloVpn.Service
