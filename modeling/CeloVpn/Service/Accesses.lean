import CeloVpn.Library.Accesses
import CeloVpn.Service.LogLines
import CeloVpn.Service.Teardown

/-!
# The control fields the service reads and assigns

The constructor leaves some of the control fields unset. For every handler that touches
one of them, the fields it reads and assigns, in the order in which it does.
-/
namespace CeloVpn.Service
open Runs Accesses

/-- The control fields that the constructor of `OpenvpnManager` leaves unset. -/
inductive Field
  | mReconnect
  | mReconnectAttempt
  | mError
  | mTunError
  | mProcessing
  | mLogFilePosition
  | mTemplateHasDNSOptions
  deriving DecidableEq

abbrev Trace := List (Access Field)

namespace Trace
variable (host : Host) (w : World)

def startConnecting : Trace := [.assign .mTunError, .assign .mError, .assign .mProcessing]

def start : Trace := .assign .mReconnectAttempt :: startConnecting

/-- The increment reads the field, and the comparison once more. -/
def reconnectTimeout (m : OpenvpnManager) : Trace :=
  let m := { m with mReconnectAttempt := m.mReconnectAttempt + 1 }
  let running := m.openvpnRunning host w
  [.read .mReconnectAttempt, .assign .mReconnectAttempt] ++
    if running.1 then
      .read .mReconnectAttempt ::
        if running.2.mReconnectAttempt < 3 then [] else startConnecting
    else startConnecting

def gotTunErr (m : OpenvpnManager) : Trace :=
  .read .mTunError ::
    if m.mTunError then []
    else .read .mError ::
      if m.mError then [] else [.assign .mTunError, .assign .mError] ++ startConnecting

/-- A crash is looked for where openvpn is not found running. -/
def pollOpenvpn (m : OpenvpnManager) : Trace :=
  let running := m.openvpnRunning host w
  if running.1 then []
  else if running.2.mState = .connected then
    .read .mReconnect :: if running.2.mReconnect then startConnecting else []
  else []

def checkState (m : OpenvpnManager) : Trace :=
  pollOpenvpn host w (m.serviceLog "checkState called".toList)

def setupFileWatcher (m : OpenvpnManager) : Trace :=
  if m.mFileSystemWatcher then []
  else if w.logExists m.asked then [.assign .mLogFilePosition] else []

def parseLogNotice (s : QString) (m : OpenvpnManager) : Trace :=
  if s.containsFolded "TCPv4_CLIENT link remote:".toList then []
  else if s.containsFolded "Initialization Sequence Completed:".toList then []
  else if s.containsFolded
      "Opening utun (connect(AF_SYS_CONTROL)): Operation not permitted".toList then
    gotTunErr m
  else []

def parseOpenvpnLogLine (s : QString) (m : OpenvpnManager) : Trace :=
  if s.containsFolded "MANAGEMENT: CMD 'state'".toList then []
  else
    let m := m.serviceLog ("OpenVPNlogfile: ".toList ++ s)
    if QString.contains s "Socket bind failed on local address".toList then
      startConnecting ++ parseLogNotice s (m.bindFailed host w)
    else parseLogNotice s m

/-- The position is compared with the size twice, and moved behind what is read. -/
def readLog (content : Option QByteArray) (m : OpenvpnManager) : Trace :=
  match content with
  | none => []
  | some file =>
    .read .mLogFilePosition ::
      (if m.mLogFilePosition > file.length then [.assign .mLogFilePosition] else []) ++
      .read .mLogFilePosition ::
        if OpenvpnManager.readFrom m.mLogFilePosition file + 1 < file.length then
          [.read .mLogFilePosition, .assign .mLogFilePosition]
        else []

def openvpnLogfileChanged (content : Option QByteArray) (m : OpenvpnManager) : Trace :=
  .read .mProcessing ::
    if m.mProcessing then []
    else .read .mError ::
      if m.mError then []
      else .assign .mProcessing :: (readLog content m ++
        along (fun m s => m.parseOpenvpnLogLine host w s) (fun m s => parseOpenvpnLogLine host w s m)
          ({ m with mProcessing := true }.readLog content).2 (m.logLines content) ++
        [.assign .mProcessing])

def parseSocketStateWord (word : QString) : Trace :=
  if word.equalsFolded "EXITING".toList then [.read .mReconnect] else []

def parseSocketQueryWord (word s : QString) (m : OpenvpnManager) : Trace :=
  if OpenvpnManager.refuses word s then [.assign .mError]
  else if word.equalsFolded "FATAL".toList then
    if (s.mid (s.indexOf ':' 0 + 1) (-1)).equalsFolded OpenvpnManager.fatalMessage then gotTunErr m
    else [.assign .mError]
  else []

def parseSocketLine (s : QString) (m : OpenvpnManager) : Trace :=
  match OpenvpnManager.stateWordOf s, OpenvpnManager.queryWordOf s with
  | some word, _ => parseSocketStateWord word
  | none, some word => parseSocketQueryWord word s m
  | none, none => []

def socketReadyRead (socket : QTcpSocket) (m : OpenvpnManager) : Trace :=
  along (fun m s => m.parseSocketLine host w s) (fun m s => parseSocketLine s m)
    (m.readSocket socket) (OpenvpnManager.socketLines socket.buffer)

/-- The field is set anew at a line that mentions DNS. -/
def writeConfigFile (m : OpenvpnManager) : Trace :=
  if !w.configOpens then []
  else match m.mOvpnTemplate m.currentKey with
    | none => []
    | some template =>
      .assign .mTemplateHasDNSOptions ::
        (if OpenvpnManager.mentionsDNS template.bytes then [.assign .mTemplateHasDNSOptions] else []) ++
        [.read .mTemplateHasDNSOptions]

def getOpenvpnArgs : Trace := [.read .mTemplateHasDNSOptions]

/-- `processStateChanged`, and the other half of `processFinished` too. -/
def processDied (exitCode : ℤ) (crashed : Bool) (m : OpenvpnManager) : Trace :=
  let m := if crashed then m.processError 1 else m
  setupFileWatcher w m ++
    if exitCode ≠ 0 then [] else setupFileWatcher w (m.processStateChanged host w 0)

def deleteProcess (m : OpenvpnManager) : Trace :=
  if m.processLives then
    processDied host w w.killedExitCode w.killedCrashed { m with mProcess := some .notRunning }
  else []

def startProcess (m : OpenvpnManager) : Trace :=
  setupFileWatcher w m ++ setupFileWatcher w (({ m with mProcess := some .starting }).processStateChanged host w 1)

def launchDaemon (args : List QString) (m : OpenvpnManager) : Trace :=
  match w.launchFailure with
  | some _ => []
  | none =>
    let m := (m.serviceLog "######  before exec ####".toList).noteLaunch args
    let m := m.serviceLog ("Result of openvpn execution is ".toList ++
      QString.number w.execResult)
    setupFileWatcher w
      ((m.serviceLog "before attaching to OpenVPN".toList).connectToOpenvpnSocket w)

def launchProcess (args : List QString) (m : OpenvpnManager) : Trace :=
  deleteProcess host w m ++ startProcess host w ((m.deleteProcess host w).noteLaunch args)

def continueConnecting (m : OpenvpnManager) : Trace :=
  let written := m.writeConfigFile host w
  writeConfigFile w m ++
    if !written.1 then []
    else
      let m := written.2
      let args := m.getOpenvpnArgs host
      let m := m.serviceLog ("Prog is: ".toList ++ host.openvpnFilename)
      let m := m.serviceLog ("Args are:".toList ++ QString.join " ".toList args)
      getOpenvpnArgs ++ match host.platform with
        | .windows => launchProcess host w args m
        | _ => launchDaemon w args m

def getTemplateFinished (reply : TemplateRequest) (bytes : QByteArray) (m : OpenvpnManager) : Trace :=
  if reply.failed then []
  else continueConnecting host w (m.insertTemplate reply.serverKey ⟨bytes, reply⟩)

def command (jObj : QJsonObject) : Trace :=
  if (jObj.value "cmd".toList).toInt = cmdStart then start else []

def deliver (m : OpenvpnManager) : Callback → Trace
  | .command client _ jObj => if m.connections.any (·.id == client) then command jObj else []
  | .templateFinished request bytes =>
    match m.requests.find? (·.id == request) with
    | some reply => getTemplateFinished host w reply bytes (m.takeRequest request)
    | none => []
  | .reconnectTimeout =>
    if 0 < m.reconnectTimers then reconnectTimeout host w m.takeReconnectTimer else []
  | .stateTimer => if m.mStateTimer then checkState host w m else []
  | .logFileChanged content =>
    if m.mFileSystemWatcher then openvpnLogfileChanged host w content m else []
  | .socketReadyRead bytes =>
    match m.mSocket with
    | some socket =>
      let socket := { socket with buffer := socket.buffer ++ bytes }
      socketReadyRead host w socket { m with mSocket := some socket }
    | none => []
  | .processDied wasReleased exitCode crashed =>
    if wasReleased then
      if 0 < m.released then
        processDied host w exitCode crashed { m with released := m.released - 1 }
      else []
    else if m.processLives then
      processDied host w exitCode crashed { m with mProcess := some .notRunning }
    else []
  | _ => []

/-- The trace of an event. -/
def step (m : OpenvpnManager) (e : Event) : Trace :=
  deliver host e.world { m with asked := 0 } e.callback

end Trace
end CeloVpn.Service
