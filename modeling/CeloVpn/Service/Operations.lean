import CeloVpn.Service.Manager

/-!
# What every handler is made of

Looking for a running openvpn, attaching and releasing the management socket,
watching the log file, changing the state, stopping, and beginning an attempt up
to the request for its template.
-/
namespace CeloVpn.Service.OpenvpnManager
variable (host : Host) (w : World)

/-- `mProcess` exists and is running or starting. -/
def processLives (m : OpenvpnManager) : Bool :=
  m.mProcess == some .running || m.mProcess == some .starting

/-- `mSocket` exists and is open. -/
def socketIsOpen (m : OpenvpnManager) : Bool := m.mSocket.any (·.isOpen)

/-- The listing of the Linux branch: `ps` through `grep`, its first word a number. -/
def scanLinux (listing : Listing) (m : OpenvpnManager) : Bool × OpenvpnManager :=
  if listing.exitCode = -2 then
    (false, m.serviceLog "openvpnRunning(): -2 the process cannot be started".toList)
  else if listing.exitCode = -1 then
    (false, m.serviceLog "openvpnRunning(): -1 the process crashed".toList)
  else if listing.exitCode = 0 then
    let s3 := listing.output.trimmed
    let s4 := s3.mid 0 (s3.indexOf ' ' 0)
    match s4.toInt? with
    | some pid => (decide (pid > 0), { m with mPID := pid })
    | none => (false, { m with mPID := 0 })
  else if listing.exitCode = 1 ∨ listing.exitCode = 2 then (false, m)
  else (false, m.serviceLog
    ("IsOvRunning(): ps-grep return code = ".toList ++ QString.number listing.exitCode))

/-- The platform's process listing; it can only turn a negative answer into a
positive one. -/
def scanProcesses (running : Bool) (m : OpenvpnManager) : Bool × OpenvpnManager :=
  let listing := w.listing m.asked
  match host.platform with
  | .windows =>
    (running || listing.output.contains "openvpn.exe".toList ||
      listing.output.contains "ovpntray.exe".toList, m.ask)
  | .darwin =>
    (running || (listing.output.trimmed != "0".toList && !listing.output.isEmpty),
      m.ask.serviceLog ("Result of ".toList ++ host.openvpnRunningScriptFilename ++
        " is ".toList ++ listing.output))
  | .linux => if running then (true, m) else scanLinux listing m.ask

def openvpnRunning (m : OpenvpnManager) : Bool × OpenvpnManager :=
  let byProcess := m.processLives
  let bySocket := !byProcess && m.socketIsOpen
  let m := if byProcess then m.serviceLog
    "openvpn is running because we have a QProcess in running or starting state".toList else m
  let m := if bySocket then m.serviceLog
    "openvpn is running because the socket is open".toList else m
  let scan := scanProcesses host w (byProcess || bySocket) m
  (scan.1, (scan.2.serviceLog ("openvpnRunning return value:".toList ++
    if scan.1 then "true".toList else "false".toList)).note (.observed scan.1))

/-- Disconnect the socket's signals, abort it and let it go. -/
def disconnectFromOpenvpnSocket (m : OpenvpnManager) : OpenvpnManager :=
  if m.mSocket.isSome then
    let m := m.serviceLog "disconnecting from openvpn management socket".toList
    ({ m with mSocket := none }).serviceLog
      "done disconnecting from openvpn management socket".toList
  else m

def connectionRefusedError : ℤ := 0
def remoteHostClosedError : ℤ := 1

def socketError (error : ℤ) (m : OpenvpnManager) : OpenvpnManager :=
  if error = remoteHostClosedError then
    (m.serviceLog "Disconnecting from openvpn management because remote closed".toList)
      |>.disconnectFromOpenvpnSocket
  else
    let m := m.serviceLog ("Error connecting to OpenVPN management socket".toList ++
      QString.number error)
    { m with mSocket := none }

/-- Attach a fresh socket. A loopback connection may be refused before
`connectToHost` returns; its error slot then releases the socket again. -/
def connectToOpenvpnSocket (m : OpenvpnManager) : OpenvpnManager :=
  let m := (m.serviceLog "connecting to openvpn management socket".toList)
    |>.disconnectFromOpenvpnSocket
  let m := { m with mSocket := some ⟨true, true, false, []⟩ }
  let m := if w.refused m.asked then (m.ask).socketError connectionRefusedError else m.ask
  m.serviceLog "done connecting to openvpn management socket".toList

def setupFileWatcher (m : OpenvpnManager) : OpenvpnManager :=
  if m.mFileSystemWatcher then m
  else if w.logExists m.asked then
    ({ m.ask with mLogFilePosition := 0, mFileSystemWatcher := true }).serviceLog
      ("Monitoring ".toList ++ host.openvpnLogFilename)
  else m.ask

/-- Let the process object go; one that is alive can still signal. -/
def removeProcess (m : OpenvpnManager) : OpenvpnManager :=
  { m with
    mProcess := none
    released := if m.processLives then m.released + 1 else m.released }

/-- The assignment to `mState`, with the clock reading of the moment. -/
def enter (st : VpnState) (m : OpenvpnManager) : OpenvpnManager :=
  ({ m with mState := st }).ask.note (.entered st (w.clock m.asked))

def deleteStateTimer (m : OpenvpnManager) : OpenvpnManager := { m with mStateTimer := false }

def setState (st : VpnState) (m : OpenvpnManager) : OpenvpnManager :=
  if st ≠ m.mState then
    let m := (m.enter w st).serviceLog ("Set state ".toList ++ QString.number st.toInt)
    match st with
    | .connected => m.emit (.stateChanged .connected)
    | .connecting => m.emit (.stateChanged .connecting)
    | .disconnected => m.deleteStateTimer.emit (.stateChanged .disconnected)
    | .total => m
  else m

/-- `for (cn = 0; cn < n && openvpnRunning(); ++cn) msleep(100);` -/
def waitForEnd : ℕ → OpenvpnManager → OpenvpnManager
  | 0, m => m
  | n + 1, m =>
    let running := m.openvpnRunning host w
    if running.1 then waitForEnd n running.2 else running.2

/-- Ask the attached openvpn to terminate, as far as the socket carries it. -/
def signalTerm (socket : QTcpSocket) (m : OpenvpnManager) : OpenvpnManager :=
  if socket.isOpen && socket.isValid then
    if !socket.connected then
      m.serviceLog "Cannot send signal SIGTERM due to disconnected socket".toList
    else
      (m.serviceLog "signal SIGTERM".toList).writeSocket "signal SIGTERM\nexit\n".toList
  else m

/-- The part of `stop()` taken while openvpn runs. -/
def softStop (m : OpenvpnManager) : OpenvpnManager :=
  let m := match m.mSocket with
    | some socket =>
      ((m.signalTerm socket).disconnectFromOpenvpnSocket).waitForEnd host w 8
    | none => m
  let running := m.removeProcess.openvpnRunning host w
  if running.1 then
    running.2.serviceLog "Stop(): cannot soft stop OpenVPN process".toList
  else running.2

def obfsproxyRunning (m : OpenvpnManager) : Bool × OpenvpnManager :=
  let listing := w.obfsproxyListing m.asked
  match host.platform with
  | .windows =>
    let b := listing.contains "obfsproxy.exe".toList
    (b, if b then m.ask.serviceLog "obfsproxy is running".toList else m.ask)
  | _ =>
    let b := listing.contains "/obfsproxy".toList
    (b, m.ask.serviceLog ("IsObfsRunning result: ".toList ++
      if b then "true".toList else "false".toList))

/-- `stopObfsproxy`. No code sets `mObfsproxy`, so a running one is always killed
by name. -/
def stopObfsproxy (m : OpenvpnManager) : OpenvpnManager :=
  let running := m.obfsproxyRunning host w
  if running.1 then
    let m := running.2.serviceLog "Obfsproxy is running, so stopping it".toList
    match host.platform with
    | .windows => m
    | _ => m.serviceLog "No pointer to obfsproxy process, so killing it".toList
  else running.2

def stop (m : OpenvpnManager) : OpenvpnManager :=
  let running := (m.note .stopped).openvpnRunning host w
  let m := if running.1 then running.2.softStop host w else running.2
  let m := m.disconnectFromOpenvpnSocket.stopObfsproxy host w
  ({ m with mFileSystemWatcher := false }).setState w .disconnected

def cancel (msg : QString) (m : OpenvpnManager) : OpenvpnManager :=
  ((m.stop host w).emit .blockOnDisconnect).emit (.sendError msg)

def showErrorMessageCleanup (msg : QString) (m : OpenvpnManager) : OpenvpnManager :=
  ((m.disconnectFromOpenvpnSocket.removeProcess).setState w .disconnected).emit (.sendError msg)

/-- What `enableTap` logs for one adapter. -/
def enableTapOne (m : OpenvpnManager) (p : Adapter) : OpenvpnManager :=
  if p.description.indexOfText "TAP-Windows".toList 0 > -1 then
    let wa := "interface set interface name=\"".toList ++ p.friendlyName ++
      "\" admin=enabled".toList
    let m := m.serviceLog
      ("ShellExecute '".toList ++ "netsh".toList ++ "' , Args: '".toList ++ wa ++ "'".toList)
    if p.shellResult ≤ 32 then
      m.serviceLog ("Cannot ShellExecute hi = ".toList ++ QString.number p.shellResult ++
        " err code = ".toList ++ QString.number p.lastError)
    else m.serviceLog "ShellExecute OK".toList
  else m

/-- `enableTap`, compiled for Windows only. -/
def enableTap (m : OpenvpnManager) : OpenvpnManager :=
  match w.adapters with
  | .unavailable => m
  | .failed code =>
    m.serviceLog ("Cannot enumerate adapters, error code: ".toList ++ QString.number code)
  | .listed adapters => adapters.foldl enableTapOne m

/-- The requests in flight whose reply can still succeed. -/
def openRequests (m : OpenvpnManager) : List TemplateRequest := m.requests.filter (!·.failed)

/-- Request the template; the request is in flight from here on. -/
def getTemplate (m : OpenvpnManager) : OpenvpnManager :=
  let url := host.urlFromUserInput m.mTemplateUrl
  let m := m.serviceLog ("Fetching config from url ".toList ++ url ++
    " into serverKey ".toList ++ QString.number m.currentKey)
  { m with
    requests := m.requests ++ [⟨m.nextRequest, m.currentKey, url, m.starts, false⟩]
    nextRequest := m.nextRequest + 1
    history := .requested m.openRequests.length :: m.history }

def startConnecting (m : OpenvpnManager) : OpenvpnManager :=
  let m := m.setState w .connecting
  let m := match host.platform with
    | .windows => m.enableTap w
    | _ => m
  ({ m with mTunError := false, mError := false, mProcessing := false }).getTemplate host

/-- The arguments of `start()`. -/
structure Attempt where
  encryption : ℤ
  serverId : ℤ
  server : QString
  port : QString
  templateUrl : QString
  localPort : QString
  tcpOrUdp : QString
  fixDNS : Bool
  dns1 : QString
  dns2 : QString

/-- The assignments of `start()` between its `stop()` and its `startConnecting()`. -/
def takeAttempt (a : Attempt) (m : OpenvpnManager) : OpenvpnManager :=
  { m with
    mEncryption := a.encryption
    mServerId := a.serverId
    mHostname := a.server
    mPort := a.port
    mTemplateUrl := a.templateUrl
    mLocalPort := a.localPort
    mTcpOrUdp := a.tcpOrUdp
    mFixDNS := a.fixDNS
    mDNS1 := a.dns1
    mDNS2 := a.dns2
    starts := m.starts + 1 }

def start (a : Attempt) (m : OpenvpnManager) : OpenvpnManager :=
  ((({ m with mReconnectAttempt := 0 }).stop host w).takeAttempt a).startConnecting host w

def startTimer (m : OpenvpnManager) : OpenvpnManager := { m with mStateTimer := true }

def startReconnectTimer (m : OpenvpnManager) : OpenvpnManager :=
  { m with reconnectTimers := m.reconnectTimers + 1 }

/-- `reconnectTimeout`, called once an armed single shot has fired. -/
def reconnectTimeout (m : OpenvpnManager) : OpenvpnManager :=
  let m := { m with mReconnectAttempt := m.mReconnectAttempt + 1 }
  let running := m.openvpnRunning host w
  let m := running.2
  if running.1 then
    if m.mReconnectAttempt < 3 then m.startReconnectTimer
    else (m.stop host w).startConnecting host w
  else m.startConnecting host w

/-- `killRunningOpenvpn`. The kill commands it may end with act on other
processes only. -/
def killRunningOpenvpn (m : OpenvpnManager) : OpenvpnManager :=
  let m := m.serviceLog "KillRunningOV() enter".toList
  let running := m.openvpnRunning host w
  let m := running.2
  let m := if running.1 then
      ((m.connectToOpenvpnSocket w).stop host w |>.openvpnRunning host w).2
    else m
  m.serviceLog "KillRunningOV() exit".toList

/-- What `netDown` does with one adapter on Windows. -/
def netDownOne (down : Bool) (m : OpenvpnManager) (p : Adapter) : OpenvpnManager :=
  let skips (t : String) := p.description.indexOfText t.toList 0 > -1
  if skips "TAP-Windows" ∨ skips "WAN Miniport" ∨ skips "Kernel Debug" ∨ skips "ISATAP" ∨
      skips "Tunelling" ∨ p.friendlyName.indexOfText "isatap".toList 0 > -1 then m
  else
    let wa := "interface set interface name=\"".toList ++ p.friendlyName ++
      if down then "\" admin=disable".toList else "\" admin=enable".toList
    let m := m.serviceLog
      ("ShellExecute '".toList ++ "netsh".toList ++ "' , Args: '".toList ++ wa ++ "'".toList)
    if p.shellResult ≤ 32 then
      m.serviceLog ("Cannot ShellExecute hi = ".toList ++ QString.number p.shellResult ++
        " err code = ".toList ++ QString.number p.lastError)
    else { m.serviceLog "ShellExecute OK".toList with mNetDown := true }

def netDown (down : Bool) (m : OpenvpnManager) : OpenvpnManager :=
  match host.platform with
  | .windows => match w.adapters with
    | .unavailable => m
    | .failed code =>
      m.serviceLog ("Cannot enumerate adapters, error code: ".toList ++ QString.number code)
    | .listed adapters => adapters.foldl (netDownOne down) m
  | _ =>
    if down then match w.rightsFailure with
      | some what => m.serviceLog what
      | none =>
        let m := { m.serviceLog "NetDown()".toList with mNetDown := true }
        if w.netDownOutput.isEmpty then m else m.serviceLog w.netDownOutput
    else m

def setVPNCredentials (username password : QString) (m : OpenvpnManager) : OpenvpnManager :=
  { m with mVPNUsername := username, mVPNPassword := password }

end CeloVpn.Service.OpenvpnManager
