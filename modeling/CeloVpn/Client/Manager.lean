import CeloVpn.Common

/-!
# The desktop client's side of the service

`VPNServiceManager` with what its signals are wired to. Every `connect()` of the
client to one of these signals has its entry in the table of receivers, and an
emission runs the receivers and nothing else. Of a receiver the model keeps what
decides which commands are sent; its drawing is left out.
-/
namespace CeloVpn.Client

/-- The signals of `VPNServiceManager`. States and words arrive as numbers. -/
inductive Signal
  | stateChanged (state : ℤ)
  | stateWord (word : ℤ)
  | error (description : QString)
  | serviceUnavailable
  | timedOut
  | gotNewIp (ip : QString)
  | killSwitch
  deriving DecidableEq

/-- The slots of the client that some signal could be wired to. -/
inductive Slot
  | connectionDialogStateChanged
  | connectionDialogStateWordChanged
  | mapScreenStateChanged
  | trayIconManagerStateChanged
  | wndManagerStateChanged
  | wndManagerShowErrorMessage
  | wndManagerShowPortDialog
  | authManagerSetNewIp
  | loginWindowBlockOnDisconnect
  deriving DecidableEq

/-- What each signal is connected to. -/
def receivers : Signal → List Slot
  | .stateChanged _ =>
    [.wndManagerStateChanged, .trayIconManagerStateChanged, .connectionDialogStateChanged,
      .mapScreenStateChanged]
  | .stateWord _ => [.connectionDialogStateWordChanged]
  | .error _ => [.wndManagerShowErrorMessage]
  | .serviceUnavailable => []
  | .timedOut => [.wndManagerShowPortDialog]
  | .gotNewIp _ => [.authManagerSetNewIp]
  | .killSwitch => []

/-- The socket to the service while it carries something: the number the service
gave the connection once it accepted it, and the commands it has not read. -/
structure Link where
  client : Option ℕ
  outgoing : List QJsonObject
  deriving DecidableEq

/-- An entry of the client's history. -/
inductive Act
  /-- `sendConnectToVPNRequest` was called, or `sendDisconnectFromVPNRequest`. -/
  | requested (disconnect : Bool)
  /-- An object was written to the service. -/
  | sent (object : QJsonObject)
  | emitted (signal : Signal)
  deriving DecidableEq

/-- Whether the two attempts of `ensureConnected` reach the service, and what the
settings and the account hold when a command is made of them. -/
structure Surroundings where
  reachesAtOnce : Bool
  reachesLater : Bool
  encryption : ℤ
  serverID : ℤ
  serverAddress : QString
  port : QString
  template : QString
  localPort : QString
  tcpOrUdp : QString
  fixDns : Bool
  dns1 : QString
  dns2 : QString
  defaultDNS1 : QString
  defaultDNS2 : QString
  vpnName : QString
  vpnPassword : QString

/-- `VPNServiceManager`, with the settings and the dialog its slots look at. -/
structure VPNServiceManager where
  mConnected : Bool
  mState : ℤ
  mChangingPorts : Bool
  mInPortLoop : Bool
  mPortDialogShown : Bool
  mUserRequestedDisconnect : Bool
  link : Option Link
  /-- `Setting::blockOnDisconnect()`. -/
  blockOnDisconnect : Bool
  /-- `AuthManager::exists()`. -/
  authManagerExists : Bool
  loggedIn : Bool
  /-- The port dialog is open and its result reaches the connection dialog. -/
  portDialog : Bool
  history : List Act

namespace VPNServiceManager
variable (s : Surroundings)

def note (m : VPNServiceManager) (a : Act) : VPNServiceManager :=
  { m with history := a :: m.history }

/-- `connectToCore`, with the answer of `waitForConnected`. -/
def connectToCore (reaches : Bool) (m : VPNServiceManager) : Bool × VPNServiceManager :=
  if m.link.isSome then (true, m)
  else if reaches then (true, { m with link := some ⟨none, []⟩, mConnected := true })
  else (false, m)

/-- `ensureConnected`: a failed attempt is repeated once. -/
def ensureConnected (m : VPNServiceManager) : Bool × VPNServiceManager :=
  if m.mConnected then (true, m)
  else
    let first := m.connectToCore s.reachesAtOnce
    let m := { first.2 with mConnected := first.1 }
    if m.mConnected then (true, m)
    else
      let second := m.connectToCore s.reachesLater
      (second.1, { second.2 with mConnected := second.1 })

/-- `sendCommand`; what is written to a socket that carries nothing is lost. -/
def sendCommand (object : QJsonObject) (m : VPNServiceManager) : VPNServiceManager :=
  { m.note (.sent object) with
    link := m.link.map fun link => { link with outgoing := link.outgoing ++ [object] } }

/-- Send a command if the service can be reached. -/
def send (object : QJsonObject) (m : VPNServiceManager) : VPNServiceManager :=
  let reached := m.ensureConnected s
  if reached.1 then reached.2.sendCommand object else reached.2

/-- The object of a `cmdStart`. -/
def startObject : QJsonObject :=
  [("cmd".toList, .ofInt cmdStart), ("encryption".toList, .ofInt s.encryption),
    ("serverid".toList, .ofInt s.serverID), ("server".toList, .string s.serverAddress),
    ("port".toList, .string s.port), ("template".toList, .string s.template),
    ("localport".toList, .string s.localPort), ("tcporudp".toList, .string s.tcpOrUdp),
    ("fixDNS".toList, .bool s.fixDns),
    ("dns1".toList, .string (if s.dns1.isEmpty then s.defaultDNS1 else s.dns1)),
    ("dns2".toList, .string (if s.dns2.isEmpty then s.defaultDNS2 else s.dns2))]

def sendConnectToVPNRequest (m : VPNServiceManager) : VPNServiceManager :=
  ({ m.note (.requested false) with mUserRequestedDisconnect := false }).send s (startObject s)

def sendDisconnectFromVPNRequest (m : VPNServiceManager) : VPNServiceManager :=
  ({ m.note (.requested true) with mUserRequestedDisconnect := true }).send s
    [("cmd".toList, .ofInt cmdStop)]

def sendNetdownCommand (m : VPNServiceManager) : VPNServiceManager :=
  m.send s [("cmd".toList, .ofInt cmdNetdown)]

/-- `LoginWindow::BlockOnDisconnect`; `VPNServiceManager::exists()` holds of a manager
that emits. -/
def blockOnDisconnectSlot (m : VPNServiceManager) : VPNServiceManager :=
  let doblock := m.blockOnDisconnect && m.authManagerExists &&
    (!m.loggedIn || m.mState == VpnState.disconnected.toInt)
  if doblock then m.sendNetdownCommand s else m

/-- Run a slot on what the signal carries. -/
def runSlot (signal : Signal) (m : VPNServiceManager) : Slot → VPNServiceManager
  | .wndManagerStateChanged =>
    -- a connection closes the port dialog without asking for its result
    if signal = .stateChanged VpnState.connected.toInt then { m with portDialog := false } else m
  | .wndManagerShowPortDialog => { m with portDialog := true }
  | .loginWindowBlockOnDisconnect => m.blockOnDisconnectSlot s
  | .connectionDialogStateChanged => m
  | .connectionDialogStateWordChanged => m
  | .mapScreenStateChanged => m
  | .trayIconManagerStateChanged => m
  | .wndManagerShowErrorMessage => m
  | .authManagerSetNewIp => m

/-- An emission runs the receivers before it returns. -/
def emit (signal : Signal) (m : VPNServiceManager) : VPNServiceManager :=
  (receivers signal).foldl (runSlot s signal) (m.note (.emitted signal))

-- What the user and the rest of the client call.

def sendCredentials (m : VPNServiceManager) : VPNServiceManager :=
  let reached := m.ensureConnected s
  if reached.1 then
    reached.2.sendCommand [("cmd".toList, .ofInt cmdSetCredentials),
      ("vpnusername".toList, .string s.vpnName), ("vpnpassword".toList, .string s.vpnPassword)]
  else
    reached.2.emit s
      (.error "VPNServiceConnection is not open for method sendCredentials".toList)

/-- `tryNextPort`; the settings of the surroundings are those it switched to. -/
def tryNextPort (m : VPNServiceManager) : VPNServiceManager := m.sendConnectToVPNRequest s

def startPortLoop (changePort : Bool) (m : VPNServiceManager) : VPNServiceManager :=
  ({ m with mChangingPorts := changePort, mPortDialogShown := false, mInPortLoop := true }).tryNextPort s

/-- `ConnectionDialog::portDialogResult`, called when the dialog is closed. -/
def portDialogResult (accepted isCyclePort : Bool) (m : VPNServiceManager) : VPNServiceManager :=
  let m := { m with portDialog := false }
  if accepted then m.startPortLoop s isCyclePort else m

-- What arrives from the service.

/-- The branch of `socket_readyRead` for `notifyStatusChange`. -/
def statusChanged (state : ℤ) (m : VPNServiceManager) : VPNServiceManager :=
  let m := { m with mState := state }
  let m :=
    if state = VpnState.connected.toInt then { m with mInPortLoop := false }
    else if state = VpnState.disconnected.toInt ∧ m.mUserRequestedDisconnect = false then
      m.emit s .killSwitch
    else m
  m.emit s (.stateChanged state)

/-- The branch for `notifyTimeout`. -/
def timedOut (m : VPNServiceManager) : VPNServiceManager :=
  if m.mInPortLoop then m.tryNextPort s
  else if m.mPortDialogShown then m
  else ({ m with mPortDialogShown := true }).emit s .timedOut

/-- One round of the loop of `socket_readyRead`. -/
def notified (object : QJsonObject) (m : VPNServiceManager) : VPNServiceManager :=
  let code := (object.value "code".toList).toInt
  if object.isEmpty then m
  else if code = notifyStatusChange then m.statusChanged s (object.value "state".toList).toInt
  else if code = notifyStatusWord then
    m.emit s (.stateWord (object.value "state".toList).toInt)
  else if code = notifyGotIP then m.emit s (.gotNewIp (object.value "ip".toList).toString)
  else if code = notifyTimeout then m.timedOut s
  else if code = notifyError then m.emit s (.error (object.value "message".toList).toString)
  else m

/-- `socket_disconnected`. -/
def socketDisconnected (m : VPNServiceManager) : VPNServiceManager := { m with mConnected := false }

end VPNServiceManager
end CeloVpn.Client
