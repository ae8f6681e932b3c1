import CeloVpn.Client.ServerChoice
import CeloVpn.Client.System

/-!
# What makes the desktop client connect

The screens and the tray around the settings, the account and the connection to the
service. A location that is set runs the combo box of the map screen, which may set it
again. A request to connect is made of what the settings and the account hold when it is
sent, whatever made it.
-/
namespace CeloVpn.Client

/-- What an event finds outside: whether the service can be reached and what the
settings hold that are not modelled, the texts of the login window, and what is drawn by
lot. -/
structure Outside where
  surroundings : Surroundings
  eLogin : QString
  ePsw : QString
  hasInsecureWifi : Bool
  /-- `WndManager` is constructed, and its slots are connected. -/
  wndManager : Bool
  /-- Some screen is visible. -/
  visible : Bool
  rand : ℕ
  qrand : ℕ
  order : PingSort
  /-- How often `setServer` may be called inside another call. -/
  depth : ℕ

/-- A user who has typed his name, and a service that is reached at once. -/
def Outside.user : Outside where
  surroundings := .server 0 ""
  eLogin := "user".toList
  ePsw := "secret".toList
  hasInsecureWifi := false
  wndManager := true
  visible := true
  rand := 0
  qrand := 0
  order := .insertion
  depth := 0

/-- The combo boxes of the map screen. The first row of each selects nothing, and the
index is minus one where no row is current. -/
structure MapScreen where
  mServerIds : List ℕ
  rows : ℕ
  locationIndex : ℤ
  protocolIndex : ℤ
  locationEnabled : Bool
  /-- The constructor has connected the signals of the settings. -/
  connected : Bool

/-- A `cmdStart` that was sent, with the servers of the moment and whether one of them
was selected. -/
structure Request where
  object : QJsonObject
  servers : List AServer
  selected : Bool

structure Gui where
  setting : Setting
  account : AuthManager
  manager : VPNServiceManager
  map : Option MapScreen
  /-- The servers of the menu to connect to. -/
  mConnectToMenu : List ℕ
  /-- The connection dialog is constructed. -/
  connectionDialog : Bool
  /-- `Timer_Constructed` has run, and the login window hears of logins. -/
  constructed : Bool
  _ConnectAfterLogin : Bool
  /-- The wifi watcher is on. -/
  _timer_wifi : Bool
  /-- An exception has ended the client. -/
  crashed : Bool
  /-- The location selected last, since the list of servers was loaded, is one of them. -/
  selected : Bool
  /-- Newest first. -/
  requests : List Request

/-- The index is one of the servers. -/
def fits (ixsrv : ℤ) (servers : List AServer) : Bool := decide (-1 < ixsrv ∧ ixsrv < servers.length)

namespace MapScreen

def currentServerId (map : MapScreen) : ℤ :=
  if 0 < map.locationIndex then
    (map.mServerIds[(map.locationIndex - 1).toNat]?.map fun id : ℕ => (id : ℤ)).getD (-1)
  else -1

/-- The row `updateLocation` looks for, the first one where there is none. -/
def rowOf (ixsrv : ℤ) (srvs : List ℕ) : ℕ :=
  if -1 < ixsrv then (srvs.findIdx? fun id : ℕ => (id : ℤ) == ixsrv).elim 0 (· + 1) else 0

end MapScreen

namespace Gui
variable (o : Outside)

def currentEncryptionServers (s : Gui) : List ℕ × Gui :=
  let found := s.account.currentEncryptionServers s.setting
  (found.1, { s with setting := found.2 })

/-- What `Setting::setServer` stores. -/
def storeServer (ixsrv : ℤ) (s : Gui) : Gui :=
  { s with
    setting := s.setting.storeServer ixsrv (s.account.getServer ixsrv).name
    selected := fits ixsrv s.account.mServers }

section MapScreen
variable (setServer : ℤ → Gui → Gui)

/-- `locationComboBox->setCurrentIndex`, and the slot where the index changes. -/
def setCurrentIndex (row : ℤ) (s : Gui) : Gui :=
  match s.map with
  | none => s
  | some map =>
    let row := if 0 ≤ row ∧ row < map.rows then row else -1
    if row = map.locationIndex then s
    else
      let map := { map with locationIndex := row }
      setServer map.currentServerId { s with map := some map }

def updateLocation (s : Gui) : Gui :=
  let found := s.currentEncryptionServers
  if found.1.isEmpty then found.2
  else found.2.setCurrentIndex setServer (MapScreen.rowOf s.setting.serverID found.1)

end MapScreen

/-- `Setting::setServer`, whose signal the map screen receives. -/
def setServer : ℕ → ℤ → Gui → Gui
  | 0, ixsrv, s => s.storeServer ixsrv
  | depth + 1, ixsrv, s =>
    let s := s.storeServer ixsrv
    if s.map.any (·.connected) then s.updateLocation (setServer depth) else s

/-- The row that `repopulateLocations` selects again for a server selected before. -/
def rowToReselect (ixoldsrv : ℤ) (map : MapScreen) (s : Gui) : ℕ × Gui :=
  let oldsrv := (s.account.getServer ixoldsrv).name
  let same := map.mServerIds.findIdx? fun id : ℕ =>
    (id : ℤ) == ixoldsrv && oldsrv == (s.account.getServer id).name
  match same with
  | some new_row => (new_row + 1, s)
  | none =>
    let named := s.account.serverIxFromName oldsrv
    let s := { s with account := named.2 }
    let found :=
      if -1 < named.1 then map.mServerIds.findIdx? fun id : ℕ => (id : ℤ) == named.1 else none
    -- the last row drawn by lot is none
    (found.elim (o.qrand % map.rows + 1) (· + 1), s)

def repopulateLocations (s : Gui) : Gui :=
  match s.map with
  | none => s
  | some map =>
    let oldN := map.rows
    let ixoldsrv := map.currentServerId
    let map := if 1 < oldN then { map with rows := 1, locationIndex := 0 } else map
    let found := s.currentEncryptionServers
    let map := { map with mServerIds := found.1, rows := map.rows + found.1.length }
    let toselect :=
      if 1 < oldN ∧ -1 < ixoldsrv then found.2.rowToReselect o ixoldsrv map else (0, found.2)
    let s := { toselect.2 with map := some map }
    (s.setCurrentIndex (setServer o.depth) toselect.1).updateLocation (setServer o.depth)

/-- `Setting::setProtocol`, whose signal the map screen receives. -/
def setProtocol (ix : ℤ) (s : Gui) : Gui :=
  let set := s.setting.setProtocol ix
  let s := { s with setting := set.1 }
  if set.2 && s.map.any (·.connected) then s.repopulateLocations o else s

/-- `protocolComboBox->setCurrentIndex`, and the slot where the index changes. -/
def setProtocolIndex (row : ℤ) (s : Gui) : Gui :=
  match s.map with
  | none => s
  | some map =>
    let row := if 0 ≤ row ∧ row < Setting.gs_protocols.length + 1 then row else -1
    if row = map.protocolIndex then s
    else
      let map := { map with protocolIndex := row, locationEnabled := decide (0 < row) }
      ({ s with map := some map }).setProtocol o (row - 1)

/-- The constructor of the map screen; the settings' signals are connected at its end. -/
def constructMapScreen (s : Gui) : Gui :=
  let s := { s with
    setting := s.setting.currentEncryptionProtocols.2
    map := some ⟨[], 1, 0, 0, false, false⟩ }
  let s := (s.setProtocolIndex o (s.setting.currentProtocol + 1)).repopulateLocations o
  { s with map := s.map.map fun map => { map with connected := true } }

/-- The constructor of the connection dialog loads the protocol. -/
def constructConnectionDialog (s : Gui) : Gui :=
  if s.connectionDialog then s
  else { s with setting := (s.setting.loadProtocol o.rand).1, connectionDialog := true }

def toPrimary (s : Gui) : Gui := if s.account.mLoggedIn then s.constructConnectionDialog o else s

def toMap (s : Gui) : Gui :=
  if s.account.mLoggedIn && s.map.isNone then s.constructMapScreen o else s

def constructConnectToMenu (s : Gui) : Gui :=
  if !s.setting.mTesting && s.account.mLoggedIn then
    let found := s.currentEncryptionServers
    { found.2 with mConnectToMenu := found.1 }
  else s

/-- `Setting::serverAddress`. -/
def serverAddress (s : Gui) : QString :=
  let ix := s.setting.serverID
  if -1 < ix then (s.account.getServer ix).address else []

/-- What `sendConnectToVPNRequest` and `sendCredentials` read. -/
def surroundings (port : QString) (s : Gui) : Surroundings :=
  { o.surroundings with
    encryption := Setting.encryption
    serverID := s.setting.serverID
    serverAddress := s.serverAddress
    port := port
    template := (s.account.getServer s.setting.serverID).configUrl port.toInt
    tcpOrUdp := s.setting.tcpOrUdp.1
    vpnName := s.account.mVPNLogin
    vpnPassword := s.account.mVPNPassword }

/-- `port()` is asked for once the service is reached, and may throw. -/
def sendConnectToVPNRequest (s : Gui) : Gui :=
  let reached := s.manager.ensureConnected o.surroundings
  match s.setting.port with
  | some port =>
    let t := s.surroundings o port
    { s with
      manager := s.manager.sendConnectToVPNRequest t
      requests :=
        if reached.1 then ⟨VPNServiceManager.startObject t, s.account.mServers, s.selected⟩ :: s.requests
        else s.requests }
  | none =>
    { s with
      manager := ({ s.manager.note (.requested false) with
        mUserRequestedDisconnect := false }.ensureConnected o.surroundings).2
      crashed := reached.1 }

def sendDisconnectFromVPNRequest (s : Gui) : Gui :=
  { s with manager := s.manager.sendDisconnectFromVPNRequest o.surroundings }

/-- The port loop goes on to the next port, the node loop to the next server. -/
def tryNextPort (s : Gui) : Gui :=
  let s :=
    if s.manager.mChangingPorts then s.setProtocol o s.setting.determineNextPort
    else
      let found := s.currentEncryptionServers
      match (found.1.findIdx? fun id : ℕ => (id : ℤ) == s.setting.serverID).bind
          fun which => found.1[which + 1]? with
      | some next => found.2.setServer o.depth next
      | none => found.2
  s.sendConnectToVPNRequest o

def startPortLoop (changePort : Bool) (s : Gui) : Gui :=
  ({ s with manager := { s.manager with
      mChangingPorts := changePort
      mPortDialogShown := false
      mInPortLoop := true } }).tryNextPort o

def portDialogResult (accepted isCyclePort : Bool) (s : Gui) : Gui :=
  let s := { s with manager := { s.manager with portDialog := false } }
  if accepted then s.startPortLoop o isCyclePort else s

/-- `AuthManager::jump`. -/
def jump (s : Gui) : Gui :=
  let srv := s.account.getServerToJump o.order o.rand s.setting.serverID
  if -1 < srv then (s.setServer o.depth srv).sendConnectToVPNRequest o else s

/-- `Setting::loadServer`. -/
def loadServer (s : Gui) : Gui :=
  let found := s.currentEncryptionServers
  let s := found.2
  if found.1.isEmpty then s
  else
    let savedsrv := s.setting.savedServer
    let savedname := s.setting.savedName
    let named : ℤ × AuthManager :=
      if -1 < savedsrv then
        let sr1 := s.account.getServer savedsrv
        if sr1.name ≠ [] ∧ sr1.name = savedname then (savedsrv, s.account)
        else if savedname ≠ "undefined".toList then s.account.serverIxFromName savedname
        else (-1, s.account)
      else (-1, s.account)
    let s := { s with account := named.2 }
    let ixsrv :=
      if named.1 < 0 then s.account.getServerToJump o.order o.rand s.setting.serverID else named.1
    s.setServer o.depth ixsrv

/-- `LoginWindow::loggedIn`. -/
def loggedIn (s : Gui) : Gui :=
  let s := ((s.loadServer o).toPrimary o).constructConnectToMenu
  let s := if s._ConnectAfterLogin then s.sendConnectToVPNRequest o else s
  { s with _ConnectAfterLogin := false }

/-- `AuthManager::loginFinished` and the slots of its signals. The servers are cleared
before others are listed. Where the login window does not listen yet the saved location
stands. -/
def loginFinished (reply : ServersReply) (s : Gui) : Gui :=
  let message := (s.account.processServersXml reply s.setting.mTesting).1
  let account := s.account.loginFinished reply s.setting.mTesting
  let s := { s with account := account, selected := false }
  -- `serverListsLoaded`
  let s := if message.isEmpty then s.constructConnectToMenu else s
  if s.constructed then
    if message.isEmpty then s.loggedIn o else { s with _ConnectAfterLogin := false }
  else { s with selected := fits s.setting.serverID s.account.mServers }

/-- A reply that is pending finishes as it is aborted. -/
def cancel (s : Gui) : Gui :=
  let s := { s with account := { s.account with mCancellingLogin := true } }
  if s.account.replyPending then s.loginFinished o (.error "Operation canceled".toList) else s

/-- `on_loginButton_clicked`. Credentials that do not reach the service raise an error,
for which `WndManager` brings up the primary screen. -/
def loginClicked (s : Gui) : Gui :=
  if s.account.mLoggedIn ∨ o.eLogin = [] then s
  else
    let s := { s with account := s.account.login o.eLogin o.ePsw }
    let t := { o.surroundings with vpnName := o.eLogin, vpnPassword := o.ePsw }
    let reached := (s.manager.ensureConnected t).1
    let s := { s with manager := s.manager.sendCredentials t }
    if reached || !o.wndManager then s else s.toPrimary o

def connectTriggered (s : Gui) : Gui :=
  if s.account.mLoggedIn then s.sendConnectToVPNRequest o else s.loginClicked o

def connectToTriggered (serverId : ℕ) (s : Gui) : Gui :=
  if s.account.mLoggedIn then (s.setServer o.depth serverId).sendConnectToVPNRequest o
  else s.loginClicked o

def logoutTriggered (s : Gui) : Gui :=
  let s := (s.sendDisconnectFromVPNRequest o).cancel o
  let account := { s.account with mLoggedIn := false, mVPNLogin := [], mVPNPassword := [] }
  { s with account := account.emit .logoutCompleted, mConnectToMenu := [] }

/-- `Timer_Constructed`. -/
def timerConstructed (s : Gui) : Gui :=
  if s.constructed then s
  else
    let s := { s with constructed := true }
    let s :=
      if s.setting.cb_AutoConnect then ({ s with _ConnectAfterLogin := true }).loginClicked o else s
    { s with _timer_wifi := s._timer_wifi || s.setting.cb_InsecureWiFi }

def checkWifi (s : Gui) : Gui :=
  if s._timer_wifi && s.manager.mState == VpnState.disconnected.toInt && o.hasInsecureWifi then
    if s.account.mLoggedIn then s.sendConnectToVPNRequest o
    else if s.setting.cb_AutoConnect then ({ s with _ConnectAfterLogin := true }).loginClicked o
    else s
  else s

/-- A notification, and what it makes `WndManager` show. -/
def notified (n : Notification) (s : Gui) : Gui :=
  let code := (n.object.value "code".toList).toInt
  if code = notifyTimeout ∧ s.manager.mInPortLoop then s.tryNextPort o
  else
    let shown := s.manager.mPortDialogShown
    let s := { s with manager := s.manager.notified o.surroundings n.object }
    if !o.wndManager then s
    else if code = notifyTimeout ∧ !shown then s.constructConnectionDialog o
    else if code = notifyError ∨ code = notifyStatusChange ∧
        (n.object.value "state".toList).toInt = VpnState.connecting.toInt ∧ o.visible then
      s.toPrimary o
    else s

end Gui

/-- The event is one of the ping processes. -/
def AuthManager.Event.pings : AuthManager.Event → Bool
  | .pingFinished _ _ => true
  | .pingErrorOccurred _ _ _ => true
  | .timeout _ _ => true
  | _ => false

inductive GuiEvent
  | timerConstructed
  | loginClicked
  | cancelClicked
  | replyFinished (reply : ServersReply)
  | pinged (e : AuthManager.Event) (h : e.pings = true := by rfl)
  /-- The tray shows the primary screen. -/
  | statusTriggered
  /-- The tray or the connection dialog shows the map. -/
  | switchCountryTriggered
  /-- The button of the connection dialog or of the map screen. -/
  | connectClicked
  | cancelConnectionClicked
  | jumpClicked
  | jumpTriggered
  | connectTriggered
  /-- An action of the menu to connect to. -/
  | connectToTriggered (k : ℕ)
  | disconnectTriggered
  | logoutTriggered
  /-- The user selects a row of the map screen. -/
  | protocolChosen (row : ℕ)
  | locationChosen (row : ℕ)
  | portDialogFinished (accepted isCyclePort : Bool)
  | notified (n : Notification)
  | socketDisconnected
  /-- The timer of the wifi watcher. -/
  | checkWifi
  | setAutoconnect (v : Bool)
  | setDetectInsecureWifi (v : Bool)

namespace Gui

/-- One event of the client that still runs. -/
def react (o : Outside) (s : Gui) : GuiEvent → Gui
  | .timerConstructed => s.timerConstructed o
  | .loginClicked => s.loginClicked o
  | .cancelClicked => s.cancel o
  | .replyFinished reply => if s.account.replyPending then s.loginFinished o reply else s
  | .pinged e _ => { s with account := s.account.step e }
  | .statusTriggered => s.toPrimary o
  | .switchCountryTriggered => s.toMap o
  | .connectClicked => s.sendConnectToVPNRequest o
  | .cancelConnectionClicked => s.sendDisconnectFromVPNRequest o
  | .jumpClicked => s.jump o
  | .jumpTriggered => (s.toPrimary o).jump o
  | .connectTriggered => s.connectTriggered o
  | .connectToTriggered k =>
    match s.mConnectToMenu[k]? with
    | some serverId => s.connectToTriggered o serverId
    | none => s
  | .disconnectTriggered => s.sendDisconnectFromVPNRequest o
  | .logoutTriggered => s.logoutTriggered o
  | .protocolChosen row =>
    if row ≤ Setting.gs_protocols.length then s.setProtocolIndex o row else s
  | .locationChosen row =>
    if s.map.any fun map => map.locationEnabled && row < map.rows then
      s.setCurrentIndex (setServer o.depth) row
    else s
  | .portDialogFinished accepted isCyclePort =>
    if s.manager.portDialog then s.portDialogResult o accepted isCyclePort else s
  | .notified n => s.notified o n
  | .socketDisconnected =>
    { s with manager := { s.manager.socketDisconnected with link := none } }
  | .checkWifi => s.checkWifi o
  | .setAutoconnect v => { s with setting := { s.setting with cb_AutoConnect := v } }
  | .setDetectInsecureWifi v =>
    { s with setting := { s.setting with cb_InsecureWiFi := v }, _timer_wifi := v }

def step (s : Gui) (e : Outside × GuiEvent) : Gui := if s.crashed then s else s.react e.1 e.2

/-- The client just started, with what earlier sessions have stored. -/
def initial (stored : Setting) (v : System.Unset) (mPingsLoaded : Bool) : Gui where
  setting := { stored with populated := false, loadingProtocol := false, mTesting := false }
  account := .initial mPingsLoaded
  manager := (System.initial .zero v).manager
  map := none
  mConnectToMenu := []
  connectionDialog := false
  constructed := false
  _ConnectAfterLogin := false
  _timer_wifi := false
  crashed := false
  selected := false
  requests := []

end Gui
end CeloVpn.Client
