import CeloVpn.Client.Gui
import CeloVpn.Client.PortLoop
import CeloVpn.Client.ServerLists

/-!
# What an event of the client preserves

The location, the servers with their indices, the combo boxes and the requests are the
core of the client; the rest of it is left aside. What holds of the core alone and is
preserved by the few functions that change it is preserved by every event.
-/
namespace CeloVpn.Client
open Runs

/-- The object of a start that was sent. -/
def Act.start? : Act → Option QJsonObject
  | .sent object => if (object.value "cmd".toList).toInt = cmdStart then some object else none
  | _ => none

namespace VPNServiceManager
variable (t : Surroundings) (m : VPNServiceManager)

theorem startObject_values :
    (startObject t).value "cmd".toList = .ofInt cmdStart ∧
    (startObject t).value "serverid".toList = .ofInt t.serverID ∧
    (startObject t).value "server".toList = .string t.serverAddress ∧
    (startObject t).value "port".toList = .string t.port ∧
    (startObject t).value "template".toList = .string t.template := by
  simp [startObject, QJsonObject.value, List.lookup_cons]

/-- The `cmdStart` objects the manager has sent, newest first. -/
def starts (m : VPNServiceManager) : List QJsonObject := m.history.filterMap Act.start?

theorem starts_sendConnectToVPNRequest : (m.sendConnectToVPNRequest t).starts =
    (if (m.ensureConnected t).1 then [startObject t] else []) ++ m.starts := by
  have hstart : Act.start? (.sent (startObject t)) = some (startObject t) := by
    rw [Act.start?, (startObject_values t).1]
    exact if_pos (by decide)
  rw [starts, sendConnectToVPNRequest_history, ← ensureConnected_eq_reaches]
  split_ifs
  · exact List.filterMap_cons_some hstart
  · rfl

theorem starts_send {object : QJsonObject} (h : (object.value "cmd".toList).toInt ≠ cmdStart) :
    (m.send t object).starts = m.starts := by
  rcases send_history t m object with hkept | hsends
  · rw [starts, hkept]
    rfl
  · rw [starts, hsends]
    exact List.filterMap_cons_none (if_neg h)

@[simp] theorem starts_sendDisconnectFromVPNRequest :
    (m.sendDisconnectFromVPNRequest t).starts = m.starts := by
  refine starts_send t _ ?_
  simp [QJsonObject.value]
  decide

@[simp] theorem starts_emit (signal : Signal) : (m.emit t signal).starts = m.starts := by
  rw [starts, emit_history]
  rfl

@[simp] theorem starts_ensureConnected : (m.ensureConnected t).2.starts = m.starts := by
  rw [starts, ensureConnected_history]
  rfl

@[simp] theorem starts_sendCredentials : (m.sendCredentials t).starts = m.starts := by
  have hno : Act.start? (.sent [("cmd".toList, .ofInt cmdSetCredentials),
      ("vpnusername".toList, .string t.vpnName), ("vpnpassword".toList, .string t.vpnPassword)]) =
      none := by
    simp only [Act.start?, QJsonObject.value, List.lookup_cons_self, Option.getD_some]
    exact if_neg (by decide)
  unfold sendCredentials
  dsimp only
  split_ifs
  · exact (List.filterMap_cons_none hno).trans (starts_ensureConnected t m)
  · rw [starts_emit, starts_ensureConnected]

/-- Only a timeout inside the port loop sends a start. -/
theorem starts_notified {object : QJsonObject}
    (h : ¬((object.value "code".toList).toInt = notifyTimeout ∧ m.mInPortLoop = true)) :
    (m.notified t object).starts = m.starts := by
  unfold notified statusChanged timedOut
  dsimp only
  split_ifs with hempty hstatus hconnected hdisconnected hword hip htimeout hloop hshown
  · rfl
  · exact starts_emit t _ _
  · rw [starts_emit, starts_emit]
    rfl
  · exact starts_emit t _ _
  · exact starts_emit t m _
  · exact starts_emit t m _
  · exact absurd ⟨htimeout, hloop⟩ h
  · rfl
  · exact starts_emit t _ _
  · exact starts_emit t m _
  · rfl

end VPNServiceManager

namespace AuthManager

theorem servers_loginFinished (reply : ServersReply) (testing : Bool) (m : AuthManager) :
    (m.loginFinished reply testing).mServers = reply.servers :=
  (congrArg Lists.mServers (m.lists_loginFinished reply testing)).trans (List.nil_append _)

/-- Servers are listed with their indices. -/
theorem ids_ne_nil_of_loginFinished (reply : ServersReply) (testing : Bool) (m : AuthManager) :
    ∀ ids ∈ (m.loginFinished reply testing).lists.ids, ids = [] →
      (m.loginFinished reply testing).mServers = [] := by
  rw [servers_loginFinished, m.lists_loginFinished, Lists.ids_replace, List.forall_mem_map]
  intro ids _ hempty
  have hlength := List.range_eq_nil.mp (List.append_eq_nil_iff.mp hempty).2
  exact List.eq_nil_of_length_eq_zero hlength

theorem servers_eq_nil_of_message (m : AuthManager) {reply : ServersReply} {testing : Bool}
    (h : (m.processServersXml reply testing).1 ≠ []) : reply.servers = [] := by
  cases reply with
  | document nodes =>
    cases nodes with
    | nil => rfl
    | cons se nodes => exact absurd rfl h
  | _ => rfl

end AuthManager

namespace Gui
variable {o : Outside} {s : Gui}

/-- What the locations and the requests are made of. -/
structure Core where
  serverID : ℤ
  lists : Lists
  map : Option MapScreen
  requests : List Request
  selected : Bool
  starts : List QJsonObject

def core (s : Gui) : Core :=
  ⟨s.setting.serverID, s.account.lists, s.map, s.requests, s.selected, s.manager.starts⟩

theorem core_setting {setting : Setting} (h : setting.serverID = s.setting.serverID) :
    ({ s with setting := setting } : Gui).core = s.core := by
  unfold core
  rw [h]

theorem core_account {account : AuthManager} (h : account.lists = s.account.lists) :
    ({ s with account := account } : Gui).core = s.core := by
  unfold core
  rw [h]

theorem core_manager {manager : VPNServiceManager} (h : manager.starts = s.manager.starts) :
    ({ s with manager := manager } : Gui).core = s.core := by
  unfold core
  rw [h]

theorem core_currentEncryptionServers (s : Gui) : s.currentEncryptionServers.2.core = s.core :=
  core_setting s.setting.serverID_tcpOrUdp

theorem core_serverIxFromName (name : QString) (s : Gui) :
    ({ s with account := (s.account.serverIxFromName name).2 } : Gui).core = s.core := by
  refine core_account ?_
  unfold AuthManager.serverIxFromName
  dsimp only
  split_ifs <;> rfl

theorem core_rowToReselect (o : Outside) (ixoldsrv : ℤ) (map : MapScreen) (s : Gui) :
    (s.rowToReselect o ixoldsrv map).2.core = s.core := by
  unfold rowToReselect
  dsimp only
  split
  · rfl
  · exact core_serverIxFromName _ s

theorem core_constructConnectionDialog (o : Outside) (s : Gui) :
    (s.constructConnectionDialog o).core = s.core := by
  unfold constructConnectionDialog
  split
  · rfl
  · rw [Setting.loadProtocol_eq]
    exact core_setting rfl

theorem core_toPrimary (o : Outside) (s : Gui) : (s.toPrimary o).core = s.core := by
  unfold toPrimary
  split
  · exact core_constructConnectionDialog o s
  · rfl

theorem core_constructConnectToMenu (s : Gui) : s.constructConnectToMenu.core = s.core := by
  unfold constructConnectToMenu
  split
  · exact core_currentEncryptionServers s
  · rfl

theorem core_sendDisconnectFromVPNRequest (o : Outside) (s : Gui) :
    (s.sendDisconnectFromVPNRequest o).core = s.core :=
  core_manager (VPNServiceManager.starts_sendDisconnectFromVPNRequest o.surroundings s.manager)

/-- A ping leaves the servers alone. -/
theorem core_pinged {e : AuthManager.Event} (h : e.pings = true) (s : Gui) :
    ({ s with account := s.account.step e } : Gui).core = s.core := by
  refine core_account ?_
  rw [AuthManager.lists_step]
  cases e with
  | pingFinished id p => rfl
  | pingErrorOccurred id ends p => rfl
  | timeout id p => rfl
  | _ => cases h

/-- The client with the servers of a reply. -/
def received (reply : ServersReply) (selected : Bool) (s : Gui) : Gui :=
  { s with
    account := s.account.loginFinished reply s.setting.mTesting
    selected := selected }

/-- The location is compared with the servers. -/
theorem core_selected {t : Gui} (h : t.core = s.core) :
    ({ t with selected := fits t.setting.serverID t.account.mServers } : Gui).core =
      ({ s with selected := fits s.setting.serverID s.account.mServers } : Gui).core := by
  obtain ⟨hserverID, hlists, hmap, hrequests, -, hstarts⟩ := Core.mk.inj h
  have hservers : t.account.mServers = s.account.mServers := congrArg Lists.mServers hlists
  unfold core
  rw [hserverID, hlists, hmap, hrequests, hstarts, hservers]

/-- What a reply leads to: a login, nothing more than that the servers are gone, or a
list that the login window does not hear of. -/
theorem loginFinished_cases (o : Outside) (reply : ServersReply) (s : Gui) :
    (∃ t : Gui, t.core = (s.received reply false).core ∧ s.loginFinished o reply = t.loggedIn o) ∨
    ((s.loginFinished o reply).core = (s.received reply false).core ∧ reply.servers = []) ∨
    (s.loginFinished o reply).core =
      (s.received reply (fits s.setting.serverID reply.servers)).core := by
  have hservers := AuthManager.servers_loginFinished reply s.setting.mTesting s.account
  have hselected {t : Gui} (ht : t.core = (s.received reply false).core) :
      ({ t with selected := fits t.setting.serverID t.account.mServers } : Gui).core =
        (s.received reply (fits s.setting.serverID reply.servers)).core := by
    rw [core_selected ht, ← hservers]
    rfl
  have hmenu := core_constructConnectToMenu (s.received reply false)
  unfold Gui.loginFinished
  dsimp only
  by_cases hmessage : (s.account.processServersXml reply s.setting.mTesting).1.isEmpty = true
  · simp only [if_pos hmessage]
    split
    · exact .inl ⟨_, hmenu, rfl⟩
    · exact .inr (.inr (hselected hmenu))
  · simp only [if_neg hmessage]
    split
    · refine .inr (.inl ⟨rfl, ?_⟩)
      exact AuthManager.servers_eq_nil_of_message s.account (mt List.isEmpty_iff.mpr hmessage)
    · exact .inr (.inr (hselected rfl))

/-- What follows once the location is loaded. -/
theorem of_loadServer {P : Gui → Prop} (hcore : ∀ {s t : Gui}, P s → t.core = s.core → P t)
    (hsend : ∀ {s : Gui}, P s → P (s.sendConnectToVPNRequest o)) (h : P (s.loadServer o)) :
    P (s.loggedIn o) := by
  have hready := hcore h ((core_constructConnectToMenu _).trans (core_toPrimary o _))
  unfold Gui.loggedIn
  dsimp only
  split
  · exact hcore (hsend hready) rfl
  · exact hcore hready rfl

/-- A property of the core that the functions which change it preserve, in the
surroundings that are admitted. -/
structure Preserved (D : Outside → Prop) (P : Gui → Prop) : Prop where
  core {s t : Gui} : P s → t.core = s.core → P t
  setServer {o : Outside} (ixsrv : ℤ) {s : Gui} : D o → P s → P (s.setServer o.depth ixsrv)
  setProtocol {o : Outside} (ix : ℤ) {s : Gui} : D o → P s → P (s.setProtocol o ix)
  setProtocolIndex {o : Outside} (row : ℤ) {s : Gui} : D o → P s → P (s.setProtocolIndex o row)
  /-- The user selects a row there is. -/
  setCurrentIndex {o : Outside} {row : ℕ} {s : Gui} : D o → P s →
    (∀ map ∈ s.map, row < map.rows) → P (s.setCurrentIndex (Gui.setServer o.depth) row)
  constructMapScreen {o : Outside} {s : Gui} : D o → P s → s.map = none → P (s.constructMapScreen o)
  sendConnectToVPNRequest {o : Outside} {s : Gui} : D o → P s → P (s.sendConnectToVPNRequest o)
  loginFinished {o : Outside} (reply : ServersReply) {s : Gui} : D o → P s →
    P (s.loginFinished o reply)

namespace Preserved
variable {D : Outside → Prop} {P : Gui → Prop} (hP : Preserved D P)
include hP

theorem tryNextPort (ho : D o) (h : P s) : P (s.tryNextPort o) := by
  unfold Gui.tryNextPort
  dsimp only
  refine hP.sendConnectToVPNRequest ho ?_
  split_ifs
  · exact hP.setProtocol _ ho h
  · have hfound := hP.core h (core_currentEncryptionServers s)
    split
    · exact hP.setServer _ ho hfound
    · exact hfound

theorem startPortLoop (changePort : Bool) (ho : D o) (h : P s) : P (s.startPortLoop o changePort) :=
  hP.tryNextPort ho (hP.core h rfl)

theorem portDialogResult (accepted isCyclePort : Bool) (ho : D o) (h : P s) :
    P (s.portDialogResult o accepted isCyclePort) := by
  have hclosed := hP.core (t := { s with manager := { s.manager with portDialog := false } }) h rfl
  cases accepted with
  | true => exact hP.startPortLoop isCyclePort ho hclosed
  | false => exact hclosed

theorem jump (ho : D o) (h : P s) : P (s.jump o) := by
  unfold Gui.jump
  dsimp only
  split_ifs
  · exact hP.sendConnectToVPNRequest ho (hP.setServer _ ho h)
  · exact h

theorem toMap (ho : D o) (h : P s) : P (s.toMap o) := by
  unfold Gui.toMap
  split_ifs with hmap
  · rw [Bool.and_eq_true, Option.isNone_iff_eq_none] at hmap
    exact hP.constructMapScreen ho h hmap.2
  · exact h

theorem cancel (ho : D o) (h : P s) : P (s.cancel o) := by
  have hcancelling := hP.core (t := { s with account := { s.account with mCancellingLogin := true } })
    h rfl
  unfold Gui.cancel
  dsimp only
  split
  · exact hP.loginFinished _ ho hcancelling
  · exact hcancelling

theorem loginClicked (h : P s) : P (s.loginClicked o) := by
  unfold Gui.loginClicked
  dsimp only
  split
  · exact h
  · have hlogin := hP.core (t := { s with account := s.account.login o.eLogin o.ePsw }) h rfl
    have hsent := hP.core hlogin (core_manager (VPNServiceManager.starts_sendCredentials
      { o.surroundings with vpnName := o.eLogin, vpnPassword := o.ePsw } s.manager))
    split
    · exact hsent
    · exact hP.core hsent (core_toPrimary o _)

theorem connectTriggered (ho : D o) (h : P s) : P (s.connectTriggered o) := by
  unfold Gui.connectTriggered
  split
  · exact hP.sendConnectToVPNRequest ho h
  · exact hP.loginClicked h

theorem connectToTriggered (serverId : ℕ) (ho : D o) (h : P s) :
    P (s.connectToTriggered o serverId) := by
  unfold Gui.connectToTriggered
  split
  · exact hP.sendConnectToVPNRequest ho (hP.setServer _ ho h)
  · exact hP.loginClicked h

theorem logoutTriggered (ho : D o) (h : P s) : P (s.logoutTriggered o) :=
  hP.core (hP.cancel ho (hP.core h (core_sendDisconnectFromVPNRequest o s))) rfl

theorem timerConstructed (h : P s) : P (s.timerConstructed o) := by
  unfold Gui.timerConstructed
  split
  · exact h
  · dsimp only
    split
    · exact hP.core (hP.loginClicked (hP.core
        (t := { s with constructed := true, _ConnectAfterLogin := true }) h rfl)) rfl
    · exact hP.core h rfl

theorem checkWifi (ho : D o) (h : P s) : P (s.checkWifi o) := by
  unfold Gui.checkWifi
  split_ifs
  · exact hP.sendConnectToVPNRequest ho h
  · exact hP.loginClicked (hP.core (t := { s with _ConnectAfterLogin := true }) h rfl)
  · exact h
  · exact h

theorem notified (n : Notification) (ho : D o) (h : P s) : P (s.notified o n) := by
  unfold Gui.notified
  dsimp only
  split
  · exact hP.tryNextPort ho h
  · next hloop =>
    have hnotified := hP.core h
      (core_manager (VPNServiceManager.starts_notified o.surroundings s.manager hloop))
    split_ifs
    · exact hnotified
    · exact hP.core hnotified (core_constructConnectionDialog o _)
    · exact hP.core hnotified (core_toPrimary o _)
    · exact hnotified

theorem react (e : GuiEvent) (ho : D o) (h : P s) : P (s.react o e) := by
  cases e with
  | timerConstructed => exact hP.timerConstructed h
  | loginClicked => exact hP.loginClicked h
  | cancelClicked => exact hP.cancel ho h
  | replyFinished reply =>
    dsimp only [Gui.react]
    split
    · exact hP.loginFinished reply ho h
    · exact h
  | pinged e hpings => exact hP.core h (core_pinged hpings s)
  | statusTriggered => exact hP.core h (core_toPrimary o s)
  | switchCountryTriggered => exact hP.toMap ho h
  | connectClicked => exact hP.sendConnectToVPNRequest ho h
  | cancelConnectionClicked => exact hP.core h (core_sendDisconnectFromVPNRequest o s)
  | jumpClicked => exact hP.jump ho h
  | jumpTriggered => exact hP.jump ho (hP.core h (core_toPrimary o s))
  | connectTriggered => exact hP.connectTriggered ho h
  | connectToTriggered k =>
    dsimp only [Gui.react]
    split
    · exact hP.connectToTriggered _ ho h
    · exact h
  | disconnectTriggered => exact hP.core h (core_sendDisconnectFromVPNRequest o s)
  | logoutTriggered => exact hP.logoutTriggered ho h
  | protocolChosen row =>
    dsimp only [Gui.react]
    split
    · exact hP.setProtocolIndex row ho h
    · exact h
  | locationChosen row =>
    dsimp only [Gui.react]
    split
    · next hrow =>
      refine hP.setCurrentIndex ho h fun map hmap => ?_
      rw [hmap, Option.any_some, Bool.and_eq_true, decide_eq_true_iff] at hrow
      exact hrow.2
    · exact h
  | portDialogFinished accepted isCyclePort =>
    dsimp only [Gui.react]
    split
    · exact hP.portDialogResult accepted isCyclePort ho h
    · exact h
  | notified n => exact hP.notified n ho h
  | socketDisconnected => exact hP.core h rfl
  | checkWifi => exact hP.checkWifi ho h
  | setAutoconnect v => exact hP.core h rfl
  | setDetectInsecureWifi v => exact hP.core h rfl

theorem step {e : Outside × GuiEvent} (ho : D e.1) (h : P s) : P (s.step e) := by
  unfold Gui.step
  split
  · exact h
  · exact hP.react e.2 ho h

/-- It holds at the end of every run that it holds at the beginning of. -/
theorem run {es : List (Outside × GuiEvent)} (hD : ∀ e ∈ es, D e.1) (h : P s) :
    P (Runs.run Gui.step s es) :=
  run_of_meets (C := fun _ e => D e.1) (fun _ _ he hs => hP.step he hs) h
    (meets_iff_forall.mpr hD)

end Preserved
end Gui
end CeloVpn.Client
