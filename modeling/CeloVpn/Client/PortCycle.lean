import CeloVpn.Client.Closure
import CeloVpn.Client.Protocols
import CeloVpn.Library.Rotation

/-!
# Whether the port loop tries every port

The next port of the last one is the first, other than in the loop over the servers. What
else happens to the client between two timeouts leaves the protocol alone, unless the user
selects another one: so as many tries as there are rows in the table are tries of all of
them, wherever they begin and whatever server is selected meanwhile.
-/
namespace CeloVpn.Client
open Runs

namespace Setting

/-- The protocol of this row is selected, in a table that is filled. -/
def Selects (row : ℕ) (s : Setting) : Prop :=
  s.currentProtocol = row ∧ row < gs_protocols.length ∧ s.loadingProtocol = false ∧
    s.populated = true

variable {row : ℕ} {s : Setting}

theorem protocolName_of_populated (h : s.populated = true) (ix : ℤ) :
    (s.protocolName ix).2 = s := by
  have hfilled : ({ s with populated := true } : Setting) = s := by
    rw [← h]
  unfold protocolName
  dsimp only
  split_ifs
  · exact hfilled
  · exact hfilled
  · rfl

theorem Selects.tcpOrUdp (h : s.Selects row) : s.tcpOrUdp.2 = s :=
  protocolName_of_populated h.2.2.2 s.currentProtocol

/-- A row that is selected fills the table. -/
theorem selects_setProtocol (h : s.loadingProtocol = false) (hrow : row < gs_protocols.length) :
    (s.setProtocol row).1.Selects row := by
  have hlower : (-1 : ℤ) < row := by omega
  unfold setProtocol protocolName
  rw [if_neg (by rw [h]; exact Bool.false_ne_true)]
  dsimp only
  rw [if_pos hlower]
  split_ifs <;> exact ⟨rfl, hrow, h, rfl⟩

theorem Selects.determineNextPort (h : s.Selects row) :
    s.determineNextPort = (Rotation.next gs_protocols.length row : ℕ) := by
  have hports : s.mPorts.length = gs_protocols.length := by
    rw [mPorts, if_pos h.2.2.2]
    rfl
  unfold Setting.determineNextPort Rotation.next
  dsimp only
  rw [hports, h.1]
  split_ifs <;> omega

/-- The port of a row, and its transport, are what a request takes from the settings. -/
theorem Selects.describes (h : s.Selects row) :
    s.port = (gs_ports[row]?).map QString.number ∧
      s.tcpOrUdp.1 = transport (gs_protocols.getD row []) := by
  obtain ⟨hcurrent, hrow, -, hpopulated⟩ := h
  have hupper : (row : ℤ) < gs_protocols.length := by exact_mod_cast hrow
  constructor
  · unfold port mPorts
    dsimp only
    rw [if_pos hpopulated, hcurrent, if_pos ⟨by omega, hupper⟩, Int.toNat_natCast]
  · rw [tcpOrUdp_fst, hcurrent, protocolName, if_pos (by omega)]
    dsimp only
    rw [if_pos (by exact hupper), Int.toNat_natCast]
    rfl

end Setting

/-- The request is for the port of a row and for its transport. -/
def Request.Describes (row : ℕ) (q : Request) : Prop :=
  ∃ port, Setting.gs_ports[row]? = some port ∧
    q.object.value "port".toList = .string (QString.number port) ∧
    q.object.value "tcporudp".toList =
      .string (Setting.transport (Setting.gs_protocols.getD row []))

namespace VPNServiceManager
variable (t : Surroundings) (m : VPNServiceManager)

theorem startObject_port : (startObject t).value "port".toList = .string t.port ∧
    (startObject t).value "tcporudp".toList = .string t.tcpOrUdp := by
  simp [startObject, QJsonObject.value, List.lookup_cons]

variable {t} in
theorem ensureConnected_of_reachesAtOnce (h : t.reachesAtOnce = true) :
    (m.ensureConnected t).1 = true := by
  have hcore : (m.connectToCore t.reachesAtOnce).1 = true := by
    unfold connectToCore
    split_ifs
    · rfl
    · rfl
  unfold ensureConnected
  dsimp only
  rw [hcore]
  split_ifs with hconnected hfirst
  · rfl
  · rfl
  · exact absurd rfl hfirst

theorem mChangingPorts_ensureConnected :
    (m.ensureConnected t).2.mChangingPorts = m.mChangingPorts := by
  have hcore : ∀ (m : VPNServiceManager) reaches,
      (m.connectToCore reaches).2.mChangingPorts = m.mChangingPorts := by
    intro m reaches
    unfold connectToCore
    split_ifs <;> rfl
  unfold ensureConnected
  dsimp only
  split_ifs
  · rfl
  · exact hcore m _
  · exact (hcore _ _).trans (hcore m _)

theorem mChangingPorts_send (object : QJsonObject) :
    (m.send t object).mChangingPorts = m.mChangingPorts := by
  unfold send
  dsimp only
  split_ifs <;> exact mChangingPorts_ensureConnected t m

theorem mChangingPorts_emit (signal : Signal) :
    (m.emit t signal).mChangingPorts = m.mChangingPorts := by
  cases signal with
  | stateChanged state =>
    change (runSlot t (.stateChanged state) (m.note (.emitted (.stateChanged state)))
      .wndManagerStateChanged).mChangingPorts = _
    unfold runSlot
    split_ifs <;> rfl
  | _ => rfl

theorem mChangingPorts_sendCredentials :
    (m.sendCredentials t).mChangingPorts = m.mChangingPorts := by
  unfold sendCredentials
  dsimp only
  split_ifs
  · exact mChangingPorts_ensureConnected t m
  · rw [mChangingPorts_emit, mChangingPorts_ensureConnected]

theorem mChangingPorts_notified (object : QJsonObject) :
    (m.notified t object).mChangingPorts = m.mChangingPorts := by
  unfold notified statusChanged timedOut
  dsimp only
  split_ifs
  · rfl
  · exact mChangingPorts_emit t _ _
  · rw [mChangingPorts_emit, mChangingPorts_emit]
  · exact mChangingPorts_emit t _ _
  · exact mChangingPorts_emit t m _
  · exact mChangingPorts_emit t m _
  · exact mChangingPorts_send t _ _
  · rfl
  · exact mChangingPorts_emit t _ _
  · exact mChangingPorts_emit t m _
  · rfl

end VPNServiceManager

namespace Gui
variable {o : Outside} {s : Gui}

/-- `_loading_protocol` is not set between events. -/
def Unlocked (s : Gui) : Prop := s.setting.loadingProtocol = false

theorem steady_unlocked : Steady o Unlocked where
  congr h hsetting _ _ _ := (congrArg Setting.loadingProtocol hsetting).trans h
  filled {s} h := by
    change (s.setting.protocolName _).2.loadingProtocol = false
    unfold Setting.protocolName
    dsimp only
    split_ifs <;> exact h
  storeServer _ _ h := h
  constructConnectionDialog h := by
    unfold constructConnectionDialog
    split
    · exact h
    · rfl
  sendConnectToVPNRequest h := by
    unfold Gui.sendConnectToVPNRequest
    dsimp only
    split <;> exact h
  sendDisconnectFromVPNRequest h := h
  sendCredentials h := h
  kept h hloading _ _ := hloading.trans h
  storeProtocol ix s h := by
    change (s.setting.setProtocol ix).1.loadingProtocol = false
    unfold Setting.setProtocol Setting.protocolName
    dsimp only
    split_ifs <;> exact h
  handle _ _ h := h

/-- The client is in the port loop, at this row. -/
def Cycling (row : ℕ) (s : Gui) : Prop :=
  s.setting.Selects row ∧ s.crashed = false ∧ s.manager.mInPortLoop = true ∧
    s.manager.mChangingPorts = true

variable {row : ℕ}

theorem Cycling.congr {t : Gui} (h : s.Cycling row) (hsetting : t.setting = s.setting)
    (hcrashed : t.crashed = s.crashed) (hloop : t.manager.mInPortLoop = s.manager.mInPortLoop)
    (hports : t.manager.mChangingPorts = s.manager.mChangingPorts) : t.Cycling row :=
  ⟨hsetting ▸ h.1, hcrashed.trans h.2.1, hloop.trans h.2.2.1, hports.trans h.2.2.2⟩

theorem Cycling.filled_eq (h : s.Cycling row) : s.currentEncryptionServers.2 = s := by
  have hsetting : s.setting.tcpOrUdp.2 = s.setting := h.1.tcpOrUdp
  unfold currentEncryptionServers AuthManager.currentEncryptionServers
  dsimp only
  rw [hsetting]

/-- A request describes the row, and does not fail. -/
theorem Cycling.sendConnectToVPNRequest_eq (h : s.Cycling row) :
    ∃ port, Setting.gs_ports[row]? = some port ∧ s.sendConnectToVPNRequest o =
      { s with
        manager := s.manager.sendConnectToVPNRequest (s.surroundings o (QString.number port))
        requests := if (s.manager.ensureConnected o.surroundings).1 then
            ⟨VPNServiceManager.startObject (s.surroundings o (QString.number port)),
              s.account.mServers, s.selected⟩ :: s.requests
          else s.requests } := by
  have hrow : row < Setting.gs_ports.length := h.1.2.1
  have hport : Setting.gs_ports[row]? = some Setting.gs_ports[row] := List.getElem?_eq_getElem hrow
  refine ⟨Setting.gs_ports[row], hport, ?_⟩
  have hhad : s.setting.port = some (QString.number Setting.gs_ports[row]) := by
    rw [h.1.describes.1, hport]
    rfl
  unfold Gui.sendConnectToVPNRequest
  dsimp only
  rw [hhad]

theorem located_cycling : Located (Cycling row) where
  congr h hsetting hmanager hcrashed _ :=
    h.congr hsetting hcrashed (congrArg _ hmanager) (congrArg _ hmanager)
  filled h := h.filled_eq.symm ▸ h
  storeServer _ _ h := h

theorem closed_cycling : Closed o (Cycling row) where
  toLocated := located_cycling
  constructConnectionDialog h := by
    unfold constructConnectionDialog
    split
    · exact h
    · exact ⟨⟨h.1.1, h.1.2.1, rfl, rfl⟩, h.2⟩
  sendConnectToVPNRequest {s} h := by
    obtain ⟨port, -, heq⟩ := h.sendConnectToVPNRequest_eq (o := o)
    rw [heq]
    refine h.congr rfl rfl ?_ (VPNServiceManager.mChangingPorts_send _ _ _)
    exact congrArg PortLoop.mInPortLoop
      (VPNServiceManager.portLoop_sendConnectToVPNRequest _ s.manager)
  sendDisconnectFromVPNRequest {s} h :=
    h.congr rfl rfl (congrArg PortLoop.mInPortLoop
      (VPNServiceManager.portLoop_sendDisconnectFromVPNRequest o.surroundings s.manager))
      (VPNServiceManager.mChangingPorts_send _ _ _)
  sendCredentials {s} h :=
    h.congr rfl rfl (congrArg PortLoop.mInPortLoop
      (VPNServiceManager.portLoop_sendCredentials _ s.manager))
      (VPNServiceManager.mChangingPorts_sendCredentials _ s.manager)

theorem cycling_setProtocol (hunlocked : s.Unlocked) (hruns : s.crashed = false)
    (hloop : s.manager.mInPortLoop = true) (hports : s.manager.mChangingPorts = true)
    (hrow : row < Setting.gs_protocols.length) : (s.setProtocol o row).Cycling row := by
  have hset : ({ s with setting := (s.setting.setProtocol row).1 } : Gui).Cycling row :=
    ⟨Setting.selects_setProtocol hunlocked hrow, hruns, hloop, hports⟩
  unfold Gui.setProtocol
  dsimp only
  split
  · exact located_cycling.repopulateLocations hset
  · exact hset

theorem Cycling.setProtocol {next : ℕ} (hnext : next < Setting.gs_protocols.length)
    (h : s.Cycling row) : (s.setProtocol o next).Cycling next :=
  cycling_setProtocol h.1.2.2.1 h.2.1 h.2.2.1 h.2.2.2 hnext

/-- Where the service is reached it is asked for the row. -/
theorem Cycling.request (hreach : o.surroundings.reachesAtOnce = true) (h : s.Cycling row) :
    ∃ q : Request, (s.sendConnectToVPNRequest o).requests = q :: s.requests ∧ q.Describes row := by
  obtain ⟨port, hport, heq⟩ := h.sendConnectToVPNRequest_eq (o := o)
  have hvalues := VPNServiceManager.startObject_port (s.surroundings o (QString.number port))
  refine ⟨⟨VPNServiceManager.startObject (s.surroundings o (QString.number port)),
    s.account.mServers, s.selected⟩, ?_, port, hport, hvalues.1,
    hvalues.2.trans (congrArg QJsonValue.string h.1.describes.2)⟩
  rw [heq]
  exact if_pos (VPNServiceManager.ensureConnected_of_reachesAtOnce s.manager hreach)

/-- A try goes on to the next row, and asks for it where the service is reached. -/
theorem Cycling.tryNextPort (h : s.Cycling row) :
    (s.tryNextPort o).Cycling (Rotation.next Setting.gs_protocols.length row) ∧
      (o.surroundings.reachesAtOnce = true → ∃ q : Request,
        (s.tryNextPort o).requests = q :: s.requests ∧
          q.Describes (Rotation.next Setting.gs_protocols.length row)) := by
  have hnext := Rotation.next_lt h.1.2.1
  have hset := h.setProtocol (o := o) hnext
  have hrequests := setProtocol_requests (o := o)
    (Rotation.next Setting.gs_protocols.length row : ℕ) s
  have htry : s.tryNextPort o = (s.setProtocol o
      (Rotation.next Setting.gs_protocols.length row : ℕ)).sendConnectToVPNRequest o := by
    rw [tryNextPort_eq, if_pos h.2.2.2, h.1.determineNextPort]
  rw [htry]
  refine ⟨closed_cycling.sendConnectToVPNRequest hset, fun hreach => ?_⟩
  rw [← hrequests]
  exact hset.request hreach

end Gui

namespace GuiEvent

/-- The service reports a timeout. -/
def timesOut : GuiEvent → Bool
  | .notified n => n.isTimeout
  | _ => false

/-- The event ends no port loop, begins none and selects no protocol. -/
def keepsPort : GuiEvent → Bool
  | .protocolChosen _ => false
  | .portDialogFinished accepted _ => !accepted
  | .notified n => n.portEvent != some .connected
  | _ => true

end GuiEvent

namespace Gui
variable {o : Outside} {s : Gui} {row : ℕ}

theorem Cycling.step_of_timesOut {e : Outside × GuiEvent} (he : e.2.timesOut = true)
    (h : s.Cycling row) : s.step e = s.tryNextPort e.1 := by
  obtain ⟨o, e⟩ := e
  have hstep : s.step (o, e) = s.react o e := if_neg (by rw [h.2.1]; exact Bool.false_ne_true)
  rw [hstep]
  cases e with
  | notified n => exact if_pos ⟨beq_iff_eq.mp he, h.2.2.1⟩
  | _ => cases he

theorem Cycling.notified (n : Notification) (hn : n.portEvent ≠ some .connected)
    (h : s.Cycling row) : (s.notified o n).Cycling
      (if n.isTimeout then Rotation.next Setting.gs_protocols.length row else row) := by
  unfold Gui.notified
  dsimp only
  cases htimeout : n.isTimeout with
  | true =>
    rw [if_pos rfl, if_pos ⟨beq_iff_eq.mp htimeout, h.2.2.1⟩]
    exact h.tryNextPort.1
  | false =>
    have hcode : (n.object.value "code".toList).toInt ≠ notifyTimeout :=
      beq_eq_false_iff_ne.mp htimeout
    rw [if_neg Bool.false_ne_true, if_neg fun hboth => hcode hboth.1]
    have hloop : (s.manager.notified o.surroundings n.object).mInPortLoop = true := by
      refine (congrArg PortLoop.mInPortLoop
        (VPNServiceManager.portLoop_notified o.surroundings s.manager n)).trans ?_
      rw [PortLoop.mInPortLoop_after, if_neg hn, ite_eq_left_iff]
      exact fun _ => h.2.2.1
    have hhandled : ({ s with manager := s.manager.notified o.surroundings n.object } :
        Gui).Cycling row :=
      h.congr rfl rfl (hloop.trans h.2.2.1.symm)
        (VPNServiceManager.mChangingPorts_notified o.surroundings s.manager n.object)
    split_ifs with hslots hshown
    · exact hhandled
    · exact absurd hshown.1 hcode
    · exact closed_cycling.toPrimary hhandled
    · exact hhandled

/-- The map screen finds the row that is selected. -/
theorem Cycling.toMap (h : s.Cycling row) : (s.toMap o).Cycling row := by
  have hupper : (row : ℤ) + 1 < Setting.gs_protocols.length + 1 := by
    have hrow : (row : ℤ) < Setting.gs_protocols.length := by exact_mod_cast h.1.2.1
    omega
  have hfilled : ({ s with
      setting := s.setting.currentEncryptionProtocols.2
      map := some ⟨[], 1, 0, (row : ℤ) + 1, decide (0 < (row : ℤ) + 1), false⟩ } :
        Gui).Cycling row :=
    ⟨⟨h.1.1, h.1.2.1, h.1.2.2.1, rfl⟩, h.2⟩
  have hindex : (({ s with
      setting := s.setting.currentEncryptionProtocols.2
      map := some ⟨[], 1, 0, 0, false, false⟩ } : Gui).setProtocolIndex o
        (s.setting.currentProtocol + 1)).Cycling row := by
    have hrow : s.setting.currentProtocol = row := h.1.1
    have hin : (if 0 ≤ (row : ℤ) + 1 ∧ (row : ℤ) + 1 < Setting.gs_protocols.length + 1 then
        (row : ℤ) + 1 else -1) = row + 1 := if_pos ⟨by omega, hupper⟩
    unfold Gui.setProtocolIndex
    dsimp only
    rw [hrow, hin, if_neg (by omega), add_sub_cancel_right]
    exact hfilled.setProtocol h.1.2.1
  unfold Gui.toMap Gui.constructMapScreen
  split
  · exact located_cycling.repopulateLocations (o := o) hindex
  · exact h

/-- A timeout goes on to the next row, and what else keeps the port stays there. -/
theorem Cycling.step {e : Outside × GuiEvent} (he : e.2.keepsPort = true) (h : s.Cycling row) :
    (s.step e).Cycling
      (if e.2.timesOut then Rotation.next Setting.gs_protocols.length row else row) := by
  obtain ⟨o, e⟩ := e
  have hstep : s.step (o, e) = s.react o e := if_neg (by rw [h.2.1]; exact Bool.false_ne_true)
  rw [hstep]
  cases e with
  | protocolChosen row => cases he
  | portDialogFinished accepted isCyclePort =>
    cases accepted with
    | true => cases he
    | false =>
      have hdismissed : (s.react o (.portDialogFinished false isCyclePort)).Cycling row := by
        dsimp only [Gui.react]
        split
        · exact h
        · exact h
      exact hdismissed
  | switchCountryTriggered => exact h.toMap
  | notified n => exact h.notified n (bne_iff_ne.mp he)
  | socketDisconnected => exact h
  | setAutoconnect v => exact h
  | setDetectInsecureWifi v => exact h
  | _ => exact closed_cycling.react rfl h

/-- What `startPortLoop` sets. -/
def enterLoop (s : Gui) : Gui :=
  { s with manager := { s.manager with
      portDialog := false
      mChangingPorts := true
      mPortDialogShown := false
      mInPortLoop := true } }

/-- Accepting the dialog begins with the row behind the one selected, or with the first. -/
theorem cycling_of_accepted (hunlocked : s.Unlocked) (hruns : s.crashed = false)
    (hopen : s.manager.portDialog = true) (hlower : -1 ≤ s.setting.currentProtocol) :
    ∃ row < Setting.gs_protocols.length,
      (s.step (o, .portDialogFinished true true)).Cycling row ∧
      (o.surroundings.reachesAtOnce = true → ∃ q : Request,
        (s.step (o, .portDialogFinished true true)).requests = q :: s.requests ∧
          q.Describes row) := by
  obtain ⟨row, hrow, hnext⟩ : ∃ row < Setting.gs_protocols.length,
      s.setting.determineNextPort = (row : ℕ) := by
    have hports : s.setting.mPorts.length ≤ Setting.gs_protocols.length := by
      unfold Setting.mPorts
      split_ifs <;> decide
    have hsome : 0 < Setting.gs_protocols.length := by decide
    refine ⟨s.setting.determineNextPort.toNat, ?_, ?_⟩ <;>
      unfold Setting.determineNextPort <;> dsimp only <;> split_ifs <;> omega
  have hstep : s.step (o, .portDialogFinished true true) = s.enterLoop.tryNextPort o := by
    have hreact : s.step (o, .portDialogFinished true true) =
        s.react o (.portDialogFinished true true) :=
      if_neg (by rw [hruns]; exact Bool.false_ne_true)
    rw [hreact]
    exact if_pos hopen
  have hset : (s.enterLoop.setProtocol o row).Cycling row :=
    cycling_setProtocol hunlocked hruns rfl rfl hrow
  refine ⟨row, hrow, ?_⟩
  rw [hstep, tryNextPort_eq, if_pos (show s.enterLoop.manager.mChangingPorts = true from rfl)]
  have hport : s.enterLoop.setting.determineNextPort = (row : ℕ) := hnext
  rw [hport]
  refine ⟨closed_cycling.sendConnectToVPNRequest hset, fun hreach => ?_⟩
  have hrequested := hset.request hreach
  rw [setProtocol_requests] at hrequested
  exact hrequested

/-- Whatever this session has come through: once the user accepts to go through the ports
while the index of the protocol is no lower than that of none, and the service reports as many
timeouts as there are other rows in the table and is reached at once when it is to be asked,
it has been asked for the port and the transport of every row, when the dialog was accepted or
at one of the timeouts, whatever else happens that neither connects nor selects a protocol. -/
theorem port_loop_tries_every_row (stored : Setting) (v : System.Unset) (mPingsLoaded : Bool)
    (es : List (Outside × GuiEvent)) {s : Gui}
    (hs : s = run step (initial stored v mPingsLoaded) es)
    (hruns : s.crashed = false) (hopen : s.manager.portDialog = true)
    (hlower : -1 ≤ s.setting.currentProtocol) {accepted : Outside × GuiEvent}
    (haccepted : accepted.2 = .portDialogFinished true true)
    (hreach : accepted.1.surroundings.reachesAtOnce = true) {later : List (Outside × GuiEvent)}
    (hkeeps : ∀ e ∈ later, e.2.keepsPort = true)
    (hreaches : ∀ e ∈ later, e.2.timesOut = true → e.1.surroundings.reachesAtOnce = true)
    (htimeouts : Setting.gs_protocols.length ≤ later.countP (·.2.timesOut) + 1)
    {row : ℕ} (hrow : row < Setting.gs_protocols.length) :
    ∃ before e after, accepted :: later = before ++ e :: after ∧
      (e = accepted ∨ e.2.timesOut = true) ∧ ∃ q : Request,
        (run step s (before ++ [e])).requests = q :: (run step s before).requests ∧
          q.Describes row := by
  obtain ⟨o, rfl⟩ : ∃ o, accepted = (o, .portDialogFinished true true) :=
    ⟨accepted.1, Prod.ext rfl haccepted⟩
  have hinitial : (initial stored v mPingsLoaded).Unlocked := rfl
  have hunlocked : s.Unlocked := hs ▸ run_steady (fun _ => steady_unlocked) es hinitial
  obtain ⟨first, hfirst, hcycling, hrequest⟩ :=
    cycling_of_accepted (o := o) hunlocked hruns hopen hlower
  obtain ⟨k, hk, hturns⟩ := Rotation.exists_iterate_next hfirst hrow
  cases k with
  | zero =>
    obtain rfl : first = row := hturns
    exact ⟨[], _, later, rfl, .inl rfl, hrequest hreach⟩
  | succ k =>
    have hsplit : ∃ before e after, later = before ++ e :: after ∧ e.2.timesOut = true ∧
        before.countP (·.2.timesOut) = k := Rotation.exists_split_countP (by omega)
    obtain ⟨before, e, after, rfl, he, hcount⟩ := hsplit
    have hmem : e ∈ before ++ e :: after := List.mem_append_right _ List.mem_cons_self
    have hbefore : (run step (s.step (o, .portDialogFinished true true)) before).Cycling
        ((Rotation.next Setting.gs_protocols.length)^[k] first) := by
      rw [← hcount]
      exact Rotation.on_run (D := fun e => e.2.keepsPort = true) (fun he h => h.step he) hcycling
        fun e he => hkeeps e (List.mem_append_left _ he)
    have hstep := hbefore.step_of_timesOut he
    refine ⟨(o, .portDialogFinished true true) :: before, e, after, rfl, .inr he, ?_⟩
    have hlast : run step s ((o, .portDialogFinished true true) :: before ++ [e]) =
        (run step (s.step (o, .portDialogFinished true true)) before).tryNextPort e.1 :=
      (run_append ..).trans hstep
    rw [hlast, ← hturns, Function.iterate_succ_apply']
    exact hbefore.tryNextPort.2 (hreaches e hmem he)

/-- The service reports a timeout. -/
def timeoutReported : Outside × GuiEvent :=
  (.nested, .notified ⟨[("code".toList, .ofInt notifyTimeout)], false⟩)

/-- The user, for whom nothing is stored yet, connects until he is asked what to do. -/
def timedOutOnce : List (Outside × GuiEvent) :=
  [.timerConstructed, .loginClicked, .replyFinished .two, .connectClicked].map (Prod.mk .nested) ++
    [timeoutReported]

/-- He cycles through the ports. -/
def cycles : Outside × GuiEvent := (.nested, .portDialogFinished true true)

/-- He looks at the map while the tries time out. -/
def timedOutTwice : List (Outside × GuiEvent) :=
  [timeoutReported, (.nested, .switchCountryTriggered), timeoutReported]

/-- One of the tries is for TCP 443. -/
theorem tries_tcp : ∃ before e after, cycles :: timedOutTwice = before ++ e :: after ∧
    (e = cycles ∨ e.2.timesOut = true) ∧ ∃ q : Request,
      (run step (run step (initial .fresh .blocking false) timedOutOnce) (before ++ [e])).requests =
        q :: (run step (run step (initial .fresh .blocking false) timedOutOnce) before).requests ∧
      q.object.value "port".toList = .string "443".toList ∧
      q.object.value "tcporudp".toList = .string "tcp".toList := by
  have hkeeps : ∀ e ∈ timedOutTwice, e.2.keepsPort = true := by decide
  have hreaches : ∀ e ∈ timedOutTwice, e.2.timesOut = true →
      e.1.surroundings.reachesAtOnce = true := by decide
  have hreach : cycles.1.surroundings.reachesAtOnce = true := rfl
  have hrow : 2 < Setting.gs_protocols.length := by decide
  obtain ⟨before, e, after, hsplit, he, q, hq, port, hport, hvalue, htransport⟩ :=
    port_loop_tries_every_row .fresh .blocking false timedOutOnce rfl (by decide +kernel)
      (by decide +kernel) (by decide +kernel) rfl hreach hkeeps hreaches (by decide) hrow
  obtain rfl := Option.some.inj hport
  exact ⟨before, e, after, hsplit, he, q, hq, hvalue.trans (by decide),
    htransport.trans (by decide)⟩

end Gui
end CeloVpn.Client
