import CeloVpn.Client.System

/-!
# The kill switch

The client emits `killSwitch()` for a disconnect that its user did not ask for
last. Nothing is wired to that signal, so no traffic is ever blocked; and what
the user asked for last need not be what the service was executing when it
disconnected.
-/
namespace CeloVpn.Client
open Runs

/-- A command to switch the network off. -/
def Act.IsNetdown : Act → Prop
  | .sent object => (object.value "cmd".toList).toInt = cmdNetdown
  | _ => False

/-- The last call of the two that connect and disconnect. -/
def lastRequest : List Act → Option Bool
  | [] => none
  | .requested disconnect :: _ => some disconnect
  | _ :: older => lastRequest older

namespace VPNServiceManager
variable (s : Surroundings) (m : VPNServiceManager)

@[simp] theorem connectToCore_history (reaches : Bool) :
    (m.connectToCore reaches).2.history = m.history := by
  unfold connectToCore
  split_ifs <;> rfl

@[simp] theorem connectToCore_mUserRequestedDisconnect (reaches : Bool) :
    (m.connectToCore reaches).2.mUserRequestedDisconnect = m.mUserRequestedDisconnect := by
  unfold connectToCore
  split_ifs <;> rfl

@[simp] theorem ensureConnected_history : (m.ensureConnected s).2.history = m.history := by
  unfold ensureConnected
  dsimp only
  split_ifs <;> simp

@[simp] theorem ensureConnected_mUserRequestedDisconnect :
    (m.ensureConnected s).2.mUserRequestedDisconnect = m.mUserRequestedDisconnect := by
  unfold ensureConnected
  dsimp only
  split_ifs <;> simp

@[simp] theorem send_mUserRequestedDisconnect (object : QJsonObject) :
    (m.send s object).mUserRequestedDisconnect = m.mUserRequestedDisconnect := by
  unfold send
  dsimp only
  split_ifs
  · exact ensureConnected_mUserRequestedDisconnect s m
  · exact ensureConnected_mUserRequestedDisconnect s m

theorem send_history (object : QJsonObject) : (m.send s object).history = m.history ∨
    (m.send s object).history = .sent object :: m.history := by
  unfold send
  dsimp only
  split_ifs
  · exact .inr (congrArg (Act.sent object :: ·) (ensureConnected_history s m))
  · exact .inl (ensureConnected_history s m)

/-- No receiver of a signal sends a command. -/
@[simp] theorem emit_history (signal : Signal) :
    (m.emit s signal).history = .emitted signal :: m.history := by
  cases signal with
  | stateChanged state =>
    change (runSlot s (.stateChanged state) (m.note (.emitted (.stateChanged state)))
      .wndManagerStateChanged).history = _
    unfold runSlot
    split_ifs <;> rfl
  | _ => rfl

@[simp] theorem emit_mUserRequestedDisconnect (signal : Signal) :
    (m.emit s signal).mUserRequestedDisconnect = m.mUserRequestedDisconnect := by
  cases signal with
  | stateChanged state =>
    change (runSlot s (.stateChanged state) (m.note (.emitted (.stateChanged state)))
      .wndManagerStateChanged).mUserRequestedDisconnect = _
    unfold runSlot
    split_ifs <;> rfl
  | _ => rfl

section Adds
variable {P : Act → Prop} {base : List Act}

theorem adds_send {object : QJsonObject} (hsent : P (.sent object))
    (h : Adds P base m.history) : Adds P base (m.send s object).history := by
  rcases send_history s m object with hkept | hsends
  · rwa [hkept]
  · rw [hsends]
    exact h.cons hsent

theorem adds_emit {signal : Signal} (hemitted : P (.emitted signal))
    (h : Adds P base m.history) : Adds P base (m.emit s signal).history := by
  rw [emit_history]
  exact h.cons hemitted

/-- What every function may add to the history. -/
def Ordinary (a : Act) : Prop := ¬a.IsNetdown ∧ a ≠ .emitted .killSwitch

theorem ordinary_command (rest : QJsonObject) {cmd : ℤ}
    (h : (QJsonValue.ofInt cmd).toInt ≠ cmdNetdown) :
    Ordinary (.sent (("cmd".toList, .ofInt cmd) :: rest)) := by
  have hvalue : QJsonObject.value (("cmd".toList, .ofInt cmd) :: rest) "cmd".toList =
      .ofInt cmd := by
    simp [QJsonObject.value]
  refine ⟨fun hnetdown => h ?_, nofun⟩
  rwa [Act.IsNetdown, hvalue] at hnetdown

variable (hP : ∀ a, Ordinary a → P a)
include hP

theorem adds_sendConnectToVPNRequest (h : Adds P base m.history) :
    Adds P base (m.sendConnectToVPNRequest s).history :=
  adds_send s _ (hP _ (ordinary_command _ (by decide))) (h.cons (hP (.requested false) ⟨id, nofun⟩))

theorem adds_sendDisconnectFromVPNRequest (h : Adds P base m.history) :
    Adds P base (m.sendDisconnectFromVPNRequest s).history :=
  adds_send s _ (hP _ (ordinary_command _ (by decide))) (h.cons (hP (.requested true) ⟨id, nofun⟩))

theorem adds_sendCredentials (h : Adds P base m.history) :
    Adds P base (m.sendCredentials s).history := by
  have hreached : Adds P base (m.ensureConnected s).2.history := by
    rwa [ensureConnected_history]
  unfold sendCredentials
  dsimp only
  split_ifs
  · exact hreached.cons (hP _ (ordinary_command _ (by decide)))
  · exact adds_emit s _ (hP _ ⟨id, nofun⟩) hreached

theorem adds_portDialogResult (accepted isCyclePort : Bool) (h : Adds P base m.history) :
    Adds P base (m.portDialogResult s accepted isCyclePort).history := by
  unfold portDialogResult
  dsimp only
  split_ifs
  · exact adds_sendConnectToVPNRequest s _ hP h
  · exact h

theorem adds_statusChanged (state : ℤ) (hkill : state = VpnState.disconnected.toInt →
      m.mUserRequestedDisconnect = false → P (.emitted .killSwitch))
    (h : Adds P base m.history) : Adds P base (m.statusChanged s state).history := by
  have htold : ∀ m' : VPNServiceManager, Adds P base m'.history →
      Adds P base (m'.emit s (.stateChanged state)).history :=
    fun m' h' => adds_emit s m' (hP _ ⟨id, nofun⟩) h'
  unfold statusChanged
  dsimp only
  split_ifs with hconnected hdisconnected
  · exact htold _ h
  · exact htold _ (adds_emit s _ (hkill hdisconnected.1 hdisconnected.2) h)
  · exact htold _ h

theorem adds_timedOut (h : Adds P base m.history) : Adds P base (m.timedOut s).history := by
  unfold timedOut
  split_ifs
  · exact adds_sendConnectToVPNRequest s m hP h
  · exact h
  · exact adds_emit s _ (hP _ ⟨id, nofun⟩) h

/-- Handling a message emits `killSwitch` only for a disconnect not asked for. -/
theorem adds_notified (n : Notification) (hkill : n.isDisconnected = true →
      m.mUserRequestedDisconnect = false → P (.emitted .killSwitch))
    (h : Adds P base m.history) : Adds P base (m.notified s n.object).history := by
  unfold notified
  dsimp only
  split_ifs with hempty hstatus hword hip htimeout herror
  · exact h
  · refine adds_statusChanged s m hP _ (fun hstate hflag => hkill ?_ hflag) h
    simp only [Notification.isDisconnected, hstatus, hstate, beq_self_eq_true, Bool.and_self]
  · exact adds_emit s m (hP _ ⟨id, nofun⟩) h
  · exact adds_emit s m (hP _ ⟨id, nofun⟩) h
  · exact adds_timedOut s m hP h
  · exact adds_emit s m (hP _ ⟨id, nofun⟩) h
  · exact h

end Adds

/-- The flag holds whether a disconnect was asked for last. -/
def Agrees (m : VPNServiceManager) : Prop :=
  m.mUserRequestedDisconnect = (lastRequest m.history == some true)

variable {s m}

theorem Agrees.send {object : QJsonObject} (h : m.Agrees) : (m.send s object).Agrees := by
  unfold Agrees
  rw [send_mUserRequestedDisconnect]
  rcases send_history s m object with hkept | hsends
  · rwa [hkept]
  · rwa [hsends]

theorem Agrees.emit {signal : Signal} (h : m.Agrees) : (m.emit s signal).Agrees := by
  unfold Agrees
  rwa [emit_mUserRequestedDisconnect, emit_history]

theorem agrees_sendConnectToVPNRequest : (m.sendConnectToVPNRequest s).Agrees :=
  Agrees.send (m := { m.note (.requested false) with mUserRequestedDisconnect := false }) rfl

theorem agrees_sendDisconnectFromVPNRequest : (m.sendDisconnectFromVPNRequest s).Agrees :=
  Agrees.send (m := { m.note (.requested true) with mUserRequestedDisconnect := true }) rfl

theorem Agrees.sendCredentials (h : m.Agrees) : (m.sendCredentials s).Agrees := by
  have hreached : (m.ensureConnected s).2.Agrees := by
    unfold Agrees
    rwa [ensureConnected_history, ensureConnected_mUserRequestedDisconnect]
  unfold VPNServiceManager.sendCredentials
  dsimp only
  split_ifs
  · exact hreached
  · exact hreached.emit

theorem Agrees.portDialogResult (accepted isCyclePort : Bool) (h : m.Agrees) :
    (m.portDialogResult s accepted isCyclePort).Agrees := by
  unfold VPNServiceManager.portDialogResult
  dsimp only
  split_ifs
  · exact agrees_sendConnectToVPNRequest
  · exact h

theorem Agrees.notified (object : QJsonObject) (h : m.Agrees) :
    (m.notified s object).Agrees := by
  have hstatus : ∀ state, (m.statusChanged s state).Agrees := by
    intro state
    have hset : ({ m with mState := state } : VPNServiceManager).Agrees := h
    unfold statusChanged
    dsimp only
    split_ifs
    · exact Agrees.emit (m := { m with mState := state, mInPortLoop := false }) h
    · exact hset.emit.emit
    · exact hset.emit
  have htimeout : (m.timedOut s).Agrees := by
    unfold VPNServiceManager.timedOut
    split_ifs
    · exact agrees_sendConnectToVPNRequest
    · exact h
    · exact Agrees.emit (m := { m with mPortDialogShown := true }) h
  unfold VPNServiceManager.notified
  dsimp only
  split_ifs
  · exact h
  · exact hstatus _
  · exact h.emit
  · exact h.emit
  · exact htimeout
  · exact h.emit
  · exact h

end VPNServiceManager

namespace System
variable (host : Service.Host) {s : System} {a : Action}

/-- What the client did in one action, newest first. -/
def acts (s : System) (a : Action) : List Act :=
  (step host s a).manager.history.take
    ((step host s a).manager.history.length - s.manager.history.length)

/-- A disconnect the user did not ask for last is handled while traffic shall be
blocked. -/
def Trigger (s : System) (a : Action) : Prop :=
  ∃ n ∈ s.handling a, n.isDisconnected = true ∧ s.manager.mUserRequestedDisconnect = false ∧
    s.manager.blockOnDisconnect = true

instance (s : System) (a : Action) : Decidable (s.Trigger a) :=
  inferInstanceAs (Decidable (∃ n ∈ s.handling a, _ ∧ _ ∧ _))

/-- Such a disconnect sends the command to switch the network off. -/
def Engages (s : System) (a : Action) : Prop := s.Trigger a → ∃ b ∈ acts host s a, b.IsNetdown

/-- `killSwitch` is emitted only for a notification the service made for another
reason than a start or stop of this client. -/
def AlarmsRightly (s : System) (a : Action) : Prop :=
  Act.emitted .killSwitch ∈ acts host s a → ∃ n ∈ s.handling a, n.own = false

/-- A disconnect the service made while it executed a start or stop of this client
is handled while a disconnect is what the user asked for last. -/
def HandledInTime (s : System) (a : Action) : Prop :=
  ∀ n ∈ s.handling a, n.own = true → n.isDisconnected = true →
    lastRequest s.manager.history = some true

theorem acts_eq {new : List Act}
    (h : (step host s a).manager.history = new ++ s.manager.history) : acts host s a = new := by
  simp [acts, h]

/-- The history of the client grows by ordinary acts, and by `killSwitch` where a
disconnect is handled that was not asked for last. -/
theorem step_adds {P : Act → Prop} (hP : ∀ b, VPNServiceManager.Ordinary b → P b) (s : System)
    (a : Action) (hkill : ∀ n ∈ s.handling a, n.isDisconnected = true →
      s.manager.mUserRequestedDisconnect = false → P (.emitted .killSwitch)) :
    Adds P s.manager.history (step host s a).manager.history := by
  have hrefl : Adds P s.manager.history s.manager.history := .refl P _
  cases a with
  | connect t => exact s.manager.adds_sendConnectToVPNRequest t hP hrefl
  | disconnect t => exact s.manager.adds_sendDisconnectFromVPNRequest t hP hrefl
  | credentials t => exact s.manager.adds_sendCredentials t hP hrefl
  | portDialog t accepted isCyclePort =>
    dsimp only [step]
    split_ifs
    · exact s.manager.adds_portDialogResult t hP accepted isCyclePort hrefl
    · exact hrefl
  | setBlockOnDisconnect v => exact hrefl
  | setLoggedIn v => exact hrefl
  | handle t =>
    dsimp only [step]
    cases hincoming : s.incoming with
    | nil => exact hrefl
    | cons n rest =>
      exact s.manager.adds_notified t hP n (hkill n (by simp [handling, hincoming])) hrefl
  | garble => exact hrefl
  | accept w =>
    dsimp only [step]
    split <;> exact hrefl
  | execute w line parses =>
    dsimp only [step]
    split <;> exact hrefl
  | service e =>
    dsimp only [step]
    split_ifs <;> exact hrefl
  | broken w arrives => exact hrefl
  | restart u arrives => exact hrefl
  | socketDisconnected arrives =>
    dsimp only [step]
    split_ifs <;> exact hrefl

theorem acts_of_step {P : Act → Prop} (hP : ∀ b, VPNServiceManager.Ordinary b → P b)
    (hkill : ∀ n ∈ s.handling a, n.isDisconnected = true →
      s.manager.mUserRequestedDisconnect = false → P (.emitted .killSwitch)) :
    ∀ b ∈ acts host s a, P b := by
  obtain ⟨new, hnew, hall⟩ := step_adds host hP s a hkill
  rw [acts_eq host hnew]
  exact hall

theorem step_agrees (s : System) (a : Action) (h : s.manager.Agrees) :
    (step host s a).manager.Agrees := by
  cases a with
  | connect t => exact VPNServiceManager.agrees_sendConnectToVPNRequest
  | disconnect t => exact VPNServiceManager.agrees_sendDisconnectFromVPNRequest
  | credentials t => exact h.sendCredentials
  | portDialog t accepted isCyclePort =>
    dsimp only [step]
    split_ifs
    · exact h.portDialogResult accepted isCyclePort
    · exact h
  | setBlockOnDisconnect v => exact h
  | setLoggedIn v => exact h
  | handle t =>
    dsimp only [step]
    split
    · exact h.notified _
    · exact h
  | garble => exact h
  | accept w =>
    dsimp only [step]
    split <;> exact h
  | execute w line parses =>
    dsimp only [step]
    split <;> exact h
  | service e =>
    dsimp only [step]
    split_ifs <;> exact h
  | broken w arrives => exact h
  | restart u arrives => exact h
  | socketDisconnected arrives =>
    dsimp only [step]
    split_ifs <;> exact h

/-- The client never sends the command to switch the network off. -/
theorem netdown_unsent (s : System) (a : Action) : ∀ b ∈ acts host s a, ¬b.IsNetdown :=
  acts_of_step host (fun _ h => h.1) fun _ _ _ _ => id

/-- A run engages the kill switch whenever it should exactly when it never should:
each time it should, no command is sent. -/
theorem kill_switch_engages_iff (u : Service.Indeterminate) (v : Unset) (as : List Action) :
    Meets (step host) (Engages host) (initial u v) as ↔
      Meets (step host) (fun s a => ¬s.Trigger a) (initial u v) as := by
  refine meets_congr (I := fun _ => True) (fun _ _ _ => trivial) (fun s a _ => ?_) trivial
  constructor
  · intro hengages htrigger
    obtain ⟨b, hb, hnetdown⟩ := hengages htrigger
    exact netdown_unsent host s a b hb hnetdown
  · exact fun hno htrigger => absurd htrigger hno

/-- A connection that is lost unasked leaves the network on. -/
theorem engages_fails_of_lost_connection :
    ¬∀ (host : Service.Host) (u : Service.Indeterminate) (v : Unset) (as : List Action),
      Meets (step host) (Engages host) (initial u v) as := by
  intro h
  set t : Surroundings := .server 7 "template 7"
  set before : List Action := connecting ++
    [.service ⟨.quiet 4000, .socketError 1⟩, .service ⟨.quiet 5000, .stateTimer⟩,
      .handle t, .handle t, .handle t] with hbefore
  have hlast := meets_iff_split.mp (h (.on .linux) .zero .blocking (before ++ [.handle t]))
    before (.handle t) [] rfl
  obtain ⟨b, hb, hnetdown⟩ := hlast (by decide +kernel)
  exact netdown_unsent _ _ _ b hb hnetdown

/-- Handling a disconnect that was not asked for last emits `killSwitch`. -/
theorem kill_switch_emitted {n : Notification} (hn : n ∈ s.handling a)
    (hd : n.isDisconnected = true) (hflag : s.manager.mUserRequestedDisconnect = false) :
    Act.emitted .killSwitch ∈ acts host s a := by
  cases a with
  | handle t =>
    obtain ⟨hcode, hstate⟩ := Bool.and_eq_true_iff.mp hd
    have hcode : (n.object.value "code".toList).toInt = notifyStatusChange := beq_iff_eq.mp hcode
    have hstate : (n.object.value "state".toList).toInt = VpnState.disconnected.toInt :=
      beq_iff_eq.mp hstate
    have hempty : n.object.isEmpty = false := by
      cases hobject : n.object with
      | nil => rw [hobject] at hcode; exact absurd hcode (by decide)
      | cons _ _ => rfl
    obtain ⟨rest, hincoming⟩ := List.head?_eq_some_iff.mp hn
    have hhistory : (step host s (.handle t)).manager.history =
        [.emitted (.stateChanged VpnState.disconnected.toInt), .emitted .killSwitch] ++
          s.manager.history := by
      simp only [step, hincoming, VPNServiceManager.notified, hempty, hcode, hstate]
      simp [VPNServiceManager.statusChanged, hflag, VpnState.toInt]
    rw [acts_eq host hhistory]
    exact List.mem_cons_of_mem _ List.mem_cons_self
  | _ => cases hn

theorem alarmsRightly_iff_handledInTime (s : System) (a : Action) (h : s.manager.Agrees) :
    AlarmsRightly host s a ↔ s.HandledInTime a := by
  constructor
  · intro hright n hn hown hd
    by_contra hlast
    have hflag : s.manager.mUserRequestedDisconnect = false := h.trans (by simpa using hlast)
    obtain ⟨n', hn', hother⟩ := hright (kill_switch_emitted host hn hd hflag)
    rw [Option.mem_unique hn hn'] at hown
    exact Bool.false_ne_true (hother.symm.trans hown)
  · intro hintime hkill
    obtain ⟨n, hn, hd, hflag⟩ := acts_of_step host
      (P := fun b => b = .emitted .killSwitch → ∃ n ∈ s.handling a, n.isDisconnected = true ∧
        s.manager.mUserRequestedDisconnect = false)
      (fun b hb hkill => absurd hkill hb.2) (fun n hn hd hflag _ => ⟨n, hn, hd, hflag⟩)
      _ hkill rfl
    refine ⟨n, hn, Bool.eq_false_of_not_eq_true fun hown => ?_⟩
    have hlast := hintime n hn hown hd
    rw [h, hlast] at hflag
    cases hflag

/-- A run alarms only rightly exactly when every disconnect of the client's own
starts and stops is handled while the user's last request is to disconnect. -/
theorem alarms_right_iff (u : Service.Indeterminate) (v : Unset) (as : List Action) :
    Meets (step host) (AlarmsRightly host) (initial u v) as ↔
      Meets (step host) HandledInTime (initial u v) as :=
  meets_congr (I := fun s => s.manager.Agrees) (step_agrees host)
    (alarmsRightly_iff_handledInTime host) rfl

/-- Switching to another server while connected raises a false alarm. -/
theorem alarms_fail_of_switched_server :
    ¬∀ (host : Service.Host) (u : Service.Indeterminate) (v : Unset) (as : List Action),
      Meets (step host) (AlarmsRightly host) (initial u v) as := by
  intro h
  set t : Surroundings := .server 8 "template 8"
  set before : List Action := connecting ++
    [.connect t, .execute (.busy 4000) [] true, .handle t, .handle t, .handle t]
  have hlast := meets_iff_split.mp (h (.on .linux) .zero .blocking (before ++ [.handle t]))
    before (.handle t) [] rfl
  exact absurd (hlast (by decide +kernel)) (by decide +kernel)

end System
end CeloVpn.Client
