import CeloVpn.Client.PortLoop
import CeloVpn.Service.Initialised

/-!
# Control fields of the desktop client

The constructor of `VPNServiceManager` leaves two fields unset: `mState`, which the first
status the service reports assigns and which anyone may ask for, and `mChangingPorts`,
which is assigned as the port loop begins.
-/
namespace CeloVpn.Client
open Runs Accesses

/-- The control fields that the constructor of `VPNServiceManager` leaves unset. -/
inductive Field
  | mState
  | mChangingPorts
  deriving DecidableEq

/-- What calls `VPNServiceManager`. -/
inductive ManagerEvent
  | connect (s : Surroundings)
  | disconnect (s : Surroundings)
  | credentials (s : Surroundings)
  /-- The port dialog is closed. -/
  | portDialog (s : Surroundings) (accepted isCyclePort : Bool)
  | notified (s : Surroundings) (n : Notification)
  | socketDisconnected
  /-- `state()` is called: by the timer of the tray icon, or by the wifi watcher. -/
  | asked

/-- The service reports a status. -/
def ManagerEvent.reportsStatus : ManagerEvent → Bool
  | .notified _ n => (n.object.value "code".toList).toInt == notifyStatusChange
  | _ => false

namespace VPNServiceManager

/-- One event of the desktop client. -/
def take (m : VPNServiceManager) : ManagerEvent → VPNServiceManager
  | .connect s => m.sendConnectToVPNRequest s
  | .disconnect s => m.sendDisconnectFromVPNRequest s
  | .credentials s => m.sendCredentials s
  | .portDialog s accepted isCyclePort =>
    if m.portDialog then m.portDialogResult s accepted isCyclePort else m
  | .notified s n => VPNServiceManager.notified s n.object m
  | .socketDisconnected => m.socketDisconnected
  | .asked => m

/-- `tryNextPort`. -/
def tryNextPortTrace : List (Access Field) := [.read .mChangingPorts]

/-- The state is compared once or twice, and emitted. -/
def statusChangedTrace (state : ℤ) : List (Access Field) :=
  [.assign .mState, .read .mState] ++
    (if state = VpnState.connected.toInt then [] else [.read .mState]) ++ [.read .mState]

/-- The fields an event reads and assigns, in the order in which it does. -/
def trace (m : VPNServiceManager) : ManagerEvent → List (Access Field)
  | .portDialog _ accepted _ =>
    if m.portDialog then
      if accepted then .assign .mChangingPorts :: tryNextPortTrace else []
    else []
  | .notified _ n =>
    let code := (n.object.value "code".toList).toInt
    if code = notifyStatusChange then
      statusChangedTrace (n.object.value "state".toList).toInt
    else if code = notifyTimeout then if m.mInPortLoop then tryNextPortTrace else []
    else []
  | .asked => [.read .mState]
  | _ => []

/-- The loop begins only where the field is assigned. -/
theorem mInPortLoop_take (m : VPNServiceManager) (e : ManagerEvent)
    (h : (m.take e).mInPortLoop = true) :
    m.mInPortLoop = true ∨ .assign .mChangingPorts ∈ m.trace e := by
  have hsame : ∀ {m' : VPNServiceManager}, m'.portLoop = m.portLoop → m'.mInPortLoop = true →
      m.mInPortLoop = true := fun hm h => (congrArg PortLoop.mInPortLoop hm).symm.trans h
  cases e with
  | connect s => exact .inl (hsame (portLoop_sendConnectToVPNRequest s m) h)
  | disconnect s => exact .inl (hsame (portLoop_sendDisconnectFromVPNRequest s m) h)
  | credentials s => exact .inl (hsame (portLoop_sendCredentials s m) h)
  | portDialog s accepted isCyclePort =>
    dsimp only [take, trace] at h ⊢
    split_ifs at h ⊢ with hopen haccepted
    · exact .inr List.mem_cons_self
    · rw [Bool.eq_false_of_not_eq_true haccepted] at h
      exact .inl h
    · exact .inl h
  | notified s n =>
    have hloop := congrArg PortLoop.mInPortLoop (portLoop_notified s m n)
    rw [PortLoop.mInPortLoop_after] at hloop
    have hno : n.portEvent ≠ some .accepted := by
      unfold Notification.portEvent
      dsimp only
      split_ifs <;> nofun
    rw [if_neg hno] at hloop
    split_ifs at hloop
    · exact absurd (hloop.symm.trans h) Bool.false_ne_true
    · exact .inl (hloop.symm.trans h)
  | socketDisconnected => exact .inl h
  | asked => exact .inl h

/-- A status that is reported, and nothing else, assigns `mState`. -/
theorem assign_mState_iff (m : VPNServiceManager) (e : ManagerEvent) :
    .assign .mState ∈ m.trace e ↔ e.reportsStatus = true := by
  cases e with
  | portDialog s accepted isCyclePort =>
    refine iff_of_false ?_ nofun
    unfold trace
    dsimp only
    split_ifs <;> decide
  | notified s n =>
    rw [trace, ManagerEvent.reportsStatus, beq_iff_eq]
    split_ifs with hstatus
    · exact iff_of_true List.mem_cons_self hstatus
    · exact iff_of_false (by decide) hstatus
    · exact iff_of_false nofun hstatus
    · exact iff_of_false nofun hstatus
  | asked =>
    rw [trace]
    exact iff_of_false (by decide) nofun
  | _ => exact iff_of_false nofun nofun

end VPNServiceManager

/-- The manager, and the control fields that are assigned. -/
structure AccessSession where
  manager : VPNServiceManager
  assigned : List Field

namespace AccessSession

/-- The constructor assigns none of them. -/
def initial (u : Service.Indeterminate) (v : System.Unset) : AccessSession :=
  ⟨(System.initial u v).manager, []⟩

def step (s : AccessSession) (e : ManagerEvent) : AccessSession :=
  ⟨s.manager.take e, after s.assigned (s.manager.trace e)⟩

/-- The event reads assigned fields only. -/
def Defined (s : AccessSession) (e : ManagerEvent) : Prop :=
  Initialised s.assigned (s.manager.trace e)

instance (s : AccessSession) (e : ManagerEvent) : Decidable (s.Defined e) :=
  inferInstanceAs (Decidable (Initialised _ _))

/-- Inside the port loop `mChangingPorts` is assigned. -/
def Ready (s : AccessSession) : Prop :=
  s.manager.mInPortLoop = true → .mChangingPorts ∈ s.assigned

theorem Ready.step {s : AccessSession} (e : ManagerEvent) (hr : s.Ready) : (s.step e).Ready := by
  intro h
  rcases s.manager.mInPortLoop_take e h with hloop | hassign
  · exact mem_after.mpr (.inr (hr hloop))
  · exact mem_after.mpr (.inl hassign)

/-- Only `state()` may read what is not assigned. -/
theorem Ready.defined_iff {s : AccessSession} (hr : s.Ready) (e : ManagerEvent) :
    s.Defined e ↔ (e = .asked → .mState ∈ s.assigned) := by
  unfold Defined VPNServiceManager.trace
  cases e with
  | portDialog t accepted isCyclePort =>
    refine iff_of_true ?_ nofun
    dsimp only
    split_ifs
    · exact ⟨List.mem_cons_self, trivial⟩
    · trivial
    · trivial
  | notified t n =>
    refine iff_of_true ?_ nofun
    have hassigned : Field.mState ∈ Field.mState :: s.assigned := List.mem_cons_self
    dsimp only
    split_ifs with hstatus htimeout hloop
    · unfold VPNServiceManager.statusChangedTrace
      split_ifs
      · exact ⟨hassigned, hassigned, trivial⟩
      · exact ⟨hassigned, hassigned, hassigned, trivial⟩
    · exact ⟨hr hloop, trivial⟩
    · trivial
    · trivial
  | asked => exact ⟨fun h _ => h.1, fun h => ⟨h rfl, trivial⟩⟩
  | _ => exact iff_of_true trivial nofun

theorem mState_assigned_run {s : AccessSession} (es : List ManagerEvent) :
    .mState ∈ (run AccessSession.step s es).assigned ↔
      .mState ∈ s.assigned ∨ ∃ e ∈ es, e.reportsStatus = true := by
  induction es generalizing s with
  | nil => simp [run]
  | cons e es ih =>
    have hstep : .mState ∈ (s.step e).assigned ↔ e.reportsStatus = true ∨ .mState ∈ s.assigned :=
      mem_after.trans (or_congr_left (s.manager.assign_mState_iff e))
    rw [List.exists_mem_cons_iff, ← or_assoc, or_comm (a := .mState ∈ s.assigned), ← hstep]
    exact ih

/-- `state()` is called only once the service has reported a status. -/
def Informed (es : List ManagerEvent) : Prop :=
  ∀ before after, es = before ++ .asked :: after → ∃ e ∈ before, e.reportsStatus = true

theorem meets_defined_iff (u : Service.Indeterminate) (v : System.Unset)
    (es : List ManagerEvent) : Meets step Defined (initial u v) es ↔ Informed es := by
  have hready : (initial u v).Ready := nofun
  rw [meets_congr (fun _ e hr => hr.step e) (fun _ e hr => hr.defined_iff e) hready,
    meets_iff_split]
  constructor
  · intro h before after hsplit
    exact ((mState_assigned_run before).mp (h before .asked after hsplit rfl)).resolve_left nofun
  · rintro h before e after hsplit rfl
    exact (mState_assigned_run before).mpr (.inr (h before after hsplit))

end AccessSession

/-- In every run of the service and of the client, control fields are assigned before they
are read exactly where openvpn neither exits nor crashes while connected, and nobody asks
the client for a state before the service has reported one. -/
theorem control_state_initialised_iff (host : Service.Host) (u : Service.Indeterminate)
    (es : List Service.Event) (v : System.Unset) (cs : List ManagerEvent) :
    (Meets (Service.AccessSession.step host) (Service.AccessSession.Defined host) (.initial u) es ∧
        Meets AccessSession.step AccessSession.Defined (.initial u v) cs) ↔
      Meets (Service.OpenvpnManager.step host) (Service.OpenvpnManager.StaysUp host) (.initial u) es ∧
        AccessSession.Informed cs :=
  and_congr (Service.AccessSession.meets_defined_iff host u es)
    (AccessSession.meets_defined_iff u v cs)

/-- openvpn says that it is exiting, and whether to reconnect was never decided. -/
theorem exit_reads_unset_mReconnect :
    ¬∀ (host : Service.Host) (u : Service.Indeterminate) (es : List Service.Event)
      (v : System.Unset) (cs : List ManagerEvent),
      Meets (Service.AccessSession.step host) (Service.AccessSession.Defined host) (.initial u) es ∧
        Meets AccessSession.step AccessSession.Defined (.initial u v) cs := by
  intro h
  have hservice := (h (.on .linux) .zero
    [⟨.quiet 0, .connectionOpened⟩,
      ⟨.quiet 0, .send 0 (Service.startObject 7 "1194" "template 7")⟩,
      ⟨.quiet 0, .templateFinished 0 []⟩,
      ⟨.quiet 0, .line "1,EXITING,exit-with-notification,,"⟩] ⟨0, false, false, false, false⟩ []).1
  revert hservice
  decide +kernel

end CeloVpn.Client
