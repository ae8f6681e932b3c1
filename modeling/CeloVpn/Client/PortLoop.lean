import CeloVpn.Client.KillSwitch

/-!
# The port loop and its dialog

A connection that times out opens the port dialog, and accepting the dialog
begins a loop that answers every later timeout with the next port. Three flags
decide all of it. Only a reported connection ends the loop, so that a disconnect
of the user does not; and only accepting the dialog makes room for the next one.
-/
namespace CeloVpn.Client
open Runs

/-- A command to start. -/
def Act.IsStart : Act → Prop
  | .sent object => (object.value "cmd".toList).toInt = cmdStart
  | _ => False

namespace Notification

def isTimeout (n : Notification) : Bool := (n.object.value "code".toList).toInt == notifyTimeout

end Notification

/-- The flags of the loop and of its dialog. -/
structure PortLoop where
  mInPortLoop : Bool
  mPortDialogShown : Bool
  portDialog : Bool
  deriving DecidableEq

/-- What happens to them. -/
inductive PortEvent
  | accepted
  | dismissed
  | connected
  | timeout
  deriving DecidableEq

namespace Notification

/-- What a message does to the loop and its dialog. -/
def portEvent (n : Notification) : Option PortEvent :=
  let code := (n.object.value "code".toList).toInt
  if code = notifyStatusChange then
    if (n.object.value "state".toList).toInt = VpnState.connected.toInt then some .connected
    else none
  else if code = notifyTimeout then some .timeout
  else none

theorem portEvent_of_code {n : Notification} {code : ℤ}
    (hcode : (n.object.value "code".toList).toInt = code) (hstatus : code ≠ notifyStatusChange) :
    n.portEvent = if code = notifyTimeout then some .timeout else none := by
  unfold portEvent
  rw [hcode]
  exact if_neg hstatus

end Notification

namespace PortLoop

def step (p : PortLoop) : PortEvent → PortLoop
  | .accepted => ⟨true, false, false⟩
  | .dismissed => { p with portDialog := false }
  | .connected => { p with mInPortLoop := false, portDialog := false }
  | .timeout => if p.mInPortLoop || p.mPortDialogShown then p else ⟨false, true, true⟩

/-- What happens, if anything does. -/
def after (p : PortLoop) (e : Option PortEvent) : PortLoop := e.elim p p.step

theorem mInPortLoop_after (p : PortLoop) (e : Option PortEvent) : (p.after e).mInPortLoop =
    if e = some .accepted then true else if e = some .connected then false else p.mInPortLoop := by
  cases e with
  | none => rfl
  | some e =>
    cases e with
    | timeout =>
      change (if _ then p else _ : PortLoop).mInPortLoop = p.mInPortLoop
      split_ifs with h
      · rfl
      · exact (Bool.or_eq_false_iff.mp (Bool.eq_false_of_not_eq_true h)).1.symm
    | _ => rfl

/-- An open dialog is marked as shown. -/
def Marked (p : PortLoop) : Prop := p.portDialog = true → p.mPortDialogShown = true

theorem Marked.after {p : PortLoop} (h : p.Marked) (e : Option PortEvent) : (p.after e).Marked := by
  cases e with
  | none => exact h
  | some e =>
    cases e with
    | accepted => exact nofun
    | dismissed => exact nofun
    | connected => exact nofun
    | timeout =>
      change (if _ then p else _ : PortLoop).Marked
      split_ifs
      · exact h
      · exact fun _ => rfl

end PortLoop

namespace VPNServiceManager
variable (s : Surroundings) (m : VPNServiceManager)

def portLoop : PortLoop := ⟨m.mInPortLoop, m.mPortDialogShown, m.portDialog⟩

@[simp] theorem portLoop_connectToCore (reaches : Bool) :
    (m.connectToCore reaches).2.portLoop = m.portLoop := by
  unfold connectToCore
  split_ifs <;> rfl

@[simp] theorem portLoop_ensureConnected : (m.ensureConnected s).2.portLoop = m.portLoop := by
  unfold ensureConnected
  dsimp only
  split_ifs
  · rfl
  · exact portLoop_connectToCore m s.reachesAtOnce
  · exact (portLoop_connectToCore _ s.reachesLater).trans (portLoop_connectToCore m s.reachesAtOnce)

@[simp] theorem portLoop_send (object : QJsonObject) :
    (m.send s object).portLoop = m.portLoop := by
  unfold send
  dsimp only
  split_ifs <;> exact portLoop_ensureConnected s m

@[simp] theorem portLoop_sendConnectToVPNRequest :
    (m.sendConnectToVPNRequest s).portLoop = m.portLoop :=
  portLoop_send s _ _

@[simp] theorem portLoop_sendDisconnectFromVPNRequest :
    (m.sendDisconnectFromVPNRequest s).portLoop = m.portLoop :=
  portLoop_send s _ _

/-- A signal opens the dialog or closes it, or leaves it alone. -/
theorem portLoop_emit (signal : Signal) : (m.emit s signal).portLoop =
    { m.portLoop with portDialog :=
        if signal = .timedOut then true
        else if signal = .stateChanged VpnState.connected.toInt then false
        else m.portDialog } := by
  cases signal with
  | stateChanged state =>
    rw [if_neg (by simp)]
    change (runSlot s (.stateChanged state) (m.note (.emitted (.stateChanged state)))
      .wndManagerStateChanged).portLoop = _
    unfold runSlot
    split_ifs <;> rfl
  | _ => rfl

@[simp] theorem portLoop_sendCredentials : (m.sendCredentials s).portLoop = m.portLoop := by
  unfold sendCredentials
  dsimp only
  split_ifs
  · exact portLoop_ensureConnected s m
  · rw [portLoop_emit]
    exact portLoop_ensureConnected s m

theorem portLoop_portDialogResult (accepted isCyclePort : Bool) :
    (m.portDialogResult s accepted isCyclePort).portLoop =
      m.portLoop.step (if accepted then .accepted else .dismissed) := by
  cases accepted with
  | true => exact portLoop_sendConnectToVPNRequest s _
  | false => rfl

theorem portLoop_statusChanged (state : ℤ) : (m.statusChanged s state).portLoop =
    m.portLoop.after (if state = VpnState.connected.toInt then some .connected else none) := by
  unfold statusChanged
  dsimp only
  split_ifs with hconnected hdisconnected
  · rw [portLoop_emit, if_neg (by simp), if_pos (by rw [hconnected])]
    rfl
  · rw [portLoop_emit, portLoop_emit]
    simp [hconnected, PortLoop.after]
    rfl
  · rw [portLoop_emit]
    simp [hconnected, PortLoop.after]
    rfl

theorem portLoop_timedOut : (m.timedOut s).portLoop = m.portLoop.step .timeout := by
  unfold timedOut
  split_ifs with hloop hshown
  · rw [tryNextPort, portLoop_sendConnectToVPNRequest]
    simp [PortLoop.step, portLoop, hloop]
  · simp [PortLoop.step, portLoop, hshown]
  · rw [portLoop_emit]
    simp [PortLoop.step, portLoop, hloop, hshown]

theorem portLoop_notified (n : Notification) :
    (m.notified s n.object).portLoop = m.portLoop.after n.portEvent := by
  unfold notified
  dsimp only
  split_ifs with hempty hstatus hword hip htimeout herror
  · have hcode : (n.object.value "code".toList).toInt = 0 := by
      rw [List.isEmpty_iff.mp hempty]
      rfl
    rw [Notification.portEvent_of_code hcode (by decide)]
    rfl
  · rw [portLoop_statusChanged, Notification.portEvent, if_pos hstatus]
  · rw [Notification.portEvent_of_code hword (by decide), portLoop_emit]
    rfl
  · rw [Notification.portEvent_of_code hip (by decide), portLoop_emit]
    rfl
  · rw [Notification.portEvent_of_code htimeout (by decide), portLoop_timedOut]
    rfl
  · rw [Notification.portEvent_of_code herror (by decide), portLoop_emit]
    rfl
  · rw [Notification.portEvent_of_code rfl hstatus, if_neg htimeout]
    rfl

end VPNServiceManager

namespace System
variable (host : Service.Host)

/-- What an action does to the loop and its dialog. -/
def portEvent (s : System) : Action → Option PortEvent
  | .portDialog _ accepted _ =>
    if s.manager.portDialog then some (if accepted then .accepted else .dismissed) else none
  | .handle _ => s.incoming.head?.bind (·.portEvent)
  | _ => none

/-- The flags of the client move as the flags by themselves do. -/
theorem step_portLoop (s : System) (a : Action) :
    (step host s a).manager.portLoop = s.manager.portLoop.after (s.portEvent a) := by
  cases a with
  | connect t => exact s.manager.portLoop_sendConnectToVPNRequest t
  | disconnect t => exact s.manager.portLoop_sendDisconnectFromVPNRequest t
  | credentials t => exact s.manager.portLoop_sendCredentials t
  | portDialog t accepted isCyclePort =>
    dsimp only [step, portEvent]
    split_ifs with hopen haccepted
    · rw [s.manager.portLoop_portDialogResult t accepted isCyclePort, haccepted]
      rfl
    · rw [s.manager.portLoop_portDialogResult t accepted isCyclePort, if_neg haccepted]
      rfl
    · rfl
  | handle t =>
    dsimp only [step, portEvent]
    cases s.incoming with
    | nil => rfl
    | cons n rest => exact s.manager.portLoop_notified t n
  | accept w =>
    dsimp only [step]
    split <;> rfl
  | execute w line parses =>
    dsimp only [step]
    split <;> rfl
  | service e =>
    dsimp only [step]
    split_ifs <;> rfl
  | socketDisconnected arrives =>
    dsimp only [step]
    split_ifs <;> rfl
  | _ => rfl

theorem notified_timeout (t : Surroundings) {n : Notification} (hn : n.isTimeout = true)
    (m : VPNServiceManager) : m.notified t n.object = m.timedOut t := by
  have hcode : (n.object.value "code".toList).toInt = notifyTimeout := beq_iff_eq.mp hn
  have hempty : ¬n.object.isEmpty = true := by
    intro hempty
    rw [List.isEmpty_iff.mp hempty] at hcode
    exact absurd hcode (by decide)
  unfold VPNServiceManager.notified
  dsimp only
  rw [if_neg hempty, hcode]
  rfl

/-- A client whose attempt times out, until the timeout has been handled. -/
def timingOut : List Action :=
  let t : Surroundings := .server 7 "template 7"
  [.connect t, .accept (.quiet 0), .execute (.quiet 1000) [] true,
    .service ⟨.quiet 2000, .templateFinished 0 []⟩, .service ⟨.quiet 70000, .stateTimer⟩,
    .handle t, .handle t, .handle t]

end System

namespace VPNServiceManager
variable (s : Surroundings) (m : VPNServiceManager)

/-- `ensureConnected` succeeds. -/
def reaches : Bool := m.mConnected || m.link.isSome || s.reachesAtOnce || s.reachesLater

theorem ensureConnected_eq_reaches : (m.ensureConnected s).1 = m.reaches s := by
  obtain ⟨mConnected, mState, _, _, _, _, link, _⟩ := m
  unfold ensureConnected connectToCore reaches
  cases mConnected <;> cases link <;> cases s.reachesAtOnce <;> cases s.reachesLater <;> rfl

theorem isStart_startObject : (Act.sent (startObject s)).IsStart := by
  have hvalue : (startObject s).value "cmd".toList = .ofInt cmdStart := by
    simp [startObject, QJsonObject.value]
  rw [Act.IsStart, hvalue]
  decide

/-- What a request to connect adds to the history. -/
theorem sendConnectToVPNRequest_history : (m.sendConnectToVPNRequest s).history =
    (if m.reaches s then [.sent (startObject s)] else []) ++ .requested false :: m.history := by
  have hreaches : (({ m.note (.requested false) with mUserRequestedDisconnect := false } :
      VPNServiceManager).ensureConnected s).1 = m.reaches s := ensureConnected_eq_reaches s _
  unfold sendConnectToVPNRequest send
  dsimp only
  rw [hreaches]
  split_ifs
  · exact congrArg (Act.sent _ :: ·) (ensureConnected_history s _)
  · exact ensureConnected_history s _

/-- A timeout sends a start exactly in the loop, with the service within reach. -/
theorem timedOut_history : ∃ new, (m.timedOut s).history = new ++ m.history ∧
    ((∀ b ∈ new, ¬b.IsStart) ↔ ¬(m.mInPortLoop = true ∧ m.reaches s = true)) := by
  unfold timedOut
  split_ifs with hloop hshown
  · refine ⟨(if m.reaches s then [.sent (startObject s)] else []) ++ [.requested false], ?_, ?_⟩
    · rw [tryNextPort, sendConnectToVPNRequest_history, List.append_assoc]
      rfl
    · cases hreaches : m.reaches s with
      | true =>
        refine iff_of_false (fun h => ?_) (fun h => h ⟨hloop, rfl⟩)
        exact h (.sent (startObject s)) (by simp) (isStart_startObject s)
      | false =>
        refine iff_of_true (fun b hb => ?_) (fun h => Bool.false_ne_true h.2)
        obtain rfl : b = .requested false := by simpa using hb
        exact id
  · exact ⟨[], rfl, iff_of_true nofun fun h => hloop h.1⟩
  · refine ⟨[.emitted .timedOut], emit_history s _ .timedOut, iff_of_true ?_ fun h => hloop h.1⟩
    intro b hb
    rw [List.mem_singleton.mp hb]
    exact id

end VPNServiceManager

def Action.isDisconnect : Action → Bool
  | .disconnect _ => true
  | _ => false

/-- The two programs, with what the user's actions and the messages the client has
handled say about the loop. -/
structure Watched where
  system : System
  /-- The user has asked to disconnect since the last acceptance of a port dialog. -/
  abandoned : Bool
  /-- A port dialog was accepted, and no connection has been reported since. -/
  looping : Bool

namespace Watched
variable (host : Service.Host)

def step (w : Watched) (a : Action) : Watched where
  system := w.system.step host a
  abandoned := a.isDisconnect || (w.abandoned && w.system.portEvent a != some .accepted)
  looping := if w.system.portEvent a = some .accepted then true
    else if w.system.portEvent a = some .connected then false
    else w.looping

def initial (u : Service.Indeterminate) (v : System.Unset) : Watched := ⟨.initial u v, false, false⟩

/-- After the user's disconnect no timeout sends a start, until a port dialog is
accepted; a start the user asks for meanwhile does not change that. -/
def Respects (w : Watched) (a : Action) : Prop :=
  w.abandoned = true → ∀ n ∈ w.system.handling a, n.isTimeout = true →
    ∀ b ∈ System.acts host w.system a, ¬b.IsStart

/-- No timeout is handled, with the service within reach, between the user's
disconnect from a loop and the next reported connection. -/
def Settled (w : Watched) : Action → Prop
  | .handle t => w.abandoned = true → w.looping = true →
    (∃ n ∈ w.system.incoming.head?, n.isTimeout = true) → w.system.manager.reaches t = false
  | _ => True

/-- The flag of the client is set exactly while a loop is not ended by a connection. -/
theorem step_looping (w : Watched) (a : Action) (h : w.system.manager.mInPortLoop = w.looping) :
    (w.step host a).system.manager.mInPortLoop = (w.step host a).looping := by
  have hmoves := congrArg PortLoop.mInPortLoop (System.step_portLoop host w.system a)
  rw [PortLoop.mInPortLoop_after] at hmoves
  change _ = if _ then true else if _ then false else w.looping
  rw [← h]
  exact hmoves

theorem acts_timeout {s : System} {n : Notification} (t : Surroundings)
    (hn : n ∈ s.incoming.head?) (htimeout : n.isTimeout = true) :
    (∀ b ∈ System.acts host s (.handle t), ¬b.IsStart) ↔
      ¬(s.manager.mInPortLoop = true ∧ s.manager.reaches t = true) := by
  obtain ⟨rest, hincoming⟩ := List.head?_eq_some_iff.mp hn
  obtain ⟨new, hnew, hstart⟩ := s.manager.timedOut_history t
  have hhistory : (System.step host s (.handle t)).manager.history = new ++ s.manager.history := by
    simp only [System.step, hincoming, System.notified_timeout t htimeout, hnew]
  rw [System.acts_eq host hhistory, hstart]

theorem respects_iff_settled (w : Watched) (a : Action)
    (hloop : w.system.manager.mInPortLoop = w.looping) : Respects host w a ↔ Settled w a := by
  cases a with
  | handle t =>
    constructor
    · rintro hrespects habandoned hlooping ⟨n, hn, htimeout⟩
      have hno := (acts_timeout host t hn htimeout).mp (hrespects habandoned n hn htimeout)
      exact Bool.eq_false_of_not_eq_true fun hreaches => hno ⟨hloop.trans hlooping, hreaches⟩
    · intro hsettled habandoned n hn htimeout
      refine (acts_timeout host t hn htimeout).mpr ?_
      rintro ⟨hflag, hreaches⟩
      rw [hsettled habandoned (hloop.symm.trans hflag) ⟨n, hn, htimeout⟩] at hreaches
      cases hreaches
  | _ => exact iff_of_true (fun _ n hn => absurd hn (by simp [System.handling])) trivial

/-- A run reconnects nobody against his will exactly when it handles no timeout
between a disconnect from a loop and the next reported connection. -/
theorem will_respected_iff (u : Service.Indeterminate) (v : System.Unset) (as : List Action) :
    Meets (step host) (Respects host) (initial u v) as ↔
      Meets (step host) Settled (initial u v) as :=
  meets_congr (I := fun w => w.system.manager.mInPortLoop = w.looping) (step_looping host)
    (respects_iff_settled host) rfl

/-- A disconnect that crosses a timeout of the loop is undone by it. -/
theorem will_disregarded_by_timeout :
    ¬∀ (host : Service.Host) (u : Service.Indeterminate) (v : System.Unset) (as : List Action),
      Meets (step host) (Respects host) (initial u v) as := by
  intro h
  set t : Surroundings := .server 7 "template 7"
  set before : List Action := System.timingOut ++
    [.portDialog t true true, .execute (.quiet 71000) [] true,
      .service ⟨.quiet 72000, .templateFinished 1 []⟩, .service ⟨.quiet 140000, .stateTimer⟩,
      .disconnect t, .handle t, .handle t]
  have hlast := meets_iff_split.mp (h (.on .linux) .zero .blocking (before ++ [.handle t]))
    before (.handle t) [] rfl
  obtain ⟨n, hn, htimeout⟩ : ∃ n ∈ (Runs.run (step (.on .linux)) (initial .zero .blocking)
      before).system.incoming.head?, n.isTimeout = true := by decide +kernel
  have hno := (acts_timeout (.on .linux) t hn htimeout).mp
    (hlast (by decide +kernel) n hn htimeout)
  exact absurd hno (by decide +kernel)

end Watched
end CeloVpn.Client
