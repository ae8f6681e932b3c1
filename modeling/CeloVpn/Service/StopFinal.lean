import CeloVpn.Service.Templates
import Mathlib.Data.List.Nodup

/-!
# Whether a stop is final

`stop()` lets the socket, the log file and the process go, and deletes the state
timer if it leaves another state. It takes back no template request and no
reconnect single shot, and a process it has let go still reports its end. What
is left then decides whether a client's `cmdStop` is the end of the connection.
-/
namespace CeloVpn.Service
open Runs

/-- What can wake a stopped manager. -/
structure Residue where
  mState : VpnState
  mStateTimer : Bool
  mSocket : Option QTcpSocket
  mFileSystemWatcher : Bool
  processLives : Bool
  released : ℕ
  reconnectTimers : ℕ
  requests : List TemplateRequest
  mOvpnTemplate : ℤ → Option Template
  currentKey : ℤ

namespace Residue

/-- The socket is let go. -/
def detached (r : Residue) : Residue := { r with mSocket := none }

/-- The process object is let go; one that lives can still signal. -/
def removed (r : Residue) : Residue :=
  { r with processLives := false, released := r.released + r.processLives.toNat }

/-- The state becomes disconnected; only leaving another one deletes the timer. -/
def left (r : Residue) : Residue :=
  { r with
    mState := .disconnected
    mStateTimer := r.mStateTimer && r.mState == .disconnected }

/-- What `stop()` makes of it. -/
def stop (r : Residue) : Residue := { r.removed.detached with mFileSystemWatcher := false }.left

theorem removed_of_dead {r : Residue} (h : r.processLives = false) : r.removed = r := by
  cases r
  cases h
  rfl

/-- No reply that is still to come can launch openvpn. -/
def Barren (r : Residue) : Prop :=
  ∀ request ∈ r.requests, request.failed = false →
    request.serverKey ≠ r.currentKey ∧ r.mOvpnTemplate r.currentKey = none

/-- Nothing is pending that `stop()` leaves alone. -/
structure Clean (r : Residue) : Prop where
  replies : r.Barren
  reconnect : r.reconnectTimers = 0
  timer : r.mStateTimer = true → r.mState ≠ .disconnected
  process : r.processLives = false
  released : r.released = 0

/-- Nothing is pending at all. -/
structure Dormant (r : Residue) : Prop extends Clean r where
  state : r.mState = .disconnected
  socket : r.mSocket = none
  watcher : r.mFileSystemWatcher = false

theorem Dormant.mStateTimer {r : Residue} (hd : r.Dormant) : r.mStateTimer = false :=
  Bool.eq_false_of_not_eq_true fun h => hd.timer h hd.state

/-- What is left after `stop()` is nothing exactly when there was nothing it leaves
alone. -/
theorem dormant_stop_iff {r : Residue} : r.stop.Dormant ↔ r.Clean := by
  constructor
  · intro hd
    have hreleased : r.released + r.processLives.toNat = 0 := hd.released
    have htimer : (r.mStateTimer && r.mState == .disconnected) = false := hd.mStateTimer
    refine ⟨hd.replies, hd.reconnect, fun hrunning hstate => ?_, ?_, ?_⟩
    · simp [hrunning, hstate] at htimer
    · exact Bool.toNat_eq_zero.mp (Nat.eq_zero_of_add_eq_zero_left hreleased)
    · exact Nat.eq_zero_of_add_eq_zero_right hreleased
  · intro hc
    refine ⟨⟨hc.replies, hc.reconnect, fun hrunning _ => ?_, rfl, ?_⟩, rfl, rfl, rfl⟩
    · obtain ⟨htimer, hstate⟩ := Bool.and_eq_true_iff.mp hrunning
      exact hc.timer htimer (beq_iff_eq.mp hstate)
    · change r.released + r.processLives.toNat = 0
      rw [hc.released, hc.process, Bool.toNat_false]

end Residue

namespace Control

/-- No two requests in flight have one number, and the next number is free. -/
def Distinct (c : Control) : Prop :=
  (c.requests.map (·.id)).Nodup ∧ ∀ r ∈ c.requests, r.id < c.nextRequest

variable {host : Host} {c : Control}

theorem Distinct.setState (st : VpnState) (now : ℤ) (hd : c.Distinct) :
    (c.setState st now).Distinct := by
  unfold Control.setState
  split
  · exact hd
  · exact hd

theorem Distinct.request {r : TemplateRequest} (hid : r.id = c.nextRequest) (hd : c.Distinct) :
    (c.request r).Distinct := by
  obtain ⟨hnodup, hlt⟩ := hd
  constructor
  · have hfresh : r.id ∉ c.requests.map (·.id) := by
      intro hmem
      obtain ⟨r', hr', hsame⟩ := List.mem_map.mp hmem
      exact absurd (hlt r' hr') (by rw [hsame, hid]; exact Nat.lt_irrefl _)
    rw [show (c.request r).requests = c.requests ++ [r] from rfl, List.map_append]
    rw [List.map_singleton, ← List.concat_eq_append]
    exact List.Nodup.concat hfresh hnodup
  · intro r' hr'
    rcases List.mem_append.mp hr' with hold | hnew
    · exact Nat.lt_succ_of_lt (hlt r' hold)
    · obtain rfl := List.mem_singleton.mp hnew
      rw [hid]
      exact Nat.lt_succ_self _

theorem Distinct.move {A : Allowed} (hasks : ∀ c r, A.connect c r → c.Asks host r) {c' : Control}
    (hm : Move A c c') (hd : c.Distinct) : c'.Distinct := by
  cases hm with
  | plain a h => exact hd
  | leave st now _ => exact hd.setState st now
  | promote now _ => exact hd.setState .connecting now
  | connect now r h => exact (hd.setState .connecting now).request (hasks _ _ h).1
  | attempt url => exact hd
  | exiting now => exact Distinct.setState (c := c.arm) .connecting now hd
  | arm => exact hd
  | timer => exact hd
  | word word => exact hd
  | processError => exact hd
  | opened => exact hd
  | closed _ _ _ => exact hd
  | gaveUp now _ => exact hd
  | launched args config template _ => exact hd

/-- The number of a request in flight finds that request. -/
theorem Distinct.find {r : TemplateRequest} (hd : c.Distinct) (hr : r ∈ c.requests) :
    c.requests.find? (·.id == r.id) = some r := by
  obtain ⟨r', hfind⟩ := Option.isSome_iff_exists.mp
    ((List.find?_isSome (p := fun r' : TemplateRequest => r'.id == r.id)).mpr
      ⟨r, hr, beq_self_eq_true r.id⟩)
  have hid : (r'.id == r.id) = true :=
    List.find?_some (p := fun r' : TemplateRequest => r'.id == r.id) hfind
  rw [hfind, List.inj_on_of_nodup_map hd.1 (List.mem_of_find?_eq_some hfind) hr
    (beq_iff_eq.mp hid)]

end Control

namespace OpenvpnManager
variable (host : Host) (w : World) (m : OpenvpnManager)

def residue (m : OpenvpnManager) : Residue where
  mState := m.mState
  mStateTimer := m.mStateTimer
  mSocket := m.mSocket
  mFileSystemWatcher := m.mFileSystemWatcher
  processLives := m.processLives
  released := m.released
  reconnectTimers := m.reconnectTimers
  requests := m.requests
  mOvpnTemplate := m.mOvpnTemplate
  currentKey := m.currentKey

@[simp] theorem residue_serviceLog (s : QString) : (m.serviceLog s).residue = m.residue := rfl

@[simp] theorem residue_onConnection (client : ℕ)
    (f : QVPNClientConnection → QVPNClientConnection) :
    (m.onConnection client f).residue = m.residue := rfl

@[simp] theorem residue_openvpnRunning :
    (m.openvpnRunning host w).2.residue = m.residue := by
  obtain ⟨pid, asked, log, h⟩ := openvpnRunning_eq host w m
  rw [h]
  rfl

@[simp] theorem residue_netDown (down : Bool) : (m.netDown host w down).residue = m.residue := by
  obtain ⟨switched, log, h⟩ := netDown_eq host w m down
  rw [h]
  rfl

@[simp] theorem residue_disconnectFromOpenvpnSocket :
    m.disconnectFromOpenvpnSocket.residue = m.residue.detached := by
  unfold disconnectFromOpenvpnSocket
  split_ifs with h
  · rfl
  · have hnone : m.mSocket = none := Option.not_isSome_iff_eq_none.mp h
    simp only [residue, Residue.detached, hnone]

@[simp] theorem residue_signalTerm (socket : QTcpSocket) :
    (m.signalTerm socket).residue = m.residue := by
  unfold signalTerm
  split_ifs
  · rfl
  · unfold writeSocket
    split <;> rfl
  · rfl

@[simp] theorem residue_waitForEnd (n : ℕ) : (m.waitForEnd host w n).residue = m.residue := by
  induction n generalizing m with
  | zero => rfl
  | succ n ih =>
    unfold waitForEnd
    dsimp only
    split_ifs
    · rw [ih, residue_openvpnRunning]
    · exact residue_openvpnRunning host w m

@[simp] theorem residue_removeProcess : m.removeProcess.residue = m.residue.removed := by
  unfold removeProcess residue Residue.removed
  cases h : m.processLives <;> rfl

/-- Whether or not a socket was attached, none is once `stop()` disconnects. -/
theorem residue_softStop :
    (m.softStop host w).residue.detached = m.residue.removed.detached := by
  unfold softStop
  dsimp only
  cases m.mSocket with
  | none => split_ifs <;> simp
  | some socket => split_ifs <;> simp [Residue.detached, Residue.removed]

@[simp] theorem residue_stopObfsproxy : (m.stopObfsproxy host w).residue = m.residue := by
  have hrunning : (m.obfsproxyRunning host w).2.residue = m.residue := by
    unfold obfsproxyRunning
    dsimp only
    split
    · split_ifs <;> rfl
    · rfl
  unfold stopObfsproxy
  dsimp only
  split_ifs
  · split <;> simpa only [residue_serviceLog] using hrunning
  · exact hrunning

/-- A process that lives makes openvpn count as running. -/
theorem openvpnRunning_of_processLives (h : m.processLives = true) :
    (m.openvpnRunning host w).1 = true := by
  unfold openvpnRunning scanProcesses
  simp only [h, Bool.true_or]
  cases host.platform <;> rfl

theorem residue_setState_disconnected :
    (m.setState w .disconnected).residue = m.residue.left := by
  unfold setState
  split_ifs with h
  · have hne : (m.mState == .disconnected) = false := beq_eq_false_iff_ne.mpr h.symm
    simp only [Residue.left, residue, hne, Bool.and_false]
    rfl
  · have heq : m.mState = .disconnected := (not_not.mp h).symm
    simp [Residue.left, residue, heq]

theorem residue_stop : (m.stop host w).residue = m.residue.stop := by
  have hended : ∀ m' : OpenvpnManager, m'.residue.detached = m.residue.removed.detached →
      (setState w .disconnected { m'.disconnectFromOpenvpnSocket.stopObfsproxy host w with
        mFileSystemWatcher := false }).residue = m.residue.stop := by
    intro m' h
    have hstopped : (m'.disconnectFromOpenvpnSocket.stopObfsproxy host w).residue =
        m.residue.removed.detached := by
      rw [residue_stopObfsproxy, residue_disconnectFromOpenvpnSocket, h]
    rw [residue_setState_disconnected, Residue.stop, ← hstopped]
    rfl
  have hlooked : (((m.note .stopped).openvpnRunning host w).2).residue = m.residue :=
    residue_openvpnRunning host w (m.note .stopped)
  unfold stop
  dsimp only
  split_ifs with hrunning
  · refine hended _ ?_
    rw [residue_softStop, hlooked]
  · have hdead : m.residue.processLives = false := by
      by_contra hlives
      exact hrunning (openvpnRunning_of_processLives host w (m.note .stopped)
        (Bool.eq_true_of_not_eq_false hlives))
    refine hended _ ?_
    rw [hlooked, Residue.removed_of_dead hdead]

@[simp] theorem residue_socketError (error : ℤ) :
    (m.socketError error).residue = m.residue.detached := by
  unfold socketError
  split_ifs
  · exact residue_disconnectFromOpenvpnSocket (m.serviceLog _)
  · rfl

theorem residue_connectToOpenvpnSocket : ∃ socket, (m.connectToOpenvpnSocket w).residue =
    { m.residue with mSocket := socket } := by
  unfold connectToOpenvpnSocket
  dsimp only
  have hdetached : ((m.serviceLog "connecting to openvpn management socket".toList)
      |>.disconnectFromOpenvpnSocket).residue = m.residue.detached :=
    residue_disconnectFromOpenvpnSocket (m.serviceLog _)
  generalize ((m.serviceLog "connecting to openvpn management socket".toList)
    |>.disconnectFromOpenvpnSocket) = m' at hdetached ⊢
  have hset : ∀ socket, { m'.residue with mSocket := socket } =
      { m.residue with mSocket := socket } := by
    intro socket
    rw [hdetached]
    rfl
  split_ifs
  · refine ⟨none, .trans ?_ (hset none)⟩
    rw [residue_serviceLog, residue_socketError]
    rfl
  · exact ⟨_, hset _⟩

/-- Killing a running openvpn leaves what it finds or what `stop()` leaves. -/
theorem residue_killRunningOpenvpn : (m.killRunningOpenvpn host w).residue = m.residue ∨
    (m.killRunningOpenvpn host w).residue = m.residue.stop := by
  have hlooked : ((m.serviceLog "KillRunningOV() enter".toList).openvpnRunning host w).2.residue =
      m.residue := residue_openvpnRunning host w (m.serviceLog _)
  unfold killRunningOpenvpn
  dsimp only
  rw [residue_serviceLog]
  split_ifs
  · refine .inr ?_
    obtain ⟨socket, hsocket⟩ := residue_connectToOpenvpnSocket w
      ((m.serviceLog "KillRunningOV() enter".toList).openvpnRunning host w).2
    rw [residue_openvpnRunning, residue_stop, hsocket, hlooked]
    rfl
  · exact .inl hlooked

theorem residue_writeConfigFile (h : (m.writeConfigFile host w).1 = false) :
    (m.writeConfigFile host w).2.residue = m.residue := by
  unfold writeConfigFile at h ⊢
  dsimp only at h ⊢
  split_ifs at h ⊢
  · rfl
  · cases htemplate : m.mOvpnTemplate (currentKey { m with configFile := [] }) with
    | none => rfl
    | some template =>
      rw [htemplate] at h
      cases h

theorem residue_continueConnecting (h : (m.writeConfigFile host w).1 = false) :
    (m.continueConnecting host w).residue = m.residue := by
  unfold continueConnecting
  dsimp only
  rw [h, Bool.not_false, if_pos rfl]
  exact residue_writeConfigFile host w m h

/-- A command other than `cmdStart` leaves what it finds or what `stop()` leaves. -/
theorem residue_command (client : ℕ) (line : QByteArray) {jObj : QJsonObject}
    (h : (jObj.value "cmd".toList).toInt ≠ cmdStart) :
    (m.command host w client line jObj).residue = m.residue ∨
      (m.command host w client line jObj).residue = m.residue.stop := by
  unfold command
  dsimp only
  split_ifs
  · exact residue_killRunningOpenvpn host w (m.serviceLog _)
  · exact .inl (by simp only [residue_onConnection, residue_serviceLog])
  · exact .inl rfl
  · exact .inl (residue_netDown host w (m.serviceLog _) true)
  · exact .inr (residue_stop host w ((m.serviceLog _).serviceLog _))
  · exact .inl rfl

end OpenvpnManager

/-- A client's command calls `start()`. -/
def Callback.isStart : Callback → Bool
  | .command _ _ jObj => (jObj.value "cmd".toList).toInt == cmdStart
  | _ => false

/-- A timer of the manager, its log file, its socket or a process of it calls back. -/
def Callback.isInternal : Callback → Bool
  | .connectionOpened => false
  | .connectionClosed _ => false
  | .command _ _ _ => false
  | .templateError _ => false
  | .templateFinished _ _ => false
  | _ => true

namespace OpenvpnManager
variable (host : Host) {m : OpenvpnManager} {e : Event}

theorem barren_failRequest (request : ℕ) (hb : m.residue.Barren) :
    (m.failRequest request).residue.Barren := by
  intro r hr hsuccess
  obtain ⟨r', hr', rfl⟩ := List.mem_map.mp hr
  split_ifs at hsuccess ⊢
  exact hb r' hr' hsuccess

theorem barren_takeRequest (request : ℕ) (hb : m.residue.Barren) :
    (m.takeRequest request).residue.Barren :=
  fun r hr => hb r (List.mem_of_mem_eraseP hr)

/-- A reply that cannot launch leaves the template of the moment as it is. -/
theorem barren_supplied {r : TemplateRequest} (hr : r ∈ m.requests) (hsuccess : r.failed = false)
    (request : ℕ) (bytes : QByteArray) (hb : m.residue.Barren) :
    (m.supplied r request bytes).residue.Barren ∧
      (m.supplied r request bytes).mOvpnTemplate (m.supplied r request bytes).currentKey = none := by
  obtain ⟨hkey, hnone⟩ := hb r hr hsuccess
  have htemplate : (m.supplied r request bytes).mOvpnTemplate
      (m.supplied r request bytes).currentKey = none := by
    rw [supplied_template]
    exact (if_neg (Ne.symm hkey)).trans hnone
  exact ⟨fun r' hr' hsuccess' =>
    ⟨(hb r' (List.mem_of_mem_eraseP hr') hsuccess').1, htemplate⟩, htemplate⟩

theorem residue_step_of_success {r : TemplateRequest} (hr : r ∈ m.finishing e.callback)
    (hsuccess : r.failed = false) (hb : m.residue.Barren) : ∃ request bytes,
      (step host m e).residue = (m.supplied r request bytes).residue := by
  obtain ⟨request, bytes, hstep⟩ := step_of_success host hr hsuccess
  obtain ⟨-, hnone⟩ := barren_supplied (finishing_mem hr) hsuccess request bytes hb
  refine ⟨request, bytes, ?_⟩
  rw [hstep]
  refine residue_continueConnecting host e.world _ ?_
  rw [writeConfigFile_fst, hnone, Option.isSome_none, Bool.and_false]

/-- Nothing of a dormant manager can call it back by itself. -/
theorem residue_deliver_of_dormant (w : World) {callback : Callback} (hd : m.residue.Dormant)
    (hinternal : callback.isInternal = true) : (m.deliver host w callback).residue = m.residue := by
  have hsocket : m.mSocket = none := hd.socket
  have hlives : m.processLives = false := hd.process
  have hreleased : ¬ 0 < m.released := fun h => Nat.ne_of_gt h hd.released
  cases callback with
  | connectionOpened => cases hinternal
  | connectionClosed client => cases hinternal
  | command client line jObj => cases hinternal
  | templateError request => cases hinternal
  | templateFinished request bytes => cases hinternal
  | reconnectTimeout =>
    have harmed : ¬ 0 < m.reconnectTimers := fun h => Nat.ne_of_gt h hd.reconnect
    rw [deliver, if_neg harmed]
  | stateTimer =>
    have hstopped : m.mStateTimer = false := hd.mStateTimer
    rw [deliver, hstopped, if_neg Bool.false_ne_true]
  | logFileChanged content =>
    have hunwatched : m.mFileSystemWatcher = false := hd.watcher
    rw [deliver, hunwatched, if_neg Bool.false_ne_true]
  | socketReadyRead bytes =>
    dsimp only [deliver]
    rw [hsocket]
  | socketError error => rw [deliver, hsocket, Option.isSome_none, if_neg Bool.false_ne_true]
  | socketConnected =>
    dsimp only [deliver]
    rw [hsocket]
  | socketStatus isOpen isValid connected =>
    simp only [deliver, residue, hsocket, Option.map_none]
    rfl
  | processError error =>
    rw [deliver, hlives, if_neg (not_or.mpr ⟨Bool.false_ne_true, hreleased⟩)]
  | processDied wasReleased exitCode crashed =>
    dsimp only [deliver]
    rw [hlives, if_neg hreleased, if_neg Bool.false_ne_true]
    exact congrArg residue (ite_self m)

theorem dormant_step (hd : m.residue.Dormant) (he : e.callback.isStart = false) :
    (step host m e).residue.Dormant := by
  obtain ⟨w, callback⟩ := e
  have hsame : ∀ {r : Residue}, r = m.residue ∨ r = m.residue.stop → r.Dormant := by
    rintro r (rfl | rfl)
    · exact hd
    · exact Residue.dormant_stop_iff.mpr hd.toClean
  have hstop : ∀ m' : OpenvpnManager, m'.residue.Clean → (m'.stop host w).residue.Dormant := by
    intro m' hc
    rw [residue_stop]
    exact Residue.dormant_stop_iff.mpr hc
  by_cases hsuccess : ∃ r ∈ m.finishing callback, r.failed = false
  · obtain ⟨r, hr, hsuccess⟩ := hsuccess
    obtain ⟨request, bytes, hresidue⟩ :=
      residue_step_of_success host (e := ⟨w, callback⟩) hr hsuccess hd.replies
    rw [hresidue]
    exact { hd with
      replies := (barren_supplied (finishing_mem (e := ⟨w, callback⟩) hr) hsuccess request bytes
        hd.replies).1 }
  unfold step
  set m₀ : OpenvpnManager := { m with asked := 0 }
  cases callback with
  | connectionOpened => exact hd
  | connectionClosed client => exact hd
  | command client line jObj =>
    dsimp only [deliver]
    split_ifs
    · exact hsame (residue_command host w m₀ client line (beq_eq_false_iff_ne.mp he))
    · exact hd
  | templateError request =>
    dsimp only [deliver]
    split
    · exact hstop _ { hd.toClean with replies := barren_failRequest request hd.replies }
    · exact hd
  | templateFinished request bytes =>
    dsimp only [deliver]
    split
    · rename_i reply hfind
      have hfailed : reply.failed = true :=
        Bool.eq_true_of_not_eq_false fun h => hsuccess ⟨reply, hfind, h⟩
      rw [getTemplateFinished, hfailed, if_pos rfl]
      exact hstop (serviceLog (takeRequest request m₀) _)
        { hd.toClean with replies := barren_takeRequest request hd.replies }
    · exact hd
  | _ => exact hsame (.inl (residue_deliver_of_dormant host w (m := m₀) hd rfl))

/-- No reply of a dormant manager launches. -/
theorem acts_of_barren (hb : m.residue.Barren) : ∀ a ∈ acts host m e, a.launch = none := by
  by_cases hsuccess : ∃ r ∈ m.finishing e.callback, r.failed = false
  · obtain ⟨r, hr, hsuccess⟩ := hsuccess
    obtain ⟨request, bytes, hstep⟩ := step_of_success host hr hsuccess
    obtain ⟨-, hnone⟩ := barren_supplied (finishing_mem hr) hsuccess request bytes hb
    have hfails : ¬(m.supplied r request bytes).CanLaunch host e.world := by
      rintro ⟨hwritten, -⟩
      rw [writeConfigFile_fst, hnone, Option.isSome_none, Bool.and_false] at hwritten
      cases hwritten
    exact fun a ha => (quiet_of_fails host hstep rfl hfails a ha).1
  · exact acts_of_no_success host fun r hr =>
      Bool.eq_true_of_not_eq_false fun h => hsuccess ⟨r, hr, h⟩

/-- How often openvpn was launched. -/
def launches (m : OpenvpnManager) : ℕ := m.history.countP Act.isLaunch

/-- Until the next `start()` the state stays disconnected and nothing is launched,
whatever the event loop delivers. -/
def Final (m : OpenvpnManager) : Prop :=
  ∀ es, (∀ e ∈ es, e.callback.isStart = false) →
    Throughout (step host) (fun m' => m'.mState = .disconnected ∧ m'.launches = m.launches) m es

theorem launches_step (m : OpenvpnManager) (e : Event) :
    (step host m e).launches = (acts host m e).countP Act.isLaunch + m.launches := by
  have hpermits : Permits host Allowed.any m e := permits_any host m fun _ _ => trivial
  obtain ⟨new, hnew, -⟩ := Control.adds_of_moves (step_moves host m hpermits)
  rw [taken_history] at hnew
  have hhistory : (step host m e).history = new ++ m.history := hnew
  rw [acts_eq host hhistory, launches, hhistory, List.countP_append]
  rfl

theorem final_of_dormant (hd : m.residue.Dormant) : Final host m := by
  intro es hes
  have hkept : Throughout (step host)
      (fun m' => m'.residue.Dormant ∧ m'.launches = m.launches) m es := by
    refine throughout_of_forall (fun m' e he hm' => ?_) ⟨hd, rfl⟩ hes
    have hnone : (acts host m' e).countP Act.isLaunch = 0 := by
      rw [List.countP_eq_zero]
      intro a ha
      simp [Act.isLaunch, acts_of_barren host hm'.1.replies a ha]
    refine ⟨dormant_step host hm'.1 he, ?_⟩
    rw [launches_step, hnone, Nat.zero_add, hm'.2]
  exact hkept.imp fun m' hm' => ⟨hm'.1.state, hm'.2⟩

-- What is left pending does wake it: an attached socket needs one line more.

theorem mSocket_connectToOpenvpnSocket {w : World} (h : ∀ n, w.refused n = false)
    (m : OpenvpnManager) :
    (m.connectToOpenvpnSocket w).mSocket = some ⟨true, true, false, []⟩ := by
  unfold connectToOpenvpnSocket
  dsimp only
  rw [if_neg (by simp [h])]
  rfl

theorem openvpnRunning_busy (now : ℤ) (m : OpenvpnManager) :
    (m.openvpnRunning host (.busy now)).1 = true := by
  have hwindows : QString.contains "4242 openvpn.exe".toList "openvpn.exe".toList = true := by
    decide
  have hdarwin : (QString.trimmed "4242 openvpn.exe".toList != "0".toList &&
      !"4242 openvpn.exe".toList.isEmpty) = true := by decide
  have hscan : ∀ running m, (scanProcesses host (.busy now) running m).1 = true := by
    intro running m
    have hlisting : (World.busy now).listing m.asked = ⟨0, "4242 openvpn.exe".toList⟩ := rfl
    unfold scanProcesses
    rw [hlisting]
    cases host.platform with
    | windows => simp only [hwindows, Bool.or_true, Bool.true_or]
    | darwin => simp only [hdarwin, Bool.or_true]
    | linux =>
      cases running with
      | true => rfl
      | false => rfl
  exact hscan _ _

theorem openvpnRunning_quiet (now : ℤ) (hlives : m.processLives = false)
    (hsocket : m.mSocket = none) : (m.openvpnRunning host (.quiet now)).1 = false := by
  have hclosed : m.socketIsOpen = false := by simp [socketIsOpen, hsocket]
  have hscan : ∀ m, (scanProcesses host (.quiet now) false m).1 = false := by
    intro m
    have hlisting : (World.quiet now).listing m.asked = ⟨1, []⟩ := rfl
    unfold scanProcesses
    rw [hlisting]
    cases host.platform <;> rfl
  unfold openvpnRunning
  simp only [hlives, hclosed]
  exact hscan _

theorem actOnStateWord_reconnecting (w : World) (isnew : Bool) (s : QString) (m : OpenvpnManager) :
    (m.actOnStateWord host w isnew "RECONNECTING".toList s).mState = .connecting := by
  have hword : ∀ known ∈ ["CONNECTED", "CONNECTING", "TCP_CONNECT", "WAIT", "EXITING"],
      QString.equalsFolded "RECONNECTING".toList known.toList = false := by decide
  have hknown : QString.equalsFolded "RECONNECTING".toList "RECONNECTING".toList = true := by
    decide
  simp only [List.forall_mem_cons] at hword
  obtain ⟨h1, h2, h3, h4, h5, -⟩ := hword
  unfold actOnStateWord
  rw [h1, h2, h3, h4, h5, hknown]
  exact setState_mState w m .connecting

/-- A line of an attached socket turns the manager to connecting. -/
theorem line_wakes (w : World) (h : m.mSocket = some ⟨true, true, false, []⟩) :
    (step host m ⟨w, .line "1,RECONNECTING,tls,"⟩).mState = .connecting := by
  have hlines : socketLines ([] ++ QString.toLatin1 ("1,RECONNECTING,tls,".toList ++ ['\n'])) =
      ["1,RECONNECTING,tls,".toList] := by decide +kernel
  have hword : stateWordOf "1,RECONNECTING,tls,".toList = some "RECONNECTING".toList := by
    decide +kernel
  have hline : ∀ m : OpenvpnManager,
      (m.parseSocketLine host w "1,RECONNECTING,tls,".toList).mState = .connecting := by
    intro m
    have hact : ∀ m', (actOnStateWord host w ("RECONNECTING".toList != m.mPreviousStateWord)
        "RECONNECTING".toList "1,RECONNECTING,tls,".toList m').mState = .connecting :=
      actOnStateWord_reconnecting host w _ _
    rw [parseSocketLine_of_stateWord host w m hword]
    exact hact _
  unfold step Callback.line
  simp only [deliver, h, socketReadyRead, hlines, List.foldl_cons, List.foldl_nil]
  exact hline _

/-- A tick that finds openvpn running attaches to it. -/
theorem tick_attaches (now : ℤ) (hd : m.mState = .disconnected) (hs : m.mSocket = none)
    (ht : m.mStateTimer = true) :
    (step host m ⟨.busy now, .stateTimer⟩).mSocket = some ⟨true, true, false, []⟩ := by
  have hpolled : ∀ m' : OpenvpnManager, m'.mState = .disconnected → m'.mSocket = none →
      (m'.pollOpenvpn host (.busy now)).mState = .disconnected ∧
        (m'.pollOpenvpn host (.busy now)).mSocket = some ⟨true, true, false, []⟩ := by
    intro m' hd hs
    have hresidue := residue_openvpnRunning host (.busy now) m'
    have hrunning := openvpnRunning_busy host now m'
    unfold pollOpenvpn
    generalize m'.openvpnRunning host (.busy now) = running at hresidue hrunning ⊢
    obtain ⟨found, m₁⟩ := running
    have hstate : m₁.mState = .disconnected := (congrArg Residue.mState hresidue).trans hd
    have hnone : m₁.mSocket = none := (congrArg Residue.mSocket hresidue).trans hs
    dsimp only at hrunning ⊢
    rw [if_pos hrunning, hnone]
    dsimp only
    refine ⟨?_, mSocket_connectToOpenvpnSocket (fun _ => rfl) m₁⟩
    exact (congrArg Control.mState (control_connectToOpenvpnSocket (.busy now) m₁)).trans hstate
  obtain ⟨hstate, hsocket⟩ :=
    hpolled (serviceLog { m with asked := 0 } "checkState called".toList) hd hs
  have hkept : ∀ m' : OpenvpnManager, m'.mState = .disconnected →
      m'.checkTimeout host (.busy now) = m' :=
    fun m' h => if_neg (by rw [h]; decide)
  unfold step
  dsimp only [deliver]
  rw [if_pos ht, checkState, hkept _ hstate]
  exact hsocket

/-- A process that ended well makes the manager attach to its successor. -/
theorem processDied_attaches (now : ℤ) (hr : 0 < m.released) :
    (step host m ⟨.quiet now, .processDied true 0 false⟩).mSocket =
      some ⟨true, true, false, []⟩ := by
  unfold step
  dsimp only [deliver]
  rw [if_pos rfl, if_pos hr]
  unfold processDied processFinished
  simp only [Bool.false_eq_true, if_false, ne_eq, not_true_eq_false]
  exact mSocket_connectToOpenvpnSocket (fun _ => rfl) _

/-- A reconnect timeout that finds openvpn gone begins an attempt. -/
theorem reconnectTimeout_connects (now : ℤ) (hl : m.processLives = false) (hs : m.mSocket = none)
    (ht : 0 < m.reconnectTimers) :
    (step host m ⟨.quiet now, .reconnectTimeout⟩).mState = .connecting := by
  have hconnects : ∀ m' : OpenvpnManager, m'.processLives = false → m'.mSocket = none →
      (m'.reconnectTimeout host (.quiet now)).mState = .connecting := by
    intro m' hl hs
    have hrunning := openvpnRunning_quiet host now
      (m := { m' with mReconnectAttempt := m'.mReconnectAttempt + 1 }) hl hs
    unfold reconnectTimeout
    dsimp only at hrunning ⊢
    rw [hrunning, if_neg Bool.false_ne_true]
    exact startConnecting_mState host _ _
  unfold step
  dsimp only [deliver]
  rw [if_pos ht]
  exact hconnects _ hl hs

/-- A reply in flight that can launch does so when it succeeds. -/
theorem reply_launches (now : ℤ) (hd : m.control.Distinct) {r : TemplateRequest}
    (hr : r ∈ m.requests) (hsuccess : r.failed = false)
    (hfound : r.serverKey = m.currentKey ∨ (m.mOvpnTemplate m.currentKey).isSome = true) :
    m.launches < (step host m ⟨.quiet now, .templateFinished r.id []⟩).launches := by
  have hfinishing : r ∈ m.finishing (.templateFinished r.id []) := hd.find hr
  obtain ⟨request, bytes, hstep⟩ :=
    step_of_success host (e := ⟨.quiet now, .templateFinished r.id []⟩) hfinishing hsuccess
  have hlaunches := (canLaunch_supplied host m (.quiet now) r request bytes).mpr
    ⟨rfl, hfound, .inr rfl⟩
  obtain ⟨dns, template, -, ⟨a, ha, hlaunch⟩, -⟩ := launch_of_launches host hstep rfl hlaunches
  have hpos : 0 < (acts host m ⟨.quiet now, .templateFinished r.id []⟩).countP Act.isLaunch :=
    List.countP_pos_iff.mpr ⟨a, ha, by rw [Act.isLaunch, hlaunch, Option.isSome_some]⟩
  rw [launches_step]
  exact Nat.lt_add_of_pos_left hpos

/-- Each thing left pending has a continuation that wakes the manager. -/
theorem clean_of_final (hd : m.control.Distinct) (hs : m.mSocket = none)
    (hl : m.processLives = false) (hf : Final host m) : m.residue.Clean where
  replies := by
    intro r hr hsuccess
    by_contra hcan
    have hfound : r.serverKey = m.currentKey ∨ (m.mOvpnTemplate m.currentKey).isSome = true := by
      rw [Option.isSome_iff_ne_none]
      exact Decidable.or_iff_not_not_and_not.mpr fun h => hcan ⟨h.1, not_not.mp h.2⟩
    have hsame := (hf [⟨.quiet 0, .templateFinished r.id []⟩] (by simp [Callback.isStart])).2.2
    exact absurd hsame (Nat.ne_of_gt (reply_launches host 0 hd hr hsuccess hfound))
  reconnect := by
    by_contra hne
    have hstate := (hf [⟨.quiet 0, .reconnectTimeout⟩] (by simp [Callback.isStart])).2.1
    rw [reconnectTimeout_connects host 0 hl hs (Nat.pos_of_ne_zero hne)] at hstate
    cases hstate
  timer := by
    intro htimer hdisconnected
    have hstate := (hf [⟨.busy 0, .stateTimer⟩, ⟨.quiet 0, .line "1,RECONNECTING,tls,"⟩]
      (by simp [Callback.isStart, Callback.line])).2.2.1
    rw [line_wakes host _ (tick_attaches host 0 hdisconnected hs htimer)] at hstate
    cases hstate
  process := hl
  released := by
    by_contra hne
    have hstate := (hf [⟨.quiet 0, .processDied true 0 false⟩,
      ⟨.quiet 0, .line "1,RECONNECTING,tls,"⟩] (by simp [Callback.isStart, Callback.line])).2.2.1
    rw [line_wakes host _ (processDied_attaches host 0 (Nat.pos_of_ne_zero hne))] at hstate
    cases hstate

theorem taken_distinct (hd : m.control.Distinct) : (m.taken e.callback).Distinct := by
  cases e.callback with
  | templateError request =>
    have hids : (m.failRequest request).requests.map (·.id) = m.requests.map (·.id) := by
      rw [failRequest, List.map_map]
      refine List.map_congr_left fun r _ => ?_
      rw [Function.comp_apply]
      split_ifs <;> rfl
    refine ⟨?_, fun r hr => ?_⟩
    · change ((m.failRequest request).requests.map (·.id)).Nodup
      rw [hids]
      exact hd.1
    · obtain ⟨r', hr', rfl⟩ := List.mem_map.mp hr
      split_ifs
      · exact hd.2 r' hr'
      · exact hd.2 r' hr'
  | templateFinished request bytes =>
    have hsublist : (m.takeRequest request).requests.Sublist m.requests := List.eraseP_sublist
    exact ⟨(hsublist.map _).nodup hd.1, fun r hr => hd.2 r (hsublist.subset hr)⟩
  | _ => exact hd

theorem step_distinct (m : OpenvpnManager) (e : Event) (hd : m.control.Distinct) :
    (step host m e).control.Distinct := by
  exact Moves.invariant (fun _ _ hm hd => hd.move (fun _ _ hasks => hasks) hm)
    (step_moves host m (permits_asks host m)) (taken_distinct hd)

theorem residue_step_cmdStop (w : World) {client : ℕ} (line : QByteArray) {jObj : QJsonObject}
    (hclient : m.connections.any (·.id == client) = true)
    (hcmd : (jObj.value "cmd".toList).toInt = cmdStop) :
    (step host m ⟨w, .command client line jObj⟩).residue = m.residue.stop := by
  have hcommand : ∀ m' : OpenvpnManager,
      (m'.command host w client line jObj).residue = m'.residue.stop := by
    intro m'
    unfold command
    simp only [hcmd]
    exact residue_stop host w ((m'.serviceLog _).serviceLog _)
  unfold step
  dsimp only [deliver]
  rw [if_pos hclient]
  exact hcommand { m with asked := 0 }

/-- A client's stop is final exactly when nothing is pending that `stop()` leaves
alone. -/
theorem stop_final_iff (hr : ReachableBy host m) (w : World) (client : ℕ) (line : QByteArray)
    (jObj : QJsonObject) (hclient : m.connections.any (·.id == client) = true)
    (hcmd : (jObj.value "cmd".toList).toInt = cmdStop) :
    Final host (step host m ⟨w, .command client line jObj⟩) ↔ m.residue.Clean := by
  have hstop := residue_step_cmdStop host w line hclient hcmd
  have hdistinct : m.control.Distinct := by
    refine hr.invariant (P := fun m => m.control.Distinct) ?_ (step_distinct host)
    rintro _ ⟨u, rfl⟩
    exact ⟨List.nodup_nil, nofun⟩
  constructor
  · intro hf
    have hclean := clean_of_final host (step_distinct host m _ hdistinct)
      (congrArg Residue.mSocket hstop) (congrArg Residue.processLives hstop) hf
    rw [← Residue.dormant_stop_iff, ← hstop]
    exact { hclean with
      state := congrArg Residue.mState hstop
      socket := congrArg Residue.mSocket hstop
      watcher := congrArg Residue.mFileSystemWatcher hstop }
  · intro hc
    exact final_of_dormant host (hstop ▸ Residue.dormant_stop_iff.mpr hc)

/-- An established connection whose template arrived stays down once it is stopped. -/
theorem stop_final_of_connection : ∃ es : List Event,
    (run (step (.on .linux)) (initial .zero) es).mState = .connected ∧
      Final (.on .linux) (step (.on .linux) (run (step (.on .linux)) (initial .zero) es)
        ⟨.quiet 4000, .send 0 stopObject⟩) :=
  ⟨[⟨.quiet 0, .connectionOpened⟩,
      ⟨.quiet 1000, .send 0 (startObject 7 "1194" "template 7")⟩,
      ⟨.quiet 2000, .templateFinished 0 []⟩,
      ⟨.busy 3000, .line "1,CONNECTED,SUCCESS,10.8.0.6,"⟩],
    by decide +kernel,
    (stop_final_iff (.on .linux) ⟨initial .zero, ⟨.zero, rfl⟩, _, rfl⟩ (.quiet 4000) 0 [] stopObject
      (by decide +kernel) (by decide +kernel)).mpr
      ⟨by unfold Residue.Barren; decide +kernel, by decide +kernel, by decide +kernel,
        by decide +kernel, by decide +kernel⟩⟩

/-- A template reply that comes after the stop launches openvpn. -/
theorem stop_fails_of_late_reply : ¬∀ (host : Host) (m : OpenvpnManager) (w : World) (client : ℕ)
    (line : QByteArray) (jObj : QJsonObject), ReachableBy host m →
      m.connections.any (·.id == client) = true → (jObj.value "cmd".toList).toInt = cmdStop →
      Final host (step host m ⟨w, .command client line jObj⟩) := by
  intro h
  have hfinal := h (.on .linux) (run (step (.on .linux)) (initial .zero)
      [⟨.quiet 0, .connectionOpened⟩,
        ⟨.quiet 1000, .send 0 (startObject 7 "1194" "template 7")⟩])
    (.quiet 2000) 0 [] stopObject ⟨initial .zero, ⟨.zero, rfl⟩, _, rfl⟩ (by decide +kernel)
    (by decide +kernel)
  have hlast := (hfinal [⟨.quiet 3000, .templateFinished 0 []⟩] (by decide +kernel)).2.2
  exact absurd hlast (by decide +kernel)

end OpenvpnManager
end CeloVpn.Service
