import CeloVpn.Service.Control

/-!
# The manager simulates the abstract manager

What each function of the manager does to the abstract state, as a path of
moves. The invariants are proved of the moves, and no later proof splits the
branches of a handler again.
-/
namespace CeloVpn.Service

namespace OpenvpnManager

/-- The abstract state of a manager. -/
def control (m : OpenvpnManager) : Control where
  mState := m.mState
  mStateTimer := m.mStateTimer
  requests := m.requests
  nextRequest := m.nextRequest
  starts := m.starts
  mTemplateUrl := m.mTemplateUrl
  reconnectTimers := m.reconnectTimers
  mPreviousStateWord := m.mPreviousStateWord
  reported := m.connections.map (·.m_state)
  history := m.history

end OpenvpnManager

/-- Only a change of state touches the cached state of a connection. -/
theorem QVPNClientConnection.receive_m_state (c : QVPNClientConnection) {signal : Signal}
    (h : signal.isState = false) : (c.receive signal).m_state = c.m_state := by
  cases signal <;> first | rfl | simp [Signal.isState] at h

namespace OpenvpnManager
variable (host : Host) (w : World) (m : OpenvpnManager) {A : Allowed}

@[simp] theorem control_serviceLog (s : QString) : (m.serviceLog s).control = m.control := rfl

theorem moves_note (a : Act) (h : a.Plain) : Moves A m.control (m.note a).control := .plain h

@[simp] theorem emit_mState (signal : Signal) : (m.emit signal).mState = m.mState := rfl

theorem control_emit {signal : Signal} (h : signal.isState = false) :
    (m.emit signal).control = m.control.note (.emitted signal) := by
  simp only [control, emit, Control.note, List.map_map, Control.mk.injEq, true_and, and_true]
  exact List.map_congr_left fun c _ => c.receive_m_state h

theorem control_emit_stateChanged (st : VpnState) :
    (m.emit (.stateChanged st)).control = m.control.report st := by
  simp only [control, emit, Control.report, List.map_map, Control.mk.injEq, true_and, and_true]
  exact List.map_congr_left fun c _ => rfl

theorem moves_emit {signal : Signal} (h : signal.isState = false) :
    Moves A m.control (m.emit signal).control := by
  rw [control_emit m h]
  exact .plain h

theorem control_setState {st : VpnState} (h : st ≠ .total) :
    (m.setState w st).control = m.control.setState st (w.clock m.asked) := by
  unfold setState Control.setState
  by_cases hst : st = m.mState
  · simp [hst, control]
  · have hne : st ≠ m.control.mState := hst
    rw [if_pos hst, if_pos hne]
    cases st with
    | disconnected => exact control_emit_stateChanged _ _
    | connecting => exact control_emit_stateChanged _ _
    | connected => exact control_emit_stateChanged _ _
    | total => exact absurd rfl h

@[simp] theorem setState_mState (st : VpnState) : (m.setState w st).mState = st := by
  unfold setState
  split_ifs with h
  · cases st <;> rfl
  · exact (not_not.mp h).symm

theorem moves_leave {st : VpnState} (h : st = .disconnected ∨ st = .connected) :
    Moves A m.control (m.setState w st).control := by
  rw [control_setState w m (by rcases h with rfl | rfl <;> decide)]
  exact .single (.leave st _ h)

@[simp] theorem control_disconnectFromOpenvpnSocket :
    m.disconnectFromOpenvpnSocket.control = m.control := by
  unfold disconnectFromOpenvpnSocket
  split <;> rfl

@[simp] theorem control_socketError (error : ℤ) : (m.socketError error).control = m.control := by
  unfold socketError
  split
  · exact control_disconnectFromOpenvpnSocket _
  · rfl

@[simp] theorem control_connectToOpenvpnSocket :
    (m.connectToOpenvpnSocket w).control = m.control := by
  have h : ∀ m : OpenvpnManager, (m.disconnectFromOpenvpnSocket).control = m.control :=
    control_disconnectFromOpenvpnSocket
  unfold connectToOpenvpnSocket
  dsimp only
  rw [control_serviceLog]
  split
  · rw [control_socketError]
    exact h _
  · exact h _

@[simp] theorem control_setupFileWatcher : (m.setupFileWatcher host w).control = m.control := by
  unfold setupFileWatcher
  split_ifs <;> rfl

@[simp] theorem control_removeProcess : m.removeProcess.control = m.control := rfl

/-- A look at the processes asks, logs and may learn a process number. -/
theorem scanLinux_eq (listing : Listing) : ∃ pid log,
    (scanLinux listing m).2 = { m with mPID := pid, log := log } := by
  unfold scanLinux
  split_ifs
  · exact ⟨m.mPID, _, rfl⟩
  · exact ⟨m.mPID, _, rfl⟩
  · dsimp only
    split
    · exact ⟨_, m.log, rfl⟩
    · exact ⟨0, m.log, rfl⟩
  · exact ⟨m.mPID, m.log, rfl⟩
  · exact ⟨m.mPID, _, rfl⟩

theorem scanProcesses_eq (running : Bool) : ∃ pid asked log,
    (scanProcesses host w running m).2 =
      { m with mPID := pid, asked := asked, log := log } := by
  unfold scanProcesses
  dsimp only
  split
  · exact ⟨m.mPID, _, m.log, rfl⟩
  · exact ⟨m.mPID, _, _, rfl⟩
  · split
    · exact ⟨m.mPID, m.asked, m.log, rfl⟩
    · obtain ⟨pid, log, h⟩ := scanLinux_eq m.ask (w.listing m.asked)
      exact ⟨pid, _, log, h⟩

theorem openvpnRunning_eq : ∃ pid asked log, (m.openvpnRunning host w).2 =
    { m with
      mPID := pid
      asked := asked
      log := log
      history := .observed (m.openvpnRunning host w).1 :: m.history } := by
  have hscan : ∀ (byProcess bySocket : Bool) (s t : QString), ∃ pid asked log,
      (scanProcesses host w (byProcess || bySocket)
        (if bySocket then (if byProcess then m.serviceLog s else m).serviceLog t
          else if byProcess then m.serviceLog s else m)).2 =
        { m with mPID := pid, asked := asked, log := log } := by
    intro byProcess bySocket s t
    cases byProcess <;> cases bySocket <;> exact scanProcesses_eq host w _ _
  unfold openvpnRunning
  dsimp only
  obtain ⟨pid, asked, log, h⟩ := hscan m.processLives (!m.processLives && m.socketIsOpen) _ _
  rw [h]
  exact ⟨pid, asked, _, rfl⟩

theorem control_openvpnRunning :
    (m.openvpnRunning host w).2.control =
      m.control.note (.observed (m.openvpnRunning host w).1) := by
  obtain ⟨pid, asked, log, h⟩ := openvpnRunning_eq host w m
  rw [h]
  rfl

theorem moves_openvpnRunning : Moves A m.control (m.openvpnRunning host w).2.control := by
  rw [control_openvpnRunning]
  exact .plain trivial

theorem moves_writeSocket (text : QString) : Moves A m.control (m.writeSocket text).control := by
  unfold writeSocket
  split
  · exact .plain trivial
  · exact .plain trivial

theorem moves_signalTerm (socket : QTcpSocket) :
    Moves A m.control (m.signalTerm socket).control := by
  unfold signalTerm
  split_ifs
  · exact .refl
  · exact moves_writeSocket (m.serviceLog _) _
  · exact .refl

theorem moves_waitForEnd (n : ℕ) : Moves A m.control (m.waitForEnd host w n).control := by
  induction n generalizing m with
  | zero => exact .refl
  | succ n ih =>
    unfold waitForEnd
    dsimp only
    split_ifs
    · exact (moves_openvpnRunning host w m).trans (ih _)
    · exact moves_openvpnRunning host w m

theorem moves_softStop : Moves A m.control (m.softStop host w).control := by
  have hattached : ∀ socket, Moves A m.control
      (((m.signalTerm socket).disconnectFromOpenvpnSocket).waitForEnd host w 8).control := by
    intro socket
    refine (moves_signalTerm m socket).trans ?_
    rw [← control_disconnectFromOpenvpnSocket (m.signalTerm socket)]
    exact moves_waitForEnd host w _ 8
  have hlast : ∀ m' : OpenvpnManager, Moves A m.control m'.control →
      Moves A m.control (m'.removeProcess.openvpnRunning host w).2.control := by
    intro m' h
    exact h.trans (moves_openvpnRunning host w m'.removeProcess)
  unfold softStop
  dsimp only
  cases m.mSocket with
  | none => split_ifs <;> exact hlast m .refl
  | some socket => split_ifs <;> exact hlast _ (hattached socket)

@[simp] theorem control_stopObfsproxy : (m.stopObfsproxy host w).control = m.control := by
  have hrunning : (m.obfsproxyRunning host w).2.control = m.control := by
    unfold obfsproxyRunning
    dsimp only
    split
    · split_ifs <;> rfl
    · rfl
  unfold stopObfsproxy
  dsimp only
  split_ifs
  · split <;> exact hrunning
  · exact hrunning

/-- What `stop()` does once its call is entered into the history. -/
theorem moves_stop_noted : Moves A (m.control.note .stopped) (m.stop host w).control := by
  unfold stop
  dsimp only
  refine .trans ?_ (moves_leave w _ (.inl rfl))
  have hlooked : Moves A (m.control.note .stopped)
      ((m.note .stopped).openvpnRunning host w).2.control :=
    moves_openvpnRunning host w (m.note .stopped)
  change Moves A (m.control.note .stopped) ((_ : OpenvpnManager).stopObfsproxy host w).control
  rw [control_stopObfsproxy, control_disconnectFromOpenvpnSocket]
  split_ifs
  · exact hlooked.trans (moves_softStop host w _)
  · exact hlooked

theorem moves_stop : Moves A m.control (m.stop host w).control :=
  (moves_note m .stopped trivial).trans (moves_stop_noted host w m)

@[simp] theorem stop_mState : (m.stop host w).mState = .disconnected := setState_mState w _ _

theorem moves_cancel (msg : QString) : Moves A m.control (m.cancel host w msg).control :=
  ((moves_stop host w m).trans (moves_emit _ rfl)).trans (moves_emit _ rfl)

theorem moves_showErrorMessageCleanup (msg : QString) :
    Moves A m.control (m.showErrorMessageCleanup w msg).control := by
  have hleave : Moves A m.control
      ((m.disconnectFromOpenvpnSocket.removeProcess).setState w .disconnected).control := by
    rw [← control_disconnectFromOpenvpnSocket m,
      ← control_removeProcess m.disconnectFromOpenvpnSocket]
    exact moves_leave w _ (.inl rfl)
  exact hleave.trans (moves_emit _ rfl)

/-- A walk over the adapters that leaves the abstract state alone at each one. -/
theorem control_foldl {α : Type*} {f : OpenvpnManager → α → OpenvpnManager}
    (hf : ∀ m a, (f m a).control = m.control) (as : List α) :
    (as.foldl f m).control = m.control := by
  induction as generalizing m with
  | nil => rfl
  | cons a as ih => rw [List.foldl_cons, ih, hf]

@[simp] theorem control_enableTap : (m.enableTap w).control = m.control := by
  unfold enableTap
  split
  · rfl
  · rfl
  · refine control_foldl m (fun m p => ?_) _
    unfold enableTapOne
    dsimp only
    split_ifs <;> rfl

theorem control_getTemplate : ∃ r, m.control.Asks host r ∧
    (m.getTemplate host).control = m.control.request r :=
  ⟨⟨m.nextRequest, m.currentKey, host.urlFromUserInput m.mTemplateUrl, m.starts, false⟩,
    ⟨rfl, rfl, rfl⟩, rfl⟩

theorem control_startConnecting : ∃ r,
    (m.control.setState .connecting (w.clock m.asked)).Asks host r ∧
      (m.startConnecting host w).control =
        (m.control.setState .connecting (w.clock m.asked)).request r := by
  have hready : ∀ m' : OpenvpnManager, m'.control = (m.setState w .connecting).control →
      ∃ r, (m.setState w .connecting).control.Asks host r ∧
        (getTemplate host { m' with
          mTunError := false, mError := false, mProcessing := false }).control =
          (m.setState w .connecting).control.request r := by
    intro m' h
    rw [← h]
    exact control_getTemplate host
      { m' with mTunError := false, mError := false, mProcessing := false }
  rw [← control_setState w m (by decide)]
  refine hready _ ?_
  split
  · exact control_enableTap w _
  · rfl

@[simp] theorem startConnecting_mState : (m.startConnecting host w).mState = .connecting := by
  obtain ⟨r, -, h⟩ := control_startConnecting host w m
  have hstate := congrArg Control.mState h
  rw [← control_setState w m (by decide)] at hstate
  exact hstate.trans (setState_mState w m .connecting)

/-- Every request for the address of the last `start()` may be made. -/
def Connects (host : Host) (A : Allowed) : Prop := ∀ c r, c.Asks host r → A.connect c r

theorem moves_startConnecting (hc : Connects host A) :
    Moves A m.control (m.startConnecting host w).control := by
  obtain ⟨r, hasks, hcontrol⟩ := control_startConnecting host w m
  rw [hcontrol]
  exact .single (.connect _ r (hc _ r hasks))

theorem moves_start (hc : Connects host A) (a : Attempt) :
    Moves A m.control (m.start host w a).control :=
  ((moves_stop host w { m with mReconnectAttempt := 0 }).tail (.attempt a.templateUrl)).trans
    (moves_startConnecting host w
      (({ m with mReconnectAttempt := 0 }.stop host w).takeAttempt a) hc)

theorem moves_reconnectTimeout (hc : Connects host A) :
    Moves A m.control (m.reconnectTimeout host w).control := by
  unfold reconnectTimeout
  dsimp only
  refine (moves_openvpnRunning host w
    { m with mReconnectAttempt := m.mReconnectAttempt + 1 }).trans ?_
  split_ifs
  · exact .single .arm
  · exact (moves_stop host w _).trans (moves_startConnecting host w _ hc)
  · exact moves_startConnecting host w _ hc

theorem moves_killRunningOpenvpn :
    Moves A m.control (m.killRunningOpenvpn host w).control := by
  unfold killRunningOpenvpn
  dsimp only
  rw [control_serviceLog, ← control_serviceLog m "KillRunningOV() enter".toList]
  refine (moves_openvpnRunning host w (m.serviceLog _)).trans ?_
  split_ifs
  · rw [← control_connectToOpenvpnSocket w]
    exact (moves_stop host w _).trans (moves_openvpnRunning host w _)
  · exact .refl

/-- `netDown` logs and may remember that it switched the network off. -/
theorem netDown_eq (down : Bool) : ∃ switched log,
    m.netDown host w down = { m with mNetDown := switched, log := log } := by
  have hone : ∀ m p, ∃ switched log,
      netDownOne down m p = { m with mNetDown := switched, log := log } := by
    intro m p
    unfold netDownOne
    dsimp only
    split_ifs <;> first | exact ⟨m.mNetDown, _, rfl⟩ | exact ⟨true, _, rfl⟩
  have hall : ∀ (adapters : List Adapter) (m : OpenvpnManager), ∃ switched log,
      adapters.foldl (netDownOne down) m = { m with mNetDown := switched, log := log } := by
    intro adapters
    induction adapters with
    | nil => exact fun m => ⟨m.mNetDown, m.log, rfl⟩
    | cons p adapters ih =>
      intro m
      obtain ⟨switched, log, hp⟩ := hone m p
      rw [List.foldl_cons, hp]
      exact ih _
  unfold netDown
  split
  · split
    · exact ⟨m.mNetDown, m.log, rfl⟩
    · exact ⟨m.mNetDown, _, rfl⟩
    · exact hall _ m
  · cases down with
    | false => exact ⟨m.mNetDown, m.log, rfl⟩
    | true =>
      cases w.rightsFailure with
      | some what => exact ⟨m.mNetDown, _, rfl⟩
      | none =>
        rw [if_pos rfl]
        dsimp only
        split_ifs <;> exact ⟨true, _, rfl⟩

@[simp] theorem control_netDown (down : Bool) : (m.netDown host w down).control = m.control := by
  obtain ⟨switched, log, h⟩ := netDown_eq host w m down
  rw [h]
  rfl

end OpenvpnManager
end CeloVpn.Service
