import CeloVpn.Service.Effects

/-!
# The simulation, from the launch of openvpn to a whole event

The rest of the handlers as paths of moves: launching, the two line parsers, the
periodic check, and last the step function.
-/
namespace CeloVpn.Service
open Runs

namespace OpenvpnManager
variable (host : Host) (w : World) (m : OpenvpnManager) {A : Allowed}

/-- Moves begin where another manager of the same abstract state stands. -/
theorem moves_from {m m' : OpenvpnManager} {c : Control} (hm : Moves A m'.control c)
    (h : m'.control = m.control) : Moves A m.control c := h ▸ hm

theorem control_processError (error : ℤ) :
    (m.processError error).control =
      (m.control.note (.processErrored m.mState m.connections.length)).report .disconnected := by
  unfold processError
  dsimp only
  rw [control_emit_stateChanged]
  rfl

theorem moves_processError (error : ℤ) : Moves A m.control (m.processError error).control := by
  have hlength : m.connections.length = m.control.reported.length := by simp [control]
  rw [control_processError, hlength]
  exact .single .processError

@[simp] theorem control_processStateChanged (st : ℤ) :
    (m.processStateChanged host w st).control = m.control := by
  simp [processStateChanged]

theorem moves_processFinished (exitCode exitStatus : ℤ) :
    Moves A m.control (m.processFinished host w exitCode exitStatus).control := by
  unfold processFinished
  dsimp only
  split_ifs
  · exact moves_openvpnRunning host w (m.serviceLog _)
  · exact (moves_openvpnRunning host w (m.serviceLog _)).trans (moves_leave w _ (.inl rfl))
  · rw [control_connectToOpenvpnSocket, control_setupFileWatcher]
    exact .refl

theorem moves_processDied (exitCode : ℤ) (crashed : Bool) :
    Moves A m.control (m.processDied host w exitCode crashed).control := by
  have hend : ∀ m : OpenvpnManager, Moves A m.control
      ((m.processStateChanged host w 0).processFinished host w exitCode
        (if crashed then 1 else 0)).control := by
    intro m
    rw [← control_processStateChanged host w m 0]
    exact moves_processFinished host w _ _ _
  unfold processDied
  dsimp only
  cases crashed with
  | true => exact (moves_processError m 1).trans (hend _)
  | false => exact hend m

theorem moves_deleteProcess : Moves A m.control (m.deleteProcess host w).control := by
  unfold deleteProcess
  split_ifs
  · exact moves_processDied host w { m with mProcess := some .notRunning } _ _
  · exact .refl

theorem moves_startProcess : Moves A m.control (m.startProcess host w).control := by
  have hstarting : (processStateChanged host w 1 { m with mProcess := some .starting }).control =
      m.control := control_processStateChanged host w { m with mProcess := some .starting } 1
  have hset : ∀ (m' : OpenvpnManager) (st : ProcessState) (n : ℤ), m'.control = m.control →
      (processStateChanged host w n { m' with mProcess := some st }).control = m.control := by
    intro m' st n h
    rw [control_processStateChanged]
    exact h
  unfold startProcess
  dsimp only
  split_ifs
  · unfold processStarted
    rw [control_serviceLog, hset _ _ _ hstarting]
  · rw [← hset _ .notRunning 0 hstarting]
    exact moves_processError _ 0

theorem moves_stampAndStartTimer : Moves A m.control (m.stampAndStartTimer w).control :=
  .single .timer

-- The launch itself uses the config file and the template that `writeConfigFile` left: nothing
-- in between touches them.

/-- What a launch reads. -/
def launchData (m : OpenvpnManager) : QByteArray × Option Template :=
  (m.configFile, m.mOvpnTemplate m.currentKey)

theorem launchData_openvpnRunning : (m.openvpnRunning host w).2.launchData = m.launchData := by
  obtain ⟨pid, asked, log, h⟩ := openvpnRunning_eq host w m
  rw [h]
  rfl

theorem launchData_setState (st : VpnState) : (m.setState w st).launchData = m.launchData := by
  unfold setState
  split_ifs
  · cases st <;> rfl
  · rfl

theorem launchData_setupFileWatcher : (m.setupFileWatcher host w).launchData = m.launchData := by
  unfold setupFileWatcher
  split_ifs <;> rfl

theorem launchData_serviceLog (text : QString) : (m.serviceLog text).launchData = m.launchData :=
  rfl

theorem launchData_ask : m.ask.launchData = m.launchData := rfl

theorem launchData_mSocket (socket : Option QTcpSocket) :
    ({ m with mSocket := socket } : OpenvpnManager).launchData = m.launchData := rfl

theorem launchData_disconnectFromOpenvpnSocket :
    m.disconnectFromOpenvpnSocket.launchData = m.launchData := by
  unfold disconnectFromOpenvpnSocket
  split_ifs <;> rfl

theorem launchData_socketError (error : ℤ) : (m.socketError error).launchData = m.launchData := by
  unfold socketError
  split_ifs
  · rw [launchData_disconnectFromOpenvpnSocket, launchData_serviceLog]
  · rw [launchData_mSocket, launchData_serviceLog]

theorem launchData_connectToOpenvpnSocket :
    (m.connectToOpenvpnSocket w).launchData = m.launchData := by
  unfold connectToOpenvpnSocket
  dsimp only
  rw [launchData_serviceLog]
  split_ifs
  · rw [launchData_socketError, launchData_ask, launchData_mSocket,
      launchData_disconnectFromOpenvpnSocket, launchData_serviceLog]
  · rw [launchData_ask, launchData_mSocket, launchData_disconnectFromOpenvpnSocket,
      launchData_serviceLog]

theorem launchData_processDied (exitCode : ℤ) (crashed : Bool) :
    (m.processDied host w exitCode crashed).launchData = m.launchData := by
  have hfinished : ∀ (m : OpenvpnManager) n,
      (m.processFinished host w exitCode n).launchData = m.launchData := by
    intro m n
    unfold processFinished
    dsimp only
    split_ifs
    · exact launchData_openvpnRunning host w (m.serviceLog _)
    · rw [launchData_setState]
      exact launchData_openvpnRunning host w (m.serviceLog _)
    · rw [launchData_connectToOpenvpnSocket]
      exact launchData_setupFileWatcher host w (m.serviceLog _)
  have hchanged : ∀ (m : OpenvpnManager) n,
      (m.processStateChanged host w n).launchData = m.launchData :=
    fun m n => launchData_setupFileWatcher host w (m.serviceLog _)
  unfold processDied
  dsimp only
  rw [hfinished, hchanged]
  split_ifs <;> rfl

theorem launchData_deleteProcess : (m.deleteProcess host w).launchData = m.launchData := by
  unfold deleteProcess
  split_ifs
  · exact launchData_processDied host w { m with mProcess := some .notRunning } _ _
  · rfl

theorem control_noteLaunch (args : List QString) :
    (m.noteLaunch args).control =
      m.control.note (.launched args m.launchData.1 m.launchData.2) := rfl

/-- What follows the launch. -/
theorem moves_launchDaemon (h : w.launchFailure = none) (args : List QString) :
    Moves A (m.control.note (.launched args m.launchData.1 m.launchData.2))
      (m.launchDaemon host w args).control := by
  unfold launchDaemon
  rw [h]
  dsimp only
  refine .trans ?_ (moves_stampAndStartTimer w _)
  rw [control_serviceLog, control_setupFileWatcher, control_connectToOpenvpnSocket,
    control_serviceLog, control_serviceLog, control_noteLaunch, control_serviceLog]
  exact .refl

theorem launchDaemon_launches (h : w.launchFailure = none) (args : List QString) :
    LaunchesWith A m.launchData.1 m.launchData.2 m.control
      (m.launchDaemon host w args).control :=
  ⟨args, m.control, .refl, moves_launchDaemon host w m h args⟩

theorem launchProcess_launches (args : List QString) :
    LaunchesWith A m.launchData.1 m.launchData.2 m.control
      (m.launchProcess host w args).control := by
  refine ⟨args, (m.deleteProcess host w).control, moves_deleteProcess host w m, ?_⟩
  rw [← launchData_deleteProcess host w m, ← control_noteLaunch]
  exact (moves_startProcess host w ((m.deleteProcess host w).noteLaunch args)).trans
    (moves_stampAndStartTimer w _)

/-- The config file is written where it opens and the cache holds a template for
the present attempt. -/
theorem writeConfigFile_fst : (m.writeConfigFile host w).1 =
    (w.configOpens && (m.mOvpnTemplate m.currentKey).isSome) := by
  unfold writeConfigFile
  dsimp only
  cases w.configOpens with
  | false => rfl
  | true =>
    have hkey : currentKey { m with configFile := [] } = m.currentKey := rfl
    simp only [Bool.not_true, Bool.true_and, hkey]
    cases m.mOvpnTemplate m.currentKey <;> rfl

/-- What is written is the template, after the lines for DNS. -/
theorem writeConfigFile_written (h : (m.writeConfigFile host w).1 = true) :
    (m.writeConfigFile host w).2.control = m.control ∧
      ∃ template, m.mOvpnTemplate m.currentKey = some template ∧
        ∃ dns, (m.writeConfigFile host w).2.launchData =
          (dns ++ QString.toLatin1 (filteredLines template.bytes), some template) := by
  have hkey : currentKey { m with configFile := [] } = m.currentKey := rfl
  rw [writeConfigFile_fst] at h
  obtain ⟨hopens, hsome⟩ := Bool.and_eq_true_iff.mp h
  obtain ⟨template, htemplate⟩ := Option.isSome_iff_exists.mp hsome
  unfold writeConfigFile
  simp only [hopens, hkey, htemplate, Bool.not_true, Bool.false_eq_true, if_false]
  exact ⟨rfl, template, rfl, _, congrArg (Prod.mk _) htemplate⟩

/-- What is not written is reported, and nothing else happens. -/
theorem writeConfigFile_failed (h : (m.writeConfigFile host w).1 = false) :
    ∃ text, (m.writeConfigFile host w).2.control =
      m.control.note (.emitted (.sendError text)) := by
  unfold writeConfigFile at h ⊢
  dsimp only at h ⊢
  split_ifs at h ⊢
  · exact ⟨_, control_emit (m.serviceLog _) rfl⟩
  · cases htemplate : m.mOvpnTemplate (currentKey { m with configFile := [] }) with
    | none => exact ⟨_, control_emit (serviceLog { m with configFile := [] } _) rfl⟩
    | some template =>
      rw [htemplate] at h
      cases h

/-- The config file can be written, and on the branch with exceptions none is thrown. -/
def CanLaunch : Prop :=
  (m.writeConfigFile host w).1 = true ∧ (host.platform = .windows ∨ w.launchFailure = none)

theorem launch_launches (h : host.platform = .windows ∨ w.launchFailure = none)
    (args : List QString) : LaunchesWith A m.launchData.1 m.launchData.2 m.control
      (match host.platform with
        | .windows => m.launchProcess host w args
        | _ => m.launchDaemon host w args).control := by
  cases hplatform : host.platform with
  | windows => exact launchProcess_launches host w m args
  | linux => exact launchDaemon_launches host w m (h.resolve_left (by rw [hplatform]; decide)) args
  | darwin =>
    exact launchDaemon_launches host w m (h.resolve_left (by rw [hplatform]; decide)) args

theorem continueConnecting_launches (h : m.CanLaunch host w) :
    LaunchesWith A (m.writeConfigFile host w).2.launchData.1
      (m.writeConfigFile host w).2.launchData.2 m.control
      (m.continueConnecting host w).control := by
  obtain ⟨hwritten, hexception⟩ := h
  have hlogged : ∀ (m' : OpenvpnManager) s t args, LaunchesWith A m'.launchData.1 m'.launchData.2
      m'.control (match host.platform with
        | .windows => launchProcess host w args ((m'.serviceLog s).serviceLog t)
        | _ => launchDaemon host w args ((m'.serviceLog s).serviceLog t)).control :=
    fun m' s t args => launch_launches host w ((m'.serviceLog s).serviceLog t) hexception args
  rw [← (writeConfigFile_written host w m hwritten).1]
  unfold continueConnecting
  dsimp only
  rw [hwritten, Bool.not_true, if_neg Bool.false_ne_true, control_serviceLog]
  exact hlogged _ _ _ _

/-- Where openvpn is not launched, an error is reported, and an exception ends the
attempt. -/
theorem continueConnecting_fails (h : ¬ m.CanLaunch host w) : ∃ text now,
    (m.continueConnecting host w).control = m.control.note (.emitted (.sendError text)) ∨
      (m.continueConnecting host w).control =
        (m.control.note (.emitted (.sendError text))).setState .disconnected now := by
  unfold continueConnecting
  dsimp only
  cases hwritten : (m.writeConfigFile host w).1 with
  | false =>
    obtain ⟨text, htext⟩ := writeConfigFile_failed host w m hwritten
    exact ⟨text, 0, .inl htext⟩
  | true =>
    have hfailure : host.platform ≠ .windows ∧ w.launchFailure ≠ none :=
      not_or.mp fun hor => h ⟨hwritten, hor⟩
    obtain ⟨what, hwhat⟩ := Option.ne_none_iff_exists'.mp hfailure.2
    have hthrown : ∀ (m' : OpenvpnManager) s t args, ∃ now,
        (launchDaemon host w args ((m'.serviceLog s).serviceLog t)).control =
          (m'.control.note (.emitted (.sendError what))).setState .disconnected now := by
      intro m' s t args
      unfold launchDaemon
      rw [hwhat]
      dsimp only
      rw [control_setState w _ (by decide), control_emit _ rfl, control_serviceLog,
        control_serviceLog, control_serviceLog]
      exact ⟨_, rfl⟩
    rw [Bool.not_true, if_neg Bool.false_ne_true, control_serviceLog,
      ← (writeConfigFile_written host w m hwritten).1]
    cases hplatform : host.platform with
    | windows => exact absurd hplatform hfailure.1
    | linux =>
      obtain ⟨now, hnow⟩ := hthrown _ _ _ _
      exact ⟨what, now, .inr hnow⟩
    | darwin =>
      obtain ⟨now, hnow⟩ := hthrown _ _ _ _
      exact ⟨what, now, .inr hnow⟩

theorem launchesOnce_continueConnecting :
    LaunchesOnce A m.control (m.continueConnecting host w).control := by
  by_cases h : m.CanLaunch host w
  · exact .inr ⟨_, _, continueConnecting_launches host w m h⟩
  · obtain ⟨text, now, hkept | hleft⟩ := continueConnecting_fails host w m h
    · rw [hkept]
      exact .inl (.plain (a := .emitted (.sendError text)) rfl)
    · rw [hleft]
      exact .inl ((Moves.plain (a := .emitted (.sendError text)) rfl).tail (.leave _ now (.inl rfl)))

theorem moves_getTemplateError (reply : TemplateRequest) :
    Moves A m.control (m.getTemplateError host w reply).control :=
  (moves_emit m rfl).trans (moves_stop host w _)

theorem moves_getTemplateFailed : Moves A m.control (m.getTemplateFailed host w).control :=
  moves_stop host w (m.serviceLog _)

theorem moves_getTemplateFinished (reply : TemplateRequest) (bytes : QByteArray)
    (hl : reply.failed = false → A.launch) :
    Moves A m.control (m.getTemplateFinished host w reply bytes).control := by
  unfold getTemplateFinished
  cases hfailed : reply.failed with
  | true => exact moves_getTemplateFailed host w m
  | false =>
    exact (launchesOnce_continueConnecting host w (m.insertTemplate _ _)).moves (hl hfailed)

theorem moves_gotConnected (s : QString) : Moves A m.control (m.gotConnected w s).control := by
  unfold gotConnected
  dsimp only
  split_ifs
  · exact (moves_emit m rfl).trans (moves_leave w _ (.inr rfl))
  · exact (moves_emit m rfl).trans (moves_leave w _ (.inr rfl))
  · exact moves_leave w _ (.inr rfl)

theorem moves_gotTunErr (hc : Connects host A) : Moves A m.control (m.gotTunErr host w).control := by
  unfold gotTunErr
  split_ifs
  · exact moves_from (moves_startConnecting host w _ hc) rfl
  · exact .refl

theorem moves_parseNewIp (s : QString) : Moves A m.control (m.parseNewIp s).control := by
  unfold parseNewIp
  dsimp only
  split_ifs
  · exact moves_emit m rfl
  · exact .refl
  · exact .refl

theorem moves_bindFailed (hc : Connects host A) : Moves A m.control (m.bindFailed host w).control := by
  have hswitch : ∀ port, Moves A m.control
      (emit { m with mPort := port } (.switchingPort port)).control := by
    intro port
    exact moves_emit { m with mPort := port } rfl
  unfold bindFailed
  dsimp only
  exact (hswitch _).trans (moves_startConnecting host w _ hc)

theorem moves_parseLogNotice (hc : Connects host A) (s : QString) :
    Moves A m.control (m.parseLogNotice host w s).control := by
  unfold parseLogNotice
  split_ifs
  · exact moves_parseNewIp m s
  · exact moves_gotConnected w m s
  · exact moves_gotTunErr host w m hc
  · exact .refl

theorem moves_parseOpenvpnLogLine (hc : Connects host A) (s : QString) :
    Moves A m.control (m.parseOpenvpnLogLine host w s).control := by
  unfold parseOpenvpnLogLine
  dsimp only
  split_ifs
  · exact .refl
  · exact (moves_bindFailed host w (m.serviceLog _) hc).trans (moves_parseLogNotice host w _ hc s)
  · exact moves_parseLogNotice host w (m.serviceLog _) hc s

/-- A walk over lines each of which makes moves. -/
theorem moves_foldl {α : Type*} {f : OpenvpnManager → α → OpenvpnManager}
    (hf : ∀ m a, Moves A m.control (f m a).control) (as : List α) :
    Moves A m.control (as.foldl f m).control := by
  induction as generalizing m with
  | nil => exact .refl
  | cons a as ih => exact (hf m a).trans (ih (f m a))

theorem control_readLog (content : Option QByteArray) :
    (m.readLog content).2.control = m.control := by
  unfold readLog
  cases content with
  | none => rfl
  | some file =>
    dsimp only
    split_ifs <;> rfl

theorem moves_openvpnLogfileChanged (hc : Connects host A) (content : Option QByteArray) :
    Moves A m.control (m.openvpnLogfileChanged host w content).control := by
  unfold openvpnLogfileChanged
  split_ifs
  · exact .refl
  · rw [show m.control = (readLog content { m with mProcessing := true }).2.control from
      (control_readLog { m with mProcessing := true } content).symm]
    exact moves_foldl _ (fun m s => moves_parseOpenvpnLogLine host w m hc s) _

/-- The word of a line, if `parseSocketLine` hands it to `parseSocketStateWord`. -/
def stateWordOf (s : QString) : Option QString :=
  let p0 := s.indexOf ',' 1
  let p1 := s.indexOf ',' (p0 + 1)
  let p3 := s.indexOf ',' (p1 + 1)
  let err := decide (p3 > -1 ∧ p3 > p1 + 1) &&
    (s.mid (p1 + 1) (p3 - p1 - 1)).containsFolded "ERROR".toList
  if s.head? ≠ some '>' ∧ s.head?.any QString.isDigit = true ∧ p1 > -1 ∧ err = false then
    some (s.mid (p0 + 1) (p1 - p0 - 1))
  else none

/-- The words that alone turn the manager to connecting. -/
def promotes (word : QString) : Bool :=
  word.equalsFolded "CONNECTING".toList || word.equalsFolded "TCP_CONNECT".toList ||
    word.equalsFolded "RECONNECTING".toList || word.equalsFolded "AUTH".toList ||
    word.equalsFolded "ASSIGN_IP".toList

theorem parseSocketLine_of_stateWord {s word : QString} (h : stateWordOf s = some word) :
    m.parseSocketLine host w s = m.parseSocketStateWord host w word s := by
  unfold stateWordOf at h
  dsimp only at h
  split_ifs at h with hs
  obtain ⟨hhead, hdigit, hcomma, herr⟩ := hs
  unfold parseSocketLine parseSocketDigitLine
  rw [if_neg hhead, if_pos hdigit]
  dsimp only
  rw [if_pos hcomma, herr]
  simp only [Bool.not_false, if_true]
  rw [← Option.some.inj h]

theorem moves_gotWord (word : OpenVPNStateWord) (m' : OpenvpnManager)
    (h : Moves A m.control m'.control) :
    Moves A m.control (m'.emit (.stateWordChanged word)).control :=
  h.trans (moves_emit m' rfl)

/-- A state word alone begins an attempt only where it may. -/
theorem moves_promoted (hp : A.promote m.control) (word : OpenVPNStateWord) :
    Moves A m.control ((m.setState w .connecting).emit (.stateWordChanged word)).control := by
  refine moves_gotWord m word _ ?_
  rw [control_setState w m (by decide)]
  exact .single (.promote _ hp)

theorem moves_exiting : Moves A m.control
    (if m.mReconnect then m.startReconnectTimer.setState w .connecting
      else m.setState w .disconnected).control := by
  split
  · rw [control_setState w _ (by decide)]
    exact .single (.exiting _)
  · exact moves_leave w m (.inl rfl)

/-- Both branches of a test make moves. -/
theorem moves_ite {p : Prop} [Decidable p] {c : Control} {x y : OpenvpnManager}
    (hx : p → Moves A c x.control) (hy : ¬p → Moves A c y.control) :
    Moves A c (if p then x else y).control := by
  by_cases hp : p
  · rw [if_pos hp]
    exact hx hp
  · rw [if_neg hp]
    exact hy hp

theorem moves_actOnStateWord (isnew : Bool) (word s : QString)
    (hp : promotes word = true → A.promote m.control) :
    Moves A m.control (m.actOnStateWord host w isnew word s).control := by
  have hpromoted : ∀ st, promotes word = true → Moves A m.control
      ((m.setState w .connecting).emit (.stateWordChanged st)).control :=
    fun st h => moves_promoted w m (hp h) st
  unfold actOnStateWord
  refine moves_ite (fun _ => ?connected) fun _ => ?_
  case connected => exact moves_ite (fun _ => moves_gotConnected w m s) fun _ => .refl
  refine moves_ite (fun h => ?connecting) fun _ => ?_
  case connecting => exact hpromoted _ (by simp only [promotes, h, Bool.true_or])
  refine moves_ite (fun _ => moves_emit m rfl) fun _ => ?_
  refine moves_ite (fun _ => moves_exiting w m) fun _ => ?_
  refine moves_ite (fun h => ?reconnecting) fun _ => ?_
  case reconnecting => exact hpromoted _ (by simp only [promotes, h, Bool.true_or, Bool.or_true])
  refine moves_ite (fun h => ?auth) fun _ => ?_
  case auth => exact hpromoted _ (by simp only [promotes, h, Bool.true_or, Bool.or_true])
  refine moves_ite (fun _ => moves_emit m rfl) fun _ => ?_
  refine moves_ite (fun h => ?assignIP) fun _ => ?_
  case assignIP => exact hpromoted _ (by simp only [promotes, h, Bool.or_true])
  refine moves_ite (fun _ => moves_emit m rfl) fun _ => ?_
  refine moves_ite (fun _ => ?resolve) fun _ => moves_emit (m.serviceLog _) rfl
  case resolve =>
    have hresolve : Moves A m.control (m.emit (.stateWordChanged .resolve)).control :=
      moves_emit m rfl
    refine moves_ite (fun _ => ?_) fun _ => hresolve
    exact (hresolve.trans (moves_stop host w _)).trans (moves_emit _ rfl)

theorem moves_parseSocketStateWord (word s : QString)
    (hp : promotes word = true → A.promote m.control) :
    Moves A m.control (m.parseSocketStateWord host w word s).control := by
  have hact : ∀ m' : OpenvpnManager, m'.control = m.control → Moves A m.control
      ((m'.actOnStateWord host w (word != m.mPreviousStateWord) word s).control) := by
    intro m' h
    rw [← h]
    exact moves_actOnStateWord host w m' _ word s (by rwa [h])
  unfold parseSocketStateWord
  dsimp only
  refine Relation.ReflTransGen.tail (hact _ ?_) (.word word)
  split_ifs <;> rfl

theorem moves_parseSocketPlainWord (word s : QString) :
    Moves A m.control (m.parseSocketPlainWord word s).control := by
  have hblock : ∀ m' : OpenvpnManager, m'.control = m.control → Moves A m.control
      ((m'.disconnectFromOpenvpnSocket.emit .blockOnDisconnect).emit (.sendError s)).control := by
    intro m' h
    rw [← h, ← control_disconnectFromOpenvpnSocket m']
    exact (moves_emit _ rfl).trans (moves_emit _ rfl)
  unfold parseSocketPlainWord
  dsimp only
  split_ifs
  · exact .refl
  · exact .refl
  · exact hblock _ rfl
  · exact .refl

theorem moves_writeSocket_writeSocket (t u : QString) :
    Moves A m.control ((m.writeSocket t).writeSocket u).control :=
  (moves_writeSocket m t).trans (moves_writeSocket _ u)

theorem moves_writeSocket_log_writeSocket (t l u : QString) :
    Moves A m.control (((m.writeSocket t).serviceLog l).writeSocket u).control :=
  (moves_writeSocket m t).trans (moves_writeSocket ((m.writeSocket t).serviceLog l) u)

/-- The message of a FATAL line that comes to `gotTunErr`. -/
def fatalMessage : QString := "Cannot allocate TUN/TAP dev dynamically".toList

/-- A line of the management socket that comes to `gotTunErr`. -/
def socketReportsTun (s : QString) : Bool :=
  s.head? == some '>' && decide (s.indexOf ':' 0 > -1) &&
    (s.mid 1 (s.indexOf ':' 0 - 1)).equalsFolded "FATAL".toList &&
    (s.mid (s.indexOf ':' 0 + 1) (-1)).equalsFolded fatalMessage

/-- Only a TUN error connects. -/
theorem moves_parseSocketQueryWord (word s : QString)
    (hc : word.equalsFolded "FATAL".toList = true →
      (s.mid (s.indexOf ':' 0 + 1) (-1)).equalsFolded fatalMessage = true → Connects host A) :
    Moves A m.control (m.parseSocketQueryWord host w word s).control := by
  unfold parseSocketQueryWord
  dsimp only
  refine moves_ite (fun _ => .refl) fun _ => ?_
  refine moves_ite (fun _ => ?hold) fun _ => ?_
  case hold =>
    refine moves_ite (fun _ => ?_) fun _ => .refl
    exact moves_from (moves_writeSocket_log_writeSocket _ _ _ _) (by simp only [control_serviceLog])
  refine moves_ite (fun _ => ?password) fun _ => ?_
  case password =>
    refine moves_ite (fun _ => ?_) fun _ => ?_
    · exact moves_from (moves_writeSocket_writeSocket _ _ _) (by simp only [control_serviceLog])
    · refine moves_ite (fun _ => ?_) fun _ => .refl
      exact moves_from (moves_showErrorMessageCleanup w _ _) rfl
  refine moves_ite (fun _ => .refl) fun _ => ?_
  refine moves_ite (fun hfatal => ?fatal) fun _ => .refl
  case fatal =>
    refine moves_ite (fun htun => ?_) fun _ => ?_
    · exact moves_from (moves_gotTunErr host w _ (hc hfatal htun)) (by simp only [control_serviceLog])
    · exact moves_from (moves_cancel host w _ _) rfl

/-- A line makes moves where its state word may begin an attempt, and only a TUN error
connects. -/
theorem moves_parseSocketLine (s : QString) (hc : socketReportsTun s = true → Connects host A)
    (hp : ∀ word, stateWordOf s = some word → promotes word = true → A.promote m.control) :
    Moves A m.control (m.parseSocketLine host w s).control := by
  cases hword : stateWordOf s with
  | some word =>
    rw [parseSocketLine_of_stateWord host w m hword]
    exact moves_parseSocketStateWord host w m word s (hp word hword)
  | none =>
    unfold stateWordOf at hword
    dsimp only at hword
    split_ifs at hword with hno
    unfold parseSocketLine parseSocketDigitLine
    dsimp only
    split_ifs with h1 h2 h3 h4 h5
    · refine moves_parseSocketQueryWord host w m _ s fun hfatal htun => hc ?_
      rw [socketReportsTun, h1, hfatal, htun, decide_eq_true h2]
      rfl
    · exact .refl
    · exact absurd ⟨h1, h3, h4, (Bool.not_eq_true' _).mp h5⟩ hno
    · exact .refl
    · exact moves_parseSocketPlainWord m s s
    · exact moves_parseSocketPlainWord m _ s
    · exact moves_parseSocketPlainWord m _ s

@[simp] theorem control_readSocket (socket : QTcpSocket) :
    (m.readSocket socket).control = m.control := by
  unfold readSocket
  dsimp only
  split_ifs <;> rfl

/-- The permission a line needs. -/
def LineAllowed (A : Allowed) (m : OpenvpnManager) (s : QString) : Prop :=
  ∀ word, stateWordOf s = some word → promotes word = true → A.promote m.control

theorem moves_socketReadyRead (hc : Connects host A) (socket : QTcpSocket)
    (hp : Meets (fun m s => parseSocketLine host w s m) (LineAllowed A) (m.readSocket socket)
      (socketLines socket.buffer)) :
    Moves A m.control (m.socketReadyRead host w socket).control := by
  unfold socketReadyRead
  rw [← control_readSocket m socket]
  refine run_of_meets (P := fun m' => Moves A (m.readSocket socket).control m'.control)
    (fun m' s hline hm' => ?_) .refl hp
  exact hm'.trans (moves_parseSocketLine host w m' s (fun _ => hc) hline)

theorem moves_pollOpenvpn (hc : Connects host A) : Moves A m.control (m.pollOpenvpn host w).control := by
  have hobserved := moves_openvpnRunning (A := A) host w m
  unfold pollOpenvpn
  dsimp only
  split
  · split
    · rw [control_connectToOpenvpnSocket]
      exact hobserved
    · split
      · exact hobserved.trans (moves_writeSocket _ _)
      · exact hobserved
  · split_ifs
    · exact hobserved.trans (moves_startConnecting host w _ hc)
    · exact hobserved.trans (moves_leave w _ (.inl rfl))
    · exact hobserved

theorem moves_checkTimeout
    (hg : m.mState = .connecting → secondsSince m.mStartDateTime (w.clock m.asked) >
      kTryNextPortSeconds →
      A.gaveUp m.control (w.clock m.asked)) :
    Moves A m.control (m.checkTimeout host w).control := by
  unfold checkTimeout
  dsimp only
  split_ifs with hconnecting htesting hlong hlong
  · exact (Relation.ReflTransGen.single (.gaveUp _ (hg hconnecting hlong))).trans
      (moves_cancel host w (m.ask.note _) _)
  · exact .refl
  · exact ((Relation.ReflTransGen.single (.gaveUp _ (hg hconnecting hlong))).trans
      (moves_stop host w (note { m.ask.ask with mStartDateTime := _ } _))).trans
      (moves_emit _ rfl)
  · exact .refl
  · exact .refl

/-- The manager as `checkState` compares the clock, its polling done. -/
def polled (m : OpenvpnManager) : OpenvpnManager :=
  (m.serviceLog "checkState called".toList).pollOpenvpn host w

theorem moves_checkState (hc : Connects host A)
    (hg : (m.polled host w).mState = .connecting →
      secondsSince (m.polled host w).mStartDateTime (w.clock (m.polled host w).asked) >
        kTryNextPortSeconds →
      A.gaveUp (m.polled host w).control (w.clock (m.polled host w).asked)) :
    Moves A m.control (m.checkState host w).control := by
  have hpolled : Moves A m.control (m.polled host w).control :=
    moves_pollOpenvpn host w (m.serviceLog _) hc
  exact hpolled.trans (moves_checkTimeout host w (m.polled host w) hg)

/-- Answering a status request tells a client what its connection holds already. -/
theorem control_onConnection_status (client : ℕ) :
    (m.onConnection client fun c => c.vpnStateChanged c.m_state).control = m.control := by
  simp only [control, onConnection, List.map_map, Control.mk.injEq, true_and, and_true]
  refine List.map_congr_left fun c _ => ?_
  dsimp only [Function.comp_apply]
  split_ifs <;> rfl

theorem moves_commandStart (hc : Connects host A) (jObj : QJsonObject) :
    Moves A m.control (m.commandStart host w jObj).control := by
  have hstart : ∀ m' : OpenvpnManager, Moves A m.control m'.control →
      Moves A m.control (m'.start host w (attemptOf jObj)).control :=
    fun m' h => h.trans (moves_start host w m' hc _)
  unfold commandStart
  dsimp only
  refine hstart _ (moves_ite (fun _ => ?_) fun _ => ?_)
  · exact moves_from (moves_stop host w _) (by simp only [control_serviceLog, control_netDown])
  · simp only [control_serviceLog, control_netDown]
    exact .refl

theorem moves_command (hc : Connects host A) (client : ℕ) (line : QByteArray) (jObj : QJsonObject) :
    Moves A m.control (m.command host w client line jObj).control := by
  unfold command
  dsimp only
  refine moves_ite (fun _ => ?killRunning) fun _ => ?_
  case killRunning =>
    exact moves_from (moves_killRunningOpenvpn host w _) (control_serviceLog m _)
  refine moves_ite (fun _ => ?getStatus) fun _ => ?_
  case getStatus =>
    rw [control_onConnection_status, control_serviceLog, control_serviceLog]
  refine moves_ite (fun _ => .refl) fun _ => ?_
  refine moves_ite (fun _ => ?netdown) fun _ => ?_
  case netdown =>
    rw [control_netDown, control_serviceLog]
  refine moves_ite (fun _ => ?start) fun _ => ?_
  case start => exact moves_from (moves_commandStart host w _ hc jObj) (control_serviceLog m _)
  refine moves_ite (fun _ => ?stop) fun _ => .refl
  case stop =>
    exact moves_from (moves_stop host w _) (by simp only [control_serviceLog])

theorem moves_openConnection : Moves A m.control m.openConnection.control := by
  refine .single ?_
  have h : m.openConnection.control =
      ({ m.control with reported := m.control.reported ++ [VpnState.disconnected] }.note
        (.opened m.control.mState)) := by
    simp [openConnection, control, Control.note]
  rw [h]
  exact .opened

theorem moves_closeConnection (hclose : A.close) (client : ℕ) : Moves A m.control
    ({ m with connections := m.connections.filter (·.id != client) } : OpenvpnManager).control :=
  .single (.closed _ (List.filter_sublist.map _) hclose)

/-- The acts of one event, newest first. -/
def acts (m : OpenvpnManager) (e : Event) : List Act :=
  (step host m e).history.take ((step host m e).history.length - m.history.length)

theorem acts_eq {m : OpenvpnManager} {e : Event} {new : List Act}
    (h : (step host m e).history = new ++ m.history) : acts host m e = new := by
  simp [acts, h]

/-- What a callback takes off what is pending before its slot runs. -/
def taken (m : OpenvpnManager) : Callback → Control
  | .templateError request => (m.failRequest request).control
  | .templateFinished request _ => (m.takeRequest request).control
  | .reconnectTimeout => m.takeReconnectTimer.control
  | _ => m.control

/-- The event's lines of the management socket each satisfy `C` of the state they
are parsed in. -/
def LinesMeet (C : OpenvpnManager → QString → Prop) (m : OpenvpnManager) (e : Event) : Prop :=
  ∀ bytes ∈ e.callback.socketBytes, ∀ socket ∈ m.mSocket,
    Meets (fun m s => parseSocketLine host e.world s m) C
      (readSocket { socket with buffer := socket.buffer ++ bytes }
        { m with asked := 0, mSocket := some { socket with buffer := socket.buffer ++ bytes } })
      (socketLines (socket.buffer ++ bytes))

instance {C : OpenvpnManager → QString → Prop} [∀ m s, Decidable (C m s)] (m : OpenvpnManager)
    (e : Event) : Decidable (LinesMeet host C m e) :=
  inferInstanceAs (Decidable (∀ bytes ∈ e.callback.socketBytes, ∀ socket ∈ m.mSocket,
    Meets (fun m s => parseSocketLine host e.world s m) C _ _))

/-- A tick that compares the clock with the start of the attempt satisfies `C` of
the state and the reading it compares. -/
def TickMeets (C : OpenvpnManager → ℤ → Prop) (m : OpenvpnManager) (e : Event) : Prop :=
  e.callback.isTick = true → m.mStateTimer = true →
    (polled host e.world { m with asked := 0 }).mState = .connecting →
    C (polled host e.world { m with asked := 0 })
      (e.world.clock (polled host e.world { m with asked := 0 }).asked)

instance {C : OpenvpnManager → ℤ → Prop} [∀ m now, Decidable (C m now)] (m : OpenvpnManager)
    (e : Event) : Decidable (TickMeets host C m e) :=
  inferInstanceAs (Decidable (_ → _ → _ → C _ _))

/-- The permissions an event needs. -/
structure Permits (A : Allowed) (m : OpenvpnManager) (e : Event) : Prop where
  connect : Connects host A
  lines : LinesMeet host (LineAllowed A) m e
  tick : TickMeets host (fun m now => secondsSince m.mStartDateTime now > kTryNextPortSeconds →
    A.gaveUp m.control now) m e
  launch : ∀ reply ∈ m.finishing e.callback, reply.failed = false → A.launch
  close : ∀ client, e.callback = .connectionClosed client → A.close

/-- Where all but the end of a connection is permitted, so is every other event. -/
theorem permits_any {e : Event} {close : Prop}
    (hclose : ∀ client, e.callback = .connectionClosed client → close) :
    Permits host { Allowed.any with close := close } m e where
  connect := fun _ _ _ => trivial
  lines := fun _ _ _ _ => meets_of_forall (fun _ _ _ _ _ => trivial) _ _
  tick := fun _ _ _ _ => trivial
  launch := fun _ _ _ => trivial
  close := hclose

/-- Every event is permitted where each request is one for the last `start()`. -/
theorem permits_asks {e : Event} :
    Permits host { Allowed.any with connect := Control.Asks host } m e where
  connect := fun _ _ hasks => hasks
  lines := fun _ _ _ _ => meets_of_forall (fun _ _ _ _ _ => trivial) _ _
  tick := fun _ _ _ _ => trivial
  launch := fun _ _ _ => trivial
  close := fun _ _ => trivial

@[simp] theorem taken_mState (callback : Callback) : (m.taken callback).mState = m.mState := by
  cases callback <;> rfl

@[simp] theorem taken_reported (callback : Callback) :
    (m.taken callback).reported = m.control.reported := by
  cases callback <;> rfl

@[simp] theorem taken_mPreviousStateWord (callback : Callback) :
    (m.taken callback).mPreviousStateWord = m.mPreviousStateWord := by
  cases callback <;> rfl

@[simp] theorem taken_history (callback : Callback) :
    (m.taken callback).history = m.history := by
  cases callback <;> rfl

theorem control_failRequest_of_none {request : ℕ}
    (h : m.requests.find? (fun r => r.id == request && !r.failed) = none) :
    (m.failRequest request).control = m.control := by
  have hkept : m.requests.map (fun r =>
      if r.id = request then { r with failed := true } else r) = m.requests := by
    refine (List.map_congr_left fun r hr => ?_).trans (List.map_id _)
    have hno := List.find?_eq_none.mp h r hr
    split_ifs with hid
    · have hfailed : r.failed = true := by simpa [hid] using hno
      simp [← hfailed]
    · rfl
  simp only [failRequest, hkept]

theorem control_takeRequest_of_none {request : ℕ}
    (h : m.requests.find? (·.id == request) = none) :
    (m.takeRequest request).control = m.control := by
  have hkept : m.requests.eraseP (·.id == request) = m.requests :=
    List.eraseP_of_forall_not fun r hr => List.find?_eq_none.mp h r hr
  simp only [takeRequest, hkept]

theorem control_takeReconnectTimer_of_zero (h : m.reconnectTimers = 0) :
    m.takeReconnectTimer.control = m.control := by
  simp only [takeReconnectTimer, control, h, Nat.zero_sub]

/-- Every event that has its permissions is a path of moves. -/
theorem step_moves {e : Event} (h : Permits host A m e) :
    Moves A (m.taken e.callback) (step host m e).control := by
  obtain ⟨w, callback⟩ := e
  unfold step
  set m₀ : OpenvpnManager := { m with asked := 0 } with hm₀
  have hc : m₀.control = m.control := rfl
  cases callback with
  | connectionOpened => exact moves_openConnection m₀
  | connectionClosed client => exact moves_closeConnection m₀ (h.close client rfl) client
  | command client line jObj =>
    exact moves_ite (fun _ => moves_command host w m₀ h.connect _ _ _) fun _ => .refl
  | templateError request =>
    dsimp only [deliver, taken]
    cases hfind : m₀.requests.find? (fun r => r.id == request && !r.failed) with
    | some reply => exact moves_getTemplateError host w (m₀.failRequest request) reply
    | none =>
      rw [control_failRequest_of_none m hfind]
      exact .refl
  | templateFinished request bytes =>
    dsimp only [deliver, taken]
    cases hfind : m₀.requests.find? (·.id == request) with
    | some reply =>
      exact moves_getTemplateFinished host w (m₀.takeRequest request) reply bytes
        (h.launch reply hfind)
    | none =>
      rw [control_takeRequest_of_none m hfind]
      exact .refl
  | reconnectTimeout =>
    dsimp only [deliver, taken]
    refine moves_ite (fun _ => ?_) fun hno => ?_
    · exact moves_reconnectTimeout host w m₀.takeReconnectTimer h.connect
    · rw [control_takeReconnectTimer_of_zero m (Nat.eq_zero_of_not_pos hno)]
      exact .refl
  | stateTimer =>
    refine moves_ite (fun htimer => ?_) fun _ => .refl
    exact moves_checkState host w m₀ h.connect (h.tick rfl htimer)
  | logFileChanged content =>
    exact moves_ite (fun _ => moves_openvpnLogfileChanged host w m₀ h.connect content)
      fun _ => .refl
  | socketReadyRead bytes =>
    dsimp only [deliver, taken]
    cases hsocket : m₀.mSocket with
    | some socket =>
      exact moves_socketReadyRead host w { m₀ with mSocket := _ } h.connect _
        (h.lines bytes rfl socket hsocket)
    | none => exact .refl
  | socketError error =>
    refine moves_ite (fun _ => ?_) fun _ => .refl
    rw [control_socketError]
    exact .refl
  | socketConnected =>
    dsimp only [deliver, taken]
    split <;> exact .refl
  | socketStatus isOpen isValid connected => exact .refl
  | processError error =>
    exact moves_ite (fun _ => moves_processError m₀ error) fun _ => .refl
  | processDied wasReleased exitCode crashed =>
    refine moves_ite (fun _ => ?_) fun _ => ?_
    · refine moves_ite (fun _ => ?_) fun _ => .refl
      exact moves_processDied host w { m₀ with released := m₀.released - 1 } _ _
    · refine moves_ite (fun _ => ?_) fun _ => .refl
      exact moves_processDied host w { m₀ with mProcess := some .notRunning } _ _

/-- The event of a successful reply launches openvpn once at most. -/
theorem step_launchesOnce {e : Event} {reply : TemplateRequest}
    (hreply : reply ∈ m.finishing e.callback) (hsuccess : reply.failed = false) :
    LaunchesOnce A (m.taken e.callback) (step host m e).control := by
  obtain ⟨w, callback⟩ := e
  cases callback with
  | templateFinished request bytes =>
    have hfind : m.requests.find? (·.id == request) = some reply := hreply
    have hlaunch := launchesOnce_continueConnecting (A := A) host w
      (insertTemplate reply.serverKey ⟨bytes, reply⟩
        (takeRequest request { m with asked := 0 }))
    simp only [step, deliver, hfind, getTemplateFinished, hsuccess]
    exact hlaunch
  | _ => cases hreply

end OpenvpnManager
end CeloVpn.Service
