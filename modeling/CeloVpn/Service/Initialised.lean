import CeloVpn.Service.ManagementLines
import CeloVpn.Service.Watcher

/-!
# Control fields are assigned before they are read

Nothing happens before the first `start()`, which assigns what an attempt reads, and the
position in the log file is assigned with the watcher. Only `mReconnect` is assigned by
nobody.
-/
namespace CeloVpn.Service
open Runs Accesses

namespace Trace
variable (host : Host) (w : World) (m : OpenvpnManager)

/-- Beginning an attempt, and its errors. -/
def ofAttempt : Trace :=
  [.read .mTunError, .read .mError, .assign .mTunError, .assign .mError, .assign .mProcessing]

/-- The log file. -/
def ofLogFile : Trace :=
  [.read .mProcessing, .read .mLogFilePosition, .assign .mLogFilePosition] ++ ofAttempt

/-- The watcher of the log file. -/
def ofWatcher : Trace := [.assign .mLogFilePosition]

/-- A launch. -/
def ofLaunch : Trace :=
  [.assign .mTemplateHasDNSOptions, .read .mTemplateHasDNSOptions] ++ ofWatcher

/-- What a callback may access. -/
def ofCallback : Callback → Trace
  | .command _ _ _ => start
  | .templateFinished _ _ => ofLaunch
  | .reconnectTimeout => [.read .mReconnectAttempt, .assign .mReconnectAttempt] ++ ofAttempt
  | .stateTimer => .read .mReconnect :: ofAttempt
  | .logFileChanged _ => ofLogFile
  | .socketReadyRead _ => .read .mReconnect :: ofAttempt
  | .processDied _ _ _ => ofWatcher
  | _ => []

theorem startConnecting_subset : startConnecting ⊆ ofAttempt := by decide

theorem gotTunErr_subset : gotTunErr m ⊆ ofAttempt := by
  unfold gotTunErr
  split_ifs <;> decide

theorem parseLogNotice_subset (s : QString) : parseLogNotice s m ⊆ ofAttempt := by
  unfold parseLogNotice
  split_ifs
  · exact List.nil_subset _
  · exact List.nil_subset _
  · exact gotTunErr_subset m
  · exact List.nil_subset _

theorem parseOpenvpnLogLine_subset (s : QString) : parseOpenvpnLogLine host w s m ⊆ ofAttempt := by
  unfold parseOpenvpnLogLine
  dsimp only
  split_ifs
  · exact List.nil_subset _
  · exact List.append_subset.mpr ⟨startConnecting_subset, parseLogNotice_subset _ s⟩
  · exact parseLogNotice_subset _ s

theorem readLog_subset (content : Option QByteArray) : readLog content m ⊆ ofLogFile := by
  unfold readLog
  cases content with
  | none => exact List.nil_subset _
  | some file =>
    dsimp only
    split_ifs <;> decide

theorem openvpnLogfileChanged_subset (content : Option QByteArray) :
    openvpnLogfileChanged host w content m ⊆ ofLogFile := by
  have hlines : ∀ m' lines, along (fun m s => OpenvpnManager.parseOpenvpnLogLine host w s m)
      (fun m s => parseOpenvpnLogLine host w s m) m' lines ⊆ ofLogFile := by
    intro m' lines a ha
    obtain ⟨m₁, s, -, ha⟩ := mem_along ha
    exact List.mem_append_right _ (parseOpenvpnLogLine_subset host w m₁ s ha)
  unfold openvpnLogfileChanged
  split_ifs
  · decide
  · decide
  · refine List.cons_subset.mpr ⟨by decide, List.cons_subset.mpr ⟨by decide,
      List.cons_subset.mpr ⟨by decide, List.append_subset.mpr ⟨List.append_subset.mpr ⟨?_, ?_⟩, by decide⟩⟩⟩⟩
    · exact readLog_subset m content
    · exact hlines _ _

theorem reconnectTimeout_subset : reconnectTimeout host w m ⊆
    [.read .mReconnectAttempt, .assign .mReconnectAttempt] ++ ofAttempt := by
  unfold reconnectTimeout
  dsimp only
  split_ifs <;> decide

theorem pollOpenvpn_subset : pollOpenvpn host w m ⊆ .read .mReconnect :: ofAttempt := by
  unfold pollOpenvpn
  dsimp only
  split_ifs <;> decide

theorem parseSocketQueryWord_subset (word s : QString) :
    parseSocketQueryWord word s m ⊆ ofAttempt := by
  unfold parseSocketQueryWord
  split_ifs
  · decide
  · exact gotTunErr_subset m
  · decide
  · decide

theorem parseSocketLine_subset (s : QString) :
    parseSocketLine s m ⊆ .read .mReconnect :: ofAttempt := by
  unfold parseSocketLine
  split
  · unfold parseSocketStateWord
    split_ifs <;> decide
  · exact fun a ha => List.mem_cons_of_mem _ (parseSocketQueryWord_subset m _ s ha)
  · exact List.nil_subset _

theorem setupFileWatcher_subset : setupFileWatcher w m ⊆ ofWatcher := by
  unfold setupFileWatcher
  split_ifs <;> decide

theorem processDied_subset (exitCode : ℤ) (crashed : Bool) :
    processDied host w exitCode crashed m ⊆ ofWatcher := by
  unfold processDied
  dsimp only
  refine List.append_subset.mpr ⟨setupFileWatcher_subset w _, ?_⟩
  by_cases hcode : exitCode ≠ 0
  · rw [if_pos hcode]
    exact List.nil_subset _
  · rw [if_neg hcode]
    exact setupFileWatcher_subset w _

theorem launchDaemon_subset (args : List QString) : launchDaemon w args m ⊆ ofWatcher := by
  unfold launchDaemon
  split
  · exact List.nil_subset _
  · exact setupFileWatcher_subset w _

theorem launchProcess_subset (args : List QString) : launchProcess host w args m ⊆ ofWatcher := by
  unfold launchProcess startProcess deleteProcess
  refine List.append_subset.mpr ⟨?_, List.append_subset.mpr
    ⟨setupFileWatcher_subset w _, setupFileWatcher_subset w _⟩⟩
  split_ifs
  · exact processDied_subset host w _ _ _
  · exact List.nil_subset _

theorem writeConfigFile_subset : writeConfigFile w m ⊆ ofLaunch := by
  unfold writeConfigFile
  split_ifs
  · exact List.nil_subset _
  · split
    · exact List.nil_subset _
    · split_ifs <;> decide

theorem continueConnecting_subset : continueConnecting host w m ⊆ ofLaunch := by
  unfold continueConnecting
  dsimp only
  refine List.append_subset.mpr ⟨writeConfigFile_subset w m, ?_⟩
  split_ifs
  · exact List.nil_subset _
  · refine List.append_subset.mpr ⟨by decide, ?_⟩
    refine List.Subset.trans ?_ (List.subset_append_right _ _)
    split
    · exact launchProcess_subset host w _ _
    · exact launchDaemon_subset w _ _

theorem deliver_subset (callback : Callback) : deliver host w m callback ⊆ ofCallback callback := by
  cases callback with
  | command client line jObj =>
    rw [deliver, command]
    split_ifs
    · exact List.Subset.refl _
    · exact List.nil_subset _
    · exact List.nil_subset _
  | templateFinished request bytes =>
    rw [deliver]
    split
    · unfold getTemplateFinished
      split_ifs
      · exact List.nil_subset _
      · exact continueConnecting_subset host w _
    · exact List.nil_subset _
  | reconnectTimeout =>
    rw [deliver]
    split_ifs
    · exact reconnectTimeout_subset host w _
    · exact List.nil_subset _
  | stateTimer =>
    rw [deliver]
    split_ifs
    · exact pollOpenvpn_subset host w _
    · exact List.nil_subset _
  | logFileChanged content =>
    rw [deliver]
    split_ifs
    · exact openvpnLogfileChanged_subset host w m content
    · exact List.nil_subset _
  | socketReadyRead bytes =>
    rw [deliver]
    split
    · intro a ha
      obtain ⟨m', s, -, ha⟩ := mem_along ha
      exact parseSocketLine_subset m' s ha
    · exact List.nil_subset _
  | processDied wasReleased exitCode crashed =>
    rw [deliver]
    split_ifs
    · exact processDied_subset host w _ _ _
    · exact List.nil_subset _
    · exact processDied_subset host w _ _ _
    · exact List.nil_subset _
  | _ => exact List.nil_subset _

/-- Nothing assigns `mReconnect`. -/
theorem mReconnect_unassigned (callback : Callback) :
    .assign .mReconnect ∉ deliver host w m callback := by
  have hnone : .assign .mReconnect ∉ ofCallback callback := by
    cases callback <;> dsimp only [ofCallback] <;> decide
  exact fun h => hnone (deliver_subset host w m callback h)

/-- What the first `start()` assigns. -/
def started : List Field := [.mReconnectAttempt, .mTunError, .mError, .mProcessing]

theorem read_ofAttempt {f : Field} (h : .read f ∈ ofAttempt) : f ∈ started := by
  cases f <;> revert h <;> decide

theorem read_ofLogFile {f : Field} (h : .read f ∈ ofLogFile) : f ∈ .mLogFilePosition :: started := by
  cases f <;> revert h <;> decide

variable {host w m} {A : List Field}

theorem initialised_of_subset {t u : Trace} (h : t ⊆ u) (hu : ∀ f, .read f ∈ u → f ∈ A) :
    Initialised A t :=
  initialised_of_reads fun f hf => hu f (h hf)

theorem initialised_writeConfigFile : Initialised A (writeConfigFile w m) := by
  unfold writeConfigFile
  split_ifs
  · trivial
  · split
    · trivial
    · split_ifs
      · exact ⟨List.mem_cons_self, trivial⟩
      · exact ⟨List.mem_cons_self, trivial⟩

theorem assign_of_written (h : (m.writeConfigFile host w).1 = true) :
    .assign .mTemplateHasDNSOptions ∈ writeConfigFile w m := by
  rw [OpenvpnManager.writeConfigFile_fst] at h
  obtain ⟨hopens, hsome⟩ := Bool.and_eq_true_iff.mp h
  obtain ⟨template, htemplate⟩ := Option.isSome_iff_exists.mp hsome
  unfold writeConfigFile
  rw [hopens, htemplate, Bool.not_true, if_neg Bool.false_ne_true]
  exact List.mem_cons_self

/-- A launch reads whether the template has DNS options once the config file is written
from the template. -/
theorem initialised_continueConnecting : Initialised A (continueConnecting host w m) := by
  have hlaunch : ∀ {f : Field}, .read f ∈ ofLaunch → f = .mTemplateHasDNSOptions := by
    intro f h
    cases f <;> revert h <;> decide
  refine initialised_append.mpr ⟨initialised_writeConfigFile, ?_⟩
  cases hwritten : (m.writeConfigFile host w).1 with
  | false => trivial
  | true =>
    have hassigned : Field.mTemplateHasDNSOptions ∈ after A (writeConfigFile w m) :=
      mem_after.mpr (.inl (assign_of_written hwritten))
    refine initialised_of_reads fun f hf => ?_
    have hwhole : Access.read f ∈ continueConnecting host w m := by
      unfold continueConnecting
      dsimp only
      rw [hwritten]
      exact List.mem_append_right _ hf
    rw [hlaunch (continueConnecting_subset host w m hwhole)]
    exact hassigned

/-- Of all that an event reads, only `mReconnect` may be missing. -/
theorem initialised_deliver (hstarted : (∀ f ∈ started, f ∈ A) ∨ m.residue.Dormant)
    (hwatched : m.mFileSystemWatcher = true → .mLogFilePosition ∈ A) (callback : Callback) :
    Initialised (.mReconnect :: A) (deliver host w m callback) := by
  have hawake : ¬m.residue.Dormant → ∀ f ∈ started, f ∈ Field.mReconnect :: A :=
    fun hawake f hf => List.mem_cons_of_mem _ (hstarted.resolve_right hawake f hf)
  have hnothing : ∀ {t : Trace}, (∀ f, .read f ∉ t) → deliver host w m callback ⊆ t →
      Initialised (.mReconnect :: A) (deliver host w m callback) := fun ht hsub =>
    initialised_of_subset hsub fun f hf => absurd hf (ht f)
  have hsub := deliver_subset host w m callback
  cases callback with
  | command client line jObj => exact hnothing (t := start) (fun f => by cases f <;> decide) hsub
  | processDied wasReleased exitCode crashed =>
    exact hnothing (t := ofWatcher) (fun f => by cases f <;> decide) hsub
  | templateFinished request bytes =>
    rw [deliver]
    split
    · unfold getTemplateFinished
      split_ifs
      · trivial
      · exact initialised_continueConnecting
    · trivial
  | reconnectTimeout =>
    by_cases harmed : 0 < m.reconnectTimers
    · refine initialised_of_subset hsub fun f hf => hawake ?_ f ?_
      · exact fun hd => Nat.ne_of_gt harmed hd.reconnect
      · cases f <;> revert hf <;> decide
    · rw [deliver, if_neg harmed]
      trivial
  | stateTimer =>
    by_cases hrunning : m.mStateTimer = true
    · refine initialised_of_subset hsub fun f hf => ?_
      rcases List.mem_cons.mp hf with hf | hf
      · exact Access.read.inj hf ▸ List.mem_cons_self
      · refine hawake (fun hd => ?_) f (read_ofAttempt hf)
        exact absurd (hd.mStateTimer.symm.trans hrunning) Bool.false_ne_true
    · rw [deliver, if_neg hrunning]
      trivial
  | logFileChanged content =>
    by_cases hwatching : m.mFileSystemWatcher = true
    · refine initialised_of_subset hsub fun f hf => ?_
      rcases List.mem_cons.mp (read_ofLogFile hf) with rfl | hf
      · exact List.mem_cons_of_mem _ (hwatched hwatching)
      · refine hawake (fun hd => ?_) f hf
        exact absurd (hd.watcher.symm.trans hwatching) Bool.false_ne_true
    · rw [deliver, if_neg hwatching]
      trivial
  | socketReadyRead bytes =>
    by_cases hsocket : m.mSocket = none
    · dsimp only [deliver]
      rw [hsocket]
      trivial
    · refine initialised_of_subset hsub fun f hf => ?_
      rcases List.mem_cons.mp hf with hf | hf
      · exact Access.read.inj hf ▸ List.mem_cons_self
      · exact hawake (fun hd => hsocket hd.socket) f (read_ofAttempt hf)
  | _ => trivial

end Trace

namespace OpenvpnManager
variable (host : Host)

/-- A state line that says that openvpn is exiting. -/
def exits (s : QString) : Bool := (stateWordOf s).any (·.equalsFolded "EXITING".toList)

/-- A tick that does not find openvpn running while connected. -/
def noticesCrash (m : OpenvpnManager) (e : Event) : Bool :=
  e.callback.isTick && m.mStateTimer &&
    !(({ m with asked := 0 }.serviceLog "checkState called".toList).openvpnRunning host e.world).1 &&
    m.mState == .connected

/-- Neither a line that says that openvpn is exiting is read, nor a crash noticed. -/
def StaysUp (m : OpenvpnManager) (e : Event) : Prop :=
  (∀ s ∈ m.passes e, exits s = false) ∧ noticesCrash host m e = false

theorem read_mReconnect_parseSocketLine (m : OpenvpnManager) (s : QString) :
    .read .mReconnect ∈ Trace.parseSocketLine s m ↔ exits s = true := by
  have hquery : ∀ word, .read Field.mReconnect ∉ Trace.parseSocketQueryWord word s m := by
    intro word h
    have hattempt := Trace.parseSocketQueryWord_subset m word s h
    revert hattempt
    decide
  unfold Trace.parseSocketLine exits
  cases stateWordOf s with
  | some word =>
    dsimp only
    rw [Option.any_some, Trace.parseSocketStateWord]
    cases word.equalsFolded "EXITING".toList with
    | false => decide
    | true => decide
  | none =>
    refine iff_of_false ?_ nofun
    cases queryWordOf s with
    | some word => exact hquery word
    | none => nofun

theorem read_mReconnect_pollOpenvpn (w : World) (m : OpenvpnManager) :
    .read .mReconnect ∈ Trace.pollOpenvpn host w m ↔
      (m.openvpnRunning host w).1 = false ∧ m.mState = .connected := by
  have hstate : (m.openvpnRunning host w).2.mState = m.mState :=
    congrArg Residue.mState (residue_openvpnRunning host w m)
  unfold Trace.pollOpenvpn
  dsimp only
  rw [hstate]
  cases (m.openvpnRunning host w).1 with
  | true => exact iff_of_false nofun nofun
  | false =>
    by_cases hconnected : m.mState = .connected
    · rw [if_neg Bool.false_ne_true, if_pos hconnected]
      exact iff_of_true List.mem_cons_self ⟨rfl, hconnected⟩
    · rw [if_neg Bool.false_ne_true, if_neg hconnected]
      exact iff_of_false nofun fun h => hconnected h.2

/-- Only these read `mReconnect`. -/
theorem read_mReconnect_iff (m : OpenvpnManager) (e : Event) :
    .read .mReconnect ∈ Trace.step host m e ↔ ¬StaysUp host m e := by
  obtain ⟨w, callback⟩ := e
  have hneither : ∀ {t : Trace}, Trace.step host m ⟨w, callback⟩ ⊆ t → .read .mReconnect ∉ t →
      m.passes ⟨w, callback⟩ = [] → callback.isTick = false →
      (.read .mReconnect ∈ Trace.step host m ⟨w, callback⟩ ↔ ¬StaysUp host m ⟨w, callback⟩) := by
    intro t hsub ht hpasses htick
    refine iff_of_false (fun h => ht (hsub h)) (not_not.mpr ⟨?_, ?_⟩)
    · rw [hpasses]
      nofun
    · rw [noticesCrash, htick]
      rfl
  have hsub := Trace.deliver_subset host w { m with asked := 0 } callback
  cases callback with
  | stateTimer =>
    have hnone : ∀ s ∈ m.passes ⟨w, .stateTimer⟩, exits s = false := nofun
    rw [StaysUp, and_iff_right hnone, Bool.not_eq_false]
    dsimp only [Trace.step, Trace.deliver, noticesCrash, Callback.isTick]
    cases m.mStateTimer with
    | false => exact iff_of_false nofun Bool.false_ne_true
    | true =>
      refine (read_mReconnect_pollOpenvpn host w _).trans ?_
      rw [Bool.and_self, Bool.true_and, Bool.and_eq_true, Bool.not_eq_true', beq_iff_eq]
      rfl
  | socketReadyRead bytes =>
    have hup : noticesCrash host m ⟨w, .socketReadyRead bytes⟩ = false := rfl
    rw [StaysUp, and_iff_left hup]
    dsimp only [Trace.step, Trace.deliver, passes, Callback.socketBytes]
    cases m.mSocket with
    | none => exact iff_of_false nofun (not_not.mpr nofun)
    | some socket =>
      refine (mem_along_iff read_mReconnect_parseSocketLine).trans ?_
      simp only [not_forall, Bool.not_eq_false, exists_prop]
  | command client line jObj => exact hneither (t := Trace.start) hsub (by decide) rfl rfl
  | templateFinished request bytes => exact hneither (t := Trace.ofLaunch) hsub (by decide) rfl rfl
  | reconnectTimeout =>
    exact hneither (t := Trace.ofCallback .reconnectTimeout) hsub (by decide) rfl rfl
  | logFileChanged content => exact hneither (t := Trace.ofLogFile) hsub (by decide) rfl rfl
  | processDied wasReleased exitCode crashed =>
    exact hneither (t := Trace.ofWatcher) hsub (by decide) rfl rfl
  | _ => exact hneither (t := []) hsub nofun rfl rfl

end OpenvpnManager

/-- The manager, and the control fields that are assigned. -/
structure AccessSession where
  manager : OpenvpnManager
  assigned : List Field

namespace AccessSession
variable (host : Host)

/-- The constructor assigns none of them. -/
def initial (u : Indeterminate) : AccessSession := ⟨.initial u, []⟩

def step (s : AccessSession) (e : Event) : AccessSession :=
  ⟨s.manager.step host e, after s.assigned (Trace.step host s.manager e)⟩

/-- The event reads assigned fields only. -/
def Defined (s : AccessSession) (e : Event) : Prop :=
  Accesses.Initialised s.assigned (Trace.step host s.manager e)

instance (s : AccessSession) (e : Event) : Decidable (Defined host s e) :=
  inferInstanceAs (Decidable (Accesses.Initialised _ _))

/-- What is assigned between the events. -/
structure Ready (s : AccessSession) : Prop where
  started : (∀ f ∈ Trace.started, f ∈ s.assigned) ∨ s.manager.residue.Dormant
  watched : s.manager.mFileSystemWatcher = true → .mLogFilePosition ∈ s.assigned
  mReconnect : .mReconnect ∉ s.assigned

theorem ready_initial (u : Indeterminate) : (initial u).Ready where
  started := .inr
    { replies := nofun
      reconnect := rfl
      timer := nofun
      process := rfl
      released := rfl
      state := rfl
      socket := rfl
      watcher := rfl }
  watched := nofun
  mReconnect := nofun

/-- Only the command that starts the first attempt wakes the manager, and it assigns what
an attempt reads. -/
theorem started_step {s : AccessSession} (h : s.manager.residue.Dormant) (e : Event) :
    (∀ f ∈ Trace.started, f ∈ (s.step host e).assigned) ∨ (s.step host e).manager.residue.Dormant := by
  obtain ⟨w, callback⟩ := e
  by_cases hstart : callback.isStart = true
  · cases callback with
    | command client line jObj =>
      have hcmd : (jObj.value "cmd".toList).toInt = cmdStart := beq_iff_eq.mp hstart
      by_cases hopen : s.manager.connections.any (·.id == client) = true
      · left
        have htrace : Trace.step host s.manager ⟨w, .command client line jObj⟩ = Trace.start := by
          rw [Trace.step, Trace.deliver, if_pos hopen, Trace.command, if_pos hcmd]
        intro f hf
        rw [step, htrace, mem_after]
        left
        revert f
        decide
      · right
        rw [step, OpenvpnManager.step, OpenvpnManager.deliver, if_neg hopen]
        exact h
    | _ => cases hstart
  · exact .inr (OpenvpnManager.dormant_step host h (Bool.eq_false_of_not_eq_true hstart))

theorem Ready.step {s : AccessSession} (e : Event) (hr : s.Ready) : (s.step host e).Ready where
  started := by
    rcases hr.started with hstarted | hdormant
    · exact .inl fun f hf => mem_after.mpr (.inr (hstarted f hf))
    · exact started_step host hdormant e
  watched h := by
    rcases OpenvpnManager.watched_step host s.manager e h with hwatched | hassign
    · exact mem_after.mpr (.inr (hr.watched hwatched))
    · exact mem_after.mpr (.inl hassign)
  mReconnect h := by
    rcases mem_after.mp h with hassign | hassigned
    · exact Trace.mReconnect_unassigned host e.world _ e.callback hassign
    · exact hr.mReconnect hassigned

theorem Ready.defined_iff {s : AccessSession} (hr : s.Ready) (e : Event) :
    s.Defined host e ↔ s.manager.StaysUp host e := by
  have honly : Accesses.Initialised (.mReconnect :: s.assigned) (Trace.step host s.manager e) :=
    Trace.initialised_deliver (m := { s.manager with asked := 0 }) hr.started hr.watched e.callback
  have hunassigned := Trace.mReconnect_unassigned host e.world { s.manager with asked := 0 } e.callback
  refine (initialised_iff hr.mReconnect hunassigned honly).trans ?_
  exact (not_congr (OpenvpnManager.read_mReconnect_iff host s.manager e)).trans not_not

/-- In every run of the service, control fields are assigned before they are read exactly
where openvpn neither exits nor crashes while connected. -/
theorem meets_defined_iff (u : Indeterminate) (es : List Event) :
    Meets (step host) (Defined host) (initial u) es ↔
      Meets (OpenvpnManager.step host) (OpenvpnManager.StaysUp host) (.initial u) es := by
  have hmanager : ∀ s e, (step host s e).manager = s.manager.step host e := fun _ _ => rfl
  exact (meets_congr (fun _ e hr => hr.step host e) (fun _ e hr => hr.defined_iff host e)
    (ready_initial u)).trans (meets_comap hmanager)

end AccessSession
end CeloVpn.Service
