import CeloVpn.Service.Accesses

/-!
# The watcher of the log file and its position

Whatever sets the watcher up has assigned the position in the log file just before.
-/
namespace CeloVpn.Service.OpenvpnManager
variable {host : Host} {w : World} {c : Settings} {l : List QString} {tun watched : Prop}
  {m : OpenvpnManager}

/-- A trace that assigns the position accounts for the watcher. -/
def Accounts (t : Trace) (watched : Prop) : Prop := .assign .mLogFilePosition ∈ t → watched

theorem Accounts.left {t u : Trace} (h : Accounts (t ++ u) watched) : Accounts t watched :=
  fun ht => h (List.mem_append_left _ ht)

theorem Accounts.right {t u : Trace} (h : Accounts (t ++ u) watched) : Accounts u watched :=
  fun hu => h (List.mem_append_right _ hu)

theorem Keeps.beginWatching (ht : Accounts (Trace.setupFileWatcher w m) watched)
    (h : Keeps c l tun watched m) : Keeps c l tun watched (m.setupFileWatcher host w) := by
  unfold Trace.setupFileWatcher at ht
  unfold OpenvpnManager.setupFileWatcher
  split_ifs at ht ⊢
  · exact h
  · exact Keeps.serviceLog (m := { m.ask with mLogFilePosition := 0, mFileSystemWatcher := true }) _
      ⟨h.1, h.2.1, h.2.2.1, fun _ => ht List.mem_cons_self⟩
  · exact h

theorem Keeps.changeState (st : ℤ) (ht : Accounts (Trace.setupFileWatcher w m) watched)
    (h : Keeps c l tun watched m) : Keeps c l tun watched (m.processStateChanged host w st) :=
  Keeps.beginWatching ht (h.serviceLog _)

theorem Keeps.finish (exitCode exitStatus : ℤ)
    (ht : Accounts (if exitCode ≠ 0 then [] else Trace.setupFileWatcher w m) watched)
    (h : Keeps c l tun watched m) :
    Keeps c l tun watched (m.processFinished host w exitCode exitStatus) := by
  have hlogged := fun s => h.serviceLog s
  unfold OpenvpnManager.processFinished
  dsimp only
  split_ifs at ht ⊢
  · exact (hlogged _).openvpnRunning host w
  · exact ((hlogged _).openvpnRunning host w).setState w _
  · exact (Keeps.beginWatching (m := m.serviceLog _) ht (hlogged _)).connectToOpenvpnSocket w

theorem Keeps.die (exitCode : ℤ) (crashed : Bool)
    (ht : Accounts (Trace.processDied host w exitCode crashed m) watched)
    (h : Keeps c l tun watched m) : Keeps c l tun watched (m.processDied host w exitCode crashed) :=
  Keeps.finish _ _ ht.right (Keeps.changeState 0 ht.left (.ite (h.processError 1) h))

theorem Keeps.delete (ht : Accounts (Trace.deleteProcess host w m) watched)
    (h : Keeps c l tun watched m) : Keeps c l tun watched (m.deleteProcess host w) := by
  unfold Trace.deleteProcess at ht
  unfold OpenvpnManager.deleteProcess
  split_ifs at ht ⊢
  · exact Keeps.die (m := { m with mProcess := some .notRunning }) _ _ ht h
  · exact h

theorem Keeps.launch (ht : Accounts (Trace.startProcess host w m) watched)
    (h : Keeps c l tun watched m) : Keeps c l tun watched (m.startProcess host w) := by
  have hset : ∀ {m' : OpenvpnManager} (state : ProcessState) (st : ℤ),
      Accounts (Trace.setupFileWatcher w m') watched → Keeps c l tun watched m' →
      Keeps c l tun watched ({ m' with mProcess := some state }.processStateChanged host w st) :=
    fun {m'} state st ht h => Keeps.changeState (m := { m' with mProcess := some state }) st ht h
  have hstarting := hset .starting 1 ht.left h
  unfold OpenvpnManager.startProcess
  exact .ite (hset .running 2 ht.right hstarting).processStarted
    ((hset .notRunning 0 ht.right hstarting).processError 0)

theorem Keeps.launchOn (args : List QString) (ht : Accounts (Trace.launchDaemon w args m) watched)
    (h : Keeps c l tun watched m) : Keeps c l tun watched (m.launchDaemon host w args) := by
  unfold Trace.launchDaemon at ht
  unfold OpenvpnManager.launchDaemon
  cases hfailure : w.launchFailure with
  | some what => exact ((h.serviceLog _).emit _).setState w _
  | none =>
    rw [hfailure] at ht
    have hattached := (((((h.serviceLog "######  before exec ####".toList).noteLaunch args).serviceLog
      ("Result of openvpn execution is ".toList ++ QString.number w.execResult)).serviceLog
      "before attaching to OpenVPN".toList).connectToOpenvpnSocket w)
    exact ((Keeps.beginWatching ht hattached).serviceLog _).stampAndStartTimer w

theorem Keeps.launchWith (args : List QString)
    (ht : Accounts (Trace.launchProcess host w args m) watched)
    (h : Keeps c l tun watched m) : Keeps c l tun watched (m.launchProcess host w args) :=
  ((Keeps.launch ht.right ((Keeps.delete ht.left h).noteLaunch args)).serviceLog _)
    |>.stampAndStartTimer w

theorem Keeps.proceed (ht : Accounts (Trace.continueConnecting host w m) watched)
    (h : Keeps c l tun watched m) : Keeps c l tun watched (m.continueConnecting host w) := by
  have hwritten := h.writeConfigFile host w
  have hlogged := fun s s' => (hwritten.serviceLog s).serviceLog s'
  have hright := Accounts.right ht
  unfold OpenvpnManager.continueConnecting
  dsimp only at hright ⊢
  split_ifs at hright ⊢
  · exact hwritten
  · refine Keeps.serviceLog _ ?_
    have hlaunch := Accounts.right hright
    cases hplatform : host.platform with
    | windows =>
      rw [hplatform] at hlaunch
      exact Keeps.launchWith _ hlaunch (hlogged _ _)
    | linux =>
      rw [hplatform] at hlaunch
      exact Keeps.launchOn _ hlaunch (hlogged _ _)
    | darwin =>
      rw [hplatform] at hlaunch
      exact Keeps.launchOn _ hlaunch (hlogged _ _)

/-- Whenever a callback leaves the log file watched, it was watched before, or the
callback has assigned the position. -/
theorem watched_deliver (callback : Callback) (hbegins : callback.watches = true)
    (h : (m.deliver host w callback).mFileSystemWatcher = true) :
    m.mFileSystemWatcher = true ∨
      .assign .mLogFilePosition ∈ Trace.deliver host w m callback := by
  have hm : ∀ t : Trace, Keeps m.settings m.log (m.mTunError = true)
      (m.mFileSystemWatcher = true ∨ .assign .mLogFilePosition ∈ t) m :=
    fun t => (Keeps.refl m).weaken .inl
  cases callback with
  | templateFinished request bytes =>
    dsimp only [Trace.deliver, deliver] at h ⊢
    cases hfound : m.requests.find? (·.id == request) with
    | none =>
      rw [hfound] at h
      exact .inl h
    | some reply =>
      rw [hfound] at h
      unfold getTemplateFinished at h
      unfold Trace.getTemplateFinished
      dsimp only at h ⊢
      split_ifs at h ⊢
      · exact (Keeps.stop host w (Keeps.serviceLog (m := m.takeRequest request) _ (hm _))).2.2.2 h
      · exact (Keeps.proceed (m := (m.takeRequest request).insertTemplate _ _) .inr (hm _)).2.2.2 h
  | processDied wasReleased exitCode crashed =>
    dsimp only [Trace.deliver, deliver] at h ⊢
    split_ifs at h ⊢
    · exact (Keeps.die (m := { m with released := m.released - 1 }) exitCode crashed .inr
        (hm _)).2.2.2 h
    · exact .inl h
    · exact (Keeps.die (m := { m with mProcess := some .notRunning }) exitCode crashed .inr
        (hm _)).2.2.2 h
    · exact .inl h
  | _ => cases hbegins

theorem watched_step (host : Host) (m : OpenvpnManager) (e : Event)
    (h : (m.step host e).mFileSystemWatcher = true) :
    m.mFileSystemWatcher = true ∨ .assign .mLogFilePosition ∈ Trace.step host m e :=
  (m.step_mFileSystemWatcher host e h).elim .inl fun hbegins =>
    watched_deliver (m := { m with asked := 0 }) e.callback hbegins h

end CeloVpn.Service.OpenvpnManager
