import CeloVpn.Client.ServerLists

/-!
# The indices the ping workers hold

A server is pinged by its index, which waits in a queue and then stays with a
worker until the worker is given another one. A new reply replaces the servers
and gives no thought to the indices that are still held.
-/
namespace CeloVpn.Client
open Runs

namespace AuthManager
variable (m : AuthManager)

/-- A worker can still deliver an event, of its process or of its timer. -/
def Delivers (k : ℕ) : Prop := m.processLives k = true ∨ (m.mTimers k).active = true

/-- An index is in range of the servers and of the pings. -/
def Within (i : ℕ) : Prop := i < m.mServers.length ∧ i < m.mPings.length

/-- Every index that is held is in range, and so was every access. -/
structure InRange : Prop where
  waiting : ∀ i ∈ m.mToPing, m.Within i
  inProgress : ∀ k, m.Delivers k → m.Within (m.mInProgress k)
  accesses : m.outOfRange = false

/-- Only the workers there are deliver events. -/
def Manned : Prop :=
  (∀ k, m.Delivers k → k < m.workers) ∧ (m.workers = 0 ∨ m.workers = pingWorkersNum)

section Worker
variable {m}

theorem delivers_stopTimer {id k : ℕ} (h : (m.stopTimer id).Delivers k) : m.Delivers k := by
  by_cases hk : k = id
  · subst hk
    exact .inl (h.resolve_right (by simp [stopTimer]))
  · simpa [Delivers, stopTimer, processLives, hk] using h

theorem delivers_endProcess {id k : ℕ} (h : (m.endProcess id).Delivers k) : m.Delivers k := by
  by_cases hk : k = id
  · subst hk
    exact .inr (h.resolve_left (by simp [endProcess, processLives]))
  · simpa [Delivers, endProcess, processLives, hk] using h

/-- What `startWorker` does with an index that waits. -/
theorem startWorker_cons {srv : ℕ} {rest : List ℕ} (h : m.mToPing = srv :: rest) (id : ℕ) :
    m.startWorker id = { m with
      mToPing := rest
      outOfRange := m.outOfRange || !decide (srv < m.mServers.length)
      mInProgress := Function.update m.mInProgress id srv
      mWorkers := Function.update m.mWorkers id (some ⟨true⟩)
      mTimers := Function.update m.mTimers id ⟨true, (m.mTimers id).connections + 1⟩ } := by
  unfold startWorker
  rw [h]
  rfl

theorem startWorker_nil (h : m.mToPing = []) (id : ℕ) :
    m.startWorker id = { m with mPingsLoaded := true } := by
  unfold startWorker
  rw [h]

theorem delivers_startWorker_of_ne {id k : ℕ} (hk : k ≠ id) :
    (m.startWorker id).Delivers k ↔ m.Delivers k := by
  cases h : m.mToPing with
  | nil => rw [startWorker_nil h]; rfl
  | cons srv rest => simp [startWorker_cons h, Delivers, processLives, hk]

/-- All is in range, the index of this worker included. -/
def Ready (id : ℕ) (m : AuthManager) : Prop := m.InRange ∧ m.Within (m.mInProgress id)

theorem InRange.ready {id : ℕ} (h : m.InRange) (hid : m.Delivers id) : Ready id m :=
  ⟨h, h.inProgress id hid⟩

theorem Ready.stopTimer {id : ℕ} (h : Ready id m) : Ready id (m.stopTimer id) :=
  ⟨⟨h.1.waiting, fun k hk => h.1.inProgress k (delivers_stopTimer hk), h.1.accesses⟩, h.2⟩

theorem Ready.endProcess {id : ℕ} (h : Ready id m) : Ready id (m.endProcess id) :=
  ⟨⟨h.1.waiting, fun k hk => h.1.inProgress k (delivers_endProcess hk), h.1.accesses⟩, h.2⟩

theorem Ready.readServer {id : ℕ} (h : Ready id m) :
    Ready id (m.readServer (m.mInProgress id)) := by
  have haccesses : (m.outOfRange || !decide (m.mInProgress id < m.mServers.length)) = false := by
    simp [h.1.accesses, h.2.1]
  exact ⟨⟨h.1.waiting, h.1.inProgress, haccesses⟩, h.2⟩

theorem within_writePing (i j : ℕ) (p : ℤ) : (m.writePing i p).Within j ↔ m.Within j := by
  simp [Within, writePing]

theorem Ready.writePing {id : ℕ} (h : Ready id m) (p : ℤ) :
    Ready id (m.writePing (m.mInProgress id) p) := by
  have haccesses : (m.outOfRange || !decide (m.mInProgress id < m.mPings.length)) = false := by
    simp [h.1.accesses, h.2.2]
  exact ⟨⟨fun i hi => (within_writePing _ _ _).mpr (h.1.waiting i hi),
    fun k hk => (within_writePing _ _ _).mpr (h.1.inProgress k hk), haccesses⟩,
    (within_writePing _ _ _).mpr h.2⟩

theorem Ready.startWorker {id : ℕ} (h : Ready id m) : Ready id (m.startWorker id) := by
  cases hq : m.mToPing with
  | nil =>
    rw [startWorker_nil hq]
    exact ⟨⟨h.1.waiting, h.1.inProgress, h.1.accesses⟩, h.2⟩
  | cons srv rest =>
    have hsrv : m.Within srv := h.1.waiting srv (by simp [hq])
    have hself : (m.startWorker id).Within ((m.startWorker id).mInProgress id) := by
      simpa [startWorker_cons hq, Within] using hsrv
    refine ⟨⟨?_, ?_, ?_⟩, hself⟩
    · rw [startWorker_cons hq]
      exact fun i hi => h.1.waiting i (by simp [hq, hi])
    · intro k hk
      by_cases hkid : k = id
      · rw [hkid]
        exact hself
      · have hold := h.1.inProgress k ((delivers_startWorker_of_ne hkid).mp hk)
        simpa [startWorker_cons hq, Within, hkid] using hold
    · rw [startWorker_cons hq]
      simp [h.1.accesses, hsrv.1]

theorem Ready.pingComplete {id : ℕ} (h : Ready id m) (p : ℤ) : Ready id (m.pingComplete id p) :=
  (h.stopTimer.readServer.writePing p).startWorker

theorem Ready.pingError {id : ℕ} (h : Ready id m) (p : ℤ) : Ready id (m.pingError id p) :=
  (h.stopTimer.writePing p).startWorker

theorem Ready.pingTerminated {id : ℕ} (h : Ready id m) (p : ℤ) :
    Ready id (m.pingTerminated id p) :=
  (h.writePing p).startWorker

theorem Ready.timerTerminate {id : ℕ} (h : Ready id m) (p : ℕ → ℤ) :
    Ready id (m.timerTerminate id p) :=
  m.timerTerminate_induction (fun _ p h => h.pingTerminated p) h.stopTimer p

/-- Only workers deliver, and this is one of them. -/
def Employs (id : ℕ) (m : AuthManager) : Prop := m.Manned ∧ id < m.workers

theorem Employs.stopTimer {id : ℕ} (h : Employs id m) : Employs id (m.stopTimer id) :=
  ⟨⟨fun k hk => h.1.1 k (delivers_stopTimer hk), h.1.2⟩, h.2⟩

theorem Employs.endProcess {id : ℕ} (h : Employs id m) : Employs id (m.endProcess id) :=
  ⟨⟨fun k hk => h.1.1 k (delivers_endProcess hk), h.1.2⟩, h.2⟩

theorem workers_startWorker (id : ℕ) : (m.startWorker id).workers = m.workers := by
  unfold AuthManager.startWorker
  split <;> rfl

theorem Employs.startWorker {id : ℕ} (h : Employs id m) : Employs id (m.startWorker id) := by
  unfold Employs Manned
  rw [workers_startWorker]
  refine ⟨⟨fun k hk => ?_, h.1.2⟩, h.2⟩
  by_cases hkid : k = id
  · rw [hkid]
    exact h.2
  · exact h.1.1 k ((delivers_startWorker_of_ne hkid).mp hk)

theorem Employs.pingTerminated {id : ℕ} (h : Employs id m) (p : ℤ) :
    Employs id (m.pingTerminated id p) := by
  have hwritten : Employs id (m.writePing (m.mInProgress id) p) := h
  exact hwritten.startWorker

theorem Employs.timerTerminate {id : ℕ} (h : Employs id m) (p : ℕ → ℤ) :
    Employs id (m.timerTerminate id p) :=
  m.timerTerminate_induction (fun _ p h => h.pingTerminated p) h.stopTimer p

end Worker

/-- So many rounds of the loop have been made. -/
structure Started (m₀ : AuthManager) (j : ℕ) (m : AuthManager) : Prop where
  mServers : m.mServers = m₀.mServers
  mPings : m.mPings = m₀.mPings
  workers : m.workers = m₀.workers
  queue : m.mToPing = m₀.mToPing.drop j
  accesses : m.outOfRange =
    (m₀.outOfRange || (m₀.mToPing.take j).any fun i => !decide (i < m₀.mServers.length))
  started : ∀ k, k < j → k < m₀.mToPing.length → m.mInProgress k ∈ m₀.mToPing
  kept : ∀ k, j ≤ k ∨ m₀.mToPing.length ≤ k →
    m.mInProgress k = m₀.mInProgress k ∧ (m.Delivers k ↔ m₀.Delivers k)

theorem Started.round {m₀ : AuthManager} {j : ℕ} {m : AuthManager} (h : Started m₀ j m) :
    Started m₀ (j + 1) (if m.mToPing.isEmpty then m else m.startWorker j) := by
  by_cases hj : j < m₀.mToPing.length
  · have hdrop : m.mToPing = m₀.mToPing[j] :: m₀.mToPing.drop (j + 1) := by
      rw [h.queue, List.drop_eq_getElem_cons hj]
    have hstart := startWorker_cons hdrop j
    have hsome : ¬m.mToPing.isEmpty = true := by
      rw [hdrop]
      exact Bool.false_ne_true
    have hother : ∀ k, k ≠ j → (m.startWorker j).mInProgress k = m.mInProgress k := by
      intro k hkj
      rw [hstart]
      exact Function.update_of_ne hkj _ _
    rw [if_neg hsome]
    refine ⟨?_, ?_, ?_, ?_, ?_, ?_, ?_⟩
    · rw [hstart, ← h.mServers]
    · rw [hstart, ← h.mPings]
    · rw [hstart, ← h.workers]
    · rw [hstart]
    · have htake : m₀.mToPing.take (j + 1) = m₀.mToPing.take j ++ [m₀.mToPing[j]] := by
        rw [List.take_add_one, List.getElem?_eq_getElem hj]
        rfl
      rw [hstart, htake, List.any_append, List.any_cons, List.any_nil, Bool.or_false]
      dsimp only
      rw [h.accesses, h.mServers, Bool.or_assoc]
    · intro k hk hlength
      by_cases hkj : k = j
      · have hself : (m.startWorker j).mInProgress k = m₀.mToPing[j] := by
          rw [hstart, hkj]
          exact Function.update_self ..
        rw [hself]
        exact List.getElem_mem hj
      · rw [hother k hkj]
        exact h.started k (by omega) hlength
    · intro k hk
      have hkj : k ≠ j := by omega
      obtain ⟨hprogress, hdelivers⟩ := h.kept k (by omega)
      exact ⟨(hother k hkj).trans hprogress,
        (delivers_startWorker_of_ne hkj).trans hdelivers⟩
  · have hdrop : m.mToPing = [] := by rw [h.queue, List.drop_eq_nil_of_le (by omega)]
    rw [hdrop, if_pos (by rfl)]
    refine ⟨h.mServers, h.mPings, h.workers, ?_, ?_, ?_, ?_⟩
    · rw [hdrop, List.drop_eq_nil_of_le (by omega)]
    · rw [h.accesses, List.take_of_length_le (by omega), List.take_of_length_le (by omega)]
    · exact fun k _ hlength => h.started k (by omega) hlength
    · exact fun k hk => h.kept k (by omega)

theorem started_startWorkers : Started m m.workers m.startWorkers := by
  unfold startWorkers
  generalize m.workers = j
  induction j with
  | zero => exact ⟨rfl, rfl, rfl, rfl, by simp, nofun, fun _ _ => ⟨rfl, Iff.rfl⟩⟩
  | succ j ih =>
    rw [List.range_succ, List.foldl_append]
    exact ih.round

/-- After the loop all is in range exactly when the indices that waited are, and
those of the workers that got no other. -/
theorem inRange_startWorkers_iff (hsizes : m.mPings.length = m.mServers.length)
    (hmanned : m.Manned) (haccesses : m.outOfRange = false) : m.startWorkers.InRange ↔
      (∀ i ∈ m.mToPing, i < m.mServers.length) ∧ ∀ k, m.Delivers k → m.mToPing.length ≤ k →
        m.mInProgress k < m.mServers.length := by
  have h := m.started_startWorkers
  have hwithin : ∀ i, m.startWorkers.Within i ↔ i < m.mServers.length := by
    intro i
    rw [Within, h.mServers, h.mPings, hsizes, and_self]
  have hread := h.accesses
  rw [haccesses, Bool.false_or] at hread
  constructor
  · intro hrange
    refine ⟨fun i hi => ?_, fun k hk hlength => ?_⟩
    · rw [← List.take_append_drop m.workers m.mToPing] at hi
      rcases List.mem_append.mp hi with htaken | hleft
      · rw [hrange.accesses] at hread
        simpa using List.any_eq_false.mp hread.symm i htaken
      · exact (hwithin i).mp (hrange.waiting i (h.queue ▸ hleft))
    · obtain ⟨hprogress, hdelivers⟩ := h.kept k (.inr hlength)
      rw [← hprogress]
      exact (hwithin _).mp (hrange.inProgress k (hdelivers.mpr hk))
  · rintro ⟨hwaiting, hkept⟩
    refine ⟨fun i hi => ?_, fun k hk => ?_, ?_⟩
    · rw [h.queue] at hi
      exact (hwithin i).mpr (hwaiting i (List.mem_of_mem_drop hi))
    · rw [hwithin]
      by_cases hlength : m.mToPing.length ≤ k
      · obtain ⟨hprogress, hdelivers⟩ := h.kept k (.inr hlength)
        rw [hprogress]
        exact hkept k (hdelivers.mp hk) hlength
      · have hk' : k < m.workers := by
          by_contra hout
          obtain ⟨-, hdelivers⟩ := h.kept k (.inl (by omega))
          exact hout (hmanned.1 k (hdelivers.mp hk))
        exact hwaiting _ (h.started k hk' (by omega))
    · rw [hread, List.any_eq_false]
      intro i hi
      simpa using hwaiting i (List.mem_of_mem_take hi)

/-- The indices that stay where they are when so many servers are listed and pinged
anew are in range of these. -/
def Fits (n : ℕ) (m : AuthManager) : Prop :=
  (∀ i ∈ m.mToPing, i < n) ∧
    ∀ k, m.Delivers k → m.mToPing.length + n ≤ k → m.mInProgress k < n

theorem inRange_pingAllServers_iff (hpings : m.mPings = []) (hmanned : m.Manned)
    (haccesses : m.outOfRange = false) :
    m.pingAllServers.InRange ↔ m.Fits m.mServers.length := by
  have hqueue : ∀ n, (∀ i ∈ m.mToPing ++ List.range n, i < n) ↔ ∀ i ∈ m.mToPing, i < n := by
    intro n
    rw [List.forall_mem_append]
    exact and_iff_left fun i hi => List.mem_range.mp hi
  unfold pingAllServers
  dsimp only
  rcases hmanned.2 with hnone | hsome
  · have hidle : ∀ k, ¬m.Delivers k := fun k hk => by
      have hlt := hmanned.1 k hk
      omega
    rw [if_pos hnone]
    rw [inRange_startWorkers_iff]
    · exact and_congr (hqueue _)
        ⟨fun _ k hk => absurd hk (hidle k), fun _ k hk => absurd hk (hidle k)⟩
    · simp [hpings]
    · exact ⟨fun k hk => absurd hk (hidle k), .inr rfl⟩
    · exact haccesses
  · rw [if_neg (by rw [hsome]; decide)]
    rw [inRange_startWorkers_iff]
    · refine and_congr (hqueue _) (forall_congr' fun k => imp_congr_right fun _ => ?_)
      simp
    · simp [hpings]
    · exact hmanned
    · exact haccesses

/-- Where there are no pings, nothing may be held. -/
theorem inRange_iff_of_no_pings (hpings : m.mPings = []) (haccesses : m.outOfRange = false) :
    m.InRange ↔ m.Fits 0 := by
  constructor
  · intro h
    refine ⟨fun i hi => ?_, fun k hk _ => ?_⟩
    · simpa [hpings] using (h.waiting i hi).2
    · simpa [hpings] using (h.inProgress k hk).2
  · rintro ⟨hwaiting, hkept⟩
    have hempty : m.mToPing = [] := List.eq_nil_iff_forall_not_mem.mpr fun i hi =>
      absurd (hwaiting i hi) (Nat.not_lt_zero i)
    refine ⟨fun i hi => absurd (hwaiting i hi) (Nat.not_lt_zero i), fun k hk => ?_, haccesses⟩
    exact absurd (hkept k hk (by simp [hempty])) (Nat.not_lt_zero _)

end AuthManager

/-- How many servers are pinged after a reply. -/
def ServersReply.pinged (reply : ServersReply) (testing : Bool) : ℕ :=
  if testing then 0 else reply.servers.length

namespace AuthManager
variable (m : AuthManager)

theorem inRange_processServersXml_iff (reply : ServersReply) (testing : Bool) (hmanned : m.Manned)
    (haccesses : m.outOfRange = false) :
    (m.processServersXml reply testing).2.InRange ↔ m.Fits (reply.pinged testing) := by
  have hnone : ∀ m' : AuthManager, m'.mPings = [] → m'.outOfRange = false →
      (m'.Fits 0 ↔ m.Fits 0) → (m'.InRange ↔ m.Fits 0) :=
    fun m' hpings hread hfits => (m'.inRange_iff_of_no_pings hpings hread).trans hfits
  have hfailed : ∀ reply : ServersReply, reply.servers = [] → reply.pinged testing = 0 := by
    intro reply h
    rw [ServersReply.pinged, h]
    split_ifs <;> rfl
  unfold processServersXml
  cases reply with
  | document nodes =>
    cases nodes with
    | nil =>
      rw [hfailed _ rfl]
      exact hnone _ rfl haccesses Iff.rfl
    | cons se nodes =>
      obtain ⟨a, b, c, d, hloop⟩ := foldl_addServer_frame m.clearServerLists (se :: nodes)
      have hlength : a.length = (ServersReply.document (se :: nodes)).servers.length := by
        have hlists := congrArg (fun l : Lists => l.mServers)
          (lists_foldl_addServer m.clearServerLists (se :: nodes))
        rw [hloop] at hlists
        exact congrArg List.length hlists
      dsimp only
      rw [hloop]
      cases testing with
      | true => exact hnone _ rfl haccesses Iff.rfl
      | false =>
        rw [ServersReply.pinged, if_neg Bool.false_ne_true, ← hlength]
        exact inRange_pingAllServers_iff (AuthManager.emit _ _) rfl hmanned haccesses
  | _ =>
    rw [hfailed _ rfl]
    exact hnone _ rfl haccesses Iff.rfl

theorem manned_startWorkers (h : m.Manned) : m.startWorkers.Manned := by
  have hstarted := m.started_startWorkers
  unfold Manned
  rw [hstarted.workers]
  refine ⟨fun k hk => ?_, h.2⟩
  by_contra hout
  exact hout (h.1 k ((hstarted.kept k (.inl (by omega))).2.mp hk))

theorem manned_pingAllServers (h : m.Manned) : m.pingAllServers.Manned := by
  unfold pingAllServers
  dsimp only
  split_ifs with hnone
  · refine manned_startWorkers _ ⟨fun k hk => ?_, .inr rfl⟩
    have hlt := h.1 k hk
    omega
  · exact manned_startWorkers _ h

theorem manned_loginFinished (reply : ServersReply) (testing : Bool) (h : m.Manned) :
    (m.loginFinished reply testing).Manned := by
  have hprocessed : (({ m with replyPending := false } : AuthManager).processServersXml reply
      testing).2.Manned := by
    unfold processServersXml
    cases reply with
    | document nodes =>
      cases nodes with
      | nil => exact h
      | cons se nodes =>
        obtain ⟨a, b, c, d, hloop⟩ := foldl_addServer_frame
          ({ m with replyPending := false } : AuthManager).clearServerLists (se :: nodes)
        dsimp only
        rw [hloop]
        cases testing with
        | true => exact h
        | false => exact manned_pingAllServers (emit _ _) h
    | _ => exact h
  exact hprocessed

theorem step_manned (m : AuthManager) (e : Event) (h : m.Manned) : (m.step e).Manned := by
  have habort : (({ m with mCancellingLogin := true } : AuthManager)).abortReply.Manned := by
    unfold abortReply
    split_ifs
    · exact manned_loginFinished _ _ _ h
    · exact h
  cases e with
  | login name password => exact h
  | cancel => exact habort
  | logout => exact habort
  | replyFinished reply testing =>
    simp only [step]
    split_ifs
    · exact manned_loginFinished m reply testing h
    · exact h
  | pingFinished id p =>
    simp only [step]
    split_ifs with hlives
    · have hid : Employs id m := ⟨h, h.1 id (.inl hlives)⟩
      have hwritten : Employs id ((m.endProcess id).stopTimer id) := hid.endProcess.stopTimer
      exact (Employs.startWorker (m := writePing _ _ _) hwritten).1
    · exact h
  | pingErrorOccurred id ends p =>
    simp only [step]
    split_ifs with hlives hends
    · have hid : Employs id m := ⟨h, h.1 id (.inl hlives)⟩
      exact (Employs.startWorker (m := writePing _ _ _) hid.endProcess.stopTimer).1
    · have hid : Employs id m := ⟨h, h.1 id (.inl hlives)⟩
      exact (Employs.startWorker (m := writePing _ _ _) hid.stopTimer).1
    · exact h
  | timeout id p =>
    simp only [step]
    split_ifs with hactive
    · have hid : Employs id m := ⟨h, h.1 id (.inr hactive)⟩
      exact (hid.timerTerminate p).1
    · exact h

/-- The event processes no reply, or one that the indices held fit. -/
def Fitting (m : AuthManager) (e : Event) : Prop :=
  ∀ r ∈ m.processes e, m.Fits (r.1.pinged r.2)

theorem inRange_loginFinished_iff (reply : ServersReply) (testing : Bool) (hmanned : m.Manned)
    (haccesses : m.outOfRange = false) :
    (m.loginFinished reply testing).InRange ↔ m.Fits (reply.pinged testing) := by
  have hprocessed := inRange_processServersXml_iff { m with replyPending := false } reply testing
    hmanned haccesses
  constructor
  · exact fun h => hprocessed.mp ⟨h.waiting, h.inProgress, h.accesses⟩
  · intro hfits
    have h := hprocessed.mpr hfits
    exact ⟨h.waiting, h.inProgress, h.accesses⟩

theorem inRange_step_iff (m : AuthManager) (e : Event) (hmanned : m.Manned) (h : m.InRange) :
    (m.step e).InRange ↔ m.Fitting e := by
  have hkept : ∀ m' : AuthManager, m'.InRange → m.processes e = none →
      (m'.InRange ↔ m.Fitting e) := by
    intro m' h' hnone
    exact iff_of_true h' fun r hr => by simp [hnone] at hr
  have hfinished : ∀ (reply : ServersReply) (testing : Bool),
      m.processes e = some (reply, testing) → (m.Fitting e ↔ m.Fits (reply.pinged testing)) := by
    intro reply testing hsome
    rw [Fitting, hsome]
    simp
  have habort : ∀ m' : AuthManager, m'.Manned → m'.InRange → m'.replyPending = m.replyPending →
      (m'.Fits 0 ↔ m.Fits 0) → (m.processes e = if m.replyPending then
        some (.error "Operation canceled".toList, false) else none) →
      (m'.abortReply.InRange ↔ m.Fitting e) := by
    intro m' hmanned' h' hpending hfits hprocesses
    unfold abortReply
    rw [hpending]
    split_ifs with hp
    · rw [if_pos hp] at hprocesses
      rw [hfinished _ _ hprocesses, inRange_loginFinished_iff m' _ _ hmanned' h'.accesses]
      exact hfits
    · rw [if_neg hp] at hprocesses
      exact hkept m' h' hprocesses
  have hcancel := habort { m with mCancellingLogin := true } hmanned
    ⟨h.waiting, h.inProgress, h.accesses⟩ rfl Iff.rfl
  cases e with
  | login name password =>
    exact hkept (m.login name password) ⟨h.waiting, h.inProgress, h.accesses⟩ rfl
  | cancel => exact hcancel rfl
  | logout =>
    refine Iff.trans ?_ (hcancel rfl)
    exact ⟨fun h => ⟨h.waiting, h.inProgress, h.accesses⟩,
      fun h => ⟨h.waiting, h.inProgress, h.accesses⟩⟩
  | replyFinished reply testing =>
    simp only [step]
    split_ifs with hpending
    · rw [hfinished reply testing (if_pos hpending)]
      exact inRange_loginFinished_iff m reply testing hmanned h.accesses
    · exact hkept m h (if_neg hpending)
  | pingFinished id p =>
    simp only [step]
    split_ifs with hlives
    · exact hkept _ ((h.ready (.inl hlives)).endProcess.pingComplete p).1 rfl
    · exact hkept m h rfl
  | pingErrorOccurred id ends p =>
    simp only [step]
    split_ifs with hlives hends
    · exact hkept _ ((h.ready (.inl hlives)).endProcess.pingError p).1 rfl
    · exact hkept _ ((h.ready (.inl hlives)).pingError p).1 rfl
    · exact hkept m h rfl
  | timeout id p =>
    simp only [step]
    split_ifs with hactive
    · exact hkept _ ((h.ready (.inr hactive)).timerTerminate p).1 rfl
    · exact hkept m h rfl

/-- Throughout a run every index held is in range and so is every access, exactly
when each reply is processed while the indices that stay held are below the number
of servers it has pinged. -/
theorem indices_in_range_iff (mPingsLoaded : Bool) (es : List Event) :
    Throughout step InRange (initial mPingsLoaded) es ↔
      Meets step Fitting (initial mPingsLoaded) es := by
  have hidle : ∀ k, ¬(initial mPingsLoaded).Delivers k := by
    intro k hk
    simp [Delivers, processLives, initial] at hk
  exact throughout_iff_meets (I := Manned) step_manned inRange_step_iff
    ⟨fun k hk => absurd hk (hidle k), .inl rfl⟩
    ⟨fun i hi => absurd hi List.not_mem_nil, fun k hk => absurd hk (hidle k), rfl⟩

/-- A login that fails while the servers of the login before it are pinged leaves
their indices behind. -/
theorem index_out_of_range_after_failed_login : ¬∀ (mPingsLoaded : Bool) (es : List Event),
    Throughout step InRange (initial mPingsLoaded) es := by
  intro h
  have hlast := (h false
    [.login "user".toList "secret".toList, .replyFinished Listing.oneServer false, .logout,
      .login "user".toList "secret".toList, .replyFinished (.error "Host not found".toList) false,
      .timeout 0 fun _ => -1]).last
  exact absurd hlast.accesses (by decide)

end AuthManager
end CeloVpn.Client
