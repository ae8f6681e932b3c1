import CeloVpn.Client.Gui
import CeloVpn.Client.PingTimeouts

/-!
# A round of pings

Once a list of servers has arrived, the workers take its indices from a queue until it is
empty. Whatever the order in which their processes end, each ping that is found belongs to
the server it is stored for, and the processes are not at an end before every server has
been reported on.
-/
namespace CeloVpn.Client
open Runs

namespace AuthManager
variable (m : AuthManager)

/-- Nothing waits to be pinged, and no process or timer of a worker is running. -/
structure Idle : Prop where
  waiting : m.mToPing = []
  quiet : ∀ k, ¬m.Delivers k
  workers : m.workers = 0 ∨ m.workers = pingWorkersNum

/-- The pings that an event reports, each with the server it is the ping of. -/
def reports : Event → List (ℕ × ℤ)
  | .pingFinished id p => if m.processLives id then [(m.mInProgress id, p)] else []
  | .pingErrorOccurred id _ p => if m.processLives id then [(m.mInProgress id, p)] else []
  | .timeout id p =>
    if (m.mTimers id).active then
      (List.range (m.mTimers id).connections).map fun i => (m.mInProgress id, p i)
    else []
  | _ => []

/-- The event is one of a ping, and if a timer runs out it ends no ping but its worker's. -/
def OwnPing (e : Event) : Prop := e.pings = true ∧ m.FirstPing e

end AuthManager

/-- The account, with the pings reported in this round, newest first. -/
structure PingRound where
  manager : AuthManager
  reported : List (ℕ × ℤ)

namespace PingRound
open AuthManager (Event)
variable {n j id : ℕ} {t : PingRound}

def step (t : PingRound) (e : Event) : PingRound :=
  ⟨t.manager.step e, (t.manager.reports e).reverse ++ t.reported⟩

/-- What was reported of a server last, minus one where nothing was. -/
def result (t : PingRound) (server : ℕ) : ℤ :=
  ((t.reported.find? (·.1 == server)).map Prod.snd).getD (-1)

/-- Of `n` servers the first `j` have been given to workers, and perhaps all but the
worker `but` are at work as long as a server waits. -/
structure Pooled (but : ℕ → Prop) (n j : ℕ) (t : PingRound) : Prop where
  pings : t.manager.mPings = (List.range n).map t.result
  queue : t.manager.mToPing = List.range' j (n - j)
  bound : j ≤ n
  held : ∀ k, t.manager.Delivers k → k < pingWorkersNum ∧ t.manager.mInProgress k < j
  begun : ∀ k < j, k ∈ t.reported.map Prod.fst ∨
    ∃ w, (but w ∨ t.manager.processLives w = true) ∧ t.manager.mInProgress w = k
  busy : j < n → ∀ w < pingWorkersNum, ¬but w → t.manager.processLives w = true
  apart : ∀ w w', t.manager.processLives w = true → t.manager.processLives w' = true →
    t.manager.mInProgress w = t.manager.mInProgress w' → w = w'

/-- The worker has been given a server. -/
def Employed (id j : ℕ) (t : PingRound) : Prop :=
  id < pingWorkersNum ∧ t.manager.mInProgress id < j

/-- Store a ping that a worker's process has left, and give the worker the next server. -/
def conclude (id : ℕ) (p : ℤ) (t : PingRound) : PingRound :=
  ⟨(t.manager.writePing (t.manager.mInProgress id) p).startWorker id,
    (t.manager.mInProgress id, p) :: t.reported⟩

theorem result_cons (m : AuthManager) (server k : ℕ) (p : ℤ) (reported : List (ℕ × ℤ)) :
    result ⟨m, (server, p) :: reported⟩ k = if server = k then p else result ⟨m, reported⟩ k := by
  by_cases hk : server = k <;> simp [result, hk]

/-- The pings are those reported last, with the new one at its server. -/
theorem pings_conclude (h : t.manager.mPings = (List.range n).map t.result) (id : ℕ) (p : ℤ) :
    t.manager.mPings.set (t.manager.mInProgress id) p =
      (List.range n).map (t.conclude id p).result := by
  apply List.ext_getElem?
  intro k
  rw [h, List.getElem?_set, List.getElem?_map, List.getElem?_map, List.length_map,
    List.length_range]
  have hresult : (t.conclude id p).result k =
      if t.manager.mInProgress id = k then p else t.result k :=
    result_cons _ _ k p t.reported
  by_cases hk : k < n
  · rw [List.getElem?_range hk, Option.map_some, Option.map_some, hresult]
    by_cases hsame : t.manager.mInProgress id = k
    · rw [if_pos hsame, if_pos hsame, if_pos (by omega)]
    · rw [if_neg hsame, if_neg hsame]
  · have hnone : (List.range n)[k]? = none := List.getElem?_eq_none (by simpa using hk)
    rw [hnone, Option.map_none]
    split_ifs with hsame hlt
    · omega
    · rfl
    · rfl

theorem Pooled.stopTimer {but : ℕ → Prop} {m : AuthManager} {reported : List (ℕ × ℤ)}
    (h : Pooled but n j ⟨m, reported⟩) (id : ℕ) : Pooled but n j ⟨m.stopTimer id, reported⟩ :=
  ⟨h.pings, h.queue, h.bound, fun k hk => h.held k (AuthManager.delivers_stopTimer hk), h.begun,
    h.busy, h.apart⟩

theorem Pooled.readServer {but : ℕ → Prop} {m : AuthManager} {reported : List (ℕ × ℤ)}
    (h : Pooled but n j ⟨m, reported⟩) (i : ℕ) : Pooled but n j ⟨m.readServer i, reported⟩ :=
  ⟨h.pings, h.queue, h.bound, h.held, h.begun, h.busy, h.apart⟩

/-- What all workers are held to, all but one are. -/
theorem Pooled.except (h : Pooled (fun _ => False) n j t) (id : ℕ) : Pooled (· = id) n j t := by
  refine ⟨h.pings, h.queue, h.bound, h.held, fun k hk => ?_,
    fun hj w hw _ => h.busy hj w hw not_false, h.apart⟩
  refine (h.begun k hk).imp_right ?_
  rintro ⟨w, hw, hsame⟩
  exact ⟨w, .inr (hw.resolve_left not_false), hsame⟩

theorem processLives_endProcess (m : AuthManager) (id w : ℕ) :
    (m.endProcess id).processLives w = true ↔ w ≠ id ∧ m.processLives w = true := by
  by_cases hw : w = id
  · simp [AuthManager.processLives, AuthManager.endProcess, hw]
  · simp [AuthManager.processLives, AuthManager.endProcess, hw]

/-- A worker whose process has ended is the one that is not held to anything. -/
theorem Pooled.endProcess {m : AuthManager} {reported : List (ℕ × ℤ)}
    (h : Pooled (fun _ => False) n j ⟨m, reported⟩) (id : ℕ) :
    Pooled (· = id) n j ⟨m.endProcess id, reported⟩ := by
  have hlives := processLives_endProcess m id
  refine ⟨h.pings, h.queue, h.bound, fun k hk => h.held k (AuthManager.delivers_endProcess hk),
    fun k hk => ?_, fun hj w hw hne => ?_, fun w w' hw hw' hsame => ?_⟩
  · refine (h.begun k hk).imp_right ?_
    rintro ⟨w, hw, hsame⟩
    by_cases hid : w = id
    · exact ⟨w, .inl hid, hsame⟩
    · exact ⟨w, .inr ((hlives w).mpr ⟨hid, hw.resolve_left not_false⟩), hsame⟩
  · exact (hlives w).mpr ⟨hne, h.busy hj w hw not_false⟩
  · exact h.apart w w' ((hlives w).mp hw).2 ((hlives w').mp hw').2 hsame

/-- Where nothing waits, the worker keeps the server it has reported on. -/
theorem Pooled.conclude_of_nil (h : Pooled (· = id) n j t) (hnil : t.manager.mToPing = [])
    (p : ℤ) : Pooled (fun _ => False) n j (t.conclude id p) ∧
      (t.conclude id p).manager.mInProgress = t.manager.mInProgress ∧
      (t.conclude id p).manager.mToPing = [] := by
  have hstart := AuthManager.startWorker_nil
    (m := t.manager.writePing (t.manager.mInProgress id) p) hnil id
  have hj : j = n := by
    have hlength := congrArg List.length (h.queue.symm.trans hnil)
    rw [List.length_range', List.length_nil] at hlength
    have := h.bound
    omega
  have hpings := pings_conclude h.pings id p
  unfold PingRound.conclude at hpings ⊢
  rw [hstart] at hpings ⊢
  refine ⟨⟨hpings, h.queue, h.bound, h.held, fun k hk => ?_, fun hlt => absurd hlt (by omega),
    h.apart⟩, rfl, hnil⟩
  rcases h.begun k hk with hreported | ⟨w, rfl | hlives, hsame⟩
  · exact .inl (List.mem_cons_of_mem _ hreported)
  · exact .inl (by rw [← hsame]; exact List.mem_cons_self)
  · exact .inr ⟨w, .inr hlives, hsame⟩

/-- Where a server waits, the worker is given the first one. -/
theorem Pooled.conclude_of_lt (h : Pooled (· = id) n j t) (hemployed : t.Employed id j)
    (hj : j < n) (p : ℤ) : Pooled (fun _ => False) n (j + 1) (t.conclude id p) := by
  obtain ⟨hid, hcurrent⟩ := hemployed
  have hqueue : t.manager.mToPing = j :: List.range' (j + 1) (n - (j + 1)) := by
    have hlength : n - j = n - (j + 1) + 1 := by omega
    rw [h.queue, hlength, List.range'_succ]
  have hstart := AuthManager.startWorker_cons
    (m := t.manager.writePing (t.manager.mInProgress id) p) hqueue id
  have hlives : ∀ w, (t.conclude id p).manager.processLives w = true ↔
      w = id ∨ t.manager.processLives w = true := by
    intro w
    rw [PingRound.conclude, hstart]
    by_cases hw : w = id
    · simp [AuthManager.processLives, hw]
    · simp [AuthManager.processLives, AuthManager.writePing, hw]
  have hself : (t.conclude id p).manager.mInProgress id = j := by
    rw [PingRound.conclude, hstart]
    exact Function.update_self ..
  have hother : ∀ w, w ≠ id →
      (t.conclude id p).manager.mInProgress w = t.manager.mInProgress w := by
    intro w hw
    rw [PingRound.conclude, hstart]
    exact Function.update_of_ne hw _ _
  have hdelivers : ∀ w, w ≠ id → (t.conclude id p).manager.Delivers w → t.manager.Delivers w :=
    fun w hw => (AuthManager.delivers_startWorker_of_ne hw).mp
  refine ⟨?_, ?_, hj, fun k hk => ?_, fun k hk => ?_, fun hlt w hw _ => ?_,
    fun w w' hw hw' hsame => ?_⟩
  · have hpings := pings_conclude h.pings id p
    rw [← hpings, PingRound.conclude, hstart]
    rfl
  · rw [PingRound.conclude, hstart]
  · by_cases hkid : k = id
    · rw [hkid, hself]
      exact ⟨hid, j.lt_succ_self⟩
    · obtain ⟨hworker, hbelow⟩ := h.held k (hdelivers k hkid hk)
      rw [hother k hkid]
      exact ⟨hworker, by omega⟩
  · by_cases hkj : k = j
    · exact .inr ⟨id, .inr ((hlives id).mpr (.inl rfl)), hself.trans hkj.symm⟩
    · rcases h.begun k (by omega) with hreported | ⟨w, hw, hsame⟩
      · exact .inl (List.mem_cons_of_mem _ hreported)
      · by_cases hwid : w = id
        · exact .inl (by rw [← hsame, hwid]; exact List.mem_cons_self)
        · refine .inr ⟨w, .inr ((hlives w).mpr (.inr (hw.resolve_left hwid))), ?_⟩
          rw [hother w hwid, hsame]
  · by_cases hwid : w = id
    · exact (hlives w).mpr (.inl hwid)
    · exact (hlives w).mpr (.inr (h.busy hj w hw hwid))
  · have hfresh : ∀ v, v ≠ id → t.manager.processLives v = true →
        (t.conclude id p).manager.mInProgress v ≠ j := by
      intro v hv hlive
      have hbelow := (h.held v (.inl hlive)).2
      rw [hother v hv]
      omega
    by_cases hwid : w = id
    · by_cases hwid' : w' = id
      · rw [hwid, hwid']
      · have hlive := ((hlives w').mp hw').resolve_left hwid'
        rw [hwid, hself] at hsame
        exact absurd hsame.symm (hfresh w' hwid' hlive)
    · have hlive := ((hlives w).mp hw).resolve_left hwid
      by_cases hwid' : w' = id
      · rw [hwid', hself] at hsame
        exact absurd hsame (hfresh w hwid hlive)
      · have hlive' := ((hlives w').mp hw').resolve_left hwid'
        rw [hother w hwid, hother w' hwid'] at hsame
        exact h.apart w w' hlive hlive' hsame

/-- A worker that has reported, with what it was held to, holds all workers to it again. -/
theorem Pooled.conclude (h : Pooled (· = id) n j t) (hemployed : t.Employed id j) (p : ℤ) :
    ∃ j', Pooled (fun _ => False) n j' (t.conclude id p) := by
  by_cases hj : j < n
  · exact ⟨j + 1, h.conclude_of_lt hemployed hj p⟩
  · have hnil : t.manager.mToPing = [] := by
      have hlength : n - j = 0 := by omega
      rw [h.queue, hlength, List.range'_zero]
    exact ⟨j, (h.conclude_of_nil hnil p).1⟩

/-- The calls of a timer: one, or more of them where nothing waits. -/
theorem Pooled.conclude_all (h : Pooled (fun _ => False) n j t) (hemployed : t.Employed id j)
    (ps : List ℤ) (hps : ps.length = 1 ∨ t.manager.mToPing = []) :
    ∃ j', Pooled (fun _ => False) n j' (ps.foldl (fun t p => t.conclude id p) t) := by
  rcases hps with hone | hnil
  · obtain ⟨p, rfl⟩ := List.length_eq_one_iff.mp hone
    exact (h.except id).conclude hemployed p
  · induction ps generalizing t with
    | nil => exact ⟨j, h⟩
    | cons p ps ih =>
      obtain ⟨hpooled, hsame, hstill⟩ := (h.except id).conclude_of_nil hnil p
      refine ih hpooled ⟨hemployed.1, ?_⟩ hstill
      rw [hsame]
      exact hemployed.2

/-- What a timer's calls store and report. -/
theorem foldl_conclude (id : ℕ) (m : AuthManager) (reported : List (ℕ × ℤ)) (p : ℕ → ℤ)
    (is : List ℕ) (h : is.length = 1 ∨ m.mToPing = []) :
    (is.map p).foldl (fun (t : PingRound) p => t.conclude id p) ⟨m, reported⟩ =
      ⟨is.foldl (fun m i => m.pingTerminated id (p i)) m,
        (is.map fun i => (m.mInProgress id, p i)).reverse ++ reported⟩ := by
  rcases h with hone | hnil
  · obtain ⟨i, rfl⟩ := List.length_eq_one_iff.mp hone
    rfl
  · induction is generalizing m reported with
    | nil => rfl
    | cons i is ih =>
      have hstart := AuthManager.startWorker_nil
        (m := m.writePing (m.mInProgress id) (p i)) hnil id
      have hterminated : (m.pingTerminated id (p i)).mToPing = [] ∧
          (m.pingTerminated id (p i)).mInProgress = m.mInProgress := by
        rw [AuthManager.pingTerminated, hstart]
        exact ⟨hnil, rfl⟩
      have hrest := ih (m.pingTerminated id (p i)) ((m.mInProgress id, p i) :: reported)
        hterminated.1
      rw [hterminated.2] at hrest
      rw [List.map_cons, List.foldl_cons, List.foldl_cons, List.map_cons, List.reverse_cons,
        List.append_assoc]
      exact hrest

theorem Pooled.employed (h : Pooled (fun _ => False) n j t) (hid : t.manager.Delivers id) :
    t.Employed id j :=
  h.held id hid

/-- However a ping ends, the workers go on with the servers. -/
theorem step_pooled {e : Event} (he : e.pings = true) (hfirst : t.manager.FirstPing e)
    (h : ∃ j, Pooled (fun _ => False) n j t) : ∃ j, Pooled (fun _ => False) n j (t.step e) := by
  obtain ⟨j, h⟩ := h
  obtain ⟨m, reported⟩ := t
  cases e with
  | pingFinished id p =>
    simp only [step, AuthManager.step, AuthManager.reports]
    split_ifs with hlives
    · have hended := ((h.endProcess id).stopTimer id).readServer (m.mInProgress id)
      exact hended.conclude (h.employed (.inl hlives)) p
    · exact ⟨j, h⟩
  | pingErrorOccurred id ends p =>
    simp only [step, AuthManager.step, AuthManager.reports]
    split_ifs with hlives hends
    · exact ((h.endProcess id).stopTimer id).conclude (h.employed (.inl hlives)) p
    · exact ((h.except id).stopTimer id).conclude (h.employed (.inl hlives)) p
    · exact ⟨j, h⟩
  | timeout id p =>
    simp only [step, AuthManager.step, AuthManager.reports]
    split_ifs with hactive
    · have hcalls : (List.range (m.mTimers id).connections).length = 1 ∨ m.mToPing = [] := by
        rw [List.length_range]
        exact hfirst hactive
      have hall := (h.stopTimer id).conclude_all (h.employed (.inr hactive))
        ((List.range (m.mTimers id).connections).map p) (by rwa [List.length_map])
      rw [foldl_conclude id (m.stopTimer id) reported p _ hcalls] at hall
      exact hall
    · exact ⟨j, h⟩
  | _ => cases he

/-- So many rounds of the loop over the workers have been made. -/
structure Begun (n i : ℕ) (m : AuthManager) : Prop where
  pings : m.mPings = List.replicate n (-1)
  queue : m.mToPing = List.range' (min i n) (n - min i n)
  delivers : ∀ w, m.Delivers w → w < min i n
  lives : ∀ w < min i n, m.processLives w = true ∧ m.mInProgress w = w

theorem Begun.round {i : ℕ} {m : AuthManager} (h : Begun n i m) :
    Begun n (i + 1) (if m.mToPing.isEmpty then m else m.startWorker i) := by
  by_cases hi : i < n
  · have hmin : min i n = i := by omega
    have hmin' : min (i + 1) n = i + 1 := by omega
    have hqueue : m.mToPing = i :: List.range' (i + 1) (n - (i + 1)) := by
      have hlength : n - i = n - (i + 1) + 1 := by omega
      rw [h.queue, hmin, hlength, List.range'_succ]
    have hsome : ¬m.mToPing.isEmpty = true := by
      rw [hqueue]
      exact Bool.false_ne_true
    have hstart := AuthManager.startWorker_cons hqueue i
    rw [if_neg hsome]
    refine ⟨?_, ?_, fun w hw => ?_, fun w hw => ?_⟩
    · rw [hstart]
      exact h.pings
    · rw [hstart, hmin']
    · rw [hmin']
      by_cases hwi : w = i
      · omega
      · have hbefore := h.delivers w ((AuthManager.delivers_startWorker_of_ne hwi).mp hw)
        omega
    · rw [hstart]
      by_cases hwi : w = i
      · simp [AuthManager.processLives, hwi]
      · have hbefore := h.lives w (by omega)
        simpa [AuthManager.processLives, hwi] using hbefore
  · have hmin : min (i + 1) n = min i n := by omega
    have hnone : m.mToPing = [] := by
      have hlength : n - min i n = 0 := by omega
      rw [h.queue, hlength, List.range'_zero]
    rw [hnone, if_pos (by rfl)]
    exact ⟨h.pings, by rw [hmin, h.queue], by rw [hmin]; exact h.delivers,
      by rw [hmin]; exact h.lives⟩

theorem begun_startWorkers {m : AuthManager} (h : Begun n 0 m) :
    Begun n m.workers m.startWorkers := by
  unfold AuthManager.startWorkers
  generalize m.workers = i
  induction i with
  | zero => exact h
  | succ i ih =>
    rw [List.range_succ, List.foldl_append]
    exact ih.round

theorem Begun.pooled {m : AuthManager} (h : Begun n pingWorkersNum m) :
    Pooled (fun _ => False) n (min pingWorkersNum n) ⟨m, []⟩ := by
  have hmin : min pingWorkersNum n ≤ pingWorkersNum := min_le_left _ _
  refine ⟨?_, h.queue, min_le_right _ _, fun k hk => ?_, fun k hk => ?_, fun hj w hw _ => ?_,
    fun w w' hw hw' hsame => ?_⟩
  · change m.mPings = (List.range n).map fun _ => (-1 : ℤ)
    rw [h.pings, List.map_const', List.length_range]
  · have hk' := h.delivers k hk
    rw [(h.lives k hk').2]
    exact ⟨by omega, hk'⟩
  · exact .inr ⟨k, .inr (h.lives k hk).1, (h.lives k hk).2⟩
  · exact (h.lives w (by omega)).1
  · have hw₁ := (h.lives w (h.delivers w (.inl hw))).2
    have hw₂ := (h.lives w' (h.delivers w' (.inl hw'))).2
    rw [hw₁, hw₂] at hsame
    exact hsame

/-- A round begins for whoever is idle, with workers that are there or are hired for it. -/
theorem begun_pingAllServers {m : AuthManager} (hidle : m.Idle) (hpings : m.mPings = []) :
    Begun m.mServers.length pingWorkersNum m.pingAllServers := by
  have hstart : ∀ m' : AuthManager, m'.mPings = List.replicate m.mServers.length (-1) →
      m'.mToPing = List.range' 0 m.mServers.length → (∀ w, ¬m'.Delivers w) →
      m'.workers = pingWorkersNum → Begun m.mServers.length pingWorkersNum m'.startWorkers := by
    intro m' hpings' hqueue' hquiet hworkers
    rw [← hworkers]
    refine begun_startWorkers ⟨hpings', ?_, fun w hw => absurd hw (hquiet w), nofun⟩
    rw [hqueue', Nat.zero_min]
    rfl
  have hqueue : m.mToPing ++ List.range m.mServers.length = List.range' 0 m.mServers.length := by
    rw [hidle.waiting, List.nil_append, List.range_eq_range']
  unfold AuthManager.pingAllServers
  rw [hqueue, hpings]
  dsimp only [List.length_nil, List.nil_append, Nat.sub_zero]
  rcases hidle.workers with hnone | hsome
  · rw [if_pos hnone]
    exact hstart _ rfl rfl hidle.quiet rfl
  · rw [if_neg (by rw [hsome]; decide)]
    exact hstart _ rfl rfl hidle.quiet hsome

/-- A list of servers begins a round. -/
theorem begun_processServersXml {m : AuthManager} (hidle : m.Idle) {nodes : List ServerNode}
    (hnodes : nodes ≠ []) : Begun (ServersReply.document nodes).servers.length pingWorkersNum
      (m.processServersXml (.document nodes) false).2 := by
  obtain ⟨se, nodes, rfl⟩ := List.exists_cons_of_ne_nil hnodes
  have hservers := congrArg Lists.mServers
    (AuthManager.lists_foldl_addServer m.clearServerLists (se :: nodes))
  have hlisted : ((se :: nodes).foldl AuthManager.addServer m.clearServerLists).Idle ∧
      ((se :: nodes).foldl AuthManager.addServer m.clearServerLists).mPings = [] := by
    obtain ⟨a, b, c, d, hloop⟩ :=
      AuthManager.foldl_addServer_frame m.clearServerLists (se :: nodes)
    rw [hloop]
    exact ⟨⟨hidle.waiting, hidle.quiet, hidle.workers⟩, rfl⟩
  have hbegun := begun_pingAllServers
    (m := AuthManager.emit .serverListsLoaded
      { (se :: nodes).foldl AuthManager.addServer m.clearServerLists with mLoggedIn := true })
    ⟨hlisted.1.waiting, hlisted.1.quiet, hlisted.1.workers⟩ hlisted.2
  exact (congrArg List.length hservers) ▸ hbegun

/-- The servers that are listed stay the same while they are pinged. -/
theorem servers_step {e : Event} (he : e.pings = true) (m : AuthManager) :
    (m.step e).mServers = m.mServers := by
  have hnone : m.processes e = none := by cases e <;> first | rfl | cases he
  exact congrArg (fun c => c.1.mServers) (m.catalogue_step hnone)

/-- Once a reply has listed servers, whatever the order in which the pings end: every ping
that is stored is the last one reported of that server, no more than five processes run at
once and no two of them ping the same server, and when none runs any longer every server
has been reported on. -/
theorem round_complete {m : AuthManager} (hidle : m.Idle) (hpending : m.replyPending = true)
    {nodes : List ServerNode} (hnodes : nodes ≠ []) {es : List Event}
    (hpings : Meets AuthManager.step AuthManager.OwnPing
      (m.step (.replyFinished (.document nodes) false)) es) :
    let t := run step ⟨m.step (.replyFinished (.document nodes) false), []⟩ es
    t.manager.mServers = (ServersReply.document nodes).servers ∧
      t.manager.mPings = (List.range t.manager.mServers.length).map t.result ∧
      (∀ w, t.manager.processLives w = true → w < pingWorkersNum ∧
        ∀ w', t.manager.processLives w' = true →
          t.manager.mInProgress w = t.manager.mInProgress w' → w = w') ∧
      ((∀ w, ¬t.manager.processLives w = true) →
        ∀ k < t.manager.mServers.length, k ∈ t.reported.map Prod.fst) := by
  intro t
  let servers := (ServersReply.document nodes).servers
  have hfinished : m.step (.replyFinished (.document nodes) false) =
      m.loginFinished (.document nodes) false := if_pos hpending
  have hbegun : Begun servers.length pingWorkersNum (m.loginFinished (.document nodes) false) := by
    have h := begun_processServersXml (m := { m with replyPending := false })
      ⟨hidle.waiting, hidle.quiet, hidle.workers⟩ hnodes
    exact ⟨h.pings, h.queue, h.delivers, h.lives⟩
  have hservers : (m.loginFinished (.document nodes) false).mServers = servers :=
    congrArg Lists.mServers (m.lists_loginFinished (.document nodes) false)
  have hmeets : Meets step (fun t e => t.manager.OwnPing e)
      ⟨m.step (.replyFinished (.document nodes) false), []⟩ es :=
    (meets_comap (f := PingRound.manager) (C := AuthManager.OwnPing) fun _ _ => rfl).mpr hpings
  have hround : t.manager.mServers = servers ∧
      ∃ j, Pooled (fun _ => False) servers.length j t := by
    refine run_of_meets (C := fun t e => t.manager.OwnPing e)
      (P := fun t => t.manager.mServers = servers ∧
        ∃ j, Pooled (fun _ => False) servers.length j t)
      (fun t e he ht => ⟨(servers_step he.1 t.manager).trans ht.1, step_pooled he.1 he.2 ht.2⟩)
      ?_ hmeets
    rw [hfinished]
    exact ⟨hservers, _, hbegun.pooled⟩
  obtain ⟨hsame, j, hpooled⟩ := hround
  rw [hsame]
  refine ⟨rfl, hpooled.pings,
    fun w hw => ⟨(hpooled.held w (.inl hw)).1, fun w' => hpooled.apart w w' hw⟩,
    fun hover k hk => ?_⟩
  -- a server that waits would keep the first worker at work
  have hall : j = servers.length := by
    by_contra hne
    have hj : j < servers.length := lt_of_le_of_ne hpooled.bound hne
    exact hover 0 (hpooled.busy hj 0 (by decide) not_false)
  rcases hpooled.begun k (by omega) with hreported | ⟨w, hw, -⟩
  · exact hreported
  · exact absurd (hw.resolve_left not_false) (hover w)

/-- One server more than there are workers. -/
def sixServers : List ServerNode :=
  List.replicate 6 ⟨"Chile".toList, some "cl.vpn.example".toList, some "192.0.2.1".toList,
    [], [], []⟩

/-- Six servers for five workers: the third worker is the first to finish, and the second
one runs out of time. -/
theorem six_servers_measured :
    (run step
      ⟨((AuthManager.initial false).login "user".toList "secret".toList).step
        (.replyFinished (.document sixServers) false), []⟩
      [.pingFinished 2 30, .timeout 1 fun _ => -1, .pingFinished 4 15, .pingFinished 2 16,
        .pingErrorOccurred 3 true 14, .pingFinished 0 11]).manager.mPings =
      [11, -1, 30, 14, 15, 16] := by
  have hidle : ((AuthManager.initial false).login "user".toList "secret".toList).Idle := by
    refine ⟨rfl, fun k hk => ?_, .inl rfl⟩
    simp [AuthManager.Delivers, AuthManager.processLives, AuthManager.login,
      AuthManager.initial] at hk
  have hpings : Meets AuthManager.step AuthManager.OwnPing
      (((AuthManager.initial false).login "user".toList "secret".toList).step
        (.replyFinished (.document sixServers) false))
      [.pingFinished 2 30, .timeout 1 fun _ => -1, .pingFinished 4 15, .pingFinished 2 16,
        .pingErrorOccurred 3 true 14, .pingFinished 0 11] :=
    ⟨⟨rfl, trivial⟩, ⟨rfl, fun _ => .inl (by decide)⟩, ⟨rfl, trivial⟩, ⟨rfl, trivial⟩,
      ⟨rfl, trivial⟩, ⟨rfl, trivial⟩, trivial⟩
  have hround := round_complete hidle rfl (List.cons_ne_nil _ _ : sixServers ≠ []) hpings
  exact hround.2.1.trans (by decide)

end PingRound
end CeloVpn.Client
