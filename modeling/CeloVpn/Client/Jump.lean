import CeloVpn.Client.ServerChoice

/-!
# The server to jump to

One of the fastest twenty servers apart from that of the moment, as far as their pings
are known, and any other one where none is. Every access of the source to a container
and every remainder it takes is checked once more by a copy of the function that fails
instead, and that never does.
-/
namespace CeloVpn.Client

/-- Behind a place of an ordered list nothing is smaller. -/
theorem countP_lt_le {α : Type*} {key : α → ℤ} {l : List α}
    (h : l.Pairwise fun a b => key a ≤ key b) {i : ℕ} {a : α} (hi : l[i]? = some a) :
    l.countP (fun b => decide (key b < key a)) ≤ i := by
  obtain ⟨hlt, hget⟩ := List.getElem?_eq_some_iff.mp hi
  have hdrop : l.drop i = a :: l.drop (i + 1) := by rw [List.drop_eq_getElem_cons hlt, hget]
  have hbehind : (l.drop i).countP (fun b => decide (key b < key a)) = 0 := by
    have hsorted := h.sublist (List.drop_sublist i l)
    rw [hdrop, List.pairwise_cons] at hsorted
    rw [hdrop, List.countP_eq_zero, List.forall_mem_cons]
    refine ⟨by simp, fun b hb => ?_⟩
    have hle := hsorted.1 b hb
    simpa using hle
  calc l.countP (fun b => decide (key b < key a))
      = (l.take i ++ l.drop i).countP (fun b => decide (key b < key a)) := by
        rw [List.take_append_drop]
    _ = (l.take i).countP (fun b => decide (key b < key a)) := by
        rw [List.countP_append, hbehind, Nat.add_zero]
    _ ≤ (l.take i).length := List.countP_le_length
    _ ≤ i := List.length_take_le i l

/-- A loop whose rounds all succeed. -/
theorem mapM_eq_some {α β : Type*} {f : α → Option β} {g : α → β} {l : List α}
    (h : ∀ a ∈ l, f a = some (g a)) : l.mapM f = some (l.map g) := by
  induction l with
  | nil => rfl
  | cons a l ih =>
    obtain ⟨ha, hl⟩ := List.forall_mem_cons.mp h
    rw [List.mapM_cons, ha, ih hl]
    rfl

namespace AuthManager
variable (order : PingSort) (rand : ℕ) (prev : ℤ) (m : AuthManager)

/-- The remainder; dividing by zero fails. -/
def mod? (a b : ℕ) : Option ℕ := if b = 0 then none else some (a % b)

/-- `getPings`, whose accesses may fail. -/
def getPings? (toping : List ℕ) (m : AuthManager) : Option (List ℤ) :=
  if m.mPings.isEmpty then some (toping.map fun _ => -1)
  else toping.mapM fun id => if m.mPings.length ≤ id then some (-1) else m.mPings[id]?

/-- The end of `getServerToJump`, from the pings that are known. -/
def pick? (n : ℕ) (toping : List ℕ) (ping_ix : List (ℤ × ℕ)) : Option ℤ := do
  let srv : ℤ ←
    if ping_ix.isEmpty then some (-1)
    else do
      let num := if Setting.showNodes then 20 else 6
      let num := if ping_ix.length ≤ num then ping_ix.length else num
      let offset ← mod? rand num
      let p ← (order.sort ping_ix)[offset]?
      some (p.2 : ℤ)
  if srv < 0 then
    if toping.isEmpty then (mod? rand n).map fun ix : ℕ => (ix : ℤ)
    else do
      let ix ← mod? rand toping.length
      toping[ix]?.map fun id : ℕ => (id : ℤ)
  else some srv

/-- `getServerToJump`, whose accesses and remainders may fail. -/
def getServerToJump? : Option ℤ :=
  if m.mServers.isEmpty then some (-1)
  else
    let toping := m.mServerIds.filter fun id : ℕ => (id : ℤ) ≠ prev
    (m.getPings? toping).bind fun pings =>
      ((List.range toping.length).mapM fun k => do pure (← pings[k]?, ← toping[k]?)).bind
        fun known =>
          pick? order rand m.mServers.length toping (known.filter fun p => decide (-1 < p.1))

theorem mod?_pos {a b : ℕ} (h : 0 < b) : mod? a b = some (a % b) := if_neg h.ne'

theorem getPings?_eq (toping : List ℕ) : m.getPings? toping = some (m.getPings toping) := by
  unfold getPings? getPings
  split
  · rfl
  · refine mapM_eq_some fun id _ => ?_
    split_ifs with hid
    · rfl
    · rw [List.getD_eq_getElem?_getD, List.getElem?_eq_getElem (not_le.mp hid), Option.getD_some]

theorem length_getPings (toping : List ℕ) : (m.getPings toping).length = toping.length := by
  unfold getPings
  split <;> exact List.length_map _

theorem mapM_range_eq_zip {pings : List ℤ} {toping : List ℕ} (h : pings.length = toping.length) :
    ((List.range toping.length).mapM fun k => do pure (← pings[k]?, ← toping[k]?)) =
      some (pings.zip toping) := by
  have hrounds : ∀ k ∈ List.range toping.length,
      (do pure (← pings[k]?, ← toping[k]?) : Option (ℤ × ℕ)) =
        some (pings.getD k 0, toping.getD k 0) := by
    intro k hk
    have hlt := List.mem_range.mp hk
    have hlt' : k < pings.length := by omega
    simp [List.getD_eq_getElem?_getD, List.getElem?_eq_getElem hlt, List.getElem?_eq_getElem hlt']
  rw [mapM_eq_some hrounds]
  refine congrArg some (List.ext_getElem (by simp [h]) fun k hk hk' => ?_)
  simp at hk
  simp [List.getD_eq_getElem?_getD, hk, h]

/-- The ping of a server, minus one where none is known. -/
def ping (id : ℕ) : ℤ := m.mPings.getD id (-1)

/-- The servers apart from that of the moment. -/
def others : List ℕ := m.mServerIds.filter fun id : ℕ => (id : ℤ) ≠ prev

/-- Those of them with a known ping, behind their pings. -/
def pinged : List (ℤ × ℕ) :=
  ((m.others prev).map fun id => (m.ping id, id)).filter fun p => decide (-1 < p.1)

theorem getPings_eq (toping : List ℕ) : m.getPings toping = toping.map m.ping := by
  unfold getPings
  split
  · next hempty =>
    refine List.map_congr_left fun id _ => ?_
    rw [ping, List.isEmpty_iff.mp hempty]
    rfl
  · refine List.map_congr_left fun id _ => ?_
    split_ifs with hid
    · rw [ping, List.getD_eq_getElem?_getD, List.getElem?_eq_none hid, Option.getD_none]
    · rfl

theorem zip_getPings (toping : List ℕ) :
    (m.getPings toping).zip toping = toping.map fun id => (m.ping id, id) := by
  rw [getPings_eq]
  induction toping with
  | nil => rfl
  | cons id toping ih => rw [List.map_cons, List.zip_cons_cons, ih, List.map_cons]

/-- The place that is drawn by lot among so many of the first twenty. -/
def drawn (n : ℕ) : ℕ := rand % (if n ≤ 20 then n else 20)

theorem drawn_lt {n : ℕ} (h : 0 < n) : drawn rand n < n ∧ drawn rand n < 20 := by
  unfold drawn
  split_ifs with hn
  · have hlt := Nat.mod_lt rand h
    omega
  · have hlt := Nat.mod_lt rand (show 0 < 20 by decide)
    omega

/-- What is made of the servers and of those with a known ping. -/
def pick (n : ℕ) (toping : List ℕ) (ping_ix : List (ℤ × ℕ)) : ℤ :=
  let srv : ℤ :=
    if ping_ix.isEmpty then -1
    else ((order.sort ping_ix)[drawn rand ping_ix.length]?.map fun p => (p.2 : ℤ)).getD (-1)
  if srv < 0 then
    if toping.isEmpty then ((rand % n : ℕ) : ℤ)
    else (toping[rand % toping.length]?.map fun id : ℕ => (id : ℤ)).getD (-1)
  else srv

theorem getServerToJump_eq (h : m.mServers ≠ []) : m.getServerToJump order rand prev =
    pick order rand m.mServers.length (m.others prev) (m.pinged prev) := by
  have hdef : m.getServerToJump order rand prev = if m.mServers.isEmpty then -1 else
      pick order rand m.mServers.length (m.others prev)
        (((m.getPings (m.others prev)).zip (m.others prev)).filter fun p => decide (-1 < p.1)) :=
    rfl
  rw [hdef, if_neg (by simpa using h), zip_getPings]
  rfl

theorem length_sort (l : List (ℤ × ℕ)) : (order.sort l).length = l.length := (order.perm l).length_eq

/-- Some server with a known ping is drawn where there is one. -/
theorem pick_of_pinged (n : ℕ) (toping : List ℕ) {ping_ix : List (ℤ × ℕ)} (h : ping_ix ≠ []) :
    ∃ p, (order.sort ping_ix)[drawn rand ping_ix.length]? = some p ∧
      pick order rand n toping ping_ix = p.2 := by
  have hlt : drawn rand ping_ix.length < (order.sort ping_ix).length := by
    rw [length_sort]
    exact (drawn_lt rand (List.length_pos_iff.mpr h)).1
  have hget := List.getElem?_eq_getElem hlt
  refine ⟨_, hget, ?_⟩
  have hsome : ¬ping_ix.isEmpty = true := by simpa using h
  unfold pick
  dsimp only
  rw [if_neg hsome, hget, Option.map_some, Option.getD_some]
  exact if_neg (by omega)

/-- Where no ping is known any other server is drawn, and where there is no other any. -/
theorem pick_of_not_pinged {n : ℕ} {toping : List ℕ} : pick order rand n toping [] =
    if toping.isEmpty then ((rand % n : ℕ) : ℤ)
    else (toping[rand % toping.length]?.map fun id : ℕ => (id : ℤ)).getD (-1) := rfl

theorem pick?_eq {n : ℕ} (hn : 0 < n) (toping : List ℕ) (ping_ix : List (ℤ × ℕ)) :
    pick? order rand n toping ping_ix = some (pick order rand n toping ping_ix) := by
  by_cases hping : ping_ix = []
  · subst hping
    rw [pick_of_not_pinged]
    change (if _ then _ else _ : Option ℤ) = _
    split_ifs with hempty
    · rw [mod?_pos hn]
      rfl
    · have hlength : 0 < toping.length := List.length_pos_iff.mpr (by simpa using hempty)
      rw [mod?_pos hlength]
      change toping[rand % toping.length]?.map _ = _
      rw [List.getElem?_eq_getElem (Nat.mod_lt rand hlength)]
      rfl
  · obtain ⟨p, hp, hpick⟩ := pick_of_pinged order rand n toping hping
    have hsome : ¬ping_ix.isEmpty = true := by simpa using hping
    have hlength : 0 < ping_ix.length := List.length_pos_iff.mpr hping
    have hnum : 0 < if ping_ix.length ≤ 20 then ping_ix.length else 20 := by
      split_ifs
      · exact hlength
      · decide
    have hoffset : mod? rand (if ping_ix.length ≤ 20 then ping_ix.length else 20) =
        some (drawn rand ping_ix.length) := mod?_pos hnum
    rw [hpick]
    unfold pick?
    rw [if_neg hsome]
    change Option.bind (mod? rand (if ping_ix.length ≤ 20 then ping_ix.length else 20)) _ = _
    rw [hoffset, Option.bind_some]
    change Option.bind (order.sort ping_ix)[drawn rand ping_ix.length]? _ = _
    rw [hp, Option.bind_some]
    have hindex : ¬(p.2 : ℤ) < 0 := by omega
    exact (Option.bind_some ..).trans (if_neg hindex)

theorem getServerToJump?_eq :
    m.getServerToJump? order rand prev = some (m.getServerToJump order rand prev) := by
  by_cases hservers : m.mServers = []
  · simp [getServerToJump?, getServerToJump, hservers]
  have hsome : ¬m.mServers.isEmpty = true := by simpa using hservers
  have hdef : m.getServerToJump? order rand prev = (m.getPings? (m.others prev)).bind fun pings =>
      ((List.range (m.others prev).length).mapM fun k =>
        do pure (← pings[k]?, ← (m.others prev)[k]?)).bind fun known =>
          pick? order rand m.mServers.length (m.others prev)
            (known.filter fun p => decide (-1 < p.1)) := if_neg hsome
  rw [hdef, getPings?_eq, Option.bind_some, mapM_range_eq_zip (m.length_getPings _),
    Option.bind_some, zip_getPings, getServerToJump_eq order rand prev m hservers]
  exact pick?_eq order rand (List.length_pos_iff.mpr hservers) _ _

/-- How many other servers have a smaller ping than this one. -/
def faster (srv : ℕ) : ℕ :=
  (m.others prev).countP fun id => decide (-1 < m.ping id ∧ m.ping id < m.ping srv)

theorem mem_pinged {p : ℤ × ℕ} :
    p ∈ m.pinged prev ↔ p.2 ∈ m.others prev ∧ p.1 = m.ping p.2 ∧ -1 < p.1 := by
  rw [pinged, List.mem_filter, List.mem_map, decide_eq_true_iff]
  constructor
  · rintro ⟨⟨id, hid, rfl⟩, hknown⟩
    exact ⟨hid, rfl, hknown⟩
  · rintro ⟨hid, hping, hknown⟩
    exact ⟨⟨p.2, hid, Prod.ext hping.symm rfl⟩, hknown⟩

/-- Of those drawn from there are fewer faster ones than places before them. -/
theorem faster_lt {p : ℤ × ℕ}
    (h : (order.sort (m.pinged prev))[drawn rand (m.pinged prev).length]? = some p) :
    m.faster prev p.2 < 20 := by
  have hmem : p ∈ m.pinged prev := (order.perm _).mem_iff.mp (List.mem_of_getElem? h)
  have hping := ((mem_pinged prev m).mp hmem).2.1
  have hcount : m.faster prev p.2 =
      (order.sort (m.pinged prev)).countP fun q => decide (q.1 < p.1) := by
    rw [(order.perm _).countP_eq, pinged, List.countP_filter, List.countP_map, faster, hping]
    refine List.countP_congr fun id _ => ?_
    simp [and_comm]
  have hle := countP_lt_le (order.sorted (m.pinged prev)) h
  have hlt := (drawn_lt rand (List.length_pos_of_mem hmem)).2
  omega

/-- The server picked is another one, or any where there is no other, and one with a
known ping where there is one among the others. -/
theorem getServerToJump_mem (hservers : m.mServers ≠ []) : ∃ srv : ℕ,
    m.getServerToJump order rand prev = srv ∧
      (if m.others prev = [] then srv < m.mServers.length else srv ∈ m.others prev) ∧
      (m.pinged prev ≠ [] → -1 < m.ping srv ∧ m.faster prev srv < 20) := by
  rw [getServerToJump_eq order rand prev m hservers]
  by_cases hpinged : m.pinged prev = []
  · rw [hpinged, pick_of_not_pinged]
    split_ifs with hempty hnone hnone
    · exact ⟨_, rfl, Nat.mod_lt _ (List.length_pos_iff.mpr hservers), fun h => absurd rfl h⟩
    · exact absurd (List.isEmpty_iff.mp hempty) hnone
    · exact absurd (List.isEmpty_iff.mpr hnone) hempty
    · have hlt := Nat.mod_lt rand (List.length_pos_iff.mpr hnone)
      refine ⟨_, ?_, List.getElem_mem hlt, fun h => absurd rfl h⟩
      rw [List.getElem?_eq_getElem hlt]
      rfl
  · obtain ⟨p, hp, hpick⟩ := pick_of_pinged order rand m.mServers.length
      (m.others prev) hpinged
    have hmem : p ∈ m.pinged prev := (order.perm _).mem_iff.mp (List.mem_of_getElem? hp)
    obtain ⟨hother, hping, hknown⟩ := (mem_pinged prev m).mp hmem
    refine ⟨p.2, hpick, ?_, fun _ => ⟨hping ▸ hknown, faster_lt order rand prev m hp⟩⟩
    rw [if_neg (List.ne_nil_of_mem hother)]
    exact hother

/-- With the indices of `n` servers, the jump is to one of them, to another one than that
of the moment where there are two, and to one of the twenty fastest others where some
ping of another server is known. -/
theorem jump_picks_good (hservers : m.mServers ≠ [])
    (hids : m.mServerIds = List.range m.mServers.length) : ∃ srv : ℕ,
    m.getServerToJump? order rand prev = some (srv : ℤ) ∧
      m.getServerToJump order rand prev = srv ∧
      srv < m.mServers.length ∧
      (2 ≤ m.mServers.length → (srv : ℤ) ≠ prev) ∧
      ((∃ id < m.mServers.length, (id : ℤ) ≠ prev ∧ -1 < m.ping id) →
        -1 < m.ping srv ∧
          ((List.range m.mServers.length).filter fun id : ℕ => (id : ℤ) ≠ prev).countP
            (fun id => decide (-1 < m.ping id ∧ m.ping id < m.ping srv)) < 20) := by
  have hothers : m.others prev =
      (List.range m.mServers.length).filter fun id : ℕ => (id : ℤ) ≠ prev := by
    rw [others, hids]
  have hmem : ∀ {id : ℕ}, id ∈ m.others prev ↔ id < m.mServers.length ∧ (id : ℤ) ≠ prev := by
    simp [hothers]
  obtain ⟨srv, hsrv, hother, hgood⟩ := getServerToJump_mem order rand prev m hservers
  refine ⟨srv, by rw [getServerToJump?_eq, hsrv], hsrv, ?_, fun htwo => ?_, fun ⟨id, hid⟩ => ?_⟩
  · split_ifs at hother
    · exact hother
    · exact (hmem.mp hother).1
  · have hne : m.others prev ≠ [] := by
      -- of two servers one is not that of the moment
      obtain ⟨id, hid⟩ : ∃ id : ℕ, id < m.mServers.length ∧ (id : ℤ) ≠ prev := by
        by_cases hzero : (0 : ℤ) = prev
        · exact ⟨1, by omega, by omega⟩
        · exact ⟨0, by omega, hzero⟩
      exact List.ne_nil_of_mem (hmem.mpr hid)
    rw [if_neg hne] at hother
    exact (hmem.mp hother).2
  · rw [← hothers]
    refine hgood (List.ne_nil_of_mem (a := (m.ping id, id)) ?_)
    exact (mem_pinged prev m).mpr ⟨hmem.mpr ⟨hid.1, hid.2.1⟩, rfl, hid.2.2⟩

/-- Two servers, the first one of the moment and the second one pinged. -/
def ofTwo : AuthManager :=
  { initial false with
    mServers := [.unknown, .unknown]
    mServerIds := [0, 1]
    mPings := [-1, 20] }

/-- The jump is to the other one. -/
theorem jump_picks_other : ∃ srv : ℕ, ofTwo.getServerToJump? .insertion 7 0 = some (srv : ℤ) ∧
    srv < 2 ∧ (srv : ℤ) ≠ 0 ∧ -1 < ofTwo.ping srv := by
  obtain ⟨srv, hsrv, -, hlt, hother, hgood⟩ :=
    jump_picks_good .insertion 7 0 ofTwo (by decide) (by decide)
  exact ⟨srv, hsrv, hlt, hother (by decide), (hgood ⟨1, by decide⟩).1⟩

end AuthManager
end CeloVpn.Client
