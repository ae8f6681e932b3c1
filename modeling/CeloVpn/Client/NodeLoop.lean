import CeloVpn.Client.Selection

/-!
# Whether the node loop tries every server

The next server is the one behind that of the moment. Behind the last one there is none,
and it is tried again and again, where the next port of the last one is the first. So the
loop tries every server exactly where it begins with the first, and a map screen that is
there has rows for the others.
-/
namespace CeloVpn.Client
open Runs

namespace Gui
variable {o : Outside} {os : List Outside} {s : Gui} {pre post : List ℕ} {current : ℕ}

/-- `Setting::switchToNextNode`. -/
def switchToNextNode (o : Outside) (s : Gui) : Gui :=
  let found := s.currentEncryptionServers
  match (found.1.findIdx? fun id : ℕ => (id : ℤ) == s.setting.serverID).bind
      fun which => found.1[which + 1]? with
  | some next => found.2.setServer o.depth next
  | none => found.2

/-- The node loop goes on to the next server after a timeout. -/
theorem tryNextPort_eq (o : Outside) (s : Gui) : s.tryNextPort o =
    (if s.manager.mChangingPorts then s.setProtocol o s.setting.determineNextPort
    else s.switchToNextNode o).sendConnectToVPNRequest o := rfl

/-- The server of the moment, and those that the calls select one after the other. -/
def nodes (s : Gui) : List Outside → List ℤ
  | [] => [s.setting.serverID]
  | o :: os => s.setting.serverID :: nodes (s.switchToNextNode o) os

theorem notMem_before (h : (pre ++ current :: post).Nodup) : current ∉ pre := by
  obtain ⟨-, -, hdisjoint⟩ := List.nodup_append.mp h
  exact fun hmem => hdisjoint current hmem current (List.mem_cons_self ..) rfl

theorem findIdx?_current (hnot : current ∉ pre) :
    ((pre ++ current :: post).findIdx? fun id : ℕ => (id : ℤ) == (current : ℤ)) = some pre.length := by
  have hbefore : (pre.findIdx? fun id : ℕ => (id : ℤ) == (current : ℤ)) = none := by
    refine List.findIdx?_eq_none_iff.mpr fun id hid => ?_
    have hne : id ≠ current := fun heq => hnot (heq ▸ hid)
    simpa using hne
  rw [List.findIdx?_append, hbefore, List.findIdx?_cons, beq_self_eq_true]
  simp

theorem switchToNextNode_of_next {next : ℕ} (h : s.Aligned)
    (hids : s.account.mTcpServerIds = pre ++ current :: next :: post) (hnot : current ∉ pre)
    (hcurrent : s.setting.serverID = current) :
    s.switchToNextNode o = s.filled.setServer o.depth next := by
  have hnext : (pre ++ current :: next :: post)[pre.length + 1]? = some next := by
    rw [List.getElem?_append_right (by omega), Nat.add_sub_cancel_left]
    rfl
  rw [switchToNextNode, currentEncryptionServers_eq h, hids, hcurrent]
  dsimp only
  rw [findIdx?_current hnot, Option.bind_some, hnext]

/-- Behind the last server there is none. -/
theorem switchToNextNode_of_last (h : s.Aligned) (hids : s.account.mTcpServerIds = pre ++ [current])
    (hnot : current ∉ pre) (hcurrent : s.setting.serverID = current) :
    s.switchToNextNode o = s.filled := by
  have hnext : (pre ++ [current])[pre.length + 1]? = none := List.getElem?_eq_none (by simp)
  rw [switchToNextNode, currentEncryptionServers_eq h, hids, hcurrent]
  dsimp only
  rw [findIdx?_current hnot, Option.bind_some, hnext]

theorem switchToNextNode_of_unset (h : s.Aligned) (hunset : s.setting.serverID = -1) :
    s.switchToNextNode o = s.filled := by
  have hfind : (s.account.mTcpServerIds.findIdx? fun id : ℕ => (id : ℤ) == -1) = none := by
    refine List.findIdx?_eq_none_iff.mpr fun id _ => ?_
    simp
  rw [switchToNextNode, currentEncryptionServers_eq h, hunset]
  dsimp only
  rw [hfind, Option.bind_none]

/-- What a call does that finds a next server. -/
theorem Settled.switchToNextNode {next : ℕ} (ho : o.Deep) (h : s.Settled true)
    (hids : s.account.mTcpServerIds = pre ++ current :: next :: post) (hnot : current ∉ pre)
    (hcurrent : s.setting.serverID = current) :
    (s.switchToNextNode o).Settled true ∧ (s.switchToNextNode o).account = s.account ∧
      (∀ id, (s.switchToNextNode o).HasRow id ↔ s.HasRow id) ∧
      (((s.switchToNextNode o).setting.serverID = next ∧ s.HasRow next) ∨
        ((s.switchToNextNode o).setting.serverID = -1 ∧ ¬s.HasRow next)) := by
  rw [switchToNextNode_of_next h.aligned hids hnot hcurrent]
  have hmem : next ∈ s.account.mTcpServerIds := by
    rw [hids]
    simp
  obtain ⟨t, ht, haccount, hrows, hserver⟩ := h.filled.nested_three hmem
  have hset : s.filled.setServer o.depth next = t := by
    rw [setServer_eq ho]
    exact ht _
  refine ⟨h.filled.setServer next ho, hset ▸ haccount, fun id => ?_, hset ▸ hserver⟩
  have hlisted : ∀ u : Gui, u.HasRow id ↔ ∀ ids ∈ u.map.map (·.mServerIds), id ∈ ids := by
    intro u
    simp [HasRow]
  rw [hset, hlisted, hrows, ← hlisted]
  exact Iff.rfl

/-- A call that finds no next server leaves the location and the servers alone. -/
theorem nodes_of_unset (h : s.Settled true) (hunset : s.setting.serverID = -1) :
    ∀ i ∈ s.nodes os, i = -1 := by
  induction os generalizing s with
  | nil => simp [nodes, hunset]
  | cons o os ih =>
    rw [nodes, switchToNextNode_of_unset h.aligned hunset, hunset]
    refine List.forall_mem_cons.mpr ⟨rfl, ih h.filled ?_⟩
    exact s.setting.serverID_tcpOrUdp.trans hunset

/-- No server before that of the moment is tried, and none that has no row. -/
theorem nodes_mem (hos : ∀ o ∈ os, o.Deep) (h : s.Settled true)
    (hids : s.account.mTcpServerIds = pre ++ current :: post)
    (hnodup : s.account.mTcpServerIds.Nodup) (hcurrent : s.setting.serverID = current) :
    ∀ i ∈ s.nodes os, i = current ∨ i = -1 ∨ ∃ id ∈ post, i = id ∧ s.HasRow id := by
  induction os generalizing s pre current post with
  | nil => simp [nodes, hcurrent]
  | cons o os ih =>
    obtain ⟨ho, hos⟩ := List.forall_mem_cons.mp hos
    have hnot := notMem_before (hids ▸ hnodup)
    rw [nodes, hcurrent]
    refine List.forall_mem_cons.mpr ⟨.inl rfl, fun i hi => ?_⟩
    cases post with
    | nil =>
      rw [switchToNextNode_of_last h.aligned hids hnot hcurrent] at hi
      exact ih hos h.filled hids hnodup (s.setting.serverID_tcpOrUdp.trans hcurrent) i hi
    | cons next post =>
      obtain ⟨hsettled, haccount, hrows, hserver⟩ := h.switchToNextNode ho hids hnot hcurrent
      rcases hserver with ⟨hnext, hrow⟩ | ⟨hunset, -⟩
      · have hids' : s.account.mTcpServerIds = (pre ++ [current]) ++ next :: post := by simp [hids]
        rw [← haccount] at hids' hnodup
        rcases ih hos hsettled hids' hnodup hnext i hi with rfl | hnone | ⟨id, hid, rfl, hidrow⟩
        · exact .inr (.inr ⟨next, List.mem_cons_self .., rfl, hrow⟩)
        · exact .inr (.inl hnone)
        · exact .inr (.inr ⟨id, List.mem_cons_of_mem _ hid, rfl, (hrows id).mp hidrow⟩)
      · exact .inr (.inl (nodes_of_unset hsettled hunset i hi))

/-- The servers behind that of the moment are tried in order while they have rows. -/
theorem nodes_eq (hos : ∀ o ∈ os, o.Deep) (h : s.Settled true)
    (hids : s.account.mTcpServerIds = pre ++ current :: post)
    (hnodup : s.account.mTcpServerIds.Nodup) (hcurrent : s.setting.serverID = current)
    (hlength : os.length = post.length) (hrows : ∀ id ∈ post, s.HasRow id) :
    s.nodes os = (current :: post).map fun id : ℕ => (id : ℤ) := by
  induction os generalizing s pre current post with
  | nil =>
    obtain rfl := List.eq_nil_of_length_eq_zero hlength.symm
    rw [nodes, hcurrent]
    rfl
  | cons o os ih =>
    obtain ⟨ho, hos⟩ := List.forall_mem_cons.mp hos
    cases post with
    | nil => cases hlength
    | cons next post =>
      have hnot := notMem_before (hids ▸ hnodup)
      obtain ⟨hnextrow, hrows⟩ := List.forall_mem_cons.mp hrows
      obtain ⟨hsettled, haccount, hrows', hserver⟩ := h.switchToNextNode ho hids hnot hcurrent
      have hnext := (hserver.resolve_right fun hunset => hunset.2 hnextrow).1
      have hids' : s.account.mTcpServerIds = (pre ++ [current]) ++ next :: post := by simp [hids]
      rw [← haccount] at hids' hnodup
      rw [nodes, hcurrent, ih hos hsettled hids' hnodup hnext (Nat.succ_inj.mp hlength)
        fun id hid => (hrows' id).mpr (hrows id hid)]
      rfl

/-- From any state that a run leaves, with a list of any distinct servers, one of which is
that of the moment, and with one call for each other server: the servers that are tried
are those of the list exactly where that of the moment is the first one and all others
have rows. -/
theorem nodes_cover_iff (s : Gui) (h : s.Settled true) (ids : List ℕ)
    (hids : s.currentEncryptionServers.1 = ids) (hnodup : ids.Nodup) (current : ℕ)
    (hmem : current ∈ ids) (hcurrent : s.setting.serverID = current) (os : List Outside)
    (hos : ∀ o ∈ os, o.Deep) (hlength : os.length + 1 = ids.length) :
    (∀ i : ℤ, i ∈ s.nodes os ↔ ∃ id ∈ ids, i = (id : ℤ)) ↔
      ids.head? = some current ∧ ∀ id ∈ ids.tail, s.HasRow id := by
  rw [currentEncryptionServers_eq h.aligned] at hids
  subst hids
  obtain ⟨pre, post, hsplit⟩ := List.append_of_mem hmem
  have hnodup' := hnodup
  rw [hsplit, List.nodup_append] at hnodup'
  obtain ⟨-, hpost, hdisjoint⟩ := hnodup'
  have htried := nodes_mem hos h hsplit hnodup hcurrent
  constructor
  · intro hall
    have hpre : pre = [] := by
      by_contra hne
      obtain ⟨id, hid⟩ := List.exists_mem_of_ne_nil pre hne
      have hvisited : (id : ℤ) ∈ s.nodes os := by
        refine (hall id).mpr ⟨id, ?_, rfl⟩
        rw [hsplit]
        exact List.mem_append_left _ hid
      rcases htried id hvisited with heq | hnone | ⟨id', hid', heq, -⟩
      · exact hdisjoint id hid current (List.mem_cons_self ..) (by exact_mod_cast heq)
      · omega
      · exact hdisjoint id hid id' (List.mem_cons_of_mem _ hid') (by exact_mod_cast heq)
    subst hpre
    rw [hsplit]
    refine ⟨rfl, fun id hid => ?_⟩
    have hvisited : (id : ℤ) ∈ s.nodes os := by
      refine (hall id).mpr ⟨id, ?_, rfl⟩
      rw [hsplit]
      exact List.mem_cons_of_mem _ hid
    rcases htried id hvisited with heq | hnone | ⟨id', -, heq, hrow⟩
    · have hself : current ∈ post := by
        rw [← Int.natCast_inj.mp heq]
        exact hid
      exact absurd hself (List.nodup_cons.mp hpost).1
    · omega
    · rw [Int.natCast_inj.mp heq]
      exact hrow
  · rintro ⟨hhead, hrows⟩ i
    have hpre : pre = [] := by
      cases pre with
      | nil => rfl
      | cons id pre =>
        rw [hsplit] at hhead
        have heq : id = current := Option.some.inj hhead
        exact absurd heq (hdisjoint id (List.mem_cons_self ..) current (List.mem_cons_self ..))
    subst hpre
    have hrest : os.length = post.length := by
      rw [hsplit, List.nil_append, List.length_cons] at hlength
      exact Nat.succ_inj.mp hlength
    rw [hsplit] at hrows
    rw [nodes_eq hos h hsplit hnodup hcurrent hrest hrows, hsplit, List.mem_map]
    constructor
    · rintro ⟨id, hid, rfl⟩
      exact ⟨id, hid, rfl⟩
    · rintro ⟨id, hid, rfl⟩
      exact ⟨id, hid, rfl⟩

end Gui

/-- The reply that lists two servers. -/
def ServersReply.two : ServersReply :=
  .document [⟨"server1".toList, some "h".toList, some "i".toList, [], [], []⟩,
    ⟨"server2".toList, some "h".toList, some "i".toList, [], [], []⟩]

/-- The server of these indices and names is stored. -/
def Setting.stored (ix : ℤ) (name : String) : Setting :=
  { fresh with
    dd_Location_ix := some (.int ix)
    dd_Location_str := some (.string name.toList) }

namespace Gui

/-- From the first of two servers both are tried. -/
theorem nodes_cover_from_first : { i : ℤ | i ∈ (run step
    (initial (.stored 0 "server1") .blocking false)
      ([.timerConstructed, .loginClicked, .replyFinished .two].map (Prod.mk .nested))).nodes
        [.nested] } = { i : ℤ | ∃ id ∈ ([0, 1] : List ℕ), i = (id : ℤ) } := by
  have hsettled := settled_run (.stored 0 "server1") .blocking false
    (Outside.nested_deep [.timerConstructed, .loginClicked, .replyFinished .two])
  exact Set.ext ((nodes_cover_iff _ hsettled [0, 1] (by decide +kernel) (by decide) 0 (by decide)
    (by decide +kernel) [.nested] (List.forall_mem_singleton.mpr (le_refl 3)) rfl).mpr
    (by decide +kernel))

/-- From the second one the first is not. -/
theorem nodes_stay_at_last : ¬∀ (stored : Setting) (v : System.Unset) (mPingsLoaded : Bool)
    (es : List (Outside × GuiEvent)) (ids : List ℕ) (current : ℕ) (os : List Outside),
    (∀ e ∈ es, e.1.Deep) → (∀ o ∈ os, o.Deep) →
    (run step (initial stored v mPingsLoaded) es).currentEncryptionServers.1 = ids → ids.Nodup →
    current ∈ ids → (run step (initial stored v mPingsLoaded) es).setting.serverID = current →
    os.length + 1 = ids.length →
    ∀ id ∈ ids, (id : ℤ) ∈ (run step (initial stored v mPingsLoaded) es).nodes os := by
  intro h
  have htried : (run step (initial (.stored 1 "server2") .blocking false)
      ([.timerConstructed, .loginClicked, .replyFinished .two].map (Prod.mk .nested))).nodes
        [.nested] = [1, 1] := by
    decide +kernel
  have hfirst := h (.stored 1 "server2") .blocking false _ [0, 1] 1 [.nested] (Outside.nested_deep
    [.timerConstructed, .loginClicked, .replyFinished .two])
    (List.forall_mem_singleton.mpr (le_refl 3)) (by decide +kernel) (by decide) (by decide)
    (by decide +kernel) rfl 0 (by decide)
  rw [htried] at hfirst
  exact absurd hfirst (by decide)

end Gui
end CeloVpn.Client
