import CeloVpn.Client.Jump
import CeloVpn.Client.Names
import CeloVpn.Client.NodeLoop

/-!
# The server of an earlier session

A list that is loaded restores the server of the name that is stored, wherever it is in
the list now, and one to jump to where none is found. The index that is handed on is one
of the list whatever is stored; it stays where no map screen was there before the list.
-/
namespace CeloVpn.Client
open Runs

namespace AuthManager
variable {m : AuthManager}

/-- A list of servers has just been loaded, and the lists of indices are its own. -/
structure Loaded (m : AuthManager) : Prop where
  servers_ne_nil : m.mServers ≠ []
  ids_eq : ∀ ids ∈ m.lists.ids, ids = List.range m.mServers.length
  named : m.Named

/-- What `loadServer` makes of the stored index and name, minus one where it finds none. -/
def savedIx (s : Setting) (m : AuthManager) : ℤ × AuthManager :=
  if -1 < s.savedServer then
    let sr1 := m.getServer s.savedServer
    if sr1.name ≠ [] ∧ sr1.name = s.savedName then (s.savedServer, m)
    else if s.savedName ≠ "undefined".toList then m.serverIxFromName s.savedName
    else (-1, m)
  else (-1, m)

theorem getServer_natCast (m : AuthManager) {i : ℕ} (hi : i < m.mServers.length) :
    m.getServer i = m.mServers[i] := by
  rw [getServer, if_pos (by omega), Int.toNat_natCast, List.getD_eq_getElem?_getD,
    List.getElem?_eq_getElem hi, Option.getD_some]

/-- An index that is found by the name is one of the list, and has this name. -/
theorem serverIxFromName_cases (srv : QString) (h : m.Named) :
    ((∃ i : ℕ, (m.serverIxFromName srv).1 = i ∧ i < m.mServers.length ∧ (m.getServer i).name = srv) ∨
      (m.serverIxFromName srv).1 = -1 ∧ ∀ server ∈ m.mServers, server.name ≠ srv) := by
  rw [serverIxFromName_fst srv h]
  cases hfind : m.mServers.findIdx? (·.name == srv) with
  | none =>
    refine .inr ⟨rfl, fun server hserver => ?_⟩
    have hother := List.findIdx?_eq_none_iff.mp hfind server hserver
    simpa using hother
  | some i =>
    obtain ⟨hi, hname, -⟩ := List.findIdx?_eq_some_iff_getElem.mp hfind
    refine .inl ⟨i, rfl, hi, ?_⟩
    rw [getServer_natCast m hi]
    exact eq_of_beq hname

theorem lists_savedIx (s : Setting) (m : AuthManager) : (savedIx s m).2.lists = m.lists := by
  have hlookup : (m.serverIxFromName s.savedName).2.lists = m.lists := by
    unfold serverIxFromName
    dsimp only
    split_ifs <;> rfl
  unfold savedIx
  dsimp only
  split_ifs
  · rfl
  · exact hlookup
  · rfl
  · rfl

/-- The stored index and name lead to a server of this name, or to none. -/
theorem savedIx_cases (s : Setting) (h : m.Named) :
    (∃ i : ℕ, (savedIx s m).1 = i ∧ i < m.mServers.length ∧ (m.getServer i).name = s.savedName) ∨
    (savedIx s m).1 = -1 ∧ (0 ≤ s.savedServer → s.savedName ≠ "undefined".toList →
      ∀ server ∈ m.mServers, server.name ≠ s.savedName) := by
  unfold savedIx
  dsimp only
  split_ifs with hsaved hsame hdefined
  · have hrange : -1 < s.savedServer ∧ s.savedServer < m.mServers.length := by
      by_contra hout
      exact hsame.1 (by rw [getServer, if_neg hout]; rfl)
    have hi : (s.savedServer.toNat : ℤ) = s.savedServer := by omega
    refine .inl ⟨s.savedServer.toNat, hi.symm, by omega, ?_⟩
    rw [hi]
    exact hsame.2
  · rcases serverIxFromName_cases s.savedName h with hfound | ⟨hnone, hother⟩
    · exact .inl hfound
    · exact .inr ⟨hnone, fun _ _ => hother⟩
  · exact .inr ⟨rfl, fun _ hne => absurd hne hdefined⟩
  · exact .inr ⟨rfl, fun hnonneg => absurd hnonneg (by omega)⟩

end AuthManager

namespace Gui
variable {o : Outside} {s : Gui}

theorem saved_filled (s : Gui) : s.filled.setting.savedServer = s.setting.savedServer ∧
    s.filled.setting.savedName = s.setting.savedName := by
  change s.setting.tcpOrUdp.2.savedServer = _ ∧ s.setting.tcpOrUdp.2.savedName = _
  unfold Setting.tcpOrUdp Setting.protocolName
  dsimp only
  split_ifs <;> exact ⟨rfl, rfl⟩

/-- The index that `loadServer` hands to `setServer`. -/
def ixToLoad (o : Outside) (s : Gui) : ℤ :=
  let named := AuthManager.savedIx s.setting s.account
  if named.1 < 0 then named.2.getServerToJump o.order o.rand s.setting.serverID else named.1

theorem loadServer_eq (o : Outside) (h : s.currentEncryptionServers.1 ≠ []) : s.loadServer o =
    Gui.setServer o.depth (s.filled.ixToLoad o)
      { s.filled with account := (AuthManager.savedIx s.filled.setting s.account).2 } :=
  if_neg (mt List.isEmpty_iff.mp h)

/-- It is one of the list, and that of the stored name where a server has it. -/
theorem ixToLoad_cases (o : Outside) (h : s.account.Loaded) :
    ∃ i : ℕ, s.ixToLoad o = i ∧ i < s.account.mServers.length ∧
      (0 ≤ s.setting.savedServer → s.setting.savedName ≠ "undefined".toList →
        (∃ server ∈ s.account.mServers, server.name = s.setting.savedName) →
        (s.account.getServer i).name = s.setting.savedName) := by
  have hlists := AuthManager.lists_savedIx s.setting s.account
  have hservers : (AuthManager.savedIx s.setting s.account).2.mServers = s.account.mServers :=
    congrArg Lists.mServers hlists
  have hids : (AuthManager.savedIx s.setting s.account).2.mServerIds =
      List.range s.account.mServers.length := by
    refine (congrArg Lists.mServerIds hlists).trans (h.ids_eq _ ?_)
    simp [Lists.ids, AuthManager.lists]
  unfold ixToLoad
  dsimp only
  rcases AuthManager.savedIx_cases s.setting h.named with ⟨i, hi, hlt, hname⟩ | ⟨hnone, hother⟩
  · rw [hi, if_neg (by omega)]
    exact ⟨i, rfl, hlt, fun _ _ _ => hname⟩
  · rw [hnone, if_pos (by decide)]
    obtain ⟨srv, hsrv, hmem, -⟩ := AuthManager.getServerToJump_mem o.order o.rand s.setting.serverID
      (AuthManager.savedIx s.setting s.account).2 (by rw [hservers]; exact h.servers_ne_nil)
    refine ⟨srv, hsrv, ?_, fun hsaved hdefined hstored => ?_⟩
    · rw [hservers] at hmem
      split_ifs at hmem
      · exact hmem
      · rw [AuthManager.others, hids] at hmem
        exact List.mem_range.mp (List.mem_filter.mp hmem).1
    · obtain ⟨server, hserver, hname⟩ := hstored
      exact absurd hname (hother hsaved hdefined server hserver)

/-- What `loadServer` is to leave: one of the servers, and that of the stored name where
an index is stored and a server has the name. -/
def Restored (t u : Gui) : Prop :=
  (∃ i : ℕ, i < t.account.mServers.length ∧ u.setting.serverID = i) ∧
    (0 ≤ t.setting.savedServer → t.setting.savedName ≠ "undefined".toList →
      (∃ server ∈ t.account.mServers, server.name = t.setting.savedName) →
      (t.account.getServer u.setting.serverID).name = t.setting.savedName)

/-- After any run, whatever is stored: where a list is loaded that is not empty, and whose
indices are its own, the server is restored exactly where no map screen was there before
it. -/
theorem loadServer_restores_iff (stored : Setting) (v : System.Unset) (mPingsLoaded : Bool)
    (es : List (Outside × GuiEvent)) (hdeep : ∀ e ∈ es, e.1.Deep) (s t : Gui)
    (hs : s = run step (initial stored v mPingsLoaded) es) (reply : ServersReply) (testing : Bool)
    (haccount : t.account = s.account.loginFinished reply testing) (hmap : t.map = s.map)
    (hservers : t.account.mServers ≠ [])
    (hids : ∀ ids ∈ t.account.lists.ids, ids = List.range t.account.mServers.length)
    (o : Outside) (ho : o.Deep) : t.Restored (t.loadServer o) ↔ t.map = none := by
  have hrun : s.Settled true := hs ▸ settled_run stored v mPingsLoaded hdeep
  have hlists := haccount ▸ s.account.lists_loginFinished reply testing
  have hsettled : t.Settled true := hrun.replaced hlists hmap
  have hloaded : t.account.Loaded := by
    refine ⟨hservers, hids, .inl ?_⟩
    rw [haccount]
    exact s.account.names_loginFinished reply testing
  have htcp : t.account.mTcpServerIds = List.range t.account.mServers.length := by
    refine hids _ ?_
    simp [Lists.ids, AuthManager.lists]
  have hlisted : t.currentEncryptionServers.1 ≠ [] := by
    rw [currentEncryptionServers_eq hsettled.aligned, htcp]
    simpa using hservers
  obtain ⟨i, hi, hlt, hname⟩ := ixToLoad_cases (s := t.filled) o hloaded
  have hi' : t.filled.ixToLoad o = i := hi
  -- the indices are those of the list alone, so that there were none before it
  have hnone : s.account.mTcpServerIds = [] := by
    have hlength : t.account.mServers.length = reply.servers.length := by
      rw [haccount, AuthManager.servers_loginFinished]
    have hbehind : t.account.mTcpServerIds =
        s.account.mTcpServerIds ++ List.range' 0 reply.servers.length :=
      congrArg Lists.mTcpServerIds hlists
    rw [htcp, ← hlength, ← List.range_eq_range'] at hbehind
    exact List.append_left_eq_self.mp hbehind.symm
  have hrow : t.HasRow i ↔ t.map = none := by
    constructor
    · intro hrow
      cases hmap' : t.map with
      | none => rfl
      | some map =>
        have hempty := (hrun.shows map (hmap ▸ hmap')).listed
        rw [hnone, List.prefix_nil] at hempty
        have hmem := hrow map hmap'
        rw [hempty] at hmem
        cases hmem
    · intro hmap' map hsome
      cases hmap'.symm.trans hsome
  have hready : ({ t.filled with
      account := (AuthManager.savedIx t.filled.setting t.account).2 } : Gui).Settled true :=
    hsettled.of_lists (AuthManager.lists_savedIx _ _) rfl
  have hmem : i ∈ (AuthManager.savedIx t.filled.setting t.account).2.mTcpServerIds := by
    have hsame : (AuthManager.savedIx t.filled.setting t.account).2.mTcpServerIds =
        t.account.mTcpServerIds := congrArg Lists.mTcpServerIds (AuthManager.lists_savedIx _ _)
    rw [hsame, htcp]
    exact List.mem_range.mpr hlt
  obtain ⟨u, hu, -, -, hserver⟩ := hready.nested_three hmem
  rw [loadServer_eq o hlisted, hi', setServer_eq ho, hu, ← hrow]
  rcases hserver with ⟨hset, hrow⟩ | ⟨hunset, hrow⟩
  · refine ⟨fun _ => hrow, fun _ => ⟨⟨i, hlt, hset⟩, fun hsaved hdefined hserver => ?_⟩⟩
    obtain ⟨hix, hstr⟩ := saved_filled t
    rw [← hix] at hsaved
    rw [← hstr] at hdefined hserver ⊢
    rw [hset]
    exact hname hsaved hdefined hserver
  · refine ⟨fun hrestored => ?_, fun h => absurd h hrow⟩
    obtain ⟨⟨k, -, hk⟩, -⟩ := hrestored
    omega

/-- The second of two servers is found by its name, though the first index is stored. -/
theorem loadServer_restores_by_name :
    let s := run step (initial (.stored 0 "server2") .blocking false)
      ([.timerConstructed, .loginClicked].map (Prod.mk .nested))
    (s.received .two false).Restored ((s.received .two false).loadServer .nested) := by
  intro s
  exact (loadServer_restores_iff (.stored 0 "server2") .blocking false _ (Outside.nested_deep
    [.timerConstructed, .loginClicked]) s (s.received .two false) rfl .two s.setting.mTesting rfl rfl (by decide +kernel)
    (by decide +kernel) .nested (le_refl 3)).mpr (by decide +kernel)

/-- A map screen that is shown before the list leaves no server selected. -/
theorem loadServer_after_map_unset : ¬∀ (stored : Setting) (v : System.Unset) (mPingsLoaded : Bool)
    (es : List (Outside × GuiEvent)), (∀ e ∈ es, e.1.Deep) → ∀ (s : Gui) (reply : ServersReply),
    s = (run step (initial stored v mPingsLoaded) es).received reply false →
    s.account.mServers ≠ [] →
    (∀ ids ∈ s.account.lists.ids, ids = List.range s.account.mServers.length) →
    ∀ o : Outside, o.Deep → s.Restored (s.loadServer o) := by
  intro h
  obtain ⟨⟨i, -, hi⟩, -⟩ := h (.stored 0 "server2") .blocking false _ (Outside.nested_deep
    [.timerConstructed, .loginClicked, .switchCountryTriggered]) _ .two rfl (by decide +kernel)
    (by decide +kernel) .nested (le_refl 3)
  have hunset : (Gui.loadServer .nested ((run step (initial (.stored 0 "server2") .blocking false)
      ([.timerConstructed, .loginClicked, .switchCountryTriggered].map
        (Prod.mk .nested))).received .two false)).setting.serverID = -1 := by
    decide +kernel
  rw [hunset] at hi
  omega

end Gui
end CeloVpn.Client
