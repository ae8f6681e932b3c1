import CeloVpn.Client.Preserved

/-!
# Whether the location that is set stays

The map screen has a copy of the indices of its own. It is made as the screen is
constructed and whenever the protocol changes, not when more servers are listed. A
location behind its last row makes no row of the combo box current, and then the first
one, each of which sets no server; one in its rows stays, and either way the calls end.
-/
namespace CeloVpn.Client
open Runs

namespace MapScreen

theorem rowOf_natCast (i : ℕ) (srvs : List ℕ) :
    rowOf i srvs = if i ∈ srvs then srvs.idxOf i + 1 else 0 := by
  have hequal : (fun id : ℕ => (id : ℤ) == (i : ℤ)) = fun id => id == i := by
    funext id
    rw [Bool.eq_iff_iff, beq_iff_eq, beq_iff_eq, Int.natCast_inj]
  have hpos : -1 < (i : ℤ) := by omega
  rw [rowOf, if_pos hpos, hequal, List.findIdx?_eq_guard_findIdx_lt]
  by_cases hmem : i ∈ srvs
  · have hlt : srvs.findIdx (· == i) < srvs.length := List.idxOf_lt_length_of_mem hmem
    rw [if_pos hmem, Option.guard, if_pos (decide_eq_true hlt)]
    rfl
  · have hlength : srvs.findIdx (· == i) = srvs.length := List.idxOf_eq_length hmem
    rw [if_neg hmem, Option.guard, hlength, if_neg (by simp)]
    rfl

theorem rowOf_of_neg {ixsrv : ℤ} (h : ixsrv < 0) (srvs : List ℕ) : rowOf ixsrv srvs = 0 :=
  if_neg (by omega)

theorem rowOf_le (ixsrv : ℤ) (srvs : List ℕ) : rowOf ixsrv srvs ≤ srvs.length := by
  by_cases hneg : ixsrv < 0
  · rw [rowOf_of_neg hneg]
    exact Nat.zero_le _
  · obtain ⟨i, rfl⟩ := Int.eq_ofNat_of_zero_le (not_lt.mp hneg)
    rw [rowOf_natCast]
    split_ifs with hmem
    · exact List.idxOf_lt_length_of_mem hmem
    · exact Nat.zero_le _

/-- The rows of the map screen are those of the first indices. While its signals are not
connected they are those of all indices. -/
structure Shows (connected : Bool) (ids : List ℕ) (map : MapScreen) : Prop where
  listed : map.mServerIds <+: ids
  rows_eq : map.rows = map.mServerIds.length + 1
  connected_eq : map.connected = connected
  complete : connected = false → map.mServerIds = ids

variable {connected : Bool} {ids : List ℕ} {map : MapScreen} (h : map.Shows connected ids)
include h

/-- A location is in the rows just where its index is one of theirs. -/
theorem Shows.rowOf_lt_iff {i : ℕ} (hi : i ∈ ids) : rowOf i ids < map.rows ↔ i ∈ map.mServerIds := by
  obtain ⟨rest, rfl⟩ := h.listed
  rw [rowOf_natCast, if_pos hi, h.rows_eq, Nat.add_lt_add_iff_right]
  constructor
  · intro hlt
    by_contra hmem
    rw [List.idxOf_append_of_notMem hmem] at hlt
    omega
  · intro hmem
    rw [List.idxOf_append_of_mem hmem]
    exact List.idxOf_lt_length_of_mem hmem

/-- The row of a location shows this location, the first row none. -/
theorem Shows.currentServerId_rowOf {ixsrv : ℤ} (hrow : rowOf ixsrv ids < map.rows) :
    ({ map with locationIndex := (rowOf ixsrv ids : ℤ) } : MapScreen).currentServerId =
      if rowOf ixsrv ids = 0 then -1 else ixsrv := by
  split_ifs with hzero
  · rw [hzero]
    rfl
  · have hnonneg : 0 ≤ ixsrv := by
      by_contra hneg
      exact hzero (rowOf_of_neg (not_le.mp hneg) ids)
    obtain ⟨i, rfl⟩ := Int.eq_ofNat_of_zero_le hnonneg
    have hmem : i ∈ ids := by
      by_contra hmem
      exact hzero ((rowOf_natCast i ids).trans (if_neg hmem))
    have hlisted := (h.rowOf_lt_iff hmem).mp hrow
    obtain ⟨rest, rfl⟩ := h.listed
    have hrow : rowOf i (map.mServerIds ++ rest) = map.mServerIds.idxOf i + 1 := by
      rw [rowOf_natCast, if_pos hmem, List.idxOf_append_of_mem hlisted]
    have hindex : ((↑(map.mServerIds.idxOf i + 1) : ℤ) - 1).toNat = map.mServerIds.idxOf i := by omega
    have hpos : 0 < (↑(map.mServerIds.idxOf i + 1) : ℤ) := by omega
    rw [hrow, currentServerId, if_pos hpos, hindex, List.getElem?_idxOf hlisted]
    rfl

end MapScreen

namespace Setting

/-- Where a protocol is selected its name fills the table, and is the same afterwards. -/
theorem protocolName_protocolName (ix : ℤ) (s : Setting) :
    (s.protocolName ix).2.protocolName ix = s.protocolName ix := by
  by_cases hix : -1 < ix
  · have hname : ∀ s : Setting, s.protocolName ix =
        (if ix < gs_protocols.length then gs_protocols.getD ix.toNat [] else [],
          { s with populated := true }) := by
      intro s
      rw [protocolName, if_pos hix]
      change (if ix < gs_protocols.length then _ else _) = _
      split_ifs <;> rfl
    rw [hname, hname]
  · have hname : ∀ s : Setting, s.protocolName ix = ([], s) := fun s => if_neg hix
    rw [hname (s.protocolName ix).2, hname]

theorem currentProtocol_protocolName (ix : ℤ) (s : Setting) :
    (s.protocolName ix).2.currentProtocol = s.currentProtocol := by
  unfold protocolName
  dsimp only
  split_ifs <;> rfl

theorem tcpOrUdp_tcpOrUdp (s : Setting) : s.tcpOrUdp.2.tcpOrUdp = s.tcpOrUdp := by
  have hname : s.tcpOrUdp.2.protocolName s.tcpOrUdp.2.currentProtocol =
      s.protocolName s.currentProtocol := by
    have hcurrent : s.tcpOrUdp.2.currentProtocol = s.currentProtocol :=
      currentProtocol_protocolName s.currentProtocol s
    rw [hcurrent]
    exact protocolName_protocolName s.currentProtocol s
  unfold tcpOrUdp at hname ⊢
  rw [hname]

theorem tcpOrUdp_storeServer (ixsrv : ℤ) (newsrv : QString) (s : Setting) :
    (s.storeServer ixsrv newsrv).tcpOrUdp.2 = s.tcpOrUdp.2.storeServer ixsrv newsrv := by
  have hname : ∀ ix, ((s.storeServer ixsrv newsrv).protocolName ix).2 =
      (s.protocolName ix).2.storeServer ixsrv newsrv := by
    intro ix
    unfold protocolName
    dsimp only
    split_ifs <;> rfl
  exact hname s.currentProtocol

end Setting

namespace Gui
variable {s : Gui} {map : MapScreen} (last : ℤ → Gui → Gui)

/-- `setServer`, where the calls that are nested so deep are made by another function. -/
def nested (last : ℤ → Gui → Gui) : ℕ → ℤ → Gui → Gui
  | 0, ixsrv, s => last ixsrv s
  | depth + 1, ixsrv, s =>
    let s := s.storeServer ixsrv
    if s.map.any (·.connected) then s.updateLocation (nested last depth) else s

/-- The calls end, whatever one that is nested too deep would do. -/
def Returns (ixsrv : ℤ) (s t : Gui) : Prop := ∃ depth, ∀ last, nested last depth ixsrv s = t

theorem setServer_eq_nested (rest depth : ℕ) : setServer (rest + depth) = nested (setServer rest) depth := by
  induction depth with
  | zero => rfl
  | succ depth ih =>
    funext ixsrv s
    change (let s := s.storeServer ixsrv
      if s.map.any (·.connected) then s.updateLocation (setServer (rest + depth)) else s) = _
    rw [ih]
    rfl

/-- Servers handle both protocols. -/
def Aligned (s : Gui) : Prop := s.account.mUdpServerIds = s.account.mTcpServerIds

/-- The client with its table of protocols filled, as far as one is selected. -/
def filled (s : Gui) : Gui := s.currentEncryptionServers.2

/-- The client with another row of the map screen. -/
def atRow (row : ℤ) (map : MapScreen) (s : Gui) : Gui :=
  { s.filled with map := some { map with locationIndex := row } }

theorem currentEncryptionServers_eq (h : s.Aligned) :
    s.currentEncryptionServers = (s.account.mTcpServerIds, s.filled) := by
  refine Prod.ext ?_ rfl
  change (if _ then s.account.mTcpServerIds else s.account.mUdpServerIds) = _
  rw [h, ite_self]

theorem filled_filled (s : Gui) : s.filled.filled = s.filled := by
  have hset : s.filled.filled = { s.filled with setting := s.setting.tcpOrUdp.2.tcpOrUdp.2 } := rfl
  rw [hset, Setting.tcpOrUdp_tcpOrUdp]
  rfl

theorem filled_storeServer (ixsrv : ℤ) (s : Gui) :
    (s.storeServer ixsrv).filled = s.filled.storeServer ixsrv := by
  have hset := Setting.tcpOrUdp_storeServer ixsrv (s.account.getServer ixsrv).name s.setting
  exact congrArg (fun setting => { s with
    setting := setting
    selected := fits ixsrv s.account.mServers }) hset

theorem filled_atRow (row : ℤ) (map : MapScreen) (s : Gui) : (s.atRow row map).filled = s.atRow row map :=
  congrArg (fun t : Gui => { t with map := some { map with locationIndex := row } }) s.filled_filled

theorem updateLocation_of_nil {setServer : ℤ → Gui → Gui} (h : s.Aligned)
    (hids : s.account.mTcpServerIds = []) : s.updateLocation setServer = s.filled := by
  rw [updateLocation, currentEncryptionServers_eq h, hids]
  rfl

theorem updateLocation_of_ne_nil {setServer : ℤ → Gui → Gui} (h : s.Aligned)
    (hids : s.account.mTcpServerIds ≠ []) : s.updateLocation setServer =
      s.filled.setCurrentIndex setServer (MapScreen.rowOf s.setting.serverID s.account.mTcpServerIds) := by
  rw [updateLocation, currentEncryptionServers_eq h]
  exact if_neg (by simpa using hids)

/-- Nothing happens where the row is current already. -/
theorem setCurrentIndex_of_eq {setServer : ℤ → Gui → Gui} {row : ℕ} (hmap : s.map = some map)
    (hrow : row < map.rows) (heq : row = map.locationIndex) : s.setCurrentIndex setServer row = s := by
  have hrange : 0 ≤ (row : ℤ) ∧ (row : ℤ) < map.rows := by omega
  rw [setCurrentIndex, hmap]
  dsimp only
  rw [if_pos hrange, if_pos heq]

/-- Another row sets its server. -/
theorem setCurrentIndex_of_ne {setServer : ℤ → Gui → Gui} {row : ℕ} (hmap : s.map = some map)
    (hrow : row < map.rows) (hne : row ≠ map.locationIndex) : s.setCurrentIndex setServer row =
      setServer ({ map with locationIndex := row } : MapScreen).currentServerId
        { s with map := some { map with locationIndex := row } } := by
  have hrange : 0 ≤ (row : ℤ) ∧ (row : ℤ) < map.rows := by omega
  rw [setCurrentIndex, hmap]
  dsimp only
  rw [if_pos hrange, if_neg hne]

/-- A row behind the last one makes none current. -/
theorem setCurrentIndex_of_le {setServer : ℤ → Gui → Gui} {row : ℕ} (hmap : s.map = some map)
    (hrow : map.rows ≤ row) (hcurrent : 0 ≤ map.locationIndex) : s.setCurrentIndex setServer row =
      setServer (-1) { s with map := some { map with locationIndex := -1 } } := by
  have hrange : ¬(0 ≤ (row : ℤ) ∧ (row : ℤ) < map.rows) := by omega
  have hne : -1 ≠ map.locationIndex := by omega
  rw [setCurrentIndex, hmap]
  dsimp only
  rw [if_neg hrange, if_neg hne]
  rfl

/-- A call whose signal is heard looks for the row of the server. -/
theorem nested_of_connected (depth : ℕ) (ixsrv : ℤ) (h : s.Aligned) (hmap : s.map = some map)
    (hconnected : map.connected = true) : nested last (depth + 1) ixsrv s =
      if s.account.mTcpServerIds = [] then s.filled.storeServer ixsrv
      else (s.filled.storeServer ixsrv).setCurrentIndex (nested last depth)
        (MapScreen.rowOf ixsrv s.account.mTcpServerIds) := by
  have hheard : nested last (depth + 1) ixsrv s =
      (s.storeServer ixsrv).updateLocation (nested last depth) := by
    refine if_pos ?_
    change s.map.any (·.connected) = true
    rw [hmap]
    exact hconnected
  rw [hheard, ← filled_storeServer]
  split_ifs with hids
  · exact updateLocation_of_nil (s := s.storeServer ixsrv) h hids
  · exact updateLocation_of_ne_nil (s := s.storeServer ixsrv) h hids

theorem nested_of_not_connected (depth : ℕ) (ixsrv : ℤ) (h : ∀ map ∈ s.map, map.connected = false) :
    nested last (depth + 1) ixsrv s = s.storeServer ixsrv := by
  refine if_neg ?_
  change ¬s.map.any (·.connected) = true
  cases hmap : s.map with
  | none => nofun
  | some map => simp [h map hmap]

theorem storeServer_atRow (ixsrv ixnew row : ℤ) (map : MapScreen) (s : Gui) :
    ((s.storeServer ixsrv).atRow row map).storeServer ixnew = (s.atRow row map).storeServer ixnew := by
  unfold atRow
  rw [filled_storeServer]
  rfl

theorem atRow_atRow (old row : ℤ) (map : MapScreen) (s : Gui) :
    (s.atRow old map).atRow row { map with locationIndex := old } = s.atRow row map := by
  rw [atRow, filled_atRow]
  rfl

/-- A location that is set while its row is current sets no other. -/
theorem nested_atRow (depth : ℕ) {ixsrv : ℤ} {row : ℕ} (h : s.Aligned)
    (hix : MapScreen.rowOf ixsrv s.account.mTcpServerIds = row) (hrow : row < map.rows) :
    nested last (depth + 1) ixsrv (s.atRow row map) = (s.atRow row map).storeServer ixsrv := by
  have hmap : (s.atRow row map).map = some { map with locationIndex := row } := rfl
  by_cases hconnected : map.connected = true
  · rw [nested_of_connected (s := s.atRow row map) last depth ixsrv h hmap hconnected, filled_atRow]
    split_ifs
    · rfl
    · change Gui.setCurrentIndex _ (MapScreen.rowOf ixsrv s.account.mTcpServerIds) _ = _
      rw [hix]
      exact setCurrentIndex_of_eq hmap hrow rfl
  · refine nested_of_not_connected last depth ixsrv fun m hm => ?_
    obtain rfl := Option.some.inj hm
    exact Bool.eq_false_iff.mpr hconnected

section Connected
variable (depth : ℕ) {ixsrv : ℤ} {row : ℕ} (h : s.Aligned) (hmap : s.map = some map)
  (hshows : map.Shows true s.account.mTcpServerIds) (hids : s.account.mTcpServerIds ≠ [])
  (hix : MapScreen.rowOf ixsrv s.account.mTcpServerIds = row)
include h hmap hshows hids hix

/-- A location in the rows stays; where there is no row for it the first row becomes
current, and where it was not before no server is set. -/
theorem nested_of_lt (hrow : row < map.rows) : nested last (depth + 2) ixsrv s =
    (s.atRow row map).storeServer (if row = 0 ∧ map.locationIndex ≠ 0 then -1 else ixsrv) := by
  have hmap' : (s.filled.storeServer ixsrv).map = some map := hmap
  rw [nested_of_connected last (depth + 1) ixsrv h hmap hshows.connected_eq, if_neg hids, hix]
  by_cases heq : (row : ℤ) = map.locationIndex
  · have hstays : s.atRow row map = s.filled := by
      unfold atRow
      rw [heq, ← hmap]
      rfl
    have hset : ¬(row = 0 ∧ map.locationIndex ≠ 0) := by omega
    rw [if_neg hset, hstays]
    exact setCurrentIndex_of_eq hmap' hrow heq
  · have hserver : ({ map with locationIndex := row } : MapScreen).currentServerId =
        if row = 0 ∧ map.locationIndex ≠ 0 then -1 else ixsrv := by
      subst hix
      rw [hshows.currentServerId_rowOf hrow]
      split_ifs <;> omega
    have hrow' : MapScreen.rowOf (if row = 0 ∧ map.locationIndex ≠ 0 then -1 else ixsrv)
        s.account.mTcpServerIds = row := by
      split_ifs with hzero
      · exact hzero.1.symm
      · exact hix
    rw [setCurrentIndex_of_ne hmap' hrow heq, hserver, ← filled_storeServer]
    have hrest := nested_atRow last (s := s.storeServer ixsrv) depth h hrow' hrow
    rw [storeServer_atRow] at hrest
    exact hrest

/-- Where the rows end before it the first row becomes current, and no server is set. -/
theorem nested_of_le (hrow : map.rows ≤ row) (hcurrent : 0 ≤ map.locationIndex) :
    nested last (depth + 3) ixsrv s = (s.atRow 0 map).storeServer (-1) := by
  have hmap' : (s.filled.storeServer ixsrv).map = some map := hmap
  rw [nested_of_connected last (depth + 2) ixsrv h hmap hshows.connected_eq, if_neg hids, hix,
    setCurrentIndex_of_le hmap' hrow hcurrent, ← filled_storeServer]
  have hnone : ({ map with locationIndex := -1 } : MapScreen).Shows true s.account.mTcpServerIds :=
    ⟨hshows.listed, hshows.rows_eq, hshows.connected_eq, hshows.complete⟩
  have hfirst : 0 < map.rows := by
    rw [hshows.rows_eq]
    exact Nat.succ_pos _
  have hnoserver : MapScreen.rowOf (-1) s.account.mTcpServerIds = 0 := MapScreen.rowOf_of_neg (by decide) _
  have hrest := nested_of_lt last (s := (s.storeServer ixsrv).atRow (-1) map) depth h rfl
    hnone hids hnoserver hfirst
  rw [ite_self, Nat.cast_zero, atRow_atRow, storeServer_atRow] at hrest
  exact hrest

end Connected

/-- The rows of a map screen are those of the first servers, and some row is current. -/
structure Settled (connected : Bool) (s : Gui) : Prop where
  aligned : s.Aligned
  shows : ∀ map ∈ s.map, map.Shows connected s.account.mTcpServerIds
  current : ∀ map ∈ s.map, 0 ≤ map.locationIndex

variable {connected : Bool}

theorem Settled.of_lists {t : Gui} (h : s.Settled connected) (hlists : t.account.lists = s.account.lists)
    (hmap : t.map = s.map) : t.Settled connected := by
  have htcp : t.account.mTcpServerIds = s.account.mTcpServerIds := congrArg Lists.mTcpServerIds hlists
  have hudp : t.account.mUdpServerIds = s.account.mUdpServerIds := congrArg Lists.mUdpServerIds hlists
  refine ⟨?_, ?_, ?_⟩
  · rw [Aligned, htcp, hudp]
    exact h.aligned
  · rw [htcp, hmap]
    exact h.shows
  · rw [hmap]
    exact h.current

theorem settled_atRow (row : ℕ) (ixsrv : ℤ) (h : s.Aligned)
    (hshows : map.Shows connected s.account.mTcpServerIds) :
    ((s.atRow row map).storeServer ixsrv).Settled connected := by
  refine ⟨h, fun m hm => ?_, fun m hm => ?_⟩
  · obtain rfl := Option.some.inj hm
    exact ⟨hshows.listed, hshows.rows_eq, hshows.connected_eq, hshows.complete⟩
  · obtain rfl := Option.some.inj hm
    exact Int.natCast_nonneg row

/-- A location that is set makes some row current, also where none is and there are
servers of which none is set. -/
theorem settled_nested (ixsrv : ℤ) (h : s.Aligned) (hmap : s.map = some map)
    (hshows : map.Shows connected s.account.mTcpServerIds)
    (hcurrent : 0 ≤ map.locationIndex ∨
      (connected = true ∧ ixsrv = -1 ∧ s.account.mTcpServerIds ≠ [])) :
    (nested last 3 ixsrv s).Settled connected := by
  have hkept : 0 ≤ map.locationIndex → s.Settled connected := by
    intro hloc
    refine ⟨h, fun m hm => ?_, fun m hm => ?_⟩
    · obtain rfl := Option.some.inj (hmap.symm.trans hm)
      exact hshows
    · obtain rfl := Option.some.inj (hmap.symm.trans hm)
      exact hloc
  cases connected with
  | false =>
    rw [nested_of_not_connected last 2 ixsrv fun m hm => ?_]
    · exact (hkept (hcurrent.resolve_right (by simp))).of_lists rfl rfl
    · obtain rfl := Option.some.inj (hmap.symm.trans hm)
      exact hshows.connected_eq
  | true =>
    by_cases hids : s.account.mTcpServerIds = []
    · rw [nested_of_connected last 2 ixsrv h hmap hshows.connected_eq, if_pos hids]
      exact (hkept (hcurrent.resolve_right (by simp [hids]))).of_lists rfl rfl
    · rcases lt_or_ge (MapScreen.rowOf ixsrv s.account.mTcpServerIds) map.rows with hrow | hrow
      · rw [nested_of_lt last 1 h hmap hshows hids rfl hrow]
        exact settled_atRow _ _ h hshows
      · have hloc : 0 ≤ map.locationIndex := by
          -- no server has the first row, and there is one
          rcases hcurrent with hloc | ⟨-, rfl, -⟩
          · exact hloc
          · rw [MapScreen.rowOf_of_neg (by decide), hshows.rows_eq] at hrow
            omega
        rw [nested_of_le last 0 h hmap hshows hids rfl hrow hloc]
        exact settled_atRow 0 _ h hshows

theorem Settled.nested (ixsrv : ℤ) (h : s.Settled connected) :
    (nested last 3 ixsrv s).Settled connected := by
  cases hmap : s.map with
  | none =>
    rw [nested_of_not_connected last 2 ixsrv (by simp [hmap])]
    exact h.of_lists rfl rfl
  | some map => exact settled_nested last ixsrv h.aligned hmap (h.shows map hmap) (.inl (h.current map hmap))

/-- The row that is selected is one of the rows, or there are servers. -/
theorem Settled.setCurrentIndex (row : ℕ) (h : s.Settled connected)
    (hrow : ∀ map ∈ s.map, row < map.rows ∨ (connected = true ∧ s.account.mTcpServerIds ≠ [])) :
    (s.setCurrentIndex (Gui.nested last 3) row).Settled connected := by
  cases hmap : s.map with
  | none =>
    rw [Gui.setCurrentIndex, hmap]
    exact h
  | some map =>
    have hshows := h.shows map hmap
    have hmoved : ∀ row, ({ map with locationIndex := row } : MapScreen).Shows connected
        s.account.mTcpServerIds := fun _ =>
      ⟨hshows.listed, hshows.rows_eq, hshows.connected_eq, hshows.complete⟩
    rcases lt_or_ge row map.rows with hlt | hle
    · by_cases heq : (row : ℤ) = map.locationIndex
      · rw [setCurrentIndex_of_eq hmap hlt heq]
        exact h
      · rw [setCurrentIndex_of_ne hmap hlt heq]
        exact settled_nested last _ h.aligned rfl (hmoved _) (.inl (Int.natCast_nonneg row))
    · obtain ⟨hconnected, hids⟩ := (hrow map hmap).resolve_left (not_lt.mpr hle)
      rw [setCurrentIndex_of_le hmap hle (h.current map hmap)]
      exact settled_nested last _ h.aligned rfl (hmoved _) (.inr ⟨hconnected, rfl, hids⟩)

theorem Settled.filled (h : s.Settled connected) : s.filled.Settled connected := h.of_lists rfl rfl

theorem Settled.updateLocation (h : s.Settled connected) :
    (s.updateLocation (Gui.nested last 3)).Settled connected := by
  by_cases hids : s.account.mTcpServerIds = []
  · rw [updateLocation_of_nil h.aligned hids]
    exact h.filled
  · rw [updateLocation_of_ne_nil h.aligned hids]
    refine h.filled.setCurrentIndex last _ fun map hmap => ?_
    have hshows := h.shows map hmap
    cases connected with
    | true => exact .inr ⟨rfl, hids⟩
    | false =>
      have hle := MapScreen.rowOf_le s.setting.serverID s.account.mTcpServerIds
      rw [hshows.rows_eq, hshows.complete rfl]
      exact .inl (Nat.lt_succ_of_le hle)

end Gui

/-- Three calls of `setServer` may be nested. -/
def Outside.Deep (o : Outside) : Prop := 3 ≤ o.depth

namespace Gui
variable {o : Outside} {s : Gui} {map : MapScreen} {connected : Bool}

theorem setServer_eq (ho : o.Deep) : setServer o.depth = nested (setServer (o.depth - 3)) 3 := by
  rw [← setServer_eq_nested, Nat.sub_add_cancel ho]

theorem Settled.setServer (ixsrv : ℤ) (ho : o.Deep) (h : s.Settled connected) :
    (setServer o.depth ixsrv s).Settled connected := by
  rw [setServer_eq ho]
  exact h.nested _ ixsrv

/-- While the signals are not connected the rows are filled for the first time. -/
theorem settled_repopulateLocations (ho : o.Deep) (h : s.Aligned) (hmap : s.map = some map)
    (hlisted : map.mServerIds <+: s.account.mTcpServerIds)
    (hrows : map.rows = map.mServerIds.length + 1) (hcurrent : 0 ≤ map.locationIndex)
    (hconnected : map.connected = connected) (hempty : connected = false → map.mServerIds = []) :
    (s.repopulateLocations o).Settled connected := by
  unfold repopulateLocations
  rw [hmap, setServer_eq ho, currentEncryptionServers_eq h]
  dsimp only
  generalize hselect : (if 1 < map.rows ∧ -1 < map.currentServerId then _ else (0, s.filled) : ℕ × Gui) =
    toselect
  generalize hclear : (if 1 < map.rows then _ else map : MapScreen) = cleared
  have hlists : toselect.2.account.lists = s.account.lists := by
    rw [← hselect]
    by_cases hbefore : 1 < map.rows ∧ -1 < map.currentServerId
    · rw [if_pos hbefore]
      exact congrArg Core.lists (core_rowToReselect o _ _ s.filled)
    · rw [if_neg hbefore]
      rfl
  have htcp : toselect.2.account.mTcpServerIds = s.account.mTcpServerIds :=
    congrArg Lists.mTcpServerIds hlists
  have hcleared : cleared.rows = 1 ∧ 0 ≤ cleared.locationIndex ∧ cleared.connected = connected := by
    rw [← hclear]
    split_ifs with hfull
    · exact ⟨rfl, le_refl _, hconnected⟩
    · exact ⟨by omega, hcurrent, hconnected⟩
  have hready : ({ toselect.2 with map := some { cleared with
      mServerIds := s.account.mTcpServerIds
      rows := cleared.rows + s.account.mTcpServerIds.length } } : Gui).Settled connected := by
    refine ⟨?_, fun m hm => ?_, fun m hm => ?_⟩
    · exact (congrArg Lists.mUdpServerIds hlists).trans (h.trans htcp.symm)
    · obtain rfl := Option.some.inj hm
      change MapScreen.Shows connected toselect.2.account.mTcpServerIds _
      rw [htcp]
      exact ⟨List.prefix_rfl, by rw [hcleared.1, Nat.add_comm], hcleared.2.2, fun _ => rfl⟩
    · obtain rfl := Option.some.inj hm
      exact hcleared.2.1
  refine Settled.updateLocation _ (hready.setCurrentIndex _ toselect.1 fun m hm => ?_)
  obtain rfl := Option.some.inj hm
  -- without servers there were no rows to select again
  have hfirst : map.mServerIds = [] → toselect.1 = 0 := by
    intro hnil
    have hone : ¬(1 < map.rows ∧ -1 < map.currentServerId) := by
      rw [hrows, hnil]
      simp
    rw [← hselect, if_neg hone]
  have hpos : 0 < cleared.rows + s.account.mTcpServerIds.length := by omega
  change toselect.1 < cleared.rows + s.account.mTcpServerIds.length ∨
    connected = true ∧ toselect.2.account.mTcpServerIds ≠ []
  rw [htcp]
  cases connected with
  | false => exact .inl (hfirst (hempty rfl) ▸ hpos)
  | true =>
    by_cases hids : s.account.mTcpServerIds = []
    · rw [hids, List.prefix_nil] at hlisted
      exact .inl (hfirst hlisted ▸ hpos)
    · exact .inr ⟨rfl, hids⟩

theorem Settled.repopulateLocations (ho : o.Deep) (h : s.Settled true) :
    (s.repopulateLocations o).Settled true := by
  cases hmap : s.map with
  | none =>
    unfold Gui.repopulateLocations
    rw [hmap]
    exact h
  | some map =>
    have hshows := h.shows map hmap
    exact settled_repopulateLocations ho h.aligned hmap hshows.listed hshows.rows_eq
      (h.current map hmap) hshows.connected_eq nofun

/-- Another protocol fills the rows again. -/
theorem Settled.setProtocol (ix : ℤ) (ho : o.Deep) (h : s.Settled true) :
    (s.setProtocol o ix).Settled true := by
  have hstored : ({ s with setting := (s.setting.setProtocol ix).1 } : Gui).Settled true :=
    h.of_lists rfl rfl
  unfold Gui.setProtocol
  dsimp only
  split_ifs
  · exact hstored.repopulateLocations ho
  · exact hstored

theorem Settled.setProtocolIndex (row : ℤ) (ho : o.Deep) (h : s.Settled true) :
    (s.setProtocolIndex o row).Settled true := by
  have hset : ∀ (map : MapScreen) (protocolIndex : ℤ) (locationEnabled : Bool) (ix : ℤ),
      s.map = some map → (Gui.setProtocol o ix { s with map := some { map with
        protocolIndex := protocolIndex
        locationEnabled := locationEnabled } }).Settled true := by
    intro map protocolIndex locationEnabled ix hmap
    have hshows := h.shows map hmap
    refine Settled.setProtocol ix ho ⟨h.aligned, fun m hm => ?_, fun m hm => ?_⟩
    · obtain rfl := Option.some.inj hm
      exact ⟨hshows.listed, hshows.rows_eq, hshows.connected_eq, hshows.complete⟩
    · obtain rfl := Option.some.inj hm
      exact h.current map hmap
  unfold Gui.setProtocolIndex
  split
  · exact h
  · next map hmap =>
    dsimp only
    split_ifs
    · exact h
    · exact hset map _ _ _ hmap
    · exact h
    · exact hset map _ _ _ hmap

/-- While its signals are not connected the map screen does not hear of another protocol. -/
theorem setProtocolIndex_of_not_connected (row : ℤ) (hmap : s.map = some map)
    (hconnected : map.connected = false) : ∃ (protocolIndex : ℤ) (locationEnabled : Bool),
      (s.setProtocolIndex o row).map = some { map with
        protocolIndex := protocolIndex
        locationEnabled := locationEnabled } ∧
      (s.setProtocolIndex o row).account = s.account := by
  have hunheard : ∀ (protocolIndex : ℤ) (locationEnabled : Bool) (ix : ℤ),
      Gui.setProtocol o ix { s with map := some { map with
          protocolIndex := protocolIndex
          locationEnabled := locationEnabled } } =
        { s with
          setting := (s.setting.setProtocol ix).1
          map := some { map with
            protocolIndex := protocolIndex
            locationEnabled := locationEnabled } } := by
    intro protocolIndex locationEnabled ix
    unfold Gui.setProtocol
    dsimp only
    rw [Option.any_some, hconnected, Bool.and_false]
    rfl
  unfold setProtocolIndex
  rw [hmap]
  dsimp only
  split_ifs
  · exact ⟨_, _, hmap, rfl⟩
  · rw [hunheard]
    exact ⟨_, _, rfl, rfl⟩
  · exact ⟨_, _, hmap, rfl⟩
  · rw [hunheard]
    exact ⟨_, _, rfl, rfl⟩

theorem Settled.constructMapScreen (ho : o.Deep) (h : s.Settled true) :
    (s.constructMapScreen o).Settled true := by
  obtain ⟨protocolIndex, locationEnabled, hmap, haccount⟩ :=
    setProtocolIndex_of_not_connected (o := o) (s := { s with
      setting := s.setting.currentEncryptionProtocols.2
      map := some ⟨[], 1, 0, 0, false, false⟩ })
      (s.setting.currentEncryptionProtocols.2.currentProtocol + 1) rfl rfl
  have haligned : (Gui.setProtocolIndex o (s.setting.currentEncryptionProtocols.2.currentProtocol + 1)
      { s with
        setting := s.setting.currentEncryptionProtocols.2
        map := some ⟨[], 1, 0, 0, false, false⟩ }).Aligned := by
    rw [Aligned, haccount]
    exact h.aligned
  have hfilled := settled_repopulateLocations ho haligned hmap List.nil_prefix rfl (le_refl _) rfl
    fun _ => rfl
  refine ⟨hfilled.aligned, fun m hm => ?_, fun m hm => ?_⟩
  · obtain ⟨map, hmap, rfl⟩ := Option.map_eq_some_iff.mp hm
    have hshows := hfilled.shows map hmap
    exact ⟨hshows.listed, hshows.rows_eq, rfl, nofun⟩
  · obtain ⟨map, hmap, rfl⟩ := Option.map_eq_some_iff.mp hm
    exact hfilled.current map hmap

/-- More servers are listed behind those of the rows. -/
theorem Settled.replaced {t : Gui} {servers : List AServer} (h : s.Settled true)
    (hlists : t.account.lists = s.account.lists.replace servers) (hmap : t.map = s.map) :
    t.Settled true := by
  have htcp : t.account.mTcpServerIds =
      s.account.mTcpServerIds ++ List.range' 0 servers.length :=
    congrArg Lists.mTcpServerIds hlists
  have hudp : t.account.mUdpServerIds =
      s.account.mUdpServerIds ++ List.range' 0 servers.length :=
    congrArg Lists.mUdpServerIds hlists
  refine ⟨?_, fun m hm => ?_, fun m hm => h.current m (hmap ▸ hm)⟩
  · rw [Aligned, htcp, hudp, h.aligned]
  · have hshows := h.shows m (hmap ▸ hm)
    rw [htcp]
    exact ⟨hshows.listed.trans (List.prefix_append _ _), hshows.rows_eq, hshows.connected_eq, nofun⟩

theorem Settled.received (reply : ServersReply) (selected : Bool) (h : s.Settled true) :
    (s.received reply selected).Settled true :=
  h.replaced (s.account.lists_loginFinished reply s.setting.mTesting) rfl

theorem Settled.of_core {t : Gui} (h : s.Settled connected) (hcore : t.core = s.core) :
    t.Settled connected :=
  h.of_lists (congrArg Core.lists hcore) (congrArg Core.map hcore)

theorem Settled.sendConnectToVPNRequest (h : s.Settled connected) :
    (s.sendConnectToVPNRequest o).Settled connected := by
  unfold Gui.sendConnectToVPNRequest
  dsimp only
  split
  · exact h.of_lists rfl rfl
  · exact h.of_lists rfl rfl

theorem Settled.loadServer (ho : o.Deep) (h : s.Settled true) : (s.loadServer o).Settled true := by
  have hset : ∀ {account : AuthManager} (ixsrv : ℤ), account.lists = s.account.lists →
      (Gui.setServer o.depth ixsrv { s.currentEncryptionServers.2 with account := account }).Settled
        true :=
    fun ixsrv hlists => Settled.setServer ixsrv ho (h.of_lists hlists rfl)
  have hnamed : ∀ name, (s.account.serverIxFromName name).2.lists = s.account.lists :=
    fun name => congrArg Core.lists (core_serverIxFromName name s)
  unfold Gui.loadServer
  dsimp only
  split
  · exact h.filled
  · refine hset _ ?_
    split_ifs
    · rfl
    · exact hnamed _
    · rfl
    · rfl

theorem Settled.loginFinished (reply : ServersReply) (ho : o.Deep) (h : s.Settled true) :
    (s.loginFinished o reply).Settled true := by
  rcases loginFinished_cases o reply s with ⟨t, hcore, hlogin⟩ | ⟨hcore, -⟩ | hcore
  · rw [hlogin]
    have hready := (h.received reply false).of_core hcore
    exact of_loadServer Settled.of_core Settled.sendConnectToVPNRequest (hready.loadServer ho)
  · exact (h.received reply false).of_core hcore
  · exact (h.received reply _).of_core hcore

theorem settled_preserved : Preserved Outside.Deep (Settled true) where
  core := Settled.of_core
  setServer ixsrv _ ho h := h.setServer ixsrv ho
  setProtocol ix _ ho h := h.setProtocol ix ho
  setProtocolIndex row _ ho h := h.setProtocolIndex row ho
  setCurrentIndex ho h hrow := by
    rw [setServer_eq ho]
    exact h.setCurrentIndex _ _ fun map hmap => .inl (hrow map hmap)
  constructMapScreen ho h _ := h.constructMapScreen ho
  sendConnectToVPNRequest _ h := h.sendConnectToVPNRequest
  loginFinished reply _ ho h := h.loginFinished reply ho

theorem settled_run (stored : Setting) (v : System.Unset) (mPingsLoaded : Bool)
    {es : List (Outside × GuiEvent)} (hdeep : ∀ e ∈ es, e.1.Deep) :
    (run step (initial stored v mPingsLoaded) es).Settled true :=
  settled_preserved.run hdeep ⟨rfl, nofun, nofun⟩

/-- The map screen, where there is one, has a row for the server. -/
def HasRow (i : ℕ) (s : Gui) : Prop := ∀ map ∈ s.map, i ∈ map.mServerIds

instance (i : ℕ) (s : Gui) : Decidable (s.HasRow i) :=
  inferInstanceAs (Decidable (∀ map ∈ s.map, i ∈ map.mServerIds))

/-- The calls end, three deep or less, and the location is the one that was set. -/
def Stays (i : ℕ) (s : Gui) : Prop :=
  ∃ t, Returns i s t ∧ (∀ depth, 3 ≤ depth → Gui.setServer depth i s = t) ∧ t.setting.serverID = i

/-- What setting one of the servers leads to: it stays where it has a row, and no server
is set where it has none. The servers and the rows are left alone. -/
theorem Settled.nested_three {i : ℕ} (h : s.Settled true) (hi : i ∈ s.account.mTcpServerIds) :
    ∃ t, (∀ last, Gui.nested last 3 i s = t) ∧ t.account = s.account ∧
      t.map.map (·.mServerIds) = s.map.map (·.mServerIds) ∧
      ((t.setting.serverID = i ∧ s.HasRow i) ∨ (t.setting.serverID = -1 ∧ ¬s.HasRow i)) := by
  cases hmap : s.map with
  | none =>
    have hnone : ∀ {P : MapScreen → Prop}, ∀ m ∈ s.map, P m := by
      intro P m hm
      cases hmap.symm.trans hm
    exact ⟨s.storeServer i, fun last => nested_of_not_connected last 2 i hnone, rfl,
      congrArg (Option.map (·.mServerIds)) hmap, .inl ⟨rfl, hnone⟩⟩
  | some map =>
    have hshows := h.shows map hmap
    have hids : s.account.mTcpServerIds ≠ [] := List.ne_nil_of_mem hi
    have hrows : s.HasRow i ↔ MapScreen.rowOf i s.account.mTcpServerIds < map.rows := by
      rw [HasRow, hmap, hshows.rowOf_lt_iff hi]
      simp
    rw [hrows]
    rcases lt_or_ge (MapScreen.rowOf i s.account.mTcpServerIds) map.rows with hrow | hrow
    · have hpos : ¬(MapScreen.rowOf i s.account.mTcpServerIds = 0 ∧ map.locationIndex ≠ 0) := by
        rw [MapScreen.rowOf_natCast, if_pos hi]
        omega
      exact ⟨_, fun last => nested_of_lt last 1 h.aligned hmap hshows hids rfl hrow, rfl, rfl,
        .inl ⟨if_neg hpos, hrow⟩⟩
    · exact ⟨_, fun last =>
          nested_of_le last 0 h.aligned hmap hshows hids rfl hrow (h.current map hmap), rfl, rfl,
        .inr ⟨rfl, not_lt.mpr hrow⟩⟩

/-- The calls always end, and the location stays where the rows have it. -/
theorem Settled.stays_iff {i : ℕ} (h : s.Settled true) (hi : i ∈ s.currentEncryptionServers.1) :
    (∃ t, Returns i s t) ∧ (s.Stays i ↔ s.HasRow i) := by
  rw [currentEncryptionServers_eq h.aligned] at hi
  obtain ⟨t, ht, -, -, hserver⟩ := h.nested_three hi
  have hdeep : ∀ depth, 3 ≤ depth → Gui.setServer depth i s = t := by
    intro depth hdepth
    rw [← Nat.sub_add_cancel hdepth, setServer_eq_nested]
    exact ht _
  refine ⟨⟨t, 3, ht⟩, ?_, fun hrow => ⟨t, ⟨3, ht⟩, hdeep, ?_⟩⟩
  · rintro ⟨u, -, hu, hstays⟩
    obtain rfl : u = t := (hu 3 (le_refl 3)).symm.trans (hdeep 3 (le_refl 3))
    rcases hserver with hset | hunset
    · exact hset.2
    · omega
  · rcases hserver with hset | hunset
    · exact hset.1
    · exact absurd hrow hunset.2

/-- Over every run, and also as a list of servers comes that the rows do not have yet:
the calls that follow when a location is set end, and the location stays exactly where
there is no map screen or its rows have the location. -/
theorem setServer_stays_iff (stored : Setting) (v : System.Unset) (mPingsLoaded : Bool)
    (es : List (Outside × GuiEvent)) (hdeep : ∀ e ∈ es, e.1.Deep) (s t : Gui)
    (hs : s = run step (initial stored v mPingsLoaded) es)
    (ht : t.core = s.core ∨ ∃ reply selected, t.core = (s.received reply selected).core) :
    ∀ i ∈ t.currentEncryptionServers.1,
      (∃ u, Returns i t u) ∧ (t.Stays i ↔ t.HasRow i) := by
  have hrun : s.Settled true := hs ▸ settled_run stored v mPingsLoaded hdeep
  have hsettled : t.Settled true := by
    rcases ht with hcore | ⟨reply, selected, hcore⟩
    · exact hrun.of_core hcore
    · exact (hrun.received reply selected).of_core hcore
  exact fun i hi => hsettled.stays_iff hi

end Gui

/-- The reply that lists one server. -/
def ServersReply.one : ServersReply :=
  .document [⟨"server1".toList, some "h".toList, some "i".toList, [], [], []⟩]

/-- The user, and calls that are nested as deep as they go. -/
def Outside.nested : Outside := { Outside.user with depth := 3 }

theorem Outside.nested_deep (es : List GuiEvent) : ∀ e ∈ es.map (Prod.mk Outside.nested), e.1.Deep :=
  List.forall_mem_map.mpr fun _ _ => le_refl 3

namespace Gui

/-- The only server is set, and its row is there. -/
theorem setServer_stays_after_list : Stays 0 (run step (initial .fresh .blocking false)
    ([.timerConstructed, .loginClicked, .replyFinished .one, .switchCountryTriggered].map
      (Prod.mk .nested))) :=
  (setServer_stays_iff .fresh .blocking false _ (Outside.nested_deep _) _ _ rfl (.inl rfl) 0
    (by decide +kernel)).2.mpr (by decide +kernel)

/-- A map screen that is shown before there are servers has no row for them. -/
theorem setServer_before_list_unset : ¬∀ (stored : Setting) (v : System.Unset) (mPingsLoaded : Bool)
    (es : List (Outside × GuiEvent)), (∀ e ∈ es, e.1.Deep) →
    ∀ i ∈ (run step (initial stored v mPingsLoaded) es).currentEncryptionServers.1,
      Stays i (run step (initial stored v mPingsLoaded) es) := by
  intro h
  obtain ⟨t, -, ht, hstays⟩ := h .fresh .blocking false _ (Outside.nested_deep
    [.timerConstructed, .loginClicked, .switchCountryTriggered, .replyFinished .one]) 0
    (by decide +kernel)
  have hunset : (Gui.setServer 3 0 (run step (initial .fresh .blocking false)
      ([.timerConstructed, .loginClicked, .switchCountryTriggered, .replyFinished .one].map
        (Prod.mk .nested)))).setting.serverID = -1 := by
    decide +kernel
  rw [← ht 3 (le_refl 3)] at hstays
  exact absurd (hunset.symm.trans hstays) (by decide)

end Gui
end CeloVpn.Client
