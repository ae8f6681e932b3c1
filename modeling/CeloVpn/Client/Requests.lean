import CeloVpn.Client.Preserved

/-!
# Whether a request to connect is well formed

Nothing looks at the location before a request is sent with it. It is one of the servers
exactly where it was selected from the list that is loaded: `login()` says that the user
is logged in before there is a list, a reply that fails leaves none, the first row of the
combo box sets no server at all, and the lists of indices keep those of longer lists.
-/
namespace CeloVpn.Client
open Runs

/-- Its index is one of the servers, and it carries the address of this server and the
URL of its configuration for the port in the same message. -/
def Request.WellFormed (r : Request) : Prop :=
  ∃ (i : ℕ) (server : AServer), r.servers[i]? = some server ∧
    r.object.value "serverid".toList = .ofInt i ∧
    r.object.value "server".toList = .string server.address ∧
    r.object.value "template".toList =
      .string (server.configUrl (r.object.value "port".toList).toString.toInt)

theorem getServer_of_getElem? {m : AuthManager} {i : ℕ} {server : AServer}
    (h : m.mServers[i]? = some server) : m.getServer i = server := by
  obtain ⟨hi, hserver⟩ := List.getElem?_eq_some_iff.mp h
  rw [AuthManager.getServer, if_pos ⟨by omega, by exact_mod_cast hi⟩, Int.toNat_natCast,
    List.getD_eq_getElem?_getD, h, Option.getD_some]

theorem fits_iff {ixsrv : ℤ} {servers : List AServer} :
    fits ixsrv servers = true ↔ ∃ (i : ℕ) (server : AServer), ixsrv = i ∧ servers[i]? = some server := by
  rw [fits, decide_eq_true_iff]
  constructor
  · rintro ⟨hlower, hupper⟩
    have hi : ixsrv.toNat < servers.length := by omega
    exact ⟨ixsrv.toNat, servers[ixsrv.toNat], by omega, List.getElem?_eq_getElem hi⟩
  · rintro ⟨i, server, rfl, hserver⟩
    have hi := (List.getElem?_eq_some_iff.mp hserver).1
    omega

theorem fits_nil (ixsrv : ℤ) : fits ixsrv [] = false := by
  rw [fits, decide_eq_false_iff_not, List.length_nil]
  omega

namespace Gui
variable (o : Outside) {s : Gui}

/-- A request is well formed just where a server was selected, and the requests are all
that was sent. -/
def Stocked (s : Gui) : Prop :=
  (∀ r ∈ s.requests, r.WellFormed ↔ r.selected = true) ∧
    s.manager.starts = s.requests.map (·.object)

/-- Besides, the location is one of the servers just where one was selected. -/
def Sound (s : Gui) : Prop :=
  s.Stocked ∧ s.selected = fits s.setting.serverID s.account.mServers

theorem Stocked.storeServer (ixsrv : ℤ) (h : s.Stocked) : (s.storeServer ixsrv).Sound := ⟨h, rfl⟩

theorem Stocked.of_core {t : Gui} (h : s.Stocked) (hcore : t.core = s.core) : t.Stocked := by
  obtain ⟨-, -, -, hrequests, -, hstarts⟩ := Core.mk.inj hcore
  unfold Stocked
  rw [hrequests, hstarts]
  exact h

theorem Sound.of_core {t : Gui} (h : s.Sound) (hcore : t.core = s.core) : t.Sound := by
  obtain ⟨hserverID, hlists, -, -, hselected, -⟩ := Core.mk.inj hcore
  have hservers : t.account.mServers = s.account.mServers := congrArg Lists.mServers hlists
  refine ⟨h.1.of_core hcore, ?_⟩
  rw [hserverID, hservers, hselected]
  exact h.2

section MapScreen
variable {setServer : ℤ → Gui → Gui} (hset : ∀ ixsrv s, s.Stocked → (setServer ixsrv s).Sound)
include hset

theorem Sound.setCurrentIndex (row : ℤ) (h : s.Sound) : (s.setCurrentIndex setServer row).Sound := by
  unfold Gui.setCurrentIndex
  split
  · exact h
  · dsimp only
    split_ifs
    · exact h
    · exact hset _ _ h.1
    · exact h
    · exact hset _ _ h.1

theorem Sound.updateLocation (h : s.Sound) : (s.updateLocation setServer).Sound := by
  unfold Gui.updateLocation
  dsimp only
  split_ifs
  · exact (h.of_core (core_currentEncryptionServers s))
  · exact Sound.setCurrentIndex hset _ (h.of_core (core_currentEncryptionServers s))

end MapScreen

/-- However deep the calls go. -/
theorem Stocked.setServer (depth : ℕ) (ixsrv : ℤ) {s : Gui} (h : s.Stocked) :
    (s.setServer depth ixsrv).Sound := by
  induction depth generalizing ixsrv s with
  | zero => exact h.storeServer ixsrv
  | succ depth ih =>
    unfold Gui.setServer
    dsimp only
    split_ifs
    · exact Sound.updateLocation (fun ixsrv s h => ih ixsrv h) (h.storeServer ixsrv)
    · exact h.storeServer ixsrv

theorem Sound.repopulateLocations (h : s.Sound) : (s.repopulateLocations o).Sound := by
  have hset : ∀ ixsrv s, Gui.Stocked s → (Gui.setServer o.depth ixsrv s).Sound :=
    fun ixsrv s h => h.setServer o.depth ixsrv
  have hfound := h.of_core (core_currentEncryptionServers s)
  have hrow : ∀ ixoldsrv map, (s.currentEncryptionServers.2.rowToReselect o ixoldsrv map).2.Sound :=
    fun ixoldsrv map => hfound.of_core (core_rowToReselect o ixoldsrv map _)
  unfold Gui.repopulateLocations
  split
  · exact h
  · dsimp only
    refine Sound.updateLocation hset (Sound.setCurrentIndex hset _ ?_)
    split_ifs
    · exact hrow _ _
    · exact hrow _ _
    · exact hfound
    · exact hfound

theorem Sound.setProtocol (ix : ℤ) (h : s.Sound) : (s.setProtocol o ix).Sound := by
  have hstored := h.of_core (core_setting (Setting.serverID_setProtocol ix s.setting))
  unfold Gui.setProtocol
  dsimp only
  split_ifs
  · exact hstored.repopulateLocations o
  · exact hstored

theorem Sound.setProtocolIndex (row : ℤ) (h : s.Sound) : (s.setProtocolIndex o row).Sound := by
  unfold Gui.setProtocolIndex
  split
  · exact h
  · dsimp only
    split_ifs
    · exact h
    · exact Sound.setProtocol o (s := { s with map := some _ }) _ h
    · exact h
    · exact Sound.setProtocol o (s := { s with map := some _ }) _ h

theorem Sound.constructMapScreen (h : s.Sound) : (s.constructMapScreen o).Sound := by
  have hready : ({ s with
      setting := s.setting.currentEncryptionProtocols.2
      map := some ⟨[], 1, 0, 0, false, false⟩ } : Gui).Sound := h
  exact (hready.setProtocolIndex o _).repopulateLocations o

/-- The server and its template are looked up with the index that is sent. -/
theorem Sound.wellFormed_iff (port : QString) (h : s.Sound) :
    Request.WellFormed ⟨VPNServiceManager.startObject (s.surroundings o port), s.account.mServers,
      s.selected⟩ ↔ s.selected = true := by
  obtain ⟨-, hserverid, haddress, hport, htemplate⟩ :=
    VPNServiceManager.startObject_values (s.surroundings o port)
  rw [h.2, fits_iff]
  constructor
  · rintro ⟨i, server, hserver, hid, -, -⟩
    have hi := QJsonValue.double.inj (hserverid.symm.trans hid)
    exact ⟨i, server, Rat.intCast_inj.mp hi, hserver⟩
  · rintro ⟨i, server, hi, hserver⟩
    have hlookup : s.account.getServer s.setting.serverID = server := by
      rw [hi]
      exact getServer_of_getElem? hserver
    refine ⟨i, server, hserver, hserverid.trans (congrArg QJsonValue.ofInt hi), ?_, ?_⟩
    · have hlower : -1 < s.setting.serverID := by omega
      rw [haddress, ← hlookup]
      exact congrArg QJsonValue.string (if_pos hlower)
    · rw [htemplate, hport, ← hlookup]
      rfl

theorem Sound.sendConnectToVPNRequest (h : s.Sound) : (s.sendConnectToVPNRequest o).Sound := by
  unfold Gui.sendConnectToVPNRequest
  dsimp only
  split
  · rename_i port _
    have hstarts := VPNServiceManager.starts_sendConnectToVPNRequest (s.surroundings o port) s.manager
    refine ⟨?_, h.2⟩
    change _ ∧ (s.manager.sendConnectToVPNRequest (s.surroundings o port)).starts = _
    rw [hstarts]
    change _ ∧ (if (s.manager.ensureConnected o.surroundings).1 then _ else []) ++ _ = _
    split_ifs
    · refine ⟨List.forall_mem_cons.mpr ⟨h.wellFormed_iff o port, h.1.1⟩, ?_⟩
      exact congrArg (_ :: ·) h.1.2
    · exact h.1
  · refine ⟨⟨h.1.1, ?_⟩, h.2⟩
    exact (VPNServiceManager.starts_ensureConnected o.surroundings _).trans h.1.2

theorem currentEncryptionServers_mem_ids (s : Gui) :
    s.currentEncryptionServers.1 ∈ s.account.lists.ids := by
  change (if _ then s.account.mTcpServerIds else s.account.mUdpServerIds) ∈ _
  split_ifs <;> simp [AuthManager.lists, Lists.ids]

theorem Stocked.loadServer (h : s.Stocked) (hselected : s.selected = false)
    (hids : ∀ ids ∈ s.account.lists.ids, ids = [] → s.account.mServers = []) :
    (s.loadServer o).Sound := by
  -- a location is set, whichever is found, or there are no servers
  have hset : ∀ (account : AuthManager) (ixsrv : ℤ), (Gui.setServer o.depth ixsrv
      ({ s.currentEncryptionServers.2 with account := account } : Gui)).Sound :=
    fun _ ixsrv => Stocked.setServer o.depth ixsrv h
  unfold Gui.loadServer
  dsimp only
  split
  · next hempty =>
    have hnone : s.account.mServers = [] :=
      hids _ s.currentEncryptionServers_mem_ids (List.isEmpty_iff.mp hempty)
    refine ⟨h, ?_⟩
    change s.selected = fits _ s.account.mServers
    rw [hselected, hnone, fits_nil]
  · exact hset _ _

/-- A list that is loaded lets the login window select a server of it, a reply that fails
leaves no server to select. -/
theorem Stocked.loginFinished (reply : ServersReply) (h : s.Stocked) :
    (s.loginFinished o reply).Sound := by
  have hreceived : ∀ selected, (s.received reply selected).Stocked := fun _ => h
  have hservers := AuthManager.servers_loginFinished reply s.setting.mTesting s.account
  rcases loginFinished_cases o reply s with ⟨t, hcore, hlogin⟩ | ⟨hcore, hnone⟩ | hcore
  · obtain ⟨-, hlists, -, -, hselected, -⟩ := Core.mk.inj hcore
    have hids := AuthManager.ids_ne_nil_of_loginFinished reply s.setting.mTesting s.account
    have hloaded : t.account.mServers = (s.received reply false).account.mServers :=
      congrArg Lists.mServers hlists
    rw [hlogin]
    refine of_loadServer Sound.of_core (fun h => h.sendConnectToVPNRequest o) ?_
    refine Stocked.loadServer o ((hreceived false).of_core hcore) hselected ?_
    rw [hlists, hloaded]
    exact hids
  · refine Sound.of_core ⟨hreceived false, ?_⟩ hcore
    change false = fits _ (s.account.loginFinished reply s.setting.mTesting).mServers
    rw [hservers, hnone, fits_nil]
  · refine Sound.of_core ⟨hreceived _, ?_⟩ hcore
    change fits _ _ = fits _ (s.account.loginFinished reply s.setting.mTesting).mServers
    rw [hservers]
    rfl

theorem sound_preserved : Preserved (fun _ => True) Sound where
  core := Sound.of_core
  setServer ixsrv _ _ h := h.1.setServer _ ixsrv
  setProtocol ix _ _ h := h.setProtocol _ ix
  setProtocolIndex row _ _ h := h.setProtocolIndex _ row
  setCurrentIndex _ h _ := Sound.setCurrentIndex (fun ixsrv _ h => h.setServer _ ixsrv) _ h
  constructMapScreen _ h _ := h.constructMapScreen _
  sendConnectToVPNRequest _ h := h.sendConnectToVPNRequest _
  loginFinished reply _ _ h := h.1.loginFinished _ reply

/-- Whatever is stored, and whatever happens to the client: the starts it sends are its
requests, and a request is well formed exactly where the location selected last, since the
list of servers was loaded, is one of them. -/
theorem request_wellFormed_iff_selected (stored : Setting) (v : System.Unset)
    (mPingsLoaded : Bool) (es : List (Outside × GuiEvent)) :
    (run step (initial stored v mPingsLoaded) es).manager.starts =
      (run step (initial stored v mPingsLoaded) es).requests.map (·.object) ∧
    ∀ r ∈ (run step (initial stored v mPingsLoaded) es).requests,
      r.WellFormed ↔ r.selected = true := by
  have hinitial : (initial stored v mPingsLoaded).Sound := ⟨⟨nofun, rfl⟩, (fits_nil _).symm⟩
  have hsound : (run step (initial stored v mPingsLoaded) es).Sound :=
    sound_preserved.run (fun _ _ => trivial) hinitial
  exact ⟨hsound.1.2, hsound.1.1⟩

/-- Connecting while the servers are still loaded sends an index, no address and no
template. -/
theorem connect_before_servers_not_wellFormed : ¬∀ (stored : Setting) (v : System.Unset)
    (mPingsLoaded : Bool) (es : List (Outside × GuiEvent)),
    ∀ r ∈ (run step (initial stored v mPingsLoaded) es).requests, r.WellFormed := by
  intro h
  have hrequests : (run step (initial .fresh .blocking false)
      [(.user, .timerConstructed), (.user, .loginClicked), (.user, .statusTriggered),
        (.user, .connectClicked)]).requests.map (·.servers) = [[]] := by
    decide +kernel
  obtain ⟨r, hr, hservers⟩ := List.map_eq_singleton_iff.mp hrequests
  obtain ⟨i, server, hserver, -⟩ := h .fresh .blocking false _ r (hr ▸ List.mem_singleton_self r)
  rw [hservers] at hserver
  cases hserver

end Gui
end CeloVpn.Client
