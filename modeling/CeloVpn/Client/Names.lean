import CeloVpn.Client.ServerChoice
import CeloVpn.Client.ServerLists
import Mathlib.Order.Bounds.Defs

/-!
# Servers by their names

The table of names is filled at a lookup that finds it empty, and cleared with the
servers. While it is that of the servers, or empty, a name leads to the first server that
has it. It is so after any logins and lookups.
-/
namespace CeloVpn.Client
open Runs

namespace AuthManager

/-- The table of the names of these servers. -/
def nameTable (servers : List AServer) : List (QString × ℕ) :=
  (servers.zipIdx.map fun s => (s.1.name, s.2)).foldl insertName []

/-- The table is that of the servers, or not filled yet. -/
def Named (m : AuthManager) : Prop :=
  m.mServerNameToId = [] ∨ m.mServerNameToId = nameTable m.mServers

/-- A name that is inserted later does not replace the one before. -/
theorem find?_foldl_insertName (srv : QString) (entries table : List (QString × ℕ)) :
    (entries.foldl insertName table).find? (·.1 == srv) = (table ++ entries).find? (·.1 == srv) := by
  induction entries generalizing table with
  | nil => rw [List.foldl_nil, List.append_nil]
  | cons entry entries ih =>
    rw [List.foldl_cons, ih, insertName]
    split_ifs with hknown
    · obtain ⟨old, hold, hname⟩ := List.any_eq_true.mp hknown
      rw [List.find?_append, List.find?_append, List.find?_cons]
      by_cases hsrv : (entry.1 == srv) = true
      · have hfound : (table.find? (·.1 == srv)).isSome = true := by
          refine List.find?_isSome.mpr ⟨old, hold, ?_⟩
          rw [eq_of_beq hname]
          exact hsrv
        obtain ⟨found, hfound⟩ := Option.isSome_iff_exists.mp hfound
        rw [hfound]
        rfl
      · rw [Bool.eq_false_iff.mpr hsrv]
    · rw [List.append_assoc, List.singleton_append]

theorem find?_zipIdx (srv : QString) (servers : List AServer) (k : ℕ) :
    ((servers.zipIdx k).map fun s => (s.1.name, s.2)).find? (·.1 == srv) =
      (servers.findIdx? (·.name == srv)).map fun i => (srv, i + k) := by
  induction servers generalizing k with
  | nil => rfl
  | cons server servers ih =>
    rw [List.zipIdx_cons, List.map_cons, List.find?_cons, List.findIdx?_cons, ih]
    by_cases hname : (server.name == srv) = true
    · rw [hname, if_pos rfl, Option.map_some, Nat.zero_add, eq_of_beq hname]
    · rw [Bool.eq_false_iff.mpr hname, if_neg (by simp), Option.map_map]
      refine congrArg (Option.map · _) (funext fun i => ?_)
      rw [Function.comp_apply, Nat.add_right_comm, Nat.add_assoc]

theorem find?_nameTable (srv : QString) (servers : List AServer) :
    (nameTable servers).find? (·.1 == srv) =
      (servers.findIdx? (·.name == srv)).map fun i => (srv, i) := by
  rw [nameTable, find?_foldl_insertName, List.nil_append]
  exact find?_zipIdx srv servers 0

/-- The lookup finds the first server of the name. -/
theorem serverIxFromName_fst (srv : QString) {m : AuthManager} (h : m.Named) :
    (m.serverIxFromName srv).1 =
      (m.mServers.findIdx? (·.name == srv)).elim (-1) fun i => (i : ℤ) := by
  have hfilled : ∀ table : List (QString × ℕ), table = nameTable m.mServers →
      ((table.find? (·.1 == srv)).elim (-1) fun entry => (entry.2 : ℤ)) =
        (m.mServers.findIdx? (·.name == srv)).elim (-1) fun i => (i : ℤ) := by
    rintro _ rfl
    rw [find?_nameTable]
    cases m.mServers.findIdx? (·.name == srv) <;> rfl
  unfold serverIxFromName
  dsimp only
  split_ifs with hempty
  · exact hfilled _ rfl
  · refine hfilled _ ?_
    rcases h with hnil | htable
    · rw [Bool.and_eq_true, not_and, hnil] at hempty
      have hservers : m.mServers = [] := by simpa using hempty rfl
      rw [hnil, hservers]
      rfl
    · exact htable

variable (m : AuthManager)

/-- A reply that is processed clears the table. -/
theorem names_loginFinished (reply : ServersReply) (testing : Bool) :
    (m.loginFinished reply testing).mServerNameToId = [] := by
  change (({ m with replyPending := false } : AuthManager).processServersXml reply
    testing).2.mServerNameToId = []
  unfold processServersXml
  cases reply with
  | document nodes =>
    cases nodes with
    | nil => rfl
    | cons se nodes =>
      obtain ⟨_, _, _, _, hnodes⟩ := foldl_addServer_frame
        ({ m with replyPending := false } : AuthManager).clearServerLists (se :: nodes)
      have hloop := congrArg mServerNameToId hnodes
      cases testing with
      | true => exact hloop
      | false => exact (congrArg Prod.snd (catalogue_pingAllServers _)).trans hloop
  | _ => rfl

/-- What happens to the account, and the lookups in between. The slots of
`serverListsLoaded`, which is emitted before the pings begin, look no name up. -/
inductive Visit
  | event (e : Event)
  | lookup (srv : QString)

def visit (m : AuthManager) : Visit → AuthManager
  | .event e => m.step e
  | .lookup srv => (m.serverIxFromName srv).2

variable {m}

theorem Named.visit (h : m.Named) (v : Visit) : (m.visit v).Named := by
  cases v with
  | event e =>
    cases hprocessed : m.processes e with
    | none =>
      obtain ⟨hlists, hnames⟩ := Prod.mk.inj (m.catalogue_step hprocessed)
      have hservers : (m.step e).mServers = m.mServers := congrArg Lists.mServers hlists
      unfold Named AuthManager.visit
      rw [hnames, hservers]
      exact h
    | some r =>
      obtain ⟨m', -, hafter⟩ := m.catalogue_step_of_processes hprocessed
      exact .inl ((congrArg Prod.snd hafter).trans (m'.names_loginFinished r.1 r.2))
  | lookup srv =>
    unfold AuthManager.visit serverIxFromName
    dsimp only
    split_ifs
    · exact .inr rfl
    · exact h

/-- The indices of the servers of a name. -/
def indicesOf (srv : QString) (m : AuthManager) : Set ℕ :=
  {k | ∃ server, m.mServers[k]? = some server ∧ server.name = srv}

/-- A lookup answers with the first server of the name, and with minus one exactly where
no server has it. -/
structure FindsFirst (srv : QString) (m : AuthManager) : Prop where
  eq_natCast (k : ℕ) : (m.serverIxFromName srv).1 = k ↔ IsLeast (m.indicesOf srv) k
  eq_neg_one : (m.serverIxFromName srv).1 = -1 ↔ ∀ server ∈ m.mServers, server.name ≠ srv

theorem Named.findsFirst (h : m.Named) (srv : QString) : m.FindsFirst srv := by
  have hfound := serverIxFromName_fst srv h
  cases hfind : m.mServers.findIdx? (·.name == srv) with
  | none =>
    rw [hfind, Option.elim_none] at hfound
    have hother : ∀ server ∈ m.mServers, server.name ≠ srv := by
      intro server hserver
      simpa using List.findIdx?_eq_none_iff.mp hfind server hserver
    refine ⟨fun k => ?_, iff_of_true hfound hother⟩
    refine iff_of_false (by omega) fun hleast => ?_
    obtain ⟨server, hserver, hname⟩ := hleast.1
    exact hother server (List.mem_of_getElem? hserver) hname
  | some i =>
    rw [hfind, Option.elim_some] at hfound
    obtain ⟨hi, hname, hbefore⟩ := List.findIdx?_eq_some_iff_getElem.mp hfind
    have hleast : IsLeast (m.indicesOf srv) i := by
      refine ⟨⟨m.mServers[i], List.getElem?_eq_getElem hi, eq_of_beq hname⟩, ?_⟩
      rintro k ⟨server, hserver, hsrv⟩
      by_contra hk
      obtain ⟨hlt, rfl⟩ := List.getElem?_eq_some_iff.mp hserver
      exact hbefore k (by omega) (beq_iff_eq.mpr hsrv)
    refine ⟨fun k => ?_, iff_of_false (by omega) fun hother => ?_⟩
    · rw [hfound, Nat.cast_inj]
      constructor
      · rintro rfl
        exact hleast
      · exact fun hk => le_antisymm (hleast.2 hk.1) (hk.2 hleast.1)
    · exact hother m.mServers[i] (List.getElem_mem hi) (eq_of_beq hname)

/-- After any logins, whatever lists they bring, and any lookups in between. -/
theorem findsFirst_run (mPingsLoaded : Bool) (visits : List Visit) (srv : QString) :
    (run visit (initial mPingsLoaded) visits).FindsFirst srv := by
  have hinitial : (initial mPingsLoaded).Named := .inl rfl
  have hrun : (run visit (initial mPingsLoaded) visits).Named :=
    run_invariant (fun _ v hm => hm.visit v) hinitial visits
  exact hrun.findsFirst srv

end AuthManager
end CeloVpn.Client
