import CeloVpn.Client.AuthManager
import CeloVpn.Library.Runs

/-!
# The server lists over many logins

`clearServerLists` clears the servers and leaves the lists of their indices as they
are, so that the indices of every reply pile up behind those of the replies before.
-/
namespace CeloVpn.Client
open Runs

namespace ServersReply

/-- The servers a reply lists. -/
def servers : ServersReply → List AServer
  | .document nodes => nodes.filterMap AuthManager.server?
  | _ => []

end ServersReply

/-- The servers and the lists of their indices. -/
structure Lists where
  mServers : List AServer
  mServerIds : List ℕ
  mTcpServerIds : List ℕ
  mUdpServerIds : List ℕ

namespace Lists

/-- The three lists of indices. -/
def ids (l : Lists) : List (List ℕ) := [l.mServerIds, l.mTcpServerIds, l.mUdpServerIds]

/-- Each list of indices is exactly the indices of the servers, in order, and all
servers handle both protocols. -/
def Exact (l : Lists) : Prop :=
  (∀ i ∈ l.ids, i = List.range l.mServers.length) ∧
    ∀ s ∈ l.mServers, s.handlesTcp = true ∧ s.handlesUdp = true

instance (l : Lists) : Decidable l.Exact := inferInstanceAs (Decidable (_ ∧ _))

/-- More servers are listed behind the others, with their indices. -/
def add (l : Lists) (new : List AServer) : Lists where
  mServers := l.mServers ++ new
  mServerIds := l.mServerIds ++ List.range' l.mServers.length new.length
  mTcpServerIds := l.mTcpServerIds ++ List.range' l.mServers.length new.length
  mUdpServerIds := l.mUdpServerIds ++ List.range' l.mServers.length new.length

/-- The servers are cleared, their indices are not, and others are listed. -/
def replace (l : Lists) (new : List AServer) : Lists := ({ l with mServers := [] } : Lists).add new

theorem add_nil (l : Lists) : l.add [] = l := by simp [add]

theorem add_add (l : Lists) (a b : List AServer) : (l.add a).add b = l.add (a ++ b) := by
  simp only [add, List.append_assoc, List.length_append, List.range'_append_1]

theorem ids_replace (l : Lists) (new : List AServer) :
    (l.replace new).ids = l.ids.map (· ++ List.range new.length) := by
  simp [replace, add, ids, List.range_eq_range']

/-- Replaced servers leave exact lists behind where there were no indices. -/
theorem exact_replace_iff (l : Lists) {new : List AServer}
    (hnew : ∀ s ∈ new, s.handlesTcp = true ∧ s.handlesUdp = true) :
    (l.replace new).Exact ↔ ∀ i ∈ l.ids, i = [] := by
  have hservers : (l.replace new).mServers = new := List.nil_append new
  rw [Exact, ids_replace, hservers, and_iff_left hnew, List.forall_mem_map]
  simp only [List.append_left_eq_self]

end Lists

namespace AuthManager
variable (m : AuthManager)

def lists : Lists := ⟨m.mServers, m.mServerIds, m.mTcpServerIds, m.mUdpServerIds⟩

/-- What the pings leave alone: the lists, and the table of the names. -/
def catalogue : Lists × List (QString × ℕ) := (m.lists, m.mServerNameToId)

@[simp] theorem catalogue_stopTimer (id : ℕ) : (m.stopTimer id).catalogue = m.catalogue := rfl

@[simp] theorem catalogue_endProcess (id : ℕ) : (m.endProcess id).catalogue = m.catalogue := rfl

@[simp] theorem catalogue_readServer (i : ℕ) : (m.readServer i).catalogue = m.catalogue := rfl

@[simp] theorem catalogue_writePing (i : ℕ) (p : ℤ) :
    (m.writePing i p).catalogue = m.catalogue := rfl

@[simp] theorem catalogue_startWorker (id : ℕ) : (m.startWorker id).catalogue = m.catalogue := by
  unfold startWorker
  split <;> rfl

/-- What a worker that starts preserves is preserved by the loop over them. -/
theorem startWorkers_induction {P : AuthManager → Prop}
    (hstart : ∀ m id, P m → P (m.startWorker id)) (h : P m) : P m.startWorkers := by
  unfold startWorkers
  refine List.foldlRecOn _ _ h fun m hm k _ => ?_
  split_ifs
  · exact hm
  · exact hstart m k hm

/-- What the call of a timer preserves is preserved by all its calls. -/
theorem timerTerminate_induction {P : AuthManager → Prop} {id : ℕ}
    (hterminated : ∀ m p, P m → P (m.pingTerminated id p)) (h : P (m.stopTimer id)) (p : ℕ → ℤ) :
    P (m.timerTerminate id p) :=
  List.foldlRecOn _ _ h fun m hm i _ => hterminated m (p i) hm

theorem catalogue_startWorkers : m.startWorkers.catalogue = m.catalogue :=
  m.startWorkers_induction (fun m id h => (m.catalogue_startWorker id).trans h) rfl

theorem catalogue_pingAllServers : m.pingAllServers.catalogue = m.catalogue := by
  unfold pingAllServers
  dsimp only
  rw [catalogue_startWorkers]
  split_ifs <;> rfl

theorem catalogue_pingComplete (id : ℕ) (p : ℤ) :
    (m.pingComplete id p).catalogue = m.catalogue := by
  simp [pingComplete]

theorem catalogue_pingError (id : ℕ) (p : ℤ) : (m.pingError id p).catalogue = m.catalogue := by
  simp [pingError]

theorem catalogue_pingTerminated (id : ℕ) (p : ℤ) :
    (m.pingTerminated id p).catalogue = m.catalogue := by
  simp [pingTerminated]

theorem catalogue_timerTerminate (id : ℕ) (p : ℕ → ℤ) :
    (m.timerTerminate id p).catalogue = m.catalogue :=
  m.timerTerminate_induction (fun m p h => (m.catalogue_pingTerminated id p).trans h)
    (m.catalogue_stopTimer id) p

/-- An event by which no reply is processed leaves the catalogue alone. -/
theorem catalogue_step {e : Event} (h : m.processes e = none) :
    (m.step e).catalogue = m.catalogue := by
  cases e with
  | login name password => rfl
  | cancel =>
    have hidle : ¬m.replyPending = true := fun hpending => by simp [processes, hpending] at h
    rw [step, cancel, abortReply, if_neg hidle]
    rfl
  | logout =>
    have hidle : ¬m.replyPending = true := fun hpending => by simp [processes, hpending] at h
    rw [step, logout, cancel, abortReply, if_neg hidle]
    rfl
  | replyFinished reply testing =>
    have hidle : ¬m.replyPending = true := fun hpending => by simp [processes, hpending] at h
    rw [step, if_neg hidle]
  | pingFinished id p =>
    simp only [step]
    split_ifs
    · rw [catalogue_pingComplete, catalogue_endProcess]
    · rfl
  | pingErrorOccurred id ends p =>
    simp only [step]
    split_ifs
    · rw [catalogue_pingError, catalogue_endProcess]
    · rw [catalogue_pingError]
    · rfl
  | timeout id p =>
    simp only [step]
    split_ifs
    · exact m.catalogue_timerTerminate id p
    · rfl

/-- Where a reply is processed, it is by `loginFinished`. -/
theorem catalogue_step_of_processes {e : Event} {r : ServersReply × Bool}
    (h : m.processes e = some r) : ∃ m' : AuthManager, m'.catalogue = m.catalogue ∧
      (m.step e).catalogue = (m'.loginFinished r.1 r.2).catalogue := by
  have hcancel : m.replyPending = true →
      m.cancel = ({ m with mCancellingLogin := true } : AuthManager).loginFinished
        (.error "Operation canceled".toList) false := by
    intro hpending
    rw [cancel, abortReply, if_pos hpending]
  cases e with
  | cancel =>
    simp only [processes, Option.ite_none_right_eq_some, Option.some.injEq] at h
    obtain ⟨hpending, rfl⟩ := h
    exact ⟨{ m with mCancellingLogin := true }, rfl, congrArg catalogue (hcancel hpending)⟩
  | logout =>
    simp only [processes, Option.ite_none_right_eq_some, Option.some.injEq] at h
    obtain ⟨hpending, rfl⟩ := h
    refine ⟨{ m with mCancellingLogin := true }, rfl, ?_⟩
    rw [step, logout, hcancel hpending]
    rfl
  | replyFinished reply testing =>
    simp only [processes, Option.ite_none_right_eq_some, Option.some.injEq] at h
    obtain ⟨hpending, rfl⟩ := h
    refine ⟨m, rfl, ?_⟩
    rw [step, if_pos hpending]
  | _ => cases h

theorem server?_handles {se : ServerNode} {s : AServer} (h : server? se = some s) :
    s.handlesTcp = true ∧ s.handlesUdp = true := by
  unfold server? at h
  split at h
  · split_ifs at h
    obtain rfl := Option.some.inj h
    exact ⟨rfl, rfl⟩
  · cases h

theorem lists_addServer (se : ServerNode) :
    (m.addServer se).lists = m.lists.add (server? se).toList := by
  unfold addServer
  cases hs : server? se with
  | none => simp [lists, Lists.add]
  | some s =>
    obtain ⟨htcp, hudp⟩ := server?_handles hs
    simp [lists, Lists.add, htcp, hudp]

theorem foldl_addServer_frame (nodes : List ServerNode) : ∃ a b c d, nodes.foldl addServer m =
    { m with mServers := a, mServerIds := b, mTcpServerIds := c, mUdpServerIds := d } := by
  induction nodes generalizing m with
  | nil => exact ⟨_, _, _, _, rfl⟩
  | cons se nodes ih =>
    obtain ⟨a, b, c, d, hrest⟩ := ih (m.addServer se)
    refine ⟨a, b, c, d, ?_⟩
    rw [List.foldl_cons, hrest]
    unfold addServer
    split <;> rfl

/-- The loop over the nodes appends the servers they describe. -/
theorem lists_foldl_addServer (nodes : List ServerNode) :
    (nodes.foldl addServer m).lists = m.lists.add (nodes.filterMap server?) := by
  induction nodes generalizing m with
  | nil => simp [lists, Lists.add]
  | cons se nodes ih =>
    rw [List.foldl_cons, ih, lists_addServer, Lists.add_add, List.filterMap_cons]
    cases server? se <;> rfl

theorem lists_processServersXml (reply : ServersReply) (testing : Bool) :
    (m.processServersXml reply testing).2.lists =
      m.lists.replace reply.servers := by
  have hnone : m.lists.replace [] = ({ m.lists with mServers := [] } : Lists) := Lists.add_nil _
  unfold processServersXml
  cases reply with
  | document nodes =>
    cases nodes with
    | nil => exact hnone.symm
    | cons se nodes =>
      have hloop := lists_foldl_addServer m.clearServerLists (se :: nodes)
      cases testing with
      | true => exact hloop
      | false => exact (congrArg Prod.fst (catalogue_pingAllServers _)).trans hloop
  | _ => exact hnone.symm

theorem lists_loginFinished (reply : ServersReply) (testing : Bool) :
    (m.loginFinished reply testing).lists =
      m.lists.replace reply.servers :=
  lists_processServersXml { m with replyPending := false } reply testing

/-- What an event does to the lists. -/
theorem lists_step (e : Event) : (m.step e).lists =
    match m.processes e with
    | some r => m.lists.replace r.1.servers
    | none => m.lists := by
  cases hprocessed : m.processes e with
  | none => exact congrArg Prod.fst (m.catalogue_step hprocessed)
  | some r =>
    obtain ⟨m', hbefore, hafter⟩ := m.catalogue_step_of_processes hprocessed
    have hlists : m'.lists = m.lists := congrArg Prod.fst hbefore
    show (m.step e).lists = m.lists.replace r.1.servers
    rw [← hlists, ← m'.lists_loginFinished r.1 r.2]
    exact congrArg Prod.fst hafter

end AuthManager

/-- The account, with the number of servers that the replies so far have listed. -/
structure Listing where
  manager : AuthManager
  listed : ℕ

namespace Listing
open AuthManager (Event)

def step (w : Listing) (e : Event) : Listing where
  manager := w.manager.step e
  listed := w.listed + ((w.manager.processes e).map (·.1.servers.length)).getD 0

def initial (mPingsLoaded : Bool) : Listing := ⟨.initial mPingsLoaded, 0⟩

/-- After a reply is processed the lists are exact. -/
def ExactAfter (w : Listing) (e : Event) : Prop :=
  (w.manager.processes e).isSome = true → (w.manager.step e).lists.Exact

/-- A reply is processed only while no earlier reply has listed a server. -/
def FirstList (w : Listing) (e : Event) : Prop :=
  (w.manager.processes e).isSome = true → w.listed = 0

/-- The indices of all servers ever listed are in each of the lists. -/
def Piled (w : Listing) : Prop := ∀ i ∈ w.manager.lists.ids, i.length = w.listed

theorem step_piled (w : Listing) (e : Event) (h : w.Piled) : (w.step e).Piled := by
  unfold Piled step
  rw [w.manager.lists_step e]
  cases w.manager.processes e with
  | none => exact h
  | some r =>
    simp only [Lists.ids_replace, List.forall_mem_map, List.length_append, List.length_range,
      Option.map_some, Option.getD_some, Nat.add_right_cancel_iff]
    exact h

theorem servers_handle (reply : ServersReply) :
    ∀ s ∈ reply.servers, s.handlesTcp = true ∧ s.handlesUdp = true := by
  intro s hs
  cases reply with
  | document nodes =>
    obtain ⟨se, -, hserver⟩ := List.mem_filterMap.mp hs
    exact AuthManager.server?_handles hserver
  | _ => cases hs

theorem exactAfter_iff_firstList (w : Listing) (e : Event) (h : w.Piled) :
    w.ExactAfter e ↔ w.FirstList e := by
  refine imp_congr_right fun hprocesses => ?_
  obtain ⟨r, hr⟩ := Option.isSome_iff_exists.mp hprocesses
  rw [w.manager.lists_step e, hr]
  refine (Lists.exact_replace_iff _ (servers_handle r.1)).trans ⟨fun hempty => ?_, fun hnone => ?_⟩
  · have hids : w.manager.mServerIds ∈ w.manager.lists.ids := List.mem_cons_self
    rw [← h _ hids, hempty _ hids, List.length_nil]
  · intro i hi
    exact List.eq_nil_of_length_eq_zero ((h i hi).trans hnone)

/-- The lists are exact after each reply of a run exactly when no reply is processed
after one that listed a server. -/
theorem lists_exact_iff (mPingsLoaded : Bool) (es : List Event) :
    Meets step ExactAfter (initial mPingsLoaded) es ↔
      Meets step FirstList (initial mPingsLoaded) es :=
  meets_congr (I := Piled) step_piled exactAfter_iff_firstList (by simp [Piled, initial,
    AuthManager.initial, AuthManager.lists, Lists.ids])

/-- A reply that lists one server. -/
def oneServer : ServersReply :=
  .document [⟨"Chile".toList, some "cl.vpn.example".toList, some "192.0.2.1".toList,
    [], [], []⟩]

/-- Logging in twice leaves every index twice in the lists. -/
theorem lists_inexact_after_second_login : ¬∀ (mPingsLoaded : Bool) (es : List Event),
    Meets step ExactAfter (initial mPingsLoaded) es := by
  intro h
  have hlast := meets_iff_split.mp (h false
    [.login "user".toList "secret".toList, .replyFinished oneServer false, .logout,
      .login "user".toList "secret".toList, .replyFinished oneServer false])
    [.login "user".toList "secret".toList, .replyFinished oneServer false, .logout,
      .login "user".toList "secret".toList] (.replyFinished oneServer false) [] rfl
  exact absurd (hlast (by decide)) (by decide)

end Listing
end CeloVpn.Client
