import CeloVpn.Client.Pings

/-!
# What a ping timer ends

`startWorker` connects the timer of the worker once more for every ping it is given, and
nothing disconnects it. A timer that runs out makes one call for each connection, and a
call that ends one ping starts the next, which the call after it ends in turn.
-/
namespace CeloVpn.Client
open Runs

/-- A timer's expiry call by call. A terminated ping is told by its server and by how
many pings the expiry had started when it was terminated. -/
structure Expiry where
  manager : AuthManager
  started : ℕ
  terminated : List (ℕ × ℕ)

namespace Expiry

/-- One call of `pingTerminated`. -/
def call (id : ℕ) (t : Expiry) (p : ℤ) : Expiry where
  manager := t.manager.pingTerminated id p
  started := t.started +
    (t.manager.mToPing.length - (t.manager.pingTerminated id p).mToPing.length)
  terminated := t.terminated ++ [(t.manager.mInProgress id, t.started)]

end Expiry

namespace AuthManager

/-- The expiry of a worker's timer. -/
def expiry (id : ℕ) (p : ℕ → ℤ) (m : AuthManager) : Expiry :=
  (List.range (m.mTimers id).connections).foldl (fun t i => t.call id (p i))
    ⟨m.stopTimer id, 0, []⟩

/-- Each expiry is one of a worker with its first ping, or finds no server waiting. -/
def FirstPing (m : AuthManager) : Event → Prop
  | .timeout id _ => (m.mTimers id).active = true →
    (m.mTimers id).connections = 1 ∨ m.mToPing = []
  | _ => True

/-- A timer that runs is connected. -/
def Timed (m : AuthManager) : Prop :=
  ∀ k, (m.mTimers k).active = true → 1 ≤ (m.mTimers k).connections

section Expiry
variable (id : ℕ) (p : ℕ → ℤ) (m : AuthManager)

theorem foldl_call_manager (is : List ℕ) (t : Expiry) :
    (is.foldl (fun t i => t.call id (p i)) t).manager =
      is.foldl (fun m i => m.pingTerminated id (p i)) t.manager := by
  induction is generalizing t with
  | nil => rfl
  | cons i is ih => exact ih (t.call id (p i))

/-- The expiry ends in the state that the timer's event ends in. -/
theorem expiry_manager : (m.expiry id p).manager = m.timerTerminate id p :=
  foldl_call_manager id p _ _

end Expiry

section Timed
variable {m : AuthManager}

theorem Timed.stopTimer (id : ℕ) (h : m.Timed) : (m.stopTimer id).Timed := by
  intro k hk
  by_cases hkid : k = id
  · subst hkid
    simp [AuthManager.stopTimer] at hk
  · simpa [AuthManager.stopTimer, hkid] using h k (by simpa [AuthManager.stopTimer, hkid] using hk)

theorem Timed.startWorker (id : ℕ) (h : m.Timed) : (m.startWorker id).Timed := by
  cases hq : m.mToPing with
  | nil =>
    rw [startWorker_nil hq]
    exact h
  | cons srv rest =>
    rw [startWorker_cons hq]
    intro k hk
    by_cases hkid : k = id
    · simp [hkid]
    · simpa [hkid] using h k (by simpa [hkid] using hk)

theorem Timed.foldl {α : Type*} {f : AuthManager → α → AuthManager}
    (hf : ∀ m a, m.Timed → (f m a).Timed) (as : List α) (h : m.Timed) : (as.foldl f m).Timed := by
  induction as generalizing m with
  | nil => exact h
  | cons a as ih => exact ih (hf m a h)

theorem Timed.startWorkers (h : m.Timed) : m.startWorkers.Timed := by
  refine Timed.foldl (fun m k hm => ?_) _ h
  split_ifs
  · exact hm
  · exact hm.startWorker k

theorem Timed.pingAllServers (h : m.Timed) : m.pingAllServers.Timed := by
  unfold AuthManager.pingAllServers
  refine Timed.startWorkers ?_
  dsimp only
  split_ifs
  · exact h
  · exact h

theorem Timed.loginFinished (reply : ServersReply) (testing : Bool) (h : m.Timed) :
    (m.loginFinished reply testing).Timed := by
  have hprocessed : (({ m with replyPending := false } : AuthManager).processServersXml reply
      testing).2.Timed := by
    unfold processServersXml
    cases reply with
    | document nodes =>
      cases nodes with
      | nil => exact h
      | cons se nodes =>
        obtain ⟨a, b, c, d, hloop⟩ := foldl_addServer_frame
          ({ m with replyPending := false } : AuthManager).clearServerLists (se :: nodes)
        dsimp only
        rw [hloop]
        cases testing with
        | true => exact h
        | false => exact Timed.pingAllServers (m := emit _ _) h
    | _ => exact h
  exact hprocessed

theorem Timed.abortReply (h : m.Timed) : m.abortReply.Timed := by
  unfold AuthManager.abortReply
  split_ifs
  · exact h.loginFinished _ _
  · exact h

theorem Timed.timerTerminate (id : ℕ) (p : ℕ → ℤ) (h : m.Timed) :
    (m.timerTerminate id p).Timed :=
  Timed.foldl (fun m i hm => Timed.startWorker (m := m.writePing _ (p i)) id hm) _ (h.stopTimer id)

end Timed

end AuthManager
end CeloVpn.Client
