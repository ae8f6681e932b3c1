import CeloVpn.Library.Runs
import Mathlib.Logic.Function.Iterate
import Mathlib.Tactic.SplitIfs

/-!
# Going round

The next one of the last of so many is the first. From wherever it begins, as many steps as
there are lead to each of them.
-/
namespace CeloVpn.Rotation
variable {n i : ℕ}

/-- The one that comes after this one of `n`. -/
def next (n i : ℕ) : ℕ := if n ≤ i + 1 then 0 else i + 1

theorem next_lt (h : i < n) : next n i < n := by
  unfold next
  split_ifs <;> omega

theorem next_eq_mod (h : i < n) : next n i = (i + 1) % n := by
  unfold next
  split_ifs with hlast
  · have heq : i + 1 = n := by omega
    rw [heq, Nat.mod_self]
  · rw [Nat.mod_eq_of_lt (by omega)]

theorem iterate_next (h : i < n) (k : ℕ) : (next n)^[k] i = (i + k) % n := by
  induction k with
  | zero => exact (Nat.mod_eq_of_lt h).symm
  | succ k ih =>
    have hlt : (i + k) % n < n := Nat.mod_lt _ (by omega)
    rw [Function.iterate_succ_apply', ih, next_eq_mod hlt, Nat.mod_add_mod, Nat.add_assoc]

/-- Each of them is reached by fewer steps than there are. -/
theorem exists_iterate_next (h : i < n) {j : ℕ} (hj : j < n) : ∃ k < n, (next n)^[k] i = j := by
  by_cases hbefore : i ≤ j
  · refine ⟨j - i, by omega, ?_⟩
    have hsum : i + (j - i) = j := by omega
    rw [iterate_next h, hsum, Nat.mod_eq_of_lt hj]
  · refine ⟨n + j - i, by omega, ?_⟩
    have hsum : i + (n + j - i) = j + n := by omega
    rw [iterate_next h, hsum, Nat.add_mod_right, Nat.mod_eq_of_lt hj]

section Turns
open Runs
variable {σ ε : Type*} {step : σ → ε → σ} {On : ℕ → σ → Prop} {turns : ε → Bool} {D : ε → Prop}

/-- The entry of a list that has so many before it. -/
theorem exists_split_countP {p : ε → Bool} {es : List ε} {k : ℕ} (hk : k < es.countP p) :
    ∃ before e after, es = before ++ e :: after ∧ p e = true ∧ before.countP p = k := by
  induction es generalizing k with
  | nil => exact absurd hk (Nat.not_lt_zero k)
  | cons e es ih =>
    by_cases he : p e = true
    · cases k with
      | zero => exact ⟨[], e, es, rfl, he, rfl⟩
      | succ k =>
        rw [List.countP_cons_of_pos he] at hk
        obtain ⟨before, f, after, rfl, hf, hcount⟩ := ih (Nat.lt_of_succ_lt_succ hk)
        refine ⟨e :: before, f, after, rfl, hf, ?_⟩
        rw [List.countP_cons_of_pos he, hcount]
    · rw [List.countP_cons_of_neg he] at hk
      obtain ⟨before, f, after, rfl, hf, hcount⟩ := ih hk
      refine ⟨e :: before, f, after, rfl, hf, ?_⟩
      rw [List.countP_cons_of_neg he, hcount]

/-- Where each turn goes on to the next one and what else happens stays there, a run has
gone on by the number of its turns. -/
theorem on_run (hstep : ∀ {i s e}, D e → On i s → On (if turns e then next n i else i) (step s e))
    {s : σ} (hs : On i s) {es : List ε} (hD : ∀ e ∈ es, D e) :
    On ((next n)^[es.countP turns] i) (run step s es) := by
  induction es generalizing i s with
  | nil => exact hs
  | cons e es ih =>
    obtain ⟨he, hes⟩ := List.forall_mem_cons.mp hD
    have hrest := ih (hstep he hs) hes
    by_cases hturn : turns e = true
    · rw [if_pos hturn, ← Function.iterate_succ_apply] at hrest
      rw [List.countP_cons_of_pos hturn]
      exact hrest
    · rw [if_neg hturn] at hrest
      rw [List.countP_cons_of_neg hturn]
      exact hrest

end Turns

end CeloVpn.Rotation
