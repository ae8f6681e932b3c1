import CeloVpn.Library.Runs
import Mathlib.Data.List.Forall2
import Mathlib.Data.List.Infix

/-!
# Logs that do not depend on a secret

The events of a system carry a secret, and masking an event puts another one in its
place. Some steps leak: their log entries depend on the secret. Where the steps that do
not leak keep two runs alike, and the logs only grow, the logs of a run are independent
of the secrets in it exactly when no step of it leaks.
-/
namespace CeloVpn.Runs

section Differ
variable {ο : Type*} {x x' y y' : List ο}

/-- Two newest-first logs whose older parts differ already. -/
def Differ (x x' : List ο) : Prop := ∃ t t', t <:+ x ∧ t' <:+ x' ∧ t.length = t'.length ∧ t ≠ t'

theorem Differ.ne (h : Differ x x') : x ≠ x' := by
  rintro rfl
  obtain ⟨t, t', ht, ht', hlength, hne⟩ := h
  exact hne ((List.suffix_of_suffix_length_le ht ht' hlength.le).eq_of_length hlength)

/-- What differs in the older part differs for good. -/
theorem Differ.grow (h : Differ x x') (hy : x <:+ y) (hy' : x' <:+ y') : Differ y y' := by
  obtain ⟨t, t', ht, ht', hlength, hne⟩ := h
  exact ⟨t, t', ht.trans hy, ht'.trans hy', hlength, hne⟩

/-- Different entries after the same older part. -/
theorem differ_cons {a a' : ο} (h : a ≠ a') (t : List ο) : Differ (a :: t) (a' :: t) :=
  ⟨a :: t, a' :: t, List.suffix_rfl, List.suffix_rfl, rfl, fun heq => h (List.cons.inj heq).1⟩

end Differ

section First
variable {σ ε : Type*} {step : σ → ε → σ} {C : σ → ε → Prop}

/-- A run that does not meet a condition meets it up to some event. -/
theorem exists_first {s : σ} {es : List ε} (h : ¬Meets step C s es) : ∃ before e after,
    es = before ++ e :: after ∧ Meets step C s before ∧ ¬C (run step s before) e := by
  induction es generalizing s with
  | nil => exact absurd trivial h
  | cons e es ih =>
    by_cases he : C s e
    · obtain ⟨before, f, after, rfl, hbefore, hf⟩ := ih fun hes => h ⟨he, hes⟩
      exact ⟨e :: before, f, after, rfl, ⟨he, hbefore⟩, hf⟩
    · exact ⟨[], e, es, rfl, trivial, he⟩

end First

section Unwinding
variable {σ ε κ ο ι : Type*} (step : σ → ε → σ) (log : κ → σ → List ο) (mask : ι → ε → ε)
  (Leaks : σ → ε → Prop)

/-- States are alike for a secret when the second may follow the masked events of a run
that leads to the first. -/
structure Unwinding where
  Alike : ι → σ → σ → Prop
  mask_mask : ∀ q q' e, mask q (mask q' e) = mask q e
  log_eq : ∀ {q s s'}, Alike q s s' → ∀ k, log k s' = log k s
  leaks_iff : ∀ {q s s'}, Alike q s s' → ∀ e, Leaks s' (mask q e) ↔ Leaks s e
  alike_step : ∀ {q s s' e}, Alike q s s' → ¬Leaks s e → Alike q (step s e) (step s' (mask q e))
  log_step : ∀ k s e, log k s <:+ log k (step s e)
  /-- Some secret makes a difference to a log where a step leaks. -/
  leaks : ∀ {s e}, Leaks s e → (∀ q, ∃ s', Alike q s s') → ∃ q k, ∀ s', Alike q s s' →
    Differ (log k (step s e)) (log k (step s' (mask q e)))

namespace Unwinding
variable {step log mask Leaks} (h : Unwinding step log mask Leaks) {s s' : σ} {q : ι}
include h

theorem alike_run (hs : h.Alike q s s') {es : List ε}
    (hes : Meets step (fun s e => ¬Leaks s e) s es) :
    h.Alike q (run step s es) (run step s' (es.map (mask q))) := by
  induction es generalizing s s' with
  | nil => exact hs
  | cons e es ih => exact ih (h.alike_step hs hes.1) hes.2

/-- Whether a run leaks does not depend on the secrets in it. -/
theorem meets_iff (hs : h.Alike q s s') (es : List ε) :
    Meets step (fun s e => ¬Leaks s e) s' (es.map (mask q)) ↔
      Meets step (fun s e => ¬Leaks s e) s es := by
  induction es generalizing s s' with
  | nil => exact Iff.rfl
  | cons e es ih =>
    have hleaks := h.leaks_iff hs e
    constructor
    · rintro ⟨he, hes⟩
      have he' : ¬Leaks s e := fun hl => he (hleaks.mpr hl)
      exact ⟨he', (ih (h.alike_step hs he')).mp hes⟩
    · rintro ⟨he, hes⟩
      exact ⟨fun hl => he (hleaks.mp hl), (ih (h.alike_step hs he)).mpr hes⟩

theorem log_run (k : κ) (s : σ) (es : List ε) : log k s <:+ log k (run step s es) := by
  induction es generalizing s with
  | nil => exact List.suffix_rfl
  | cons e es ih => exact (h.log_step k s e).trans (ih _)

/-- The events of two lists are the same but for their secrets. -/
theorem map_mask_eq {es es' : List ε} (hes : List.Forall₂ (fun e e' => ∃ q, e' = mask q e) es es')
    (q : ι) : es'.map (mask q) = es.map (mask q) := by
  induction hes with
  | nil => rfl
  | cons he _ ih =>
    obtain ⟨q', rfl⟩ := he
    rw [List.map_cons, List.map_cons, ih, h.mask_mask]

/-- All runs that differ in their secrets only write the same logs exactly when the run
does not leak. -/
theorem logs_eq_iff [Nonempty ι] (hs : ∀ q, h.Alike q s s) (es : List ε) :
    (∀ es', List.Forall₂ (fun e e' => ∃ q, e' = mask q e) es es' →
      ∀ k, log k (run step s es') = log k (run step s es)) ↔
    Meets step (fun s e => ¬Leaks s e) s es := by
  constructor
  · intro heq
    by_contra hnot
    obtain ⟨before, e, after, rfl, hbefore, hleak⟩ := exists_first hnot
    have halike : ∀ q, h.Alike q (run step s before) (run step s (before.map (mask q))) :=
      fun q => h.alike_run (hs q) hbefore
    obtain ⟨q, k, hdiffer⟩ := h.leaks (not_not.mp hleak) fun q => ⟨_, halike q⟩
    have hmasked : List.Forall₂ (fun e e' => ∃ q, e' = mask q e) (before ++ e :: after)
        ((before ++ e :: after).map (mask q)) := by
      rw [List.forall₂_map_right_iff, List.forall₂_same]
      exact fun e _ => ⟨q, rfl⟩
    have hlast := (hdiffer _ (halike q)).grow
      (h.log_run k _ after) (h.log_run k _ (after.map (mask q)))
    refine hlast.ne ?_
    have hk := heq _ hmasked k
    rw [List.map_append, List.map_cons, run_append, run_append] at hk
    exact hk.symm
  · intro hes es' hsame k
    obtain ⟨q⟩ := ‹Nonempty ι›
    have hes' : Meets step (fun s e => ¬Leaks s e) s es' := by
      rw [← h.meets_iff (hs q), h.map_mask_eq hsame q, h.meets_iff (hs q)]
      exact hes
    have hrun := h.log_eq (h.alike_run (hs q) hes) k
    have hrun' := h.log_eq (h.alike_run (hs q) hes') k
    rw [h.map_mask_eq hsame q] at hrun'
    exact hrun'.symm.trans hrun

end Unwinding
end Unwinding
end CeloVpn.Runs
