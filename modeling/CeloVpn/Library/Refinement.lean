import CeloVpn.Library.Runs

/-!
# Runs of one system as runs of another

A system refines another one when the states of the two are related and each step of the
first is a run of the second that ends in a related state. What the second one is allowed
to do can depend on its state, and is then respected in the whole run.
-/
namespace CeloVpn.Runs

variable {σ τ ε ε' : Type*} {step : σ → ε → σ} {step' : τ → ε' → τ}

theorem meets_append {C : σ → ε → Prop} {s : σ} {es es' : List ε} :
    Meets step C s (es ++ es') ↔ Meets step C s es ∧ Meets step C (run step s es) es' := by
  induction es generalizing s with
  | nil => exact ⟨fun h => ⟨trivial, h⟩, fun h => h.2⟩
  | cons e es ih =>
    rw [List.cons_append, Meets, Meets, ih, and_assoc]
    exact Iff.rfl

/-- Some run of allowed steps leads from the one state to the other. -/
def Leads (step : σ → ε → σ) (allowed : σ → ε → Prop) (s t : σ) : Prop :=
  ∃ es, Meets step allowed s es ∧ run step s es = t

namespace Leads
variable {allowed : σ → ε → Prop} {s t u : σ}

theorem refl (s : σ) : Leads step allowed s s := ⟨[], trivial, rfl⟩

theorem single {e : ε} (h : allowed s e) : Leads step allowed s (step s e) :=
  ⟨[e], ⟨h, trivial⟩, rfl⟩

theorem trans (hst : Leads step allowed s t) (htu : Leads step allowed t u) :
    Leads step allowed s u := by
  obtain ⟨es, hes, rfl⟩ := hst
  obtain ⟨es', hes', rfl⟩ := htu
  exact ⟨es ++ es', meets_append.mpr ⟨hes, hes'⟩, run_append s es es'⟩

end Leads

/-- Each step is a run of allowed steps of the other system. -/
def Refines (step : σ → ε → σ) (step' : τ → ε' → τ) (allowed : τ → ε' → Prop)
    (R : σ → τ → Prop) : Prop :=
  ∀ s t e, R s t → ∃ t', Leads step' allowed t t' ∧ R (step s e) t'

/-- And so is each run. -/
theorem Refines.run {allowed : τ → ε' → Prop} {R : σ → τ → Prop}
    (h : Refines step step' allowed R) {s : σ} {t : τ} (hst : R s t) (es : List ε) :
    ∃ t', Leads step' allowed t t' ∧ R (Runs.run step s es) t' := by
  induction es generalizing s t with
  | nil => exact ⟨t, Leads.refl t, hst⟩
  | cons e es ih =>
    obtain ⟨mid, hfirst, hmid⟩ := h s t e hst
    obtain ⟨last, hrest, hlast⟩ := ih hmid
    exact ⟨last, hfirst.trans hrest, hlast⟩

end CeloVpn.Runs
