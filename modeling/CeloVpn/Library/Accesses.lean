import CeloVpn.Library.Runs

/-!
# Fields read and assigned

A handler's trace lists the fields it reads and assigns, in order. It is initialised
where every read is of a field that was assigned before, in the trace or by what came
before it.
-/
namespace CeloVpn.Accesses

inductive Access (φ : Type*)
  | read (f : φ)
  | assign (f : φ)
  deriving DecidableEq

section Trace
variable {φ : Type*}

/-- The fields assigned once a trace is over. -/
def after (A : List φ) : List (Access φ) → List φ
  | [] => A
  | .read _ :: t => after A t
  | .assign f :: t => after (f :: A) t

/-- Every read of the trace is of an assigned field. -/
def Initialised (A : List φ) : List (Access φ) → Prop
  | [] => True
  | .read f :: t => f ∈ A ∧ Initialised A t
  | .assign f :: t => Initialised (f :: A) t

instance decidableInitialised [DecidableEq φ] : ∀ A (t : List (Access φ)), Decidable (Initialised A t)
  | _, [] => isTrue trivial
  | A, .read f :: t =>
    haveI := decidableInitialised A t
    inferInstanceAs (Decidable (f ∈ A ∧ Initialised A t))
  | A, .assign f :: t => decidableInitialised (f :: A) t

theorem mem_after {A : List φ} {t : List (Access φ)} {f : φ} :
    f ∈ after A t ↔ .assign f ∈ t ∨ f ∈ A := by
  induction t generalizing A with
  | nil => simp [after]
  | cons a t ih =>
    cases a with
    | read g => simp [after, ih]
    | assign g => simp [after, ih, or_assoc, or_left_comm]

theorem initialised_append {A : List φ} {t u : List (Access φ)} :
    Initialised A (t ++ u) ↔ Initialised A t ∧ Initialised (after A t) u := by
  induction t generalizing A with
  | nil => simp [Initialised, after]
  | cons a t ih =>
    cases a with
    | read f => simp [Initialised, after, ih, and_assoc]
    | assign f => simp [Initialised, after, ih]

/-- A trace that reads only what was assigned before it. -/
theorem initialised_of_reads {A : List φ} {t : List (Access φ)} (h : ∀ f, .read f ∈ t → f ∈ A) :
    Initialised A t := by
  induction t generalizing A with
  | nil => trivial
  | cons a t ih =>
    have hrest : ∀ f, .read f ∈ t → f ∈ A := fun f hf => h f (List.mem_cons_of_mem a hf)
    cases a with
    | read f => exact ⟨h f List.mem_cons_self, ih hrest⟩
    | assign f => exact ih fun g hg => List.mem_cons_of_mem f (hrest g hg)

theorem Initialised.mono {A B : List φ} {t : List (Access φ)} (h : ∀ f ∈ A, f ∈ B)
    (hA : Initialised A t) : Initialised B t := by
  induction t generalizing A B with
  | nil => trivial
  | cons a t ih =>
    cases a with
    | read f => exact ⟨h f hA.1, ih h hA.2⟩
    | assign f =>
      refine ih (fun g hg => ?_) hA
      rcases List.mem_cons.mp hg with rfl | hg
      · exact List.mem_cons_self
      · exact List.mem_cons_of_mem f (h g hg)

/-- Where only the field `r` may be missing and is not assigned, nothing missing is read
exactly when `r` is not. -/
theorem initialised_iff {A : List φ} {t : List (Access φ)} {r : φ} (hr : r ∉ A)
    (hassign : .assign r ∉ t) (h : Initialised (r :: A) t) : Initialised A t ↔ .read r ∉ t := by
  induction t generalizing A with
  | nil => simp [Initialised]
  | cons a t ih =>
    rw [List.mem_cons, not_or] at hassign
    obtain ⟨hne, hrest⟩ := hassign
    cases a with
    | read f =>
      obtain ⟨hf, ht⟩ := h
      rw [Initialised, ih hr hrest ht, List.mem_cons, not_or]
      refine and_congr_left fun _ => ⟨?_, fun hfr => ?_⟩
      · rintro hf hrf
        exact hr (Access.read.inj hrf ▸ hf)
      · exact (List.mem_cons.mp hf).resolve_left fun h => hfr (congrArg Access.read h.symm)
    | assign f =>
      have hrf : r ∉ f :: A := by
        rw [List.mem_cons, not_or]
        exact ⟨fun h => hne (congrArg Access.assign h), hr⟩
      have hswap : Initialised (r :: f :: A) t := h.mono fun g hg => by simpa [or_left_comm] using hg
      rw [Initialised, ih hrf hrest hswap, List.mem_cons, not_or]
      exact (and_iff_right nofun).symm

end Trace

/-- The trace of a walk, put together from those of its steps. -/
def along {σ ε φ : Type*} (step : σ → ε → σ) (trace : σ → ε → List (Access φ)) :
    σ → List ε → List (Access φ)
  | _, [] => []
  | s, e :: es => trace s e ++ along step trace (step s e) es

theorem mem_along {σ ε φ : Type*} {step : σ → ε → σ} {trace : σ → ε → List (Access φ)}
    {a : Access φ} {s : σ} {es : List ε} (h : a ∈ along step trace s es) :
    ∃ s, ∃ e ∈ es, a ∈ trace s e := by
  induction es generalizing s with
  | nil => cases h
  | cons e es ih =>
    rcases List.mem_append.mp h with hfirst | hrest
    · exact ⟨s, e, List.mem_cons_self, hfirst⟩
    · obtain ⟨s', e', he', ha⟩ := ih hrest
      exact ⟨s', e', List.mem_cons_of_mem e he', ha⟩

/-- The same where what a step's trace holds is decided by the event. -/
theorem mem_along_iff {σ ε φ : Type*} {step : σ → ε → σ} {trace : σ → ε → List (Access φ)}
    {a : Access φ} {P : ε → Prop} (h : ∀ s e, a ∈ trace s e ↔ P e) {s : σ} {es : List ε} :
    a ∈ along step trace s es ↔ ∃ e ∈ es, P e := by
  induction es generalizing s with
  | nil => simp [along]
  | cons e es ih => simp only [along, List.mem_append, h, ih, List.exists_mem_cons_iff]

end CeloVpn.Accesses
