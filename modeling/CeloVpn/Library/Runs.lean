import Mathlib.Data.List.Basic
import Mathlib.Data.List.Induction
import Mathlib.Logic.Relation

/-!
# Runs of a deterministic step function, and newest-first histories

A system is a total step function on states and events. An event whose source
is not pending leaves the state alone, so that every event list is a run. The
rules below lift what one step preserves to a whole run, with and without a
condition that each event of the run has to meet in the state it finds.

A history is the list of what a system did, newest entry first. A property of
every entry may look at the entries older than it.
-/
namespace CeloVpn.Runs

section Runs
variable {σ ε : Type*} (step : σ → ε → σ)

/-- The state after the events of a list, taken in order. -/
def run (s : σ) (es : List ε) : σ := es.foldl step s

/-- The condition `C` holds at each event of the run, in the state it finds. -/
def Meets (C : σ → ε → Prop) : σ → List ε → Prop
  | _, [] => True
  | s, e :: es => C s e ∧ Meets C (step s e) es

instance decidableMeets {C : σ → ε → Prop} [∀ s e, Decidable (C s e)] :
    ∀ s es, Decidable (Meets step C s es)
  | _, [] => isTrue trivial
  | s, e :: es =>
    haveI := decidableMeets (step s e) es (C := C)
    inferInstanceAs (Decidable (C s e ∧ Meets step C (step s e) es))

/-- The property `P` holds of every state of the run, both ends included. -/
def Throughout (P : σ → Prop) : σ → List ε → Prop
  | s, [] => P s
  | s, e :: es => P s ∧ Throughout P (step s e) es

variable {step}

theorem run_append (s : σ) (es es' : List ε) :
    run step s (es ++ es') = run step (run step s es) es' := List.foldl_append

/-- Where every step is a run of the system behind it, so is every run. -/
theorem exists_run {τ ε' : Type*} {step' : τ → ε' → τ} {f : σ → τ}
    (h : ∀ s e, ∃ es', f (step s e) = run step' (f s) es') (s : σ) (es : List ε) :
    ∃ es', f (run step s es) = run step' (f s) es' := by
  induction es generalizing s with
  | nil => exact ⟨[], rfl⟩
  | cons e es ih =>
    obtain ⟨first, hfirst⟩ := h s e
    obtain ⟨rest, hrest⟩ := ih (step s e)
    refine ⟨first ++ rest, ?_⟩
    rw [run_append, ← hfirst]
    exact hrest

/-- `Meets` speaks of every split of the run into what came before an event,
the event, and what follows. -/
theorem meets_iff_split {C : σ → ε → Prop} {s : σ} {es : List ε} :
    Meets step C s es ↔ ∀ before e after, es = before ++ e :: after →
      C (run step s before) e := by
  induction es generalizing s with
  | nil => simp [Meets]
  | cons e es ih =>
    rw [Meets, ih]
    constructor
    · rintro ⟨he, hes⟩ before f after hsplit
      cases before with
      | nil => obtain ⟨rfl, rfl⟩ := List.cons.inj hsplit; exact he
      | cons g before =>
        obtain ⟨rfl, htail⟩ := List.cons.inj hsplit
        exact hes before f after htail
    · intro h
      exact ⟨h [] e es rfl, fun before f after hsplit =>
        h (e :: before) f after (congrArg (e :: ·) hsplit)⟩

/-- A condition that always holds is met by every run. -/
theorem meets_of_forall {C : σ → ε → Prop} (h : ∀ s e, C s e) (s : σ) (es : List ε) :
    Meets step C s es := by
  induction es generalizing s with
  | nil => trivial
  | cons e es ih => exact ⟨h s e, ih (step s e)⟩

/-- A condition on the events alone is met by a run when each of its events meets it. -/
theorem meets_iff_forall {D : ε → Prop} {s : σ} {es : List ε} :
    Meets step (fun _ => D) s es ↔ ∀ e ∈ es, D e := by
  induction es generalizing s with
  | nil => simp [Meets]
  | cons e es ih => rw [Meets, ih, List.forall_mem_cons]

/-- A condition that implies another at each event does so along a run. -/
theorem Meets.imp {C D : σ → ε → Prop} (h : ∀ s e, C s e → D s e) {s : σ} {es : List ε}
    (hm : Meets step C s es) : Meets step D s es := by
  induction es generalizing s with
  | nil => trivial
  | cons e es ih => exact ⟨h s e hm.1, ih hm.2⟩

theorem Meets.and {C D : σ → ε → Prop} {s : σ} {es : List ε} (hC : Meets step C s es)
    (hD : Meets step D s es) : Meets step (fun s e => C s e ∧ D s e) s es := by
  induction es generalizing s with
  | nil => trivial
  | cons e es ih => exact ⟨⟨hC.1, hD.1⟩, ih hC.2 hD.2⟩

/-- Two conditions are met together if they are equivalent wherever `I` holds, which
the events that meet the second one keep. -/
theorem meets_iff_meets {I : σ → Prop} {C D : σ → ε → Prop}
    (hI : ∀ s e, I s → D s e → I (step s e)) (h : ∀ s e, I s → (C s e ↔ D s e))
    {s : σ} (hs : I s) {es : List ε} : Meets step C s es ↔ Meets step D s es := by
  induction es generalizing s with
  | nil => exact Iff.rfl
  | cons e es ih =>
    rw [Meets, Meets, h s e hs]
    exact and_congr_right fun hD => ih (hI s e hs hD)

/-- Two conditions equivalent wherever an invariant holds are met together. -/
theorem meets_congr {I : σ → Prop} {C D : σ → ε → Prop}
    (hI : ∀ s e, I s → I (step s e)) (h : ∀ s e, I s → (C s e ↔ D s e))
    {s : σ} (hs : I s) {es : List ε} : Meets step C s es ↔ Meets step D s es :=
  meets_iff_meets (fun s e hi _ => hI s e hi) h hs

/-- A condition on a part of the state that has a step function of its own. -/
theorem meets_comap {τ : Type*} {step' : τ → ε → τ} {f : σ → τ} {C : τ → ε → Prop}
    (h : ∀ s e, f (step s e) = step' (f s) e) {s : σ} {es : List ε} :
    Meets step (fun s => C (f s)) s es ↔ Meets step' C (f s) es := by
  induction es generalizing s with
  | nil => exact Iff.rfl
  | cons e es ih => rw [Meets, Meets, ih, h]

/-- What every step preserves where its condition is met holds at the end of a
run that meets the condition throughout. -/
theorem run_of_meets {C : σ → ε → Prop} {P : σ → Prop}
    (h : ∀ s e, C s e → P s → P (step s e)) {s : σ} {es : List ε}
    (hs : P s) (hm : Meets step C s es) : P (run step s es) := by
  induction es generalizing s with
  | nil => exact hs
  | cons e es ih => exact ih (h s e hm.1 hs) hm.2

/-- It holds of every state on the way, too. -/
theorem throughout_of_meets {C : σ → ε → Prop} {P : σ → Prop}
    (h : ∀ s e, C s e → P s → P (step s e)) {s : σ} {es : List ε}
    (hs : P s) (hm : Meets step C s es) : Throughout step P s es := by
  induction es generalizing s with
  | nil => exact hs
  | cons e es ih => exact ⟨hs, ih (h s e hm.1 hs) hm.2⟩

/-- The same where the condition is one on the event alone. -/
theorem throughout_of_forall {C : ε → Prop} {P : σ → Prop}
    (h : ∀ s e, C e → P s → P (step s e)) {s : σ} {es : List ε}
    (hs : P s) (hes : ∀ e ∈ es, C e) : Throughout step P s es := by
  induction es generalizing s with
  | nil => exact hs
  | cons e es ih =>
    obtain ⟨he, hes⟩ := List.forall_mem_cons.mp hes
    exact ⟨hs, ih (h s e he hs) hes⟩

theorem Throughout.imp {P Q : σ → Prop} (h : ∀ s, P s → Q s) {s : σ} {es : List ε}
    (hp : Throughout step P s es) : Throughout step Q s es := by
  induction es generalizing s with
  | nil => exact h s hp
  | cons e es ih => exact ⟨h s hp.1, ih hp.2⟩

theorem Throughout.last {P : σ → Prop} {s : σ} {es : List ε} (hp : Throughout step P s es) :
    P (run step s es) := by
  induction es generalizing s with
  | nil => exact hp
  | cons e es ih => exact ih hp.2

/-- Two properties equivalent wherever an invariant holds do so along a run. -/
theorem throughout_congr {I P Q : σ → Prop} (hI : ∀ s e, I s → I (step s e))
    (h : ∀ s, I s → (P s ↔ Q s)) {s : σ} (hs : I s) {es : List ε} :
    Throughout step P s es ↔ Throughout step Q s es := by
  induction es generalizing s with
  | nil => exact h s hs
  | cons e es ih => exact and_congr (h s hs) (ih (hI s e hs))

/-- What holds of each event because of the state it finds. -/
theorem Throughout.meets {P : σ → Prop} {C : σ → ε → Prop} (h : ∀ s e, P s → C s e) {s : σ}
    {es : List ε} (hp : Throughout step P s es) : Meets step C s es := by
  induction es generalizing s with
  | nil => trivial
  | cons e es ih => exact ⟨h s e hp.1, ih hp.2⟩

/-- The unconditional form: an invariant of the step function. -/
theorem run_invariant {P : σ → Prop} (h : ∀ s e, P s → P (step s e)) {s : σ}
    (hs : P s) (es : List ε) : P (run step s es) := by
  induction es generalizing s with
  | nil => exact hs
  | cons e es ih => exact ih (h s e hs)

/-- Where, under an invariant, a step keeps `P` exactly when it meets `C`, a run
keeps `P` throughout exactly when all of its events meet `C`. -/
theorem throughout_iff_meets {I P : σ → Prop} {C : σ → ε → Prop}
    (hI : ∀ s e, I s → I (step s e))
    (h : ∀ s e, I s → P s → (P (step s e) ↔ C s e)) {s : σ} {es : List ε}
    (hi : I s) (hs : P s) : Throughout step P s es ↔ Meets step C s es := by
  induction es generalizing s with
  | nil => simpa [Throughout, Meets] using hs
  | cons e es ih =>
    constructor
    · rintro ⟨-, hrest⟩
      have hP : P (step s e) := by
        cases es with
        | nil => exact hrest
        | cons f fs => exact hrest.1
      exact ⟨(h s e hi hs).mp hP, (ih (hI s e hi) hP).mp hrest⟩
    · rintro ⟨hC, hrest⟩
      have hP : P (step s e) := (h s e hi hs).mpr hC
      exact ⟨hs, (ih (hI s e hi) hP).mpr hrest⟩

/-- How many events of the run satisfy `P` of the state they find. -/
def countAlong (step : σ → ε → σ) (P : σ → ε → Bool) : σ → List ε → ℕ
  | _, [] => 0
  | s, e :: es => (if P s e then 1 else 0) + countAlong step P (step s e) es

/-- A number that, under an invariant, grows by one at just these events grows by their
number. -/
theorem run_countAlong {I : σ → Prop} {P : σ → ε → Bool} {f : σ → ℕ}
    (hI : ∀ s e, I s → I (step s e))
    (hf : ∀ s e, I s → f (step s e) = f s + if P s e then 1 else 0) {s : σ} (hs : I s)
    (es : List ε) : f (run step s es) = f s + countAlong step P s es := by
  induction es generalizing s with
  | nil => rfl
  | cons e es ih =>
    have hrest := ih (hI s e hs)
    rw [hf s e hs] at hrest
    rw [countAlong, ← Nat.add_assoc]
    exact hrest

/-- At this event of the run, which these come before, `f` changes for the last time. -/
def LastChange {α : Type*} (step : σ → ε → σ) (f : σ → α) (s : σ) (es before : List ε) (e : ε) :
    Prop :=
  (∃ after, es = before ++ e :: after) ∧
    f (run step s (before ++ [e])) ≠ f (run step s before) ∧
    f (run step s es) = f (run step s (before ++ [e]))

/-- A run without such an event leaves `f` as it is. -/
theorem exists_lastChange {α : Type*} (f : σ → α) (s : σ) (es : List ε) :
    f (run step s es) = f s ∨ ∃ before e, LastChange step f s es before e := by
  induction es using List.reverseRecOn with
  | nil => exact .inl rfl
  | append_singleton es e ih =>
    by_cases hsame : f (run step s (es ++ [e])) = f (run step s es)
    · refine ih.imp hsame.trans ?_
      rintro ⟨before, e', ⟨after, rfl⟩, hchange, hkept⟩
      exact ⟨before, e', ⟨after ++ [e], by simp⟩, hchange, hsame.trans hkept⟩
    · exact .inr ⟨es, e, ⟨[], rfl⟩, hsame, rfl⟩

/-- A state is reachable when some run from an initial state ends in it. -/
def Reachable (step : σ → ε → σ) (initial : σ → Prop) (s : σ) : Prop :=
  ∃ s₀, initial s₀ ∧ ∃ es, s = run step s₀ es

theorem Reachable.invariant {initial P : σ → Prop} (h₀ : ∀ s, initial s → P s)
    (h : ∀ s e, P s → P (step s e)) {s : σ} (hr : Reachable step initial s) : P s := by
  obtain ⟨s₀, hs₀, es, rfl⟩ := hr
  exact run_invariant h (h₀ s₀ hs₀) es

end Runs

section History
variable {α : Type*}

/-- Every entry of a newest-first history satisfies `P` of itself and of the
entries older than it. -/
def AtEach (P : α → List α → Prop) : List α → Prop
  | [] => True
  | a :: older => P a older ∧ AtEach P older

instance decidableAtEach {P : α → List α → Prop} [∀ a h, Decidable (P a h)] :
    ∀ h, Decidable (AtEach P h)
  | [] => isTrue trivial
  | a :: older =>
    haveI := decidableAtEach older (P := P)
    inferInstanceAs (Decidable (P a older ∧ AtEach P older))

/-- A history is `base` with newer entries, all of which satisfy `P`. -/
def Adds (P : α → Prop) (base h : List α) : Prop := ∃ new, h = new ++ base ∧ ∀ a ∈ new, P a

theorem Adds.refl (P : α → Prop) (h : List α) : Adds P h h := ⟨[], rfl, nofun⟩

theorem Adds.cons {P : α → Prop} {base h : List α} {a : α} (ha : P a) (hadds : Adds P base h) :
    Adds P base (a :: h) := by
  obtain ⟨new, rfl, hnew⟩ := hadds
  exact ⟨a :: new, rfl, List.forall_mem_cons.mpr ⟨ha, hnew⟩⟩

theorem Adds.trans {P : α → Prop} {base h h' : List α} (hadds : Adds P base h)
    (hadds' : Adds P h h') : Adds P base h' := by
  obtain ⟨new, rfl, hnew⟩ := hadds
  obtain ⟨new', rfl, hnew'⟩ := hadds'
  refine ⟨new' ++ new, (List.append_assoc _ _ _).symm, fun a ha => ?_⟩
  exact (List.mem_append.mp ha).elim (hnew' a) (hnew a)

end History

end CeloVpn.Runs
