import Mathlib.Data.List.Basic
import Mathlib.Data.List.Infix

/-!
# The places of a word in a text

A word whose first letter comes only once in it does not overlap itself: its places in a
text lie apart, and what stands between them is what is left when it is taken out.
-/
namespace CeloVpn.Occurrences
variable {α : Type*} [DecidableEq α]

/-- The number of places of `w`. -/
def copies (w s : List α) : ℕ := s.tails.countP (w.isPrefixOf ·)

/-- What is left where every copy of `w` is taken out from left to right; the first `k`
elements belong to a copy that was found. -/
def othersFrom (w : List α) : ℕ → List α → List α
  | _, [] => []
  | k + 1, _ :: s => othersFrom w k s
  | 0, a :: s =>
    if w.isPrefixOf (a :: s) then othersFrom w (w.length - 1) s else a :: othersFrom w 0 s

def others (w s : List α) : List α := othersFrom w 0 s

variable {w s : List α}

theorem othersFrom_append (t : List α) (k : ℕ) (hk : s.length = k) :
    othersFrom w k (s ++ t) = others w t := by
  induction s generalizing k with
  | nil =>
    subst hk
    rfl
  | cons a s ih =>
    subst hk
    exact ih s.length rfl

/-- A copy at the beginning is taken out. -/
theorem others_append (hw : w ≠ []) (t : List α) : others w (w ++ t) = others w t := by
  obtain ⟨a, v, rfl⟩ := List.exists_cons_of_ne_nil hw
  have hbegins : (a :: v).isPrefixOf (a :: (v ++ t)) = true := by
    rw [List.isPrefixOf_iff_prefix]
    exact List.prefix_append (a :: v) t
  rw [List.cons_append, others, othersFrom, if_pos hbegins]
  exact othersFrom_append t _ (by simp)

theorem others_cons_of_none {a : α} (h : ¬w <+: a :: s) :
    others w (a :: s) = a :: others w s := by
  rw [others, othersFrom, if_neg (mt List.isPrefixOf_iff_prefix.mp h)]
  rfl

/-- A text of which nothing is left is made of copies. -/
theorem eq_flatten_of_others_nil (hw : w ≠ []) (h : others w s = []) :
    ∃ n, s = (List.replicate n w).flatten := by
  induction hn : s.length using Nat.strongRecOn generalizing s with
  | ind n ih =>
    cases s with
    | nil => exact ⟨0, rfl⟩
    | cons a s =>
      by_cases hbegins : w <+: a :: s
      · obtain ⟨t, ht⟩ := hbegins
        rw [← ht, others_append hw] at h
        have hlt : t.length < n := by
          have hpos := List.length_pos_iff.mpr hw
          rw [← hn, ← ht, List.length_append]
          omega
        obtain ⟨k, rfl⟩ := ih t.length hlt h rfl
        exact ⟨k + 1, ht.symm⟩
      · rw [others_cons_of_none hbegins] at h
        cases h

theorem copies_cons (w : List α) (a : α) (s : List α) :
    copies w (a :: s) = copies w s + if w.isPrefixOf (a :: s) then 1 else 0 := by
  rw [copies, List.tails_cons, List.countP_cons, copies]

theorem copies_le_append (s t : List α) : copies w t ≤ copies w (s ++ t) := by
  induction s with
  | nil => exact le_rfl
  | cons a s ih =>
    rw [List.cons_append, copies_cons]
    exact Nat.le_add_right_of_le ih

/-- A copy in front is one more. -/
theorem copies_lt_append (hw : w ≠ []) (t : List α) : copies w t < copies w (w ++ t) := by
  obtain ⟨a, v, rfl⟩ := List.exists_cons_of_ne_nil hw
  have hbegins : (a :: v).isPrefixOf (a :: (v ++ t)) = true := by
    rw [List.isPrefixOf_iff_prefix]
    exact List.prefix_append (a :: v) t
  rw [List.cons_append, copies_cons, if_pos hbegins]
  exact Nat.lt_succ_of_le (copies_le_append v t)

/-- With a copy at the end there is no other one exactly where there is none in front. -/
theorem not_infix_of_copies (hw : w ≠ []) (h : copies w (s ++ w) = 1) : ¬w <:+: s := by
  rintro ⟨x, y, rfl⟩
  have hend : copies w [] < copies w w := by
    have hlast := copies_lt_append hw ([] : List α)
    rwa [List.append_nil] at hlast
  have hlast : copies w w ≤ copies w (y ++ w) := copies_le_append y w
  have hone := copies_lt_append hw (y ++ w)
  have hall := copies_le_append (w := w) x (w ++ (y ++ w))
  rw [List.append_assoc, List.append_assoc] at h
  omega

section Head
variable {a : α} {v : List α}

omit [DecidableEq α] in
/-- Such a word does not begin inside another one of its copies. -/
theorem not_prefix_append (ha : a ∉ v) (hs : s ≠ []) (h : ¬a :: v <:+: s) :
    ¬a :: v <+: s ++ a :: v := by
  intro hbegins
  rcases List.prefix_or_prefix_of_prefix hbegins (List.prefix_append s (a :: v)) with hin | hout
  · exact h hin.isInfix
  · obtain ⟨r, hr⟩ := hout
    have hrest : r <+: a :: v := by
      rw [← hr] at hbegins
      exact hr ▸ (List.prefix_append_right_inj s).mp hbegins
    cases r with
    | nil =>
      rw [List.append_nil] at hr
      exact h (hr ▸ List.infix_rfl)
    | cons c r =>
      obtain ⟨b, s, rfl⟩ := List.exists_cons_of_ne_nil hs
      obtain rfl : c = a := (List.cons_prefix_cons.mp hrest).1
      exact ha ((List.cons.inj hr).2 ▸ List.mem_append_right s List.mem_cons_self)

/-- What stands in front of the only copy is what is left. -/
theorem others_append_word (ha : a ∉ v) (h : ¬a :: v <:+: s) :
    others (a :: v) (s ++ a :: v) = s := by
  induction s with
  | nil =>
    have hword := others_append (w := a :: v) (List.cons_ne_nil a v) []
    rwa [List.append_nil] at hword
  | cons b s ih =>
    have htail : ¬a :: v <:+: s := fun hmem => h (hmem.trans (List.suffix_cons b s).isInfix)
    have hnone := not_prefix_append ha (List.cons_ne_nil b s) h
    rw [List.cons_append] at hnone ⊢
    rw [others_cons_of_none hnone, ih htail]

end Head
end CeloVpn.Occurrences
