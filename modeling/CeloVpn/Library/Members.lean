import CeloVpn.Library.Json
import Mathlib.Data.List.Lex

/-!
# The members of an object by key

An object holds its members by ascending keys, whatever the order in which they were put
in. A key that was put in again has its last value.
-/
namespace CeloVpn.Json
variable {ν : Type*} {m : QString × Json ν} {ms : List (QString × Json ν)}

/-- Each key is smaller than the next one. -/
def Ascending (ms : List (QString × Json ν)) : Prop := ms.Pairwise (·.1 < ·.1)

theorem mem_insert {m' : QString × Json ν} (h : m' ∈ insert m ms) : m' = m ∨ m' ∈ ms := by
  induction ms with
  | nil => exact .inl (List.mem_singleton.mp h)
  | cons first ms ih =>
    unfold insert at h
    split_ifs at h
    · exact List.mem_cons.mp h
    · exact (List.mem_cons.mp h).imp_right (List.mem_cons_of_mem _)
    · rcases List.mem_cons.mp h with rfl | hrest
      · exact .inr List.mem_cons_self
      · exact (ih hrest).imp_right (List.mem_cons_of_mem _)

theorem mem_collect {m : QString × Json ν} (h : m ∈ collect ms) : m ∈ ms := by
  induction ms using List.reverseRecOn with
  | nil => cases h
  | append_singleton ms last ih =>
    rw [collect, List.foldl_append] at h
    rcases mem_insert h with rfl | h
    · exact List.mem_append_right _ (List.mem_singleton_self m)
    · exact List.mem_append_left _ (ih h)

theorem Ascending.insert (h : Ascending ms) (m : QString × Json ν) :
    Ascending (insert m ms) := by
  induction ms with
  | nil => exact List.pairwise_singleton _ _
  | cons first ms ih =>
    obtain ⟨hfirst, hrest⟩ := List.pairwise_cons.mp h
    unfold Json.insert
    split_ifs with hlt heq
    · refine List.pairwise_cons.mpr ⟨fun m' hm' => ?_, h⟩
      rcases List.mem_cons.mp hm' with rfl | hm'
      · exact hlt
      · exact List.lt_trans hlt (hfirst m' hm')
    · exact List.pairwise_cons.mpr ⟨fun m' hm' => heq ▸ hfirst m' hm', hrest⟩
    · refine List.pairwise_cons.mpr ⟨fun m' hm' => ?_, ih hrest⟩
      rcases mem_insert hm' with rfl | hm'
      · exact by_contra fun hge => heq (List.le_antisymm hge hlt)
      · exact hfirst m' hm'

theorem ascending_collect (ms : List (QString × Json ν)) : Ascending (collect ms) := by
  induction ms using List.reverseRecOn with
  | nil => exact List.Pairwise.nil
  | append_singleton ms m ih =>
    rw [collect, List.foldl_append]
    exact ih.insert m

/-- A key above all others goes to the end. -/
theorem insert_of_lt (h : ∀ m' ∈ ms, m'.1 < m.1) : insert m ms = ms ++ [m] := by
  induction ms with
  | nil => rfl
  | cons first ms ih =>
    obtain ⟨hfirst, hrest⟩ := List.forall_mem_cons.mp h
    have hne : m.1 ≠ first.1 := by
      intro heq
      exact List.lt_irrefl _ (heq ▸ hfirst)
    rw [insert, if_neg (List.lt_asymm hfirst), if_neg hne, ih hrest, List.cons_append]

/-- Members that are in order stay as they are. -/
theorem collect_of_ascending (h : Ascending ms) : collect ms = ms := by
  induction ms using List.reverseRecOn with
  | nil => rfl
  | append_singleton ms m ih =>
    obtain ⟨hbefore, -, hlast⟩ := List.pairwise_append.mp h
    have hcollect : ms.foldl (fun o m => insert m o) [] = ms := ih hbefore
    rw [collect, List.foldl_append, hcollect]
    exact insert_of_lt fun m' hm' => hlast m' hm' m (List.mem_singleton_self m)

theorem lookup_cons (m : QString × Json ν) (ms : List (QString × Json ν)) (k : QString) :
    (m :: ms).lookup k = if k = m.1 then some m.2 else ms.lookup k := by
  by_cases hk : k = m.1
  · rw [if_pos hk, hk]
    exact List.lookup_cons_self
  · rw [if_neg hk, List.lookup_cons, beq_eq_false_iff_ne.mpr hk]

/-- What is found under a key once a member was put in. -/
theorem lookup_insert (m : QString × Json ν) (ms : List (QString × Json ν)) (k : QString) :
    (insert m ms).lookup k = if k = m.1 then some m.2 else ms.lookup k := by
  induction ms with
  | nil => exact lookup_cons m [] k
  | cons first ms ih =>
    by_cases hlt : m.1 < first.1
    · rw [insert, if_pos hlt, lookup_cons m]
    · by_cases heq : m.1 = first.1
      · rw [insert, if_neg hlt, if_pos heq, lookup_cons m, lookup_cons first, ← heq]
        by_cases hk : k = m.1
        · rw [if_pos hk, if_pos hk]
        · rw [if_neg hk, if_neg hk, if_neg hk]
      · rw [insert, if_neg hlt, if_neg heq, lookup_cons first, lookup_cons first, ih]
        by_cases hk : k = m.1
        · rw [if_pos hk, if_pos hk, if_neg fun hfirst => heq (hk.symm.trans hfirst)]
        · rw [if_neg hk, if_neg hk]

/-- Under each key the value that was put in last is found. -/
theorem lookup_collect (ms : List (QString × Json ν)) (k : QString) :
    (collect ms).lookup k = ms.reverse.lookup k := by
  induction ms using List.reverseRecOn with
  | nil => rfl
  | append_singleton ms m ih =>
    have hcollect : collect (ms ++ [m]) = insert m (collect ms) := by
      rw [collect, List.foldl_append]
      rfl
    rw [hcollect, lookup_insert, ih, List.reverse_append, List.reverse_singleton,
      List.singleton_append, lookup_cons]

end CeloVpn.Json
