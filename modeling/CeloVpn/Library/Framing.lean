import Mathlib.Algebra.BigOperators.Group.List.Basic
import Mathlib.Algebra.GroupWithZero.Nat
import Mathlib.Data.List.Basic
import Mathlib.Tactic.Common

/-!
# Streams of separated lines, read in portions

A stream arrives in portions that know nothing of its lines. A reader that keeps
what follows the last separator sees the lines whatever the portions are. A
reader that takes each portion for itself sees them exactly when no portion ends
inside a line.
-/
namespace CeloVpn.Framing
variable {α : Type*} [DecidableEq α] (c : α)

/-- The lines that a separator ends. -/
def lines (s : List α) : List (List α) := (s.splitOn c).dropLast

/-- What stands after the last separator. -/
def rest (s : List α) : List α := (s.splitOn c).getLast (List.splitOn_ne_nil c s)

/-- The parts between separators, without the empty ones. -/
def pieces (s : List α) : List (List α) := (s.splitOn c).filter (· ≠ [])

variable {c}

theorem lines_of_not_mem {s : List α} (h : c ∉ s) : lines c s = [] := by
  simp [lines, List.splitOn_eq_singleton h]

theorem rest_of_not_mem {s : List α} (h : c ∉ s) : rest c s = s := by
  simp [rest, List.splitOn_eq_singleton h]

theorem lines_line {l : List α} (h : c ∉ l) (s : List α) :
    lines c (l ++ c :: s) = l :: lines c s := by
  rw [lines, List.splitOn_append_cons_self_of_not_mem h,
    List.dropLast_cons_of_ne_nil (List.splitOn_ne_nil c s), lines]

theorem rest_line {l : List α} (h : c ∉ l) (s : List α) : rest c (l ++ c :: s) = rest c s := by
  simp only [rest, List.splitOn_append_cons_self_of_not_mem h]
  exact List.getLast_cons (List.splitOn_ne_nil c s)

/-- A stream has one first line. -/
theorem line_inj {l l' s s' : List α} (h : c ∉ l) (h' : c ∉ l') :
    l ++ c :: s = l' ++ c :: s' ↔ l = l' ∧ s = s' := by
  constructor
  · intro heq
    have hfirst : ∀ {l s : List α}, c ∉ l → (l ++ c :: s).takeWhile (· ≠ c) = l := by
      intro l s hl
      have hkeep : ∀ a ∈ l, decide (a ≠ c) = true := fun a ha =>
        decide_eq_true fun hac : a = c => hl (hac ▸ ha)
      rw [List.takeWhile_append_of_pos hkeep, List.takeWhile_cons_of_neg (by simp), List.append_nil]
    have hl : l = l' := by rw [← hfirst h, heq, hfirst h']
    subst hl
    exact ⟨rfl, (List.cons.inj (List.append_cancel_left heq)).2⟩
  · rintro ⟨rfl, rfl⟩
    rfl

theorem pieces_nil : pieces c [] = [] := by simp [pieces]

theorem pieces_of_not_mem {s : List α} (h : c ∉ s) (hne : s ≠ []) : pieces c s = [s] := by
  simp [pieces, List.splitOn_eq_singleton h, hne]

theorem pieces_append_sep (l s : List α) : pieces c (l ++ c :: s) = pieces c l ++ pieces c s := by
  rw [pieces, List.splitOn_append_cons_self, List.filter_append, pieces, pieces]

/-- A stream has no separator, or it begins with a line. -/
theorem line_induction {P : List α → Prop} (hrest : ∀ s, c ∉ s → P s)
    (hline : ∀ l s, c ∉ l → P s → P (l ++ c :: s)) (s : List α) : P s := by
  induction hn : s.length using Nat.strongRecOn generalizing s with
  | ind n ih =>
    by_cases hc : c ∈ s
    · obtain ⟨l, t, rfl, hl⟩ := List.eq_append_cons_of_mem hc
      have hlt : t.length < n := by
        simp only [List.length_append, List.length_cons] at hn
        omega
      exact hline l t hl (ih t.length hlt t rfl)
    · exact hrest s hc

theorem not_mem_rest (s : List α) : c ∉ rest c s := by
  induction s using line_induction (c := c) with
  | hrest s h => rwa [rest_of_not_mem h]
  | hline l s h ih => rwa [rest_line h]

/-- No part of a stream has the separator. -/
theorem not_mem_of_mem_splitOn {s : List α} : ∀ l ∈ s.splitOn c, c ∉ l := by
  induction s using line_induction (c := c) with
  | hrest s h =>
    rw [List.splitOn_eq_singleton h]
    exact List.forall_mem_singleton.mpr h
  | hline l s h ih =>
    rw [List.splitOn_append_cons_self_of_not_mem h]
    exact List.forall_mem_cons.mpr ⟨h, ih⟩

theorem lines_append (s t : List α) : lines c (s ++ t) = lines c s ++ lines c (rest c s ++ t) := by
  induction s using line_induction (c := c) with
  | hrest s h => simp [lines_of_not_mem h, rest_of_not_mem h]
  | hline l s h ih =>
    rw [List.append_assoc, List.cons_append, lines_line h, lines_line h, rest_line h, ih,
      List.cons_append]

theorem rest_append (s t : List α) : rest c (s ++ t) = rest c (rest c s ++ t) := by
  induction s using line_induction (c := c) with
  | hrest s h => rw [rest_of_not_mem h]
  | hline l s h ih => rw [List.append_assoc, List.cons_append, rest_line h, rest_line h, ih]

/-- The pieces are the lines and what follows them, where these are not empty. -/
theorem pieces_eq (s : List α) :
    pieces c s = (lines c s).filter (· ≠ []) ++ pieces c (rest c s) := by
  induction s using line_induction (c := c) with
  | hrest s h => simp [lines_of_not_mem h, rest_of_not_mem h]
  | hline l s h ih =>
    rw [pieces_append_sep, ih, lines_line h, rest_line h, List.filter_cons]
    by_cases hl : l = []
    · simp [hl, pieces_nil]
    · simp [hl, pieces_of_not_mem h hl]

theorem pieces_append (s t : List α) :
    pieces c (s ++ t) = (lines c s).filter (· ≠ []) ++ pieces c (rest c s ++ t) := by
  induction s using line_induction (c := c) with
  | hrest s h => simp [lines_of_not_mem h, rest_of_not_mem h]
  | hline l s h ih =>
    rw [List.append_assoc, List.cons_append, pieces_append_sep, ih, lines_line h, rest_line h,
      List.filter_cons]
    by_cases hl : l = []
    · simp [hl, pieces_nil]
    · simp [hl, pieces_of_not_mem h hl]

/-- The stream of given lines. -/
def unlines (c : α) (ls : List (List α)) : List α := ls.flatMap (· ++ [c])

theorem lines_unlines {ls : List (List α)} (h : ∀ l ∈ ls, c ∉ l) : lines c (unlines c ls) = ls := by
  induction ls with
  | nil => exact lines_of_not_mem List.not_mem_nil
  | cons l ls ih =>
    obtain ⟨hl, hls⟩ := List.forall_mem_cons.mp h
    rw [unlines, List.flatMap_cons, List.append_assoc, List.singleton_append, lines_line hl]
    exact congrArg (l :: ·) (ih hls)

theorem rest_unlines {ls : List (List α)} (h : ∀ l ∈ ls, c ∉ l) : rest c (unlines c ls) = [] := by
  induction ls with
  | nil => exact rest_of_not_mem List.not_mem_nil
  | cons l ls ih =>
    obtain ⟨hl, hls⟩ := List.forall_mem_cons.mp h
    rw [unlines, List.flatMap_cons, List.append_assoc, List.singleton_append, rest_line hl]
    exact ih hls

theorem not_mem_of_mem_lines {s : List α} : ∀ l ∈ lines c s, c ∉ l :=
  fun l hl => not_mem_of_mem_splitOn l (List.dropLast_subset _ hl)

/-- A stream is its lines and what follows them. -/
theorem unlines_lines (s : List α) : unlines c (lines c s) ++ rest c s = s := by
  induction s using line_induction (c := c) with
  | hrest s h => rw [lines_of_not_mem h, rest_of_not_mem h, unlines, List.flatMap_nil, List.nil_append]
  | hline l s h ih =>
    rw [lines_line h, rest_line h, unlines, List.flatMap_cons, List.append_assoc]
    rw [unlines] at ih
    rw [ih, List.append_assoc, List.singleton_append]

theorem length_lines (s : List α) : (lines c s).length = s.count c := by
  induction s using line_induction (c := c) with
  | hrest s h => rw [lines_of_not_mem h, List.count_eq_zero_of_not_mem h, List.length_nil]
  | hline l s h ih =>
    rw [lines_line h, List.length_cons, ih, List.count_append, List.count_eq_zero_of_not_mem h,
      List.count_cons_self, Nat.zero_add]

theorem splitOn_eq (s : List α) : s.splitOn c = lines c s ++ [rest c s] :=
  (List.dropLast_append_getLast (List.splitOn_ne_nil c s)).symm

/-- What is no separator is in one of the parts. -/
theorem exists_mem_splitOn_iff {a : α} (ha : a ≠ c) (s : List α) :
    (∃ l ∈ s.splitOn c, a ∈ l) ↔ a ∈ s := by
  induction s using line_induction (c := c) with
  | hrest s h => simp only [List.splitOn_eq_singleton h, List.mem_singleton, exists_eq_left]
  | hline l s h ih =>
    rw [List.splitOn_append_cons_self_of_not_mem h, List.mem_append, List.mem_cons, or_iff_right ha,
      ← ih]
    simp only [List.mem_cons, or_and_right, exists_or, exists_eq_left]

theorem length_splitOn (s : List α) : (s.splitOn c).length = s.count c + 1 := by
  rw [splitOn_eq, List.length_append, length_lines, List.length_singleton]

/-- Fields without the separator are those between its places. -/
theorem exists_intercalate_iff {P : List α → Prop} (hP : ∀ l, P l → c ∉ l) {n : ℕ} (hn : n ≠ 0)
    {s : List α} : (∃ ls : List (List α), ls.length = n ∧ [c].intercalate ls = s ∧ ∀ l ∈ ls, P l) ↔
      (s.splitOn c).length = n ∧ ∀ l ∈ s.splitOn c, P l := by
  constructor
  · rintro ⟨ls, hlength, rfl, hls⟩
    have hne : ls ≠ [] := by
      rintro rfl
      exact hn hlength.symm
    rw [List.splitOn_intercalate c (fun l hl => hP l (hls l hl)) hne]
    exact ⟨hlength, hls⟩
  · rintro ⟨hlength, hls⟩
    exact ⟨s.splitOn c, hlength, List.intercalate_splitOn c, hls⟩

theorem pieces_unlines {ls : List (List α)} (h : ∀ l ∈ ls, c ∉ l) :
    pieces c (unlines c ls) = ls.filter (· ≠ []) := by
  rw [pieces_eq, lines_unlines h, rest_unlines h, pieces_nil, List.append_nil]

variable (c)

/-- The lines found in the portions, and what is kept at the end. -/
def receive (buffer : List α) : List (List α) → List (List α) × List α
  | [] => ([], buffer)
  | x :: xs =>
    let later := receive (rest c (buffer ++ x)) xs
    (lines c (buffer ++ x) ++ later.1, later.2)

/-- The portions do not matter. -/
theorem receive_eq {buffer : List α} (h : c ∉ buffer) (xs : List (List α)) :
    receive c buffer xs = (lines c (buffer ++ xs.flatten), rest c (buffer ++ xs.flatten)) := by
  induction xs generalizing buffer with
  | nil => simp [receive, lines_of_not_mem h, rest_of_not_mem h]
  | cons x xs ih =>
    rw [receive, ih (not_mem_rest (buffer ++ x)), List.flatten_cons, ← List.append_assoc,
      lines_append (buffer ++ x), rest_append (buffer ++ x)]

/-- What is taken at a time, and what is left waiting. -/
def takes (buffer : List α) : List (List α) → List (List α) × List α
  | [] => ([], buffer)
  | x :: xs =>
    if c ∈ buffer ++ x then
      let later := takes [] xs
      ((buffer ++ x) :: later.1, later.2)
    else takes (buffer ++ x) xs

theorem takes_flatten (buffer : List α) (xs : List (List α)) :
    (takes c buffer xs).1.flatten ++ (takes c buffer xs).2 = buffer ++ xs.flatten := by
  induction xs generalizing buffer with
  | nil => simp [takes]
  | cons x xs ih =>
    unfold takes
    split_ifs with hc
    · simp only [List.flatten_cons, List.append_assoc, ih [], List.nil_append]
    · rw [ih, List.flatten_cons, List.append_assoc]

theorem not_mem_takes {buffer : List α} (h : c ∉ buffer) (xs : List (List α)) :
    c ∉ (takes c buffer xs).2 := by
  induction xs generalizing buffer with
  | nil => exact h
  | cons x xs ih =>
    unfold takes
    split_ifs with hc
    · exact ih List.not_mem_nil
    · exact ih hc

/-- Nothing is left waiting of a stream that ends with a line. -/
theorem takes_of_rest_nil {xs : List (List α)} (h : rest c xs.flatten = []) :
    (takes c [] xs).2 = [] ∧ (takes c [] xs).1.flatten = xs.flatten := by
  have hflatten := takes_flatten c [] xs
  have hleft : (takes c [] xs).2 = [] := by
    have hrest := rest_append (c := c) (takes c [] xs).1.flatten (takes c [] xs).2
    have hnot : c ∉ rest c (takes c [] xs).1.flatten ++ (takes c [] xs).2 := by
      simp [not_mem_rest, not_mem_takes c List.not_mem_nil xs]
    rw [hflatten, List.nil_append, h, rest_of_not_mem hnot] at hrest
    exact (List.append_eq_nil_iff.mp hrest.symm).2
  rw [hleft, List.append_nil, List.nil_append] at hflatten
  exact ⟨hleft, hflatten⟩

/-- Each reading ends after a separator or just before one, or at the end of everything. -/
def Whole : List (List α) → Prop
  | [] => True
  | b :: bs => (rest c b = [] ∨ bs.flatten = [] ∨ bs.flatten.head? = some c) ∧ Whole bs

instance decidableWhole : ∀ bs, Decidable (Whole c bs)
  | [] => isTrue trivial
  | b :: bs =>
    haveI := decidableWhole bs
    inferInstanceAs (Decidable ((rest c b = [] ∨ _ ∨ _) ∧ Whole c bs))

/-- How the readings cut up the pieces of the stream: the parts of each piece. -/
def parts : List (List α) → List (List (List α))
  | [] => []
  | b :: bs =>
    ((lines c b).filter (· ≠ [])).map (fun l => [l]) ++
      if rest c b = [] then parts bs
      else if bs.flatten = [] then [[rest c b]]
      else if bs.flatten.head? = some c then [rest c b] :: parts bs
      else match parts bs with
        | [] => [[rest c b]]
        | p :: ps => (rest c b :: p) :: ps

variable {c}

theorem flatMap_pieces_of_flatten_nil {bs : List (List α)} (h : bs.flatten = []) :
    bs.flatMap (pieces c) = [] := by
  rw [List.flatMap_eq_nil_iff]
  intro b hb
  rw [List.flatten_eq_nil_iff.mp h b hb, pieces_nil]

/-- A piece goes on in the next reading. -/
theorem pieces_continue {t s : List α} {a : α} (ht : c ∉ t) (hac : a ≠ c) :
    ∃ p ps, pieces c (a :: s) = p :: ps ∧ pieces c (t ++ a :: s) = (t ++ p) :: ps := by
  by_cases hc : c ∈ a :: s
  · obtain ⟨l, u, hsplit, hl⟩ := List.eq_append_cons_of_mem hc
    have hne : l ≠ [] := by
      rintro rfl
      exact hac (List.cons.inj hsplit).1
    have htl : c ∉ t ++ l := by simp [ht, hl]
    refine ⟨l, pieces c u, ?_, ?_⟩
    · rw [hsplit, pieces_append_sep, pieces_of_not_mem hl hne, List.singleton_append]
    · rw [hsplit, ← List.append_assoc, pieces_append_sep, pieces_of_not_mem htl (by simp [hne]),
        List.singleton_append]
  · have htc : c ∉ t ++ a :: s := by simp only [List.mem_append, ht, hc, or_self, not_false_eq_true]
    refine ⟨a :: s, [], pieces_of_not_mem hc (List.cons_ne_nil a s), ?_⟩
    rw [pieces_of_not_mem htc (by simp)]

theorem parts_ne_nil (bs : List (List α)) : ∀ p ∈ parts c bs, p ≠ [] := by
  induction bs with
  | nil => simp [parts]
  | cons b bs ih =>
    unfold parts
    intro p hp
    rcases List.mem_append.mp hp with hline | htail
    · obtain ⟨l, -, rfl⟩ := List.mem_map.mp hline
      exact List.cons_ne_nil l []
    · split_ifs at htail
      · exact ih p htail
      · rw [List.mem_singleton.mp htail]
        exact List.cons_ne_nil _ _
      · rcases List.mem_cons.mp htail with rfl | hlater
        · exact List.cons_ne_nil _ _
        · exact ih p hlater
      · split at htail
        · rw [List.mem_singleton.mp htail]
          exact List.cons_ne_nil _ _
        · rename_i hparts
          rcases List.mem_cons.mp htail with rfl | hlater
          · exact List.cons_ne_nil _ _
          · exact ih p (hparts ▸ List.mem_cons_of_mem _ hlater)

theorem map_flatten_parts (bs : List (List α)) :
    (parts c bs).map List.flatten = pieces c bs.flatten := by
  induction bs with
  | nil => simp [parts, pieces_nil]
  | cons b bs ih =>
    have hlines : (((lines c b).filter (· ≠ [])).map (fun l => [l])).map List.flatten =
        (lines c b).filter (· ≠ []) := by
      simp [List.map_map, Function.comp_def]
    rw [List.flatten_cons, pieces_append]
    unfold parts
    rw [List.map_append, hlines, List.append_cancel_left_eq]
    split_ifs with hrest hend hsep
    · rw [hrest, ih, List.nil_append]
    · rw [hend, List.append_nil, pieces_of_not_mem (not_mem_rest b) hrest]
      simp
    · obtain ⟨s, hs⟩ := List.head?_eq_some_iff.mp hsep
      have hempty : pieces c (c :: s) = pieces c s := by
        simpa [pieces_nil] using pieces_append_sep (c := c) [] s
      rw [List.map_cons, ih, hs, pieces_append_sep, pieces_of_not_mem (not_mem_rest b) hrest, hempty]
      simp
    · obtain ⟨a, s, hs⟩ := List.exists_cons_of_ne_nil hend
      have hac : a ≠ c := by
        rintro rfl
        exact hsep (by rw [hs]; rfl)
      obtain ⟨p, ps, hpieces, hcontinued⟩ := pieces_continue (s := s) (not_mem_rest b) hac
      rw [hs, hpieces] at ih
      rw [hs, hcontinued]
      cases hparts : parts c bs with
      | nil => simp [hparts] at ih
      | cons q qs =>
        rw [hparts, List.map_cons] at ih
        obtain ⟨hq, hqs⟩ := List.cons.inj ih
        rw [List.map_cons, List.flatten_cons, hq, hqs]

theorem flatten_parts (bs : List (List α)) : (parts c bs).flatten = bs.flatMap (pieces c) := by
  induction bs with
  | nil => simp [parts]
  | cons b bs ih =>
    have hlines : (((lines c b).filter (· ≠ [])).map (fun l => [l])).flatten =
        (lines c b).filter (· ≠ []) := by
      rw [← List.flatMap_def, List.flatMap_singleton']
    have hpieces : rest c b ≠ [] → pieces c (rest c b) = [rest c b] :=
      pieces_of_not_mem (not_mem_rest b)
    rw [List.flatMap_cons, pieces_eq b, ← ih, parts, List.flatten_append, hlines, List.append_assoc,
      List.append_cancel_left_eq]
    split_ifs with hrest hend hsep
    · rw [hrest, pieces_nil, List.nil_append]
    · rw [hpieces hrest, ih, flatMap_pieces_of_flatten_nil hend]
      simp
    · rw [hpieces hrest]
      simp
    · rw [hpieces hrest]
      cases parts c bs with
      | nil => simp
      | cons q qs => simp

theorem parts_ne_nil_of_head {bs : List (List α)} (hend : bs.flatten ≠ [])
    (hsep : bs.flatten.head? ≠ some c) : parts c bs ≠ [] := by
  intro hnone
  have hmap := map_flatten_parts (c := c) bs
  obtain ⟨a, s, hs⟩ := List.exists_cons_of_ne_nil hend
  have hac : a ≠ c := by
    rintro rfl
    exact hsep (by rw [hs]; rfl)
  obtain ⟨p, ps, hpieces, -⟩ := pieces_continue (s := s) List.not_mem_nil hac
  rw [hnone, hs, hpieces] at hmap
  cases hmap

/-- The readings end between the lines exactly when no piece is cut. -/
theorem whole_iff (bs : List (List α)) : Whole c bs ↔ ∀ p ∈ parts c bs, p.length = 1 := by
  induction bs with
  | nil => simp [Whole, parts]
  | cons b bs ih =>
    have hlines : ∀ p ∈ ((lines c b).filter (· ≠ [])).map (fun l => [l]), p.length = 1 := by
      intro p hp
      obtain ⟨l, -, rfl⟩ := List.mem_map.mp hp
      rfl
    rw [Whole, ih, parts, List.forall_mem_append, iff_true_intro hlines, true_and]
    split_ifs with hrest hend hsep
    · simp [hrest]
    · have hnone : parts c bs = [] := by
        have hmap := map_flatten_parts (c := c) bs
        rw [hend, pieces_nil] at hmap
        exact List.map_eq_nil_iff.mp hmap
      simp [hend, hnone]
    · simp [hsep]
    · have hcut : ¬(rest c b = [] ∨ bs.flatten = [] ∨ bs.flatten.head? = some c) := by
        simp [hrest, hend, hsep]
      obtain ⟨p, ps, hparts⟩ := List.exists_cons_of_ne_nil (parts_ne_nil_of_head hend hsep)
      have hp : p ≠ [] := parts_ne_nil (c := c) bs p (by simp [hparts])
      rw [hparts]
      constructor
      · exact fun h => absurd h.1 hcut
      · intro h
        have hone : (rest c b :: p).length = 1 := h _ List.mem_cons_self
        exact absurd (List.length_eq_zero_iff.mp (Nat.succ.inj hone)) hp

omit [DecidableEq α] in
/-- Lists that are not empty and have one element each on average have one element each. -/
theorem eq_one_of_sum_length {ps : List (List (List α))} (hone : ∀ p ∈ ps, 1 ≤ p.length)
    (hsum : (ps.map List.length).sum = ps.length) : ∀ p ∈ ps, p.length = 1 := by
  induction ps with
  | nil => simp
  | cons p ps ih =>
    obtain ⟨hp, hps⟩ := List.forall_mem_cons.mp hone
    have hle : ps.length ≤ (ps.map List.length).sum := by
      simpa using List.length_le_sum_of_one_le (ps.map List.length) (by simpa using hps)
    simp only [List.map_cons, List.sum_cons, List.length_cons] at hsum
    exact List.forall_mem_cons.mpr ⟨by omega, ih hps (by omega)⟩

omit [DecidableEq α] in
theorem flatten_of_singletons {ps : List (List (List α))} (h : ∀ p ∈ ps, p.length = 1) :
    ps.flatten = ps.map List.flatten := by
  induction ps with
  | nil => rfl
  | cons p ps ih =>
    obtain ⟨hp, hps⟩ := List.forall_mem_cons.mp h
    obtain ⟨l, rfl⟩ := List.length_eq_one_iff.mp hp
    simp [ih hps]

/-- As many pieces as the stream has are the pieces of the stream. -/
theorem whole_of_length {bs : List (List α)}
    (h : (bs.flatMap (pieces c)).length = (pieces c bs.flatten).length) : Whole c bs := by
  rw [← flatten_parts, ← map_flatten_parts, List.length_flatten, List.length_map] at h
  have hone : ∀ p ∈ parts c bs, 1 ≤ p.length :=
    fun p hp => List.length_pos_iff.mpr (parts_ne_nil bs p hp)
  exact (whole_iff bs).mpr (eq_one_of_sum_length hone h)

/-- Reading after reading gives the pieces of the stream exactly when no reading
ends inside a line. -/
theorem flatMap_pieces_eq_iff (bs : List (List α)) :
    bs.flatMap (pieces c) = pieces c bs.flatten ↔ Whole c bs := by
  constructor
  · exact fun h => whole_of_length (congrArg List.length h)
  · intro h
    rw [← flatten_parts, ← map_flatten_parts]
    exact flatten_of_singletons ((whole_iff bs).mp h)

end CeloVpn.Framing
