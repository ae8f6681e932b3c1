import Mathlib.Data.List.Infix
import Mathlib.Logic.Function.Basic

/-!
# Tokens in quotes

A token stands between two quotes. Inside it an escape makes what comes next literal, and a
quote that is not escaped ends the token. Where all the escapes and quotes of a text are
escaped, a reader that keeps to this finds the text again, whatever follows it, and the token
does not end before.
-/
namespace CeloVpn.Quoting
variable {α : Type*} [DecidableEq α] (esc quote : α)

/-- What is put for one element. -/
def escapeOne (c : α) : List α :=
  if c = esc then [esc, esc] else if c = quote then [esc, quote] else [c]

/-- The text with an escape before every escape and every quote. -/
def escape (s : List α) : List α := s.flatMap (escapeOne esc quote)

@[simp] theorem escape_nil : escape esc quote [] = [] := rfl

@[simp] theorem escape_cons (c : α) (s : List α) :
    escape esc quote (c :: s) = escapeOne esc quote c ++ escape esc quote s := rfl

variable {esc quote}

theorem escapeOne_of_ne {c : α} (hesc : c ≠ esc) (hquote : c ≠ quote) :
    escapeOne esc quote c = [c] := by
  rw [escapeOne, if_neg hesc, if_neg hquote]

theorem escapeOne_of_not_ne {c : α} (h : ¬(c ≠ esc ∧ c ≠ quote)) :
    escapeOne esc quote c = [esc, c] := by
  unfold escapeOne
  split_ifs with hesc hquote
  · rw [hesc]
  · rw [hquote]
  · exact absurd ⟨hesc, hquote⟩ h

theorem escape_append (s t : List α) :
    escape esc quote (s ++ t) = escape esc quote s ++ escape esc quote t := List.flatMap_append

/-- A text without escapes and quotes stays as it is. -/
theorem escape_of_notMem {s : List α} (hesc : esc ∉ s) (hquote : quote ∉ s) :
    escape esc quote s = s := by
  induction s with
  | nil => rfl
  | cons c s ih =>
    have hc := List.ne_of_not_mem_cons hesc
    have hc' := List.ne_of_not_mem_cons hquote
    rw [escape_cons, escapeOne_of_ne hc.symm hc'.symm, ih (List.not_mem_of_not_mem_cons hesc)
      (List.not_mem_of_not_mem_cons hquote), List.singleton_append]

variable (esc quote)

/-- How a reader reads on from the first quote: the token and what follows it, or nothing
where the token does not end. -/
structure Rule (read : List α → Option (List α × List α)) : Prop where
  ends (t : List α) : read (quote :: quote :: t) = some ([], t)
  literal (c : α) (t : List α) :
    read (quote :: esc :: c :: t) = (read (quote :: t)).map fun r => (c :: r.1, r.2)
  plain (c : α) (t : List α) : c ≠ esc → c ≠ quote →
    read (quote :: c :: t) = (read (quote :: t)).map fun r => (c :: r.1, r.2)
  unfinished : read [quote] = none
  unescaped : read [quote, esc] = none

namespace Rule
variable {esc quote} {read : List α → Option (List α × List α)} (h : Rule esc quote read)
include h

/-- An element that is escaped is read as itself. -/
theorem read_escapeOne (c : α) (t : List α) : read (quote :: (escapeOne esc quote c ++ t)) =
    (read (quote :: t)).map fun r => (c :: r.1, r.2) := by
  by_cases hplain : c ≠ esc ∧ c ≠ quote
  · rw [escapeOne_of_ne hplain.1 hplain.2]
    exact h.plain c t hplain.1 hplain.2
  · rw [escapeOne_of_not_ne hplain]
    exact h.literal c t

/-- A text that is escaped is read as itself, and what follows it is left. -/
theorem read_escape (s t : List α) :
    read (quote :: (escape esc quote s ++ quote :: t)) = some (s, t) := by
  induction s with
  | nil => rw [escape_nil, List.nil_append, h.ends]
  | cons c s ih => rw [escape_cons, List.append_assoc, h.read_escapeOne, ih, Option.map_some]

/-- No beginning of an escaped text ends the token. -/
theorem read_of_isPrefix {p s : List α} (hp : p <+: escape esc quote s) :
    read (quote :: p) = none := by
  induction s generalizing p with
  | nil =>
    rw [List.prefix_nil.mp hp]
    exact h.unfinished
  | cons c s ih =>
    rw [escape_cons] at hp
    by_cases hplain : c ≠ esc ∧ c ≠ quote
    · rw [escapeOne_of_ne hplain.1 hplain.2] at hp
      rcases List.prefix_cons_iff.mp hp with rfl | ⟨t, rfl, ht⟩
      · exact h.unfinished
      · rw [h.plain c t hplain.1 hplain.2, ih ht, Option.map_none]
    · rw [escapeOne_of_not_ne hplain] at hp
      -- the beginning may end behind the escape
      rcases List.prefix_cons_iff.mp hp with rfl | ⟨t, rfl, ht⟩
      · exact h.unfinished
      · rcases List.prefix_cons_iff.mp ht with rfl | ⟨u, rfl, hu⟩
        · exact h.unescaped
        · rw [h.literal, ih hu, Option.map_none]

theorem escape_injective : Function.Injective (escape esc quote) := by
  intro s s' heq
  have hread := h.read_escape s []
  rw [heq, h.read_escape s' []] at hread
  exact (congrArg Prod.fst (Option.some.inj hread)).symm

end Rule

/-- The rest of a token, where what comes next may be literal. -/
def readInside : Bool → List α → Option (List α × List α)
  | _, [] => none
  | true, c :: s => (readInside false s).map fun r => (c :: r.1, r.2)
  | false, c :: s =>
    if c = esc then readInside true s
    else if c = quote then some ([], s)
    else (readInside false s).map fun r => (c :: r.1, r.2)

/-- The token at the beginning, and what follows it. -/
def readToken : List α → Option (List α × List α)
  | [] => none
  | c :: s => if c = quote then readInside esc quote false s else none

variable {esc quote}

theorem readToken_quote (s : List α) :
    readToken esc quote (quote :: s) = readInside esc quote false s := if_pos rfl

theorem rule_readToken (h : esc ≠ quote) : Rule esc quote (readToken esc quote) where
  ends t := by
    rw [readToken_quote, readInside, if_neg h.symm, if_pos rfl]
  literal c t := by
    rw [readToken_quote, readToken_quote, readInside, if_pos rfl, readInside]
  plain c t hesc hquote := by
    rw [readToken_quote, readToken_quote, readInside, if_neg hesc, if_neg hquote]
  unfinished := readToken_quote []
  unescaped := by
    rw [readToken_quote, readInside, if_pos rfl, readInside]

end CeloVpn.Quoting
