import CeloVpn.Library.Text
import Mathlib.Data.List.TakeWhile

/-!
# Numbers as they are read and written

`toInt` reads a number with white space around it and a sign before it. What it reads is
exactly what is put together of these, where the value fits into 32 bits.
-/
namespace CeloVpn.QString

theorem isSpace_of_isDigit {c : Char} (h : c.isDigit = true) : isSpace c = false := by
  simp only [Char.isDigit, Bool.and_eq_true, decide_eq_true_eq] at h
  have hlow : 48 ≤ c.toNat := UInt32.le_iff_toNat_le.mp h.1
  have hhigh : c.toNat ≤ 57 := UInt32.le_iff_toNat_le.mp h.2
  unfold isSpace
  grind

theorem dropWhile_append_of_forall {p : Char → Bool} {before t : QString}
    (hbefore : ∀ c ∈ before, p c = true) (ht : ∀ c ∈ t.head?, p c = false) :
    (before ++ t).dropWhile p = t := by
  rw [List.dropWhile_append_of_pos hbefore]
  cases t with
  | nil => rfl
  | cons c t => rw [List.dropWhile_cons_of_neg (by simp [ht c rfl])]

/-- What has no white space stands for itself in the middle of some. -/
theorem trimmed_append {before t after : QString} (hbefore : ∀ c ∈ before, isSpace c = true)
    (ht : ∀ c ∈ t, isSpace c = false) (hne : t ≠ []) (hafter : ∀ c ∈ after, isSpace c = true) :
    trimmed (before ++ t ++ after) = t := by
  have hfront : (before ++ t ++ after).dropWhile isSpace = t ++ after := by
    rw [List.append_assoc]
    refine dropWhile_append_of_forall hbefore fun c hc => ?_
    rw [List.head?_append_of_ne_nil _ hne] at hc
    exact ht c (List.mem_of_mem_head? hc)
  have hend : (t ++ after).reverse.dropWhile isSpace = t.reverse := by
    rw [List.reverse_append]
    refine dropWhile_append_of_forall (fun c hc => hafter c (List.mem_reverse.mp hc)) fun c hc => ?_
    exact ht c (List.mem_reverse.mp (List.mem_of_mem_head? hc))
  rw [trimmed, hfront, hend, List.reverse_reverse]

/-- Trimming takes white space from both ends. -/
theorem exists_trimmed (s : QString) : ∃ before after, s = before ++ trimmed s ++ after ∧
    (∀ c ∈ before, isSpace c = true) ∧ ∀ c ∈ after, isSpace c = true := by
  have hsplit : ∀ t : QString, t.takeWhile isSpace ++ t.dropWhile isSpace = t :=
    fun t => List.takeWhile_append_dropWhile
  have hspace : ∀ t : QString, ∀ c ∈ t.takeWhile isSpace, isSpace c = true :=
    fun t c hc => List.mem_takeWhile_imp hc
  refine ⟨s.takeWhile isSpace, ((s.dropWhile isSpace).reverse.takeWhile isSpace).reverse, ?_,
    hspace s, fun c hc => hspace _ c (List.mem_reverse.mp hc)⟩
  have hend : trimmed s ++ ((s.dropWhile isSpace).reverse.takeWhile isSpace).reverse =
      s.dropWhile isSpace := by
    rw [trimmed, ← List.reverse_append, hsplit, List.reverse_reverse]
  rw [List.append_assoc, hend, hsplit]

/-- Reading digits goes on from the value so far. -/
theorem foldl_digits {s : QString} (h : ∀ c ∈ s, c.isDigit = true) (n : ℕ) :
    s.foldl (fun acc c => acc.bind fun n =>
      if '0' ≤ c ∧ c ≤ '9' then some (n * 10 + (c.toNat - 48)) else none) (some n) =
        some (Nat.ofDigitChars 10 s n) := by
  induction s generalizing n with
  | nil => rfl
  | cons c s ih =>
    obtain ⟨hc, hs⟩ := List.forall_mem_cons.mp h
    have hrange : '0' ≤ c ∧ c ≤ '9' := by
      simpa [Char.isDigit, Char.le_def] using hc
    rw [List.foldl_cons, Option.bind_some, if_pos hrange, ih hs, Nat.ofDigitChars_cons,
      Nat.mul_comm]
    rfl

/-- Nothing but digits is read. -/
theorem isDigit_of_digitsValue {s : QString} {v : ℕ} (h : digitsValue s = some v) :
    ∀ c ∈ s, c.isDigit = true := by
  induction s using List.reverseRecOn generalizing v with
  | nil => exact fun _ hc => absurd hc List.not_mem_nil
  | append_singleton s c ih =>
    rw [digitsValue, List.foldl_append, List.foldl_cons, List.foldl_nil] at h
    obtain ⟨n, hn, hc⟩ := Option.bind_eq_some_iff.mp h
    have hrange : '0' ≤ c ∧ c ≤ '9' := by
      by_contra hother
      rw [if_neg hother] at hc
      cases hc
    have hdigit : c.isDigit = true := by
      simpa [Char.isDigit, Char.le_def] using hrange
    exact List.forall_mem_append.mpr ⟨ih hn, List.forall_mem_singleton.mpr hdigit⟩

theorem digitsValue_eq_some_iff {s : QString} {v : ℕ} :
    digitsValue s = some v ↔ (∀ c ∈ s, c.isDigit = true) ∧ Nat.ofDigitChars 10 s 0 = v := by
  constructor
  · intro h
    have hdigit := isDigit_of_digitsValue h
    refine ⟨hdigit, ?_⟩
    rw [digitsValue, foldl_digits hdigit] at h
    exact Option.some.inj h
  · rintro ⟨hdigit, rfl⟩
    exact foldl_digits hdigit 0

/-- What may stand before the digits. -/
inductive Sign
  | none
  | plus
  | minus
  deriving DecidableEq

namespace Sign

def text : Sign → QString
  | none => []
  | plus => ['+']
  | minus => ['-']

def factor : Sign → ℤ
  | none => 1
  | plus => 1
  | minus => -1

end Sign

/-- White space, a sign, digits and white space. -/
structure Numeral where
  before : QString
  sign : Sign
  digits : QString
  after : QString
  isSpace_before : ∀ c ∈ before, isSpace c = true
  digits_ne_nil : digits ≠ []
  isDigit : ∀ c ∈ digits, c.isDigit = true
  isSpace_after : ∀ c ∈ after, isSpace c = true

namespace Numeral
variable (n : Numeral)

def text : QString := n.before ++ (n.sign.text ++ n.digits) ++ n.after

def value : ℤ := n.sign.factor * Nat.ofDigitChars 10 n.digits 0

/-- A numeral without white space. -/
def bare (sign : Sign) (digits : QString) (hne : digits ≠ []) (h : ∀ c ∈ digits, c.isDigit = true) :
    Numeral :=
  ⟨[], sign, digits, [], List.forall_mem_nil _, hne, h, List.forall_mem_nil _⟩

theorem text_bare (sign : Sign) {digits : QString} (hne : digits ≠ [])
    (h : ∀ c ∈ digits, c.isDigit = true) : (bare sign digits hne h).text = sign.text ++ digits :=
  List.append_nil _

theorem value_bare (sign : Sign) {digits : QString} (hne : digits ≠ [])
    (h : ∀ c ∈ digits, c.isDigit = true) :
    (bare sign digits hne h).value = sign.factor * Nat.ofDigitChars 10 digits 0 := rfl

theorem trimmed_text : trimmed n.text = n.sign.text ++ n.digits := by
  refine trimmed_append n.isSpace_before (fun c hc => ?_) ?_ n.isSpace_after
  · rcases List.mem_append.mp hc with hsign | hdigit
    · cases hs : n.sign <;> rw [hs] at hsign
      · cases hsign
      · rw [List.mem_singleton.mp hsign]
        decide
      · rw [List.mem_singleton.mp hsign]
        decide
    · exact isSpace_of_isDigit (n.isDigit c hdigit)
  · simp [n.digits_ne_nil]

/-- A numeral is read where its value fits. -/
theorem toInt?_text : toInt? n.text =
    if -2147483648 ≤ n.value ∧ n.value ≤ 2147483647 then some n.value else none := by
  have hempty : n.digits.isEmpty = false := by simpa using n.digits_ne_nil
  have hdigits : digitsValue n.digits = some (Nat.ofDigitChars 10 n.digits 0) :=
    digitsValue_eq_some_iff.mpr ⟨n.isDigit, rfl⟩
  unfold toInt?
  rw [n.trimmed_text, value]
  cases n.sign with
  | plus =>
    simp only [Sign.text, Sign.factor, List.singleton_append, hempty, hdigits, Bool.false_eq_true,
      if_false]
    exact if_congr Iff.rfl rfl rfl
  | minus =>
    simp only [Sign.text, Sign.factor, List.singleton_append, hempty, hdigits, Bool.false_eq_true,
      if_false]
    exact if_congr Iff.rfl rfl rfl
  | none =>
    -- the first of the digits is no sign
    have hdigit := n.isDigit
    rw [Sign.text, List.nil_append]
    generalize n.digits = digits at *
    cases digits with
    | nil => cases hempty
    | cons c t =>
      have hminus : c ≠ '-' := by
        rintro rfl
        exact absurd (hdigit '-' List.mem_cons_self) (by decide)
      have hplus : c ≠ '+' := by
        rintro rfl
        exact absurd (hdigit '+' List.mem_cons_self) (by decide)
      split
      · exact absurd (List.cons.inj ‹_›).1 hminus
      · exact absurd (List.cons.inj ‹_›).1 hplus
      · simp only [Sign.factor, hempty, hdigits, Bool.false_eq_true, if_false]
        exact if_congr Iff.rfl rfl rfl

end Numeral

/-- What is read is a numeral. -/
theorem exists_numeral {s : QString} {v : ℤ} (h : toInt? s = some v) :
    ∃ n : Numeral, n.text = s := by
  obtain ⟨before, after, hs, hbefore, hafter⟩ := exists_trimmed s
  have hread : ∀ (sign : Sign) (digits : QString) (n : ℕ), trimmed s = sign.text ++ digits →
      ¬digits.isEmpty = true → digitsValue digits = some n → ∃ n : Numeral, n.text = s := by
    intro sign digits n htrimmed hempty hn
    refine ⟨⟨before, sign, digits, after, hbefore, by simpa using hempty,
      (digitsValue_eq_some_iff.mp hn).1, hafter⟩, ?_⟩
    rw [Numeral.text, ← htrimmed]
    exact hs.symm
  simp only [toInt?] at h
  split_ifs at h with hempty
  split at h
  · next n hn =>
    clear h
    revert hempty hn
    split
    · next t ht => exact hread .minus t n ht
    · next t ht => exact hread .plus t n ht
    · exact hread .none _ n rfl
  · cases h

/-- What `toInt` reads: the numerals whose value fits into 32 bits. -/
theorem toInt?_eq_some_iff {s : QString} {v : ℤ} : toInt? s = some v ↔
    ∃ n : Numeral, n.text = s ∧ n.value = v ∧ -2147483648 ≤ v ∧ v ≤ 2147483647 := by
  constructor
  · intro h
    obtain ⟨n, rfl⟩ := exists_numeral h
    rw [n.toInt?_text] at h
    split_ifs at h with hrange
    obtain rfl := Option.some.inj h
    exact ⟨n, rfl, rfl, hrange⟩
  · rintro ⟨n, rfl, rfl, hrange⟩
    rw [n.toInt?_text, if_pos hrange]

/-- A number is written as a numeral of its value. -/
theorem exists_text_eq_number (v : ℤ) : ∃ n : Numeral, n.text = number v ∧ n.value = v := by
  have hdigit : ∀ c ∈ Nat.toDigits 10 v.natAbs, c.isDigit = true :=
    fun _ => Nat.isDigit_of_mem_toDigits (by decide) le_rfl
  have hread : Nat.ofDigitChars 10 (Nat.toDigits 10 v.natAbs) 0 = v.natAbs :=
    Nat.ofDigitChars_ten_toDigits
  by_cases hneg : v < 0
  · refine ⟨.bare .minus _ Nat.toDigits_ne_nil hdigit, ?_, ?_⟩
    · rw [Numeral.text_bare, number, if_pos hneg]
      rfl
    · rw [Numeral.value_bare, hread, Sign.factor]
      omega
  · refine ⟨.bare .none _ Nat.toDigits_ne_nil hdigit, ?_, ?_⟩
    · rw [Numeral.text_bare, number, if_neg hneg]
      rfl
    · rw [Numeral.value_bare, hread, Sign.factor]
      omega

/-- A number of 32 bits is read back as it was written. -/
theorem toInt?_number {v : ℤ} (hlow : -2147483648 ≤ v) (hhigh : v ≤ 2147483647) :
    toInt? (number v) = some v := by
  obtain ⟨n, htext, hvalue⟩ := exists_text_eq_number v
  exact toInt?_eq_some_iff.mpr ⟨n, htext, hvalue, hlow, hhigh⟩

/-- What is read from a text fits into 32 bits. -/
theorem toInt_bounds (s : QString) : -2147483648 ≤ toInt s ∧ toInt s ≤ 2147483647 := by
  unfold toInt
  cases h : toInt? s with
  | none => decide
  | some v =>
    obtain ⟨-, -, -, hrange⟩ := toInt?_eq_some_iff.mp h
    exact hrange

/-- The number after one of 32 bits, as it is written, is another text. -/
theorem number_succ_ne (s : QString) : number (Int.bmod (toInt s + 1) 4294967296) ≠ s := by
  intro h
  obtain ⟨hlow, hhigh⟩ := toInt_bounds s
  have hrange : -2147483648 ≤ Int.bmod (toInt s + 1) 4294967296 ∧
      Int.bmod (toInt s + 1) 4294967296 ≤ 2147483647 := by
    rw [Int.bmod_def]
    split_ifs <;> omega
  have hread : toInt s = Int.bmod (toInt s + 1) 4294967296 := by
    conv_lhs => rw [← h]
    rw [toInt, toInt?_number hrange.1 hrange.2, Option.getD_some]
  rw [Int.bmod_def] at hread
  split_ifs at hread <;> omega

end CeloVpn.QString
