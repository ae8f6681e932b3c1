import CeloVpn.Library.Framing
import CeloVpn.Library.Text
import Mathlib.Data.List.TakeWhile

/-!
# UTF-8 and Latin-1

Decoding goes step by step: each step consumes the bytes of one character, or one
byte that begins none. Decoding with replacement and strict decoding are two
readings of the same steps. A step never looks past a byte that continues nothing,
so that decoding splits at every ASCII character.
-/
namespace CeloVpn.QString
open Framing

def isAscii (c : Char) : Bool := c.toNat < 0x80

/-- How many characters of a text are not ASCII. -/
def wide (s : QString) : ℕ := s.countP (!isAscii ·)

/-- How many bytes are not ASCII. -/
def high (bs : QByteArray) : ℕ := bs.countP (0x80 ≤ ·)

@[simp] theorem wide_append (s t : QString) : wide (s ++ t) = wide s + wide t :=
  List.countP_append

@[simp] theorem high_append (s t : QByteArray) : high (s ++ t) = high s + high t :=
  List.countP_append

theorem wide_eq_zero {s : QString} : wide s = 0 ↔ ∀ c ∈ s, isAscii c = true := by
  simp [wide, List.countP_eq_zero]

/-- The character of two bytes that begins with the byte `b`. -/
def two? (b : UInt8) : QByteArray → Option Char
  | b₁ :: _ =>
    if isContinuation b₁ then scalar? 0x80 ((b.toNat - 0xC0) * 64 + continuationBits b₁)
    else none
  | _ => none

/-- The character of three bytes that begins with the byte `b`. -/
def three? (b : UInt8) : QByteArray → Option Char
  | b₁ :: b₂ :: _ =>
    if isContinuation b₁ && isContinuation b₂ then
      scalar? 0x800 ((b.toNat - 0xE0) * 4096 + continuationBits b₁ * 64 + continuationBits b₂)
    else none
  | _ => none

/-- The character of four bytes that begins with the byte `b`. -/
def four? (b : UInt8) : QByteArray → Option Char
  | b₁ :: b₂ :: b₃ :: _ =>
    if isContinuation b₁ && isContinuation b₂ && isContinuation b₃ then
      scalar? 0x10000 ((b.toNat - 0xF0) * 262144 + continuationBits b₁ * 4096 +
        continuationBits b₂ * 64 + continuationBits b₃)
    else none
  | _ => none

/-- The character that begins with the byte `b`, and how many of the bytes after
`b` belong to it. -/
def lead? (b : UInt8) (bs : QByteArray) : Option (Char × ℕ) :=
  if b < 0x80 then some (Char.ofNat b.toNat, 0)
  else if 0xC0 ≤ b && b < 0xE0 then (two? b bs).map (·, 1)
  else if 0xE0 ≤ b && b < 0xF0 then (three? b bs).map (·, 2)
  else if 0xF0 ≤ b && b < 0xF8 then (four? b bs).map (·, 3)
  else none

/-- The steps of decoding, after so many bytes that belong to a character already. -/
def steps : ℕ → QByteArray → List (Option Char)
  | _, [] => []
  | k + 1, _ :: bs => steps k bs
  | 0, b :: bs =>
    match lead? b bs with
    | some (c, k) => some c :: steps k bs
    | none => none :: steps 0 bs

theorem steps_eq_drop (k : ℕ) (bs : QByteArray) : steps k bs = steps 0 (bs.drop k) := by
  induction k generalizing bs with
  | zero => rfl
  | succ k ih =>
    cases bs with
    | nil => rfl
    | cons b bs => exact ih bs

section Unfolding
-- the comparisons with large numbers inside must not be evaluated
attribute [local irreducible] scalar? isContinuation continuationBits

theorem decodeUtf8_one (b : UInt8) : decodeUtf8 [b] =
    if b < 0x80 then [Char.ofNat b.toNat] else [Char.ofNat 0xFFFD] := rfl

theorem decodeUtf8_two (b b₁ : UInt8) : decodeUtf8 [b, b₁] =
    if b < 0x80 then Char.ofNat b.toNat :: decodeUtf8 [b₁]
    else if 0xC0 ≤ b && b < 0xE0 && isContinuation b₁ then
      match scalar? 0x80 ((b.toNat - 0xC0) * 64 + continuationBits b₁) with
      | some c => c :: decodeUtf8 []
      | none => Char.ofNat 0xFFFD :: decodeUtf8 [b₁]
    else Char.ofNat 0xFFFD :: decodeUtf8 [b₁] := rfl

theorem decodeUtf8_three (b b₁ b₂ : UInt8) : decodeUtf8 [b, b₁, b₂] =
    if b < 0x80 then Char.ofNat b.toNat :: decodeUtf8 [b₁, b₂]
    else if 0xC0 ≤ b && b < 0xE0 && isContinuation b₁ then
      match scalar? 0x80 ((b.toNat - 0xC0) * 64 + continuationBits b₁) with
      | some c => c :: decodeUtf8 [b₂]
      | none => Char.ofNat 0xFFFD :: decodeUtf8 [b₁, b₂]
    else if 0xE0 ≤ b && b < 0xF0 && isContinuation b₁ && isContinuation b₂ then
      match scalar? 0x800 ((b.toNat - 0xE0) * 4096 + continuationBits b₁ * 64 +
          continuationBits b₂) with
      | some c => c :: decodeUtf8 []
      | none => Char.ofNat 0xFFFD :: decodeUtf8 [b₁, b₂]
    else Char.ofNat 0xFFFD :: decodeUtf8 [b₁, b₂] := rfl

theorem decodeUtf8_four (b b₁ b₂ b₃ : UInt8) (bs : QByteArray) :
    decodeUtf8 (b :: b₁ :: b₂ :: b₃ :: bs) =
    if b < 0x80 then Char.ofNat b.toNat :: decodeUtf8 (b₁ :: b₂ :: b₃ :: bs)
    else if 0xC0 ≤ b && b < 0xE0 && isContinuation b₁ then
      match scalar? 0x80 ((b.toNat - 0xC0) * 64 + continuationBits b₁) with
      | some c => c :: decodeUtf8 (b₂ :: b₃ :: bs)
      | none => Char.ofNat 0xFFFD :: decodeUtf8 (b₁ :: b₂ :: b₃ :: bs)
    else if 0xE0 ≤ b && b < 0xF0 && isContinuation b₁ && isContinuation b₂ then
      match scalar? 0x800 ((b.toNat - 0xE0) * 4096 + continuationBits b₁ * 64 +
          continuationBits b₂) with
      | some c => c :: decodeUtf8 (b₃ :: bs)
      | none => Char.ofNat 0xFFFD :: decodeUtf8 (b₁ :: b₂ :: b₃ :: bs)
    else if 0xF0 ≤ b && b < 0xF8 && isContinuation b₁ && isContinuation b₂ &&
        isContinuation b₃ then
      match scalar? 0x10000 ((b.toNat - 0xF0) * 262144 + continuationBits b₁ * 4096 +
          continuationBits b₂ * 64 + continuationBits b₃) with
      | some c => c :: decodeUtf8 bs
      | none => Char.ofNat 0xFFFD :: decodeUtf8 (b₁ :: b₂ :: b₃ :: bs)
    else Char.ofNat 0xFFFD :: decodeUtf8 (b₁ :: b₂ :: b₃ :: bs) := rfl

/-- A byte is of one kind only. -/
theorem kinds (b : UInt8) :
    ((0xC0 ≤ b && b < 0xE0) = true → (0xE0 ≤ b && b < 0xF0) = false ∧
      (0xF0 ≤ b && b < 0xF8) = false) ∧
    ((0xE0 ≤ b && b < 0xF0) = true → (0xF0 ≤ b && b < 0xF8) = false) := by
  simp only [Bool.and_eq_true, Bool.and_eq_false_iff, decide_eq_true_eq, decide_eq_false_iff_not,
    UInt8.le_iff_toNat_le, UInt8.lt_iff_toNat_lt]
  refine ⟨fun h => ⟨.inl ?_, .inl ?_⟩, fun h => .inl ?_⟩ <;> simp at h ⊢ <;> omega

theorem decodeUtf8_cons (b : UInt8) (bs : QByteArray) : decodeUtf8 (b :: bs) =
    match lead? b bs with
    | some (c, k) => c :: decodeUtf8 (bs.drop k)
    | none => Char.ofNat 0xFFFD :: decodeUtf8 bs := by
  obtain ⟨hkinds, hlast⟩ := kinds b
  unfold lead?
  by_cases hb : b < 0x80
  · match bs with
    | [] => simp only [decodeUtf8_one, hb, if_true, List.drop_zero]; rfl
    | [b₁] => simp only [decodeUtf8_two, hb, if_true, List.drop_zero]
    | [b₁, b₂] => simp only [decodeUtf8_three, hb, if_true, List.drop_zero]
    | b₁ :: b₂ :: b₃ :: bs => simp only [decodeUtf8_four, hb, if_true, List.drop_zero]
  by_cases h2 : (0xC0 ≤ b && b < 0xE0) = true
  · obtain ⟨h3, h4⟩ := hkinds h2
    match bs with
    | [] => simp only [decodeUtf8_one, hb, h2, if_true, if_false, two?]; rfl
    | [b₁] =>
      simp only [decodeUtf8_two, hb, h2, if_false, if_true, Bool.true_and, two?]
      cases isContinuation b₁ <;>
        cases scalar? 0x80 ((b.toNat - 0xC0) * 64 + continuationBits b₁) <;> rfl
    | [b₁, b₂] =>
      simp only [decodeUtf8_three, hb, h2, h3, if_false, if_true, Bool.true_and, Bool.false_and, two?]
      cases isContinuation b₁ <;>
        cases scalar? 0x80 ((b.toNat - 0xC0) * 64 + continuationBits b₁) <;> rfl
    | b₁ :: b₂ :: b₃ :: bs =>
      simp only [decodeUtf8_four, hb, h2, h3, h4, if_false, if_true, Bool.true_and, Bool.false_and, two?]
      cases isContinuation b₁ <;>
        cases scalar? 0x80 ((b.toNat - 0xC0) * 64 + continuationBits b₁) <;> rfl
  by_cases h3 : (0xE0 ≤ b && b < 0xF0) = true
  · have h4 := hlast h3
    rw [Bool.not_eq_true] at h2
    match bs with
    | [] => simp only [decodeUtf8_one, hb, h2, h3, Bool.false_eq_true, if_true, if_false, three?]; rfl
    | [b₁] =>
      simp only [decodeUtf8_two, hb, h2, h3, Bool.false_eq_true, if_false, if_true, Bool.false_and, three?]; rfl
    | [b₁, b₂] =>
      simp only [decodeUtf8_three, hb, h2, h3, Bool.false_eq_true, if_false, if_true, Bool.true_and, Bool.false_and, three?]
      cases isContinuation b₁ && isContinuation b₂ <;>
        cases scalar? 0x800 ((b.toNat - 0xE0) * 4096 + continuationBits b₁ * 64 +
          continuationBits b₂) <;> rfl
    | b₁ :: b₂ :: b₃ :: bs =>
      simp only [decodeUtf8_four, hb, h2, h3, h4, if_false, if_true, Bool.true_and, Bool.false_and, three?]
      cases isContinuation b₁ && isContinuation b₂ <;>
        cases scalar? 0x800 ((b.toNat - 0xE0) * 4096 + continuationBits b₁ * 64 +
          continuationBits b₂) <;> rfl
  rw [Bool.not_eq_true] at h2 h3
  match bs with
  | [] => simp only [decodeUtf8_one, hb, h2, h3, Bool.false_eq_true, if_false, four?]; split_ifs <;> rfl
  | [b₁] =>
    simp only [decodeUtf8_two, hb, h2, h3, Bool.false_eq_true, if_false, Bool.false_and, four?]
    split_ifs <;> rfl
  | [b₁, b₂] =>
    simp only [decodeUtf8_three, hb, h2, h3, Bool.false_eq_true, if_false, Bool.false_and, four?]
    split_ifs <;> rfl
  | b₁ :: b₂ :: b₃ :: bs =>
    simp only [decodeUtf8_four, hb, h2, h3, Bool.false_eq_true, if_false, Bool.false_and, four?]
    cases 0xF0 ≤ b && b < 0xF8 <;> cases isContinuation b₁ <;> cases isContinuation b₂ <;>
      cases isContinuation b₃ <;> cases scalar? 0x10000 ((b.toNat - 0xF0) * 262144 + continuationBits b₁ * 4096 +
        continuationBits b₂ * 64 + continuationBits b₃) <;> rfl

end Unfolding

theorem lead?_ascii {b : UInt8} (h : b < 0x80) (bs : QByteArray) :
    lead? b bs = some (Char.ofNat b.toNat, 0) := if_pos h

/-- A character takes continuation bytes only, and these alone decide it. -/
theorem lead?_spec {b : UInt8} {bs : QByteArray} {c : Char} {k : ℕ}
    (h : lead? b bs = some (c, k)) : k ≤ bs.length ∧
      (∀ x ∈ bs.take k, isContinuation x = true) ∧ ∀ t, lead? b (bs.take k ++ t) = some (c, k) := by
  unfold lead? at h ⊢
  split_ifs at h ⊢
  · obtain ⟨-, rfl⟩ := Prod.mk.inj (Option.some.inj h)
    exact ⟨Nat.zero_le _, nofun, fun t => h⟩
  · obtain ⟨d, hd, hk⟩ := Option.map_eq_some_iff.mp h
    obtain ⟨rfl, rfl⟩ := Prod.mk.inj hk
    match bs, hd with
    | b₁ :: bs, hd =>
      by_cases h₁ : isContinuation b₁ = true
      · exact ⟨by simp, by simpa using h₁, fun t => by simpa [two?] using hd⟩
      · simp [two?, h₁] at hd
  · obtain ⟨d, hd, hk⟩ := Option.map_eq_some_iff.mp h
    obtain ⟨rfl, rfl⟩ := Prod.mk.inj hk
    match bs, hd with
    | b₁ :: b₂ :: bs, hd =>
      by_cases h₁₂ : (isContinuation b₁ && isContinuation b₂) = true
      · exact ⟨by simp, by simpa using h₁₂, fun t => by simpa [three?] using hd⟩
      · simp [three?, h₁₂] at hd
  · obtain ⟨d, hd, hk⟩ := Option.map_eq_some_iff.mp h
    obtain ⟨rfl, rfl⟩ := Prod.mk.inj hk
    match bs, hd with
    | b₁ :: b₂ :: b₃ :: bs, hd =>
      by_cases h₁₂₃ : (isContinuation b₁ && isContinuation b₂ && isContinuation b₃) = true
      · exact ⟨by simp, by simpa [and_assoc] using h₁₂₃, fun t => by simpa [four?] using hd⟩
      · simp [four?, h₁₂₃] at hd

/-- A character that is complete stays what it is when more bytes follow. -/
theorem lead?_append {b : UInt8} {bs : QByteArray} {r : Char × ℕ} (h : lead? b bs = some r)
    (t : QByteArray) : lead? b (bs ++ t) = some r := by
  obtain ⟨c, k⟩ := r
  obtain ⟨-, -, hlocal⟩ := lead?_spec h
  have hsplit : bs ++ t = bs.take k ++ (bs.drop k ++ t) := by
    rw [← List.append_assoc, List.take_append_drop]
  rw [hsplit, hlocal]

/-- A character that more bytes complete takes more bytes than there were. -/
theorem lead?_of_append {b : UInt8} {bs t : QByteArray} {c : Char} {k : ℕ}
    (h : lead? b (bs ++ t) = some (c, k)) (hnone : lead? b bs = none) : bs.length < k := by
  by_contra hle
  obtain ⟨-, -, hlocal⟩ := lead?_spec h
  have htake : (bs ++ t).take k = bs.take k := List.take_append_of_le_length (by omega)
  have hsome := hlocal (bs.drop k)
  rw [htake, List.take_append_drop, hnone] at hsome
  cases hsome

theorem lead?_append_of_not_continuation {x : UInt8} (hx : isContinuation x = false) (b : UInt8)
    (bs t : QByteArray) : lead? b (bs ++ x :: t) = lead? b bs := by
  cases hshort : lead? b bs with
  | some r => exact lead?_append hshort _
  | none =>
    cases hlong : lead? b (bs ++ x :: t) with
    | none => rfl
    | some r =>
      obtain ⟨c, k⟩ := r
      have hk := lead?_of_append hlong hshort
      obtain ⟨-, hcont, -⟩ := lead?_spec hlong
      have hmem : x ∈ (bs ++ x :: t).take k := by
        have hsplit : (bs ++ x :: t).take k = bs ++ x :: t.take (k - bs.length - 1) := by
          obtain ⟨j, rfl⟩ : ∃ j, k = bs.length + (j + 1) := ⟨k - bs.length - 1, by omega⟩
          simp [List.take_append, List.take_of_length_le]
        simp [hsplit]
      rw [hcont x hmem] at hx
      cases hx

theorem toNat_ofNat_valid {n : ℕ} (h : n.isValidChar) : (Char.ofNat n).toNat = n :=
  congrArg Char.toNat (dif_pos h : Char.ofNat n = Char.ofNatAux n h)

theorem scalar?_spec {least n : ℕ} {c : Char} (h : scalar? least n = some c) :
    c.toNat = n ∧ least ≤ n := by
  unfold scalar? at h
  split_ifs at h with hn
  obtain rfl := Option.some.inj h
  have hvalid : n.isValidChar := by
    simp only [Nat.isValidChar]
    omega
  exact ⟨toNat_ofNat_valid hvalid, hn.1⟩

/-- A character of several bytes is no ASCII character. -/
theorem lead?_wide {b : UInt8} {bs : QByteArray} {c : Char} {k : ℕ} (hb : ¬ b < 0x80)
    (h : lead? b bs = some (c, k)) : 0 < k ∧ 0x80 ≤ c.toNat := by
  unfold lead? at h
  split_ifs at h
  all_goals
    obtain ⟨d, hd, hk⟩ := Option.map_eq_some_iff.mp h
    obtain ⟨rfl, rfl⟩ := Prod.mk.inj hk
  · match bs, hd with
    | b₁ :: bs, hd =>
      simp only [two?] at hd
      split_ifs at hd
      have hspec := scalar?_spec hd
      omega
  · match bs, hd with
    | b₁ :: b₂ :: bs, hd =>
      simp only [three?] at hd
      split_ifs at hd
      have hspec := scalar?_spec hd
      omega
  · match bs, hd with
    | b₁ :: b₂ :: b₃ :: bs, hd =>
      simp only [four?] at hd
      split_ifs at hd
      have hspec := scalar?_spec hd
      omega

/-- A wide character in its bytes, with more bytes behind it. -/
structure Encodes (b : UInt8) (t : QByteArray) (c : Char) (u : QByteArray) : Prop where
  lead : lead? b (t ++ u) = some (c, t.length)
  not_ascii : ¬ b < 0x80
  ne_nil : t ≠ []
  continues : ∀ x ∈ t, isContinuation x = true
  isWide : 0x80 ≤ c.toNat

/-- Bytes begin with an ASCII character, a wide character or no character at all. -/
theorem decode_induction {P : QByteArray → Prop} (nil : P [])
    (ascii : ∀ b u, b < 0x80 → P u → P (b :: u))
    (character : ∀ b t c u, Encodes b t c u → P u → P (b :: (t ++ u)))
    (invalid : ∀ b u, ¬ b < 0x80 → lead? b u = none → P u → P (b :: u)) (bs : QByteArray) :
    P bs := by
  induction hn : bs.length using Nat.strongRecOn generalizing bs with
  | ind n ih =>
    cases bs with
    | nil => exact nil
    | cons b bs =>
      simp only [List.length_cons] at hn
      by_cases hb : b < 0x80
      · exact ascii b bs hb (ih bs.length (by omega) bs rfl)
      cases hlead : lead? b bs with
      | none => exact invalid b bs hb hlead (ih bs.length (by omega) bs rfl)
      | some r =>
        obtain ⟨c, k⟩ := r
        obtain ⟨hk, hcont, -⟩ := lead?_spec hlead
        obtain ⟨hpos, hwide⟩ := lead?_wide hb hlead
        have hlength : (bs.take k).length = k := List.length_take_of_le hk
        have hlt : (bs.drop k).length < n := by
          rw [List.length_drop]
          omega
        have henc : Encodes b (bs.take k) c (bs.drop k) := {
          lead := by rw [List.take_append_drop, hlength, hlead]
          not_ascii := hb
          ne_nil := fun hnil => by simp [hnil] at hlength; omega
          continues := hcont
          isWide := hwide }
        have hP := character b _ c _ henc (ih _ hlt _ rfl)
        rwa [List.take_append_drop] at hP

theorem decodeUtf8_ascii {b : UInt8} (h : b < 0x80) (bs : QByteArray) :
    decodeUtf8 (b :: bs) = Char.ofNat b.toNat :: decodeUtf8 bs := by
  rw [decodeUtf8_cons, lead?_ascii h]
  rfl

theorem steps_ascii {b : UInt8} (h : b < 0x80) (bs : QByteArray) :
    steps 0 (b :: bs) = some (Char.ofNat b.toNat) :: steps 0 bs := by
  simp only [steps, lead?_ascii h]

namespace Encodes
variable {b : UInt8} {t u : QByteArray} {c : Char}

theorem decodeUtf8_eq (h : Encodes b t c u) : decodeUtf8 (b :: (t ++ u)) = c :: decodeUtf8 u := by
  rw [decodeUtf8_cons, h.lead]
  simp

theorem steps_eq (h : Encodes b t c u) : steps 0 (b :: (t ++ u)) = some c :: steps 0 u := by
  simp only [steps, h.lead]
  rw [steps_eq_drop, List.drop_left]

end Encodes

theorem decodeUtf8_invalid {b : UInt8} {bs : QByteArray} (h : lead? b bs = none) :
    decodeUtf8 (b :: bs) = Char.ofNat 0xFFFD :: decodeUtf8 bs := by
  rw [decodeUtf8_cons, h]

theorem steps_invalid {b : UInt8} {bs : QByteArray} (h : lead? b bs = none) :
    steps 0 (b :: bs) = none :: steps 0 bs := by
  simp only [steps, h]

/-- Decoding puts the replacement character for what begins no character. -/
theorem decodeUtf8_eq (bs : QByteArray) :
    decodeUtf8 bs = (steps 0 bs).map (·.getD (Char.ofNat 0xFFFD)) := by
  induction bs using decode_induction with
  | nil => rfl
  | ascii b u hb ih => simp [decodeUtf8_ascii hb, steps_ascii hb, ih]
  | character b t c u h ih => simp [h.decodeUtf8_eq, h.steps_eq, ih]
  | invalid b u hb h ih => simp [decodeUtf8_invalid h, steps_invalid h, ih]

theorem steps_append_of_not_continuation {x : UInt8} (hx : isContinuation x = false) {k : ℕ}
    {bs : QByteArray} (hk : k ≤ bs.length) (t : QByteArray) :
    steps k (bs ++ x :: t) = steps k bs ++ steps 0 (x :: t) := by
  induction bs generalizing k with
  | nil =>
    obtain rfl : k = 0 := by simpa using hk
    rfl
  | cons b bs ih =>
    cases k with
    | succ k => exact ih (by simpa using hk)
    | zero =>
      have hstep : ∀ u, steps 0 (b :: u) = match lead? b u with
          | some (c, k) => some c :: steps k u
          | none => none :: steps 0 u := fun _ => rfl
      rw [List.cons_append, hstep (bs ++ x :: t), hstep bs, lead?_append_of_not_continuation hx]
      cases hlead : lead? b bs with
      | none => simp [ih (Nat.zero_le _)]
      | some r => simp [ih (lead?_spec hlead).1]

/-- Decoding splits wherever no continuation byte follows. -/
theorem decodeUtf8_append {x : UInt8} (hx : isContinuation x = false) (bs t : QByteArray) :
    decodeUtf8 (bs ++ x :: t) = decodeUtf8 bs ++ decodeUtf8 (x :: t) := by
  simp only [decodeUtf8_eq, steps_append_of_not_continuation hx (Nat.zero_le _), List.map_append]

theorem isContinuation_of_ascii {b : UInt8} (h : b < 0x80) : isContinuation b = false := by
  simp only [isContinuation, Bool.and_eq_false_iff, decide_eq_false_iff_not]
  exact .inl (UInt8.not_le.mpr h)

theorem not_ascii_of_continuation {b : UInt8} (h : isContinuation b = true) : ¬ b < 0x80 := by
  intro hb
  rw [isContinuation_of_ascii hb] at h
  cases h

/-- No ASCII byte stands in the bytes of a wide character. -/
theorem Encodes.count_ascii {b : UInt8} {t u : QByteArray} {c : Char} (h : Encodes b t c u)
    {x : UInt8} (hx : x < 0x80) : (b :: (t ++ u)).count x = u.count x := by
  have hb : b ≠ x := by
    rintro rfl
    exact h.not_ascii hx
  have ht : t.count x = 0 := List.count_eq_zero.mpr fun hmem =>
    not_ascii_of_continuation (h.continues x hmem) hx
  rw [List.count_cons_of_ne hb, List.count_append, ht, Nat.zero_add]

theorem toNat_ofNat_byte (b : UInt8) : (Char.ofNat b.toNat).toNat = b.toNat := by
  have hlt := b.toNat_lt
  have hvalid : b.toNat.isValidChar := by
    simp only [Nat.isValidChar]
    omega
  exact toNat_ofNat_valid hvalid

/-- Decoding keeps the number of every ASCII character. -/
theorem count_decodeUtf8 {x : UInt8} (hx : x < 0x80) (bs : QByteArray) :
    (decodeUtf8 bs).count (Char.ofNat x.toNat) = bs.count x := by
  have hnat : x.toNat < 0x80 := by simpa [UInt8.lt_iff_toNat_lt] using hx
  induction bs using decode_induction with
  | nil => rfl
  | ascii b u hb ih =>
    rw [decodeUtf8_ascii hb, List.count_cons, List.count_cons, ih]
    have hiff : (Char.ofNat b.toNat == Char.ofNat x.toNat) = (b == x) := by
      rw [Bool.eq_iff_iff, beq_iff_eq, beq_iff_eq]
      refine ⟨fun h => ?_, fun h => by rw [h]⟩
      have hval := congrArg Char.toNat h
      rw [toNat_ofNat_byte, toNat_ofNat_byte] at hval
      exact UInt8.toNat_inj.mp hval
    rw [hiff]
  | character b t c u h ih =>
    have hc : c ≠ Char.ofNat x.toNat := by
      rintro rfl
      have hwide := h.isWide
      rw [toNat_ofNat_byte] at hwide
      omega
    rw [h.decodeUtf8_eq, List.count_cons_of_ne hc, ih, h.count_ascii hx]
  | invalid b u hb h ih =>
    have hc : Char.ofNat 0xFFFD ≠ Char.ofNat x.toNat := by
      intro hc
      have hval := congrArg Char.toNat hc
      rw [toNat_ofNat_byte] at hval
      have hreplacement : (Char.ofNat 0xFFFD).toNat = 0xFFFD := by decide
      omega
    have hbx : b ≠ x := by
      rintro rfl
      exact hb hx
    rw [decodeUtf8_invalid h, List.count_cons_of_ne hc, ih, List.count_cons_of_ne hbx]

theorem lead?_continuation {b : UInt8} (h : isContinuation b = true) (bs : QByteArray) :
    lead? b bs = none := by
  simp only [isContinuation, Bool.and_eq_true, decide_eq_true_eq, UInt8.le_iff_toNat_le,
    UInt8.lt_iff_toNat_lt] at h
  simp only [lead?, Bool.and_eq_true, decide_eq_true_eq, UInt8.le_iff_toNat_le,
    UInt8.lt_iff_toNat_lt]
  simp at h ⊢
  split_ifs <;> first | omega | rfl

/-- Continuation bytes at the beginning are no characters. -/
theorem count_steps_continuations {v : QByteArray} (h : ∀ x ∈ v, isContinuation x = true) (c : Char)
    (t : QByteArray) : (steps 0 (v ++ t)).count (some c) = (steps 0 t).count (some c) := by
  induction v with
  | nil => rfl
  | cons b v ih =>
    obtain ⟨hb, hv⟩ := List.forall_mem_cons.mp h
    rw [List.cons_append, steps_invalid (lead?_continuation hb _), List.count_cons_of_ne (by simp),
      ih hv]

/-- Bytes cut in two hold no more of a character than the whole, the replacement
character apart. -/
theorem count_steps_append (c : Char) (bs t : QByteArray) :
    (steps 0 bs).count (some c) + (steps 0 t).count (some c) ≤
      (steps 0 (bs ++ t)).count (some c) := by
  induction bs using decode_induction with
  | nil => simp [steps]
  | ascii b u hb ih =>
    rw [List.cons_append, steps_ascii hb, steps_ascii hb, List.count_cons, List.count_cons]
    omega
  | character b v d u h ih =>
    have hlong : Encodes b v d (u ++ t) := {
      lead := by rw [← List.append_assoc]; exact lead?_append h.lead t
      not_ascii := h.not_ascii
      ne_nil := h.ne_nil
      continues := h.continues
      isWide := h.isWide }
    rw [List.cons_append, List.append_assoc, h.steps_eq, hlong.steps_eq, List.count_cons,
      List.count_cons]
    omega
  | invalid b u hb h ih =>
    rw [List.cons_append, steps_invalid h, List.count_cons_of_ne (by simp)]
    cases hlong : lead? b (u ++ t) with
    | none => rwa [steps_invalid hlong, List.count_cons_of_ne (by simp)]
    | some r =>
      -- the bytes behind the cut complete a character
      obtain ⟨d, k⟩ := r
      obtain ⟨j, rfl⟩ : ∃ j, k = u.length + j :=
        Nat.exists_eq_add_of_le (lead?_of_append hlong h).le
      obtain ⟨-, hcont, -⟩ := lead?_spec hlong
      rw [List.take_length_add_append] at hcont
      obtain ⟨hu, ht⟩ := List.forall_mem_append.mp hcont
      have hnone : (steps 0 u).count (some c) = 0 := by
        simpa [steps] using count_steps_continuations hu c []
      have hrest : (steps 0 t).count (some c) = (steps 0 (t.drop j)).count (some c) := by
        simpa using count_steps_continuations ht c (t.drop j)
      have hstep : steps 0 (b :: (u ++ t)) = some d :: steps 0 (t.drop j) := by
        simp only [steps, hlong]
        rw [steps_eq_drop, List.drop_length_add_append]
      rw [hstep, hnone, hrest, List.count_cons]
      omega

theorem count_decodeUtf8_eq {c : Char} (hc : c ≠ Char.ofNat 0xFFFD) (bs : QByteArray) :
    (decodeUtf8 bs).count c = (steps 0 bs).count (some c) := by
  rw [decodeUtf8_eq]
  induction steps 0 bs with
  | nil => rfl
  | cons d ds ih =>
    rw [List.map_cons, List.count_cons, List.count_cons, ih]
    cases d with
    | none => simp [hc.symm]
    | some d => simp

theorem count_decodeUtf8_flatten {c : Char} (hc : c ≠ Char.ofNat 0xFFFD) (bss : List QByteArray) :
    (bss.map fun bs => (decodeUtf8 bs).count c).sum ≤ (decodeUtf8 bss.flatten).count c := by
  induction bss with
  | nil => simp
  | cons bs bss ih =>
    have happend := count_steps_append c bs bss.flatten
    rw [List.map_cons, List.sum_cons, List.flatten_cons]
    simp only [count_decodeUtf8_eq hc] at ih ⊢
    omega

theorem decodeUtf8_line (l s : QByteArray) :
    decodeUtf8 (l ++ 10 :: s) = decodeUtf8 l ++ '\n' :: decodeUtf8 s := by
  rw [decodeUtf8_append (isContinuation_of_ascii (by decide)), decodeUtf8_ascii (by decide)]
  rfl

theorem newline_mem_decodeUtf8 {bs : QByteArray} : '\n' ∈ decodeUtf8 bs ↔ 10 ∈ bs := by
  rw [← List.count_pos_iff, ← List.count_pos_iff, ← count_decodeUtf8 (x := 10) (by decide)]
  rfl

theorem decodeUtf8_eq_nil {bs : QByteArray} : decodeUtf8 bs = [] ↔ bs = [] := by
  induction bs using decode_induction with
  | nil => simp [decodeUtf8_eq, steps]
  | ascii b u hb ih => simp [decodeUtf8_ascii hb]
  | character b t c u h ih => simp [h.decodeUtf8_eq]
  | invalid b u hb h ih => simp [decodeUtf8_invalid h]

theorem splitOn_decodeUtf8 (bs : QByteArray) :
    (decodeUtf8 bs).splitOn '\n' = (bs.splitOn 10).map decodeUtf8 := by
  induction bs using line_induction (c := (10 : UInt8)) with
  | hrest s h =>
    rw [List.splitOn_eq_singleton h, List.splitOn_eq_singleton (mt newline_mem_decodeUtf8.mp h),
      List.map_singleton]
  | hline l s h ih =>
    rw [decodeUtf8_line, List.splitOn_append_cons_self_of_not_mem (mt newline_mem_decodeUtf8.mp h),
      List.splitOn_append_cons_self_of_not_mem h, List.map_cons, ih]

/-- The lines of decoded bytes are the decoded pieces. -/
theorem splitSkipEmpty_decodeUtf8 (bs : QByteArray) :
    splitSkipEmpty (decodeUtf8 bs) '\n' = (pieces 10 bs).map decodeUtf8 := by
  rw [splitSkipEmpty, splitOn_decodeUtf8, pieces, List.filter_map]
  congr 1
  refine List.filter_congr fun t _ => ?_
  rw [Function.comp_apply, Bool.eq_iff_iff]
  simp [decodeUtf8_eq_nil]

/-- Splitting loses separators only. -/
theorem count_flatten_splitSkipEmpty {c d : Char} (h : c ≠ d) (s : QString) :
    (splitSkipEmpty s d).flatten.count c = s.count c := by
  rw [splitSkipEmpty, List.flatten_filter_not_isEmpty]
  induction s using line_induction (c := d) with
  | hrest s hs => rw [List.splitOn_eq_singleton hs, List.flatten_singleton]
  | hline l s hl ih =>
    rw [List.splitOn_append_cons_self_of_not_mem hl, List.flatten_cons, List.count_append, ih,
      List.count_append, List.count_cons_of_ne h.symm]

/-- `QString(QByteArray)` reads these bytes to the end, from the first one on. -/
def Plain (bs : QByteArray) : Prop := 0 ∉ bs ∧ ¬ [0xEF, 0xBB, 0xBF] <+: bs

instance (bs : QByteArray) : Decidable (Plain bs) :=
  inferInstanceAs (Decidable (_ ∧ ¬ _))

theorem ofBytes_of_plain {bs : QByteArray} (h : Plain bs) : ofBytes bs = decodeUtf8 bs := by
  obtain ⟨hnull, hmark⟩ := h
  have hall : bs.takeWhile (· != 0) = bs := by
    rw [List.takeWhile_eq_self_iff]
    intro x hx
    simpa using fun hzero : x = 0 => hnull (hzero ▸ hx)
  unfold ofBytes
  rw [hall]
  split
  · exact absurd (List.prefix_append _ _) hmark
  · rfl

/-- A null byte ends the text. -/
theorem null_notMem_ofBytes (bs : QByteArray) : Char.ofNat 0 ∉ ofBytes bs := by
  have hnull : ∀ us : QByteArray, 0 ∉ us → Char.ofNat 0 ∉ decodeUtf8 us := by
    intro us hus
    rw [← List.count_eq_zero] at hus ⊢
    exact (count_decodeUtf8 (x := 0) (by decide) us).trans hus
  have htake : 0 ∉ bs.takeWhile (· != 0) := fun h => by simpa using List.mem_takeWhile_imp h
  unfold ofBytes
  split
  · rename_i us hus
    rw [hus] at htake
    exact hnull us fun h => htake (by simp [h])
  · exact hnull _ htake

theorem decodeUtf8_mark (us : QByteArray) :
    decodeUtf8 (0xEF :: 0xBB :: 0xBF :: us) = Char.ofNat 0xFEFF :: decodeUtf8 us := by
  have hlead : lead? 0xEF (0xBB :: 0xBF :: us) = some (Char.ofNat 0xFEFF, 2) := rfl
  rw [decodeUtf8_cons, hlead]
  rfl

/-- A byte order mark at the beginning is skipped. -/
theorem ofBytes_of_mark {us : QByteArray} (h : 0 ∉ us) :
    ofBytes (0xEF :: 0xBB :: 0xBF :: us) = decodeUtf8 us := by
  have hall : (0xEF :: 0xBB :: 0xBF :: us).takeWhile (· != 0) = 0xEF :: 0xBB :: 0xBF :: us := by
    rw [List.takeWhile_eq_self_iff]
    intro x hx
    have hx0 : x ≠ 0 := by
      rintro rfl
      simp at hx
      exact h hx
    simpa using hx0
  simp only [ofBytes, hall]

/-- A byte order mark at the beginning is lost. -/
theorem count_mark_ofBytes {bs : QByteArray} (h : 0 ∉ bs) :
    (ofBytes bs).count (Char.ofNat 0xFEFF) + (if Plain bs then 0 else 1) =
      (decodeUtf8 bs).count (Char.ofNat 0xFEFF) := by
  by_cases hplain : Plain bs
  · rw [if_pos hplain, ofBytes_of_plain hplain, Nat.add_zero]
  · obtain ⟨us, rfl⟩ : [0xEF, 0xBB, 0xBF] <+: bs := by
      by_contra hmark
      exact hplain ⟨h, hmark⟩
    have hus : 0 ∉ us := fun hmem => h (List.mem_append_right _ hmem)
    rw [if_neg hplain]
    simp only [List.cons_append, List.nil_append]
    rw [ofBytes_of_mark hus, decodeUtf8_mark, List.count_cons_self]

end CeloVpn.QString
