import Mathlib.Data.List.Basic
import Mathlib.Data.List.Infix
import Mathlib.Data.Int.Order.Basic
import Mathlib.Tactic.Ring
import Mathlib.Tactic.SplitIfs

/-!
# Text as the Qt string classes compute on it

A `QString` is a list of characters and a `QByteArray` a list of bytes.
Positions are integers, `-1` standing for "not found", and a negative start
counts from the end, as in `QString::indexOf` and `QString::mid`. Case folding
and the character classes agree with Qt wherever the other operand is ASCII,
which is the only way they are used.
-/
namespace CeloVpn

abbrev QString := List Char

abbrev QByteArray := List UInt8

namespace QString

/-- Where a search that starts at `start` begins to look. -/
def searchStart (s : QString) (start : ℤ) : ℕ :=
  (if start < 0 then max (start + s.length) 0 else start).toNat

/-- `QString::indexOf(QChar, from)`. -/
def indexOf (s : QString) (c : Char) (start : ℤ) : ℤ :=
  match (s.drop (searchStart s start)).findIdx? (· == c) with
  | some i => (searchStart s start + i : ℕ)
  | none => -1

/-- `QString::indexOf(QString, from)`, for a text that is not empty. -/
def indexOfText (s t : QString) (start : ℤ) : ℤ :=
  match (s.drop (searchStart s start)).tails.findIdx? (t.isPrefixOf ·) with
  | some i => (searchStart s start + i : ℕ)
  | none => -1

/-- `QString::mid(position, n)`; a negative `n` takes everything that is left. -/
def mid (s : QString) (position n : ℤ) : QString :=
  if position < 0 then
    if n < 0 then s else s.take (n + position).toNat
  else if n < 0 then s.drop position.toNat
  else (s.drop position.toNat).take n.toNat

@[simp] theorem searchStart_natCast (s : QString) (n : ℕ) : searchStart s n = n := by
  rw [searchStart, if_neg (by omega), Int.toNat_natCast]

/-- A search that begins at a field without the character finds the one after it. -/
theorem indexOf_field {p a b : QString} {c : Char} {n : ℤ} (hn : n = p.length) (h : c ∉ a) :
    indexOf (p ++ (a ++ c :: b)) c n = n + a.length := by
  have hnone : a.findIdx? (· == c) = none := by
    rw [List.findIdx?_eq_none_iff]
    intro x hx
    simpa using fun hxc : x = c => h (hxc ▸ hx)
  have hfind : (a ++ c :: b).findIdx? (· == c) = some a.length := by
    simp [List.findIdx?_append, List.findIdx?_cons, hnone]
  rw [hn, indexOf, searchStart_natCast, List.drop_left, hfind]
  exact Nat.cast_add _ _

/-- A search for a character that is not left finds nothing. -/
theorem indexOf_of_notMem {p a : QString} {c : Char} {n : ℤ} (hn : n = p.length) (h : c ∉ a) :
    indexOf (p ++ a) c n = -1 := by
  have hnone : a.findIdx? (· == c) = none := by
    rw [List.findIdx?_eq_none_iff]
    intro x hx
    simpa using fun hxc : x = c => h (hxc ▸ hx)
  rw [hn, indexOf, searchStart_natCast, List.drop_left, hnone]

/-- A text is found no later than at any of its places. -/
theorem indexOfText_le (p t b : QString) : indexOfText (p ++ (t ++ b)) t 0 ≤ p.length := by
  have hstart : searchStart (p ++ (t ++ b)) 0 = 0 := rfl
  rw [indexOfText, hstart, List.drop_zero]
  cases hfind : (p ++ (t ++ b)).tails.findIdx? (t.isPrefixOf ·) with
  | none =>
    dsimp only
    omega
  | some i =>
    obtain ⟨hi, -, hfirst⟩ := List.findIdx?_eq_some_iff_getElem.mp hfind
    have hle : i ≤ p.length := by
      by_contra hlt
      exact hfirst p.length (by omega) (by simp)
    dsimp only
    omega

theorem indexOfText_bounds (s : QString) {t : QString} (ht : t ≠ []) :
    -1 ≤ indexOfText s t 0 ∧ indexOfText s t 0 + 1 ≤ s.length := by
  have hstart : searchStart s 0 = 0 := rfl
  rw [indexOfText, hstart, List.drop_zero]
  cases hfind : s.tails.findIdx? (t.isPrefixOf ·) with
  | none =>
    dsimp only
    omega
  | some i =>
    obtain ⟨hi, hprefix, -⟩ := List.findIdx?_eq_some_iff_getElem.mp hfind
    rw [List.getElem_tails, List.isPrefixOf_iff_prefix] at hprefix
    have hlength := hprefix.length_le
    have hpos := List.length_pos_iff.mpr ht
    rw [List.length_drop] at hlength
    dsimp only
    omega

/-- Cutting a field out at its own place gives the field. -/
theorem mid_field {p a b : QString} {n k : ℤ} (hn : n = p.length) (hk : k = a.length) :
    mid (p ++ (a ++ b)) n k = a := by
  have hp : ¬ (p.length : ℤ) < 0 := by omega
  have ha : ¬ (a.length : ℤ) < 0 := by omega
  rw [hn, hk, mid, if_neg hp, if_neg ha, Int.toNat_natCast, Int.toNat_natCast, List.drop_left,
    List.take_left]

/-- Cutting with a negative length takes all that is left. -/
theorem mid_rest {p a : QString} {n k : ℤ} (hn : n = p.length) (hk : k < 0) :
    mid (p ++ a) n k = a := by
  rw [hn, mid, if_neg (by omega), if_pos hk, Int.toNat_natCast, List.drop_left]

/-- Case folding, on the characters that fold to ASCII. -/
def foldCase (c : Char) : Char :=
  if 'A' ≤ c ∧ c ≤ 'Z' then Char.ofNat (c.toNat + 32)
  else if c = Char.ofNat 0x212A then 'k'
  else if c = Char.ofNat 0x017F then 's'
  else c

/-- `s.compare(t, Qt::CaseInsensitive) == 0`. -/
def equalsFolded (s t : QString) : Bool := s.map foldCase == t.map foldCase

/-- Words equal up to case compare alike. -/
theorem equalsFolded_congr {s t : QString} (h : s.equalsFolded t = true) (u : QString) :
    s.equalsFolded u = t.equalsFolded u := by
  rw [equalsFolded, equalsFolded, eq_of_beq h]

/-- `s.contains(t)`. -/
def contains (s t : QString) : Bool := s.tails.any (t.isPrefixOf ·)

theorem contains_iff {s t : QString} : s.contains t = true ↔ t <:+: s := by
  rw [contains, List.any_eq_true, List.infix_iff_prefix_suffix]
  simp only [List.mem_tails, List.isPrefixOf_iff_prefix]
  exact exists_congr fun u => and_comm

/-- `s.contains(t, Qt::CaseInsensitive)`. -/
def containsFolded (s t : QString) : Bool := contains (s.map foldCase) (t.map foldCase)

/-- `QChar::isSpace`. -/
def isSpace (c : Char) : Bool :=
  let n := c.toNat
  (9 ≤ n && n ≤ 13) || n == 0x20 || n == 0x85 || n == 0xA0 || n == 0x1680 ||
    (0x2000 ≤ n && n ≤ 0x200A) || n == 0x2028 || n == 0x2029 || n == 0x202F ||
    n == 0x205F || n == 0x3000

/-- The zeros of the decimal digit blocks of the basic plane. -/
def digitZeros : List ℕ :=
  [0x30, 0x660, 0x6F0, 0x7C0, 0x966, 0x9E6, 0xA66, 0xAE6, 0xB66, 0xBE6, 0xC66, 0xCE6,
    0xD66, 0xDE6, 0xE50, 0xED0, 0xF20, 0x1040, 0x1090, 0x17E0, 0x1810, 0x1946, 0x19D0,
    0x1A80, 0x1A90, 0x1B50, 0x1BB0, 0x1C40, 0x1C50, 0xA620, 0xA8D0, 0xA900, 0xA9D0,
    0xA9F0, 0xAA50, 0xABF0, 0xFF10]

/-- `QChar::isDigit`. -/
def isDigit (c : Char) : Bool := digitZeros.any fun z => z ≤ c.toNat && c.toNat ≤ z + 9

/-- `QString::trimmed`. -/
def trimmed (s : QString) : QString :=
  ((s.dropWhile isSpace).reverse.dropWhile isSpace).reverse

theorem count_dropWhile {c : Char} {p : Char → Bool} (h : p c = false) (s : QString) :
    (s.dropWhile p).count c = s.count c := by
  induction s with
  | nil => rfl
  | cons d s ih =>
    rw [List.dropWhile_cons]
    split_ifs with hd
    · have hne : d ≠ c := by
        rintro rfl
        rw [h] at hd
        cases hd
      rw [ih, List.count_cons_of_ne hne]
    · rfl

/-- Trimming takes white space only. -/
theorem count_trimmed {c : Char} (h : isSpace c = false) (s : QString) :
    (trimmed s).count c = s.count c := by
  rw [trimmed, List.count_reverse, count_dropWhile h, List.count_reverse, count_dropWhile h]

/-- `s.split(c, QString::SkipEmptyParts)`. -/
def splitSkipEmpty (s : QString) (c : Char) : List QString :=
  (s.splitOn c).filter (fun t => !t.isEmpty)

/-- `QString::number`. -/
def number (n : ℤ) : QString :=
  if n < 0 then '-' :: Nat.toDigits 10 n.natAbs else Nat.toDigits 10 n.natAbs

/-- The value of a text of ASCII digits, read from the left. -/
def digitsValue (s : QString) : Option ℕ :=
  s.foldl (fun acc c => acc.bind fun n =>
    if '0' ≤ c ∧ c ≤ '9' then some (n * 10 + (c.toNat - 48)) else none) (some 0)

/-- `QString::toInt(&ok)`: white space around the number and a sign are accepted,
everything else and every value outside 32 bits fails. -/
def toInt? (s : QString) : Option ℤ :=
  let signed : ℤ × QString := match trimmed s with
    | '-' :: t => (-1, t)
    | '+' :: t => (1, t)
    | t => (1, t)
  if signed.2.isEmpty then none
  else match digitsValue signed.2 with
    | some n =>
      if -2147483648 ≤ signed.1 * n ∧ signed.1 * n ≤ 2147483647 then some (signed.1 * n)
      else none
    | none => none

/-- `QString::toInt()`, zero where the conversion fails. -/
def toInt (s : QString) : ℤ := (toInt? s).getD 0

/-- `QString::remove("\n").remove("\r")`. -/
def removeLineBreaks (s : QString) : QString := s.filter fun c => c ≠ '\n' ∧ c ≠ '\r'

/-- `QStringList::join`. -/
def join (sep : QString) (parts : List QString) : QString := sep.intercalate parts

/-- `QString::toLatin1`: one byte for each UTF-16 unit, a question mark for a unit
outside Latin-1. -/
def toLatin1 (s : QString) : QByteArray :=
  s.flatMap fun c =>
    if c.toNat ≤ 0xFF then [UInt8.ofNat c.toNat]
    else if c.toNat ≤ 0xFFFF then [63]
    else [63, 63]

/-- A continuation byte of UTF-8. -/
def isContinuation (b : UInt8) : Bool := 0x80 ≤ b && b < 0xC0

/-- The low six bits of a continuation byte. -/
def continuationBits (b : UInt8) : ℕ := b.toNat - 0x80

/-- The character of a multi-byte sequence, if it is neither overlong nor a
surrogate nor too large. -/
def scalar? (least n : ℕ) : Option Char :=
  if least ≤ n ∧ (n < 0xD800 ∨ 0xDFFF < n) ∧ n ≤ 0x10FFFF then some (Char.ofNat n) else none

/-- UTF-8 decoding; a byte that begins no valid sequence becomes the replacement
character and the search goes on at the next byte. -/
def decodeUtf8 : QByteArray → QString
  | [] => []
  | b :: bs =>
    if b < 0x80 then Char.ofNat b.toNat :: decodeUtf8 bs
    else match bs with
      | [] => [Char.ofNat 0xFFFD]
      | b₁ :: bs₁ =>
        if 0xC0 ≤ b && b < 0xE0 && isContinuation b₁ then
          match scalar? 0x80 ((b.toNat - 0xC0) * 64 + continuationBits b₁) with
          | some c => c :: decodeUtf8 bs₁
          | none => Char.ofNat 0xFFFD :: decodeUtf8 (b₁ :: bs₁)
        else match bs₁ with
          | [] => Char.ofNat 0xFFFD :: decodeUtf8 [b₁]
          | b₂ :: bs₂ =>
            if 0xE0 ≤ b && b < 0xF0 && isContinuation b₁ && isContinuation b₂ then
              match scalar? 0x800 ((b.toNat - 0xE0) * 4096 + continuationBits b₁ * 64 +
                  continuationBits b₂) with
              | some c => c :: decodeUtf8 bs₂
              | none => Char.ofNat 0xFFFD :: decodeUtf8 (b₁ :: b₂ :: bs₂)
            else match bs₂ with
              | [] => Char.ofNat 0xFFFD :: decodeUtf8 [b₁, b₂]
              | b₃ :: bs₃ =>
                if 0xF0 ≤ b && b < 0xF8 && isContinuation b₁ && isContinuation b₂ &&
                    isContinuation b₃ then
                  match scalar? 0x10000 ((b.toNat - 0xF0) * 262144 +
                      continuationBits b₁ * 4096 + continuationBits b₂ * 64 +
                      continuationBits b₃) with
                  | some c => c :: decodeUtf8 bs₃
                  | none => Char.ofNat 0xFFFD :: decodeUtf8 (b₁ :: b₂ :: b₃ :: bs₃)
                else Char.ofNat 0xFFFD :: decodeUtf8 (b₁ :: b₂ :: b₃ :: bs₃)

/-- `QString(QByteArray)`: UTF-8 up to the first null byte, a byte order mark
skipped. -/
def ofBytes (bytes : QByteArray) : QString :=
  match bytes.takeWhile (· != 0) with
  | 0xEF :: 0xBB :: 0xBF :: bs => decodeUtf8 bs
  | bs => decodeUtf8 bs

end QString
end CeloVpn
