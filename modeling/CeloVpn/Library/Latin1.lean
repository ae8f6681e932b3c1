import CeloVpn.Library.Utf8

/-!
# Latin-1 bytes read as UTF-8

A text written in Latin-1 and read in UTF-8 keeps its ASCII characters in their
places. What stands between them becomes question marks and other characters outside
ASCII, and fewer of these.
-/
namespace CeloVpn.QString

/-- The continuation byte that carries the low six bits. -/
def continuationByte (n : ℕ) : UInt8 := UInt8.ofNat (0x80 + n % 64)

/-- A character in UTF-8. -/
def encodeChar (c : Char) : QByteArray :=
  let n := c.toNat
  if n < 0x80 then [UInt8.ofNat n]
  else if n < 0x800 then [UInt8.ofNat (0xC0 + n / 64), continuationByte n]
  else if n < 0x10000 then
    [UInt8.ofNat (0xE0 + n / 4096), continuationByte (n / 64), continuationByte n]
  else [UInt8.ofNat (0xF0 + n / 262144), continuationByte (n / 4096), continuationByte (n / 64),
    continuationByte n]

/-- UTF-8 encoding. -/
def encodeUtf8 (s : QString) : QByteArray := s.flatMap encodeChar

theorem toNat_continuationByte (n : ℕ) : (continuationByte n).toNat = 0x80 + n % 64 := by
  rw [continuationByte, UInt8.toNat_ofNat']
  omega

theorem isContinuation_continuationByte (n : ℕ) : isContinuation (continuationByte n) = true := by
  have hn := toNat_continuationByte n
  simp only [isContinuation, Bool.and_eq_true, decide_eq_true_eq, UInt8.le_iff_toNat_le,
    UInt8.lt_iff_toNat_lt]
  simp
  omega

theorem continuationBits_continuationByte (n : ℕ) :
    continuationBits (continuationByte n) = n % 64 := by
  unfold continuationBits
  have hn := toNat_continuationByte n
  omega

theorem scalar?_toNat {c : Char} {least : ℕ} (h : least ≤ c.toNat) :
    scalar? least c.toNat = some c := by
  have hvalid : c.toNat.isValidChar := c.valid
  simp only [Nat.isValidChar] at hvalid
  rw [scalar?, if_pos (by omega), Char.ofNat_toNat]

section Leads
variable {b : UInt8}

theorem lead?_two (h : 0xC0 ≤ b.toNat ∧ b.toNat < 0xE0) (bs : QByteArray) :
    lead? b bs = (two? b bs).map (·, 1) := by
  have hb : ¬ b < 0x80 := by
    simp [UInt8.lt_iff_toNat_lt]
    omega
  rw [lead?, if_neg hb, if_pos (by simpa [UInt8.le_iff_toNat_le, UInt8.lt_iff_toNat_lt] using h)]

theorem lead?_three (h : 0xE0 ≤ b.toNat ∧ b.toNat < 0xF0) (bs : QByteArray) :
    lead? b bs = (three? b bs).map (·, 2) := by
  have hb : ¬ b < 0x80 := by
    simp [UInt8.lt_iff_toNat_lt]
    omega
  have h2 : ¬ (0xC0 ≤ b && b < 0xE0) = true := by
    simp [UInt8.le_iff_toNat_le, UInt8.lt_iff_toNat_lt]
    omega
  rw [lead?, if_neg hb, if_neg h2,
    if_pos (by simpa [UInt8.le_iff_toNat_le, UInt8.lt_iff_toNat_lt] using h)]

theorem lead?_four (h : 0xF0 ≤ b.toNat ∧ b.toNat < 0xF8) (bs : QByteArray) :
    lead? b bs = (four? b bs).map (·, 3) := by
  have hb : ¬ b < 0x80 := by
    simp [UInt8.lt_iff_toNat_lt]
    omega
  have h2 : ¬ (0xC0 ≤ b && b < 0xE0) = true := by
    simp [UInt8.le_iff_toNat_le, UInt8.lt_iff_toNat_lt]
    omega
  have h3 : ¬ (0xE0 ≤ b && b < 0xF0) = true := by
    simp [UInt8.le_iff_toNat_le, UInt8.lt_iff_toNat_lt]
    omega
  rw [lead?, if_neg hb, if_neg h2, if_neg h3,
    if_pos (by simpa [UInt8.le_iff_toNat_le, UInt8.lt_iff_toNat_lt] using h)]

end Leads

/-- A character that its bytes begin with is the first one decoded. -/
theorem decodeUtf8_lead {b : UInt8} {t : QByteArray} {c : Char} (bs : QByteArray)
    (h : lead? b (t ++ bs) = some (c, t.length)) :
    decodeUtf8 (b :: (t ++ bs)) = c :: decodeUtf8 bs := by
  rw [decodeUtf8_cons, h]
  simp

/-- The bytes of a character are decoded to it, whatever follows. -/
theorem decodeUtf8_encodeChar (c : Char) (bs : QByteArray) :
    decodeUtf8 (encodeChar c ++ bs) = c :: decodeUtf8 bs := by
  have hvalid : c.toNat.isValidChar := c.valid
  simp only [Nat.isValidChar] at hvalid
  simp only [encodeChar]
  split_ifs with h1 h2 h3
  · have hb : (UInt8.ofNat c.toNat).toNat = c.toNat := by
      rw [UInt8.toNat_ofNat']
      omega
    have hlt : UInt8.ofNat c.toNat < 0x80 := by
      rw [UInt8.lt_iff_toNat_lt, hb]
      exact h1
    rw [List.singleton_append, decodeUtf8_ascii hlt, hb, Char.ofNat_toNat]
  · have hb : (UInt8.ofNat (0xC0 + c.toNat / 64)).toNat = 0xC0 + c.toNat / 64 := by
      rw [UInt8.toNat_ofNat']
      omega
    have hbits : (0xC0 + c.toNat / 64 - 0xC0) * 64 + c.toNat % 64 = c.toNat := by omega
    refine decodeUtf8_lead (t := [continuationByte c.toNat]) bs ?_
    rw [lead?_two (by rw [hb]; omega), List.singleton_append, two?,
      isContinuation_continuationByte, if_pos rfl, continuationBits_continuationByte, hb, hbits,
      scalar?_toNat (Nat.le_of_not_lt h1)]
    rfl
  · have hb : (UInt8.ofNat (0xE0 + c.toNat / 4096)).toNat = 0xE0 + c.toNat / 4096 := by
      rw [UInt8.toNat_ofNat']
      omega
    have hbits : (0xE0 + c.toNat / 4096 - 0xE0) * 4096 + c.toNat / 64 % 64 * 64 + c.toNat % 64 =
        c.toNat := by omega
    refine decodeUtf8_lead (t := [continuationByte (c.toNat / 64), continuationByte c.toNat]) bs ?_
    rw [lead?_three (by rw [hb]; omega), List.cons_append, List.singleton_append, three?,
      isContinuation_continuationByte, isContinuation_continuationByte, Bool.and_self, if_pos rfl,
      continuationBits_continuationByte, continuationBits_continuationByte, hb, hbits,
      scalar?_toNat (Nat.le_of_not_lt h2)]
    rfl
  · have hb : (UInt8.ofNat (0xF0 + c.toNat / 262144)).toNat = 0xF0 + c.toNat / 262144 := by
      rw [UInt8.toNat_ofNat']
      omega
    have hbits : (0xF0 + c.toNat / 262144 - 0xF0) * 262144 + c.toNat / 4096 % 64 * 4096 +
        c.toNat / 64 % 64 * 64 + c.toNat % 64 = c.toNat := by omega
    refine decodeUtf8_lead (t := [continuationByte (c.toNat / 4096),
      continuationByte (c.toNat / 64), continuationByte c.toNat]) bs ?_
    rw [lead?_four (by rw [hb]; omega), List.cons_append, List.cons_append, List.singleton_append,
      four?, isContinuation_continuationByte, isContinuation_continuationByte,
      isContinuation_continuationByte, Bool.and_self, Bool.and_self, if_pos rfl,
      continuationBits_continuationByte, continuationBits_continuationByte,
      continuationBits_continuationByte, hb, hbits, scalar?_toNat (Nat.le_of_not_lt h3)]
    rfl

/-- Decoding gives back what was encoded. -/
theorem decodeUtf8_encodeUtf8 (s : QString) : decodeUtf8 (encodeUtf8 s) = s := by
  induction s with
  | nil => rfl
  | cons c s ih =>
    rw [encodeUtf8, List.flatMap_cons, decodeUtf8_encodeChar, ← encodeUtf8, ih]

/-- A text without null characters that begins with no byte order mark is read as it
was written. -/
theorem ofBytes_encodeUtf8 {s : QString} (hnull : Char.ofNat 0 ∉ s)
    (hmark : s.head? ≠ some (Char.ofNat 0xFEFF)) : ofBytes (encodeUtf8 s) = s := by
  have hplain : Plain (encodeUtf8 s) := by
    refine ⟨fun hmem => hnull ?_, fun hprefix => hmark ?_⟩
    · rw [← List.count_pos_iff] at hmem ⊢
      rw [← count_decodeUtf8 (by decide), decodeUtf8_encodeUtf8] at hmem
      exact hmem
    · obtain ⟨bs, hbs⟩ := hprefix
      rw [← decodeUtf8_encodeUtf8 s, ← hbs, List.cons_append, List.cons_append,
        List.singleton_append, decodeUtf8_mark]
      rfl
  rw [ofBytes_of_plain hplain, decodeUtf8_encodeUtf8]

/-- `utf8? bs` is the text of bytes that are UTF-8 throughout. -/
def utf8? (bs : QByteArray) : Option QString :=
  if none ∈ steps 0 bs then none else some (decodeUtf8 bs)

/-- A text written in Latin-1 and read in UTF-8 with replacement. -/
def garbled (s : QString) : QString := decodeUtf8 (toLatin1 s)

theorem toLatin1_append (s t : QString) : toLatin1 (s ++ t) = toLatin1 s ++ toLatin1 t :=
  List.flatMap_append

theorem toLatin1_ascii {c : Char} (h : isAscii c = true) (s : QString) :
    ∃ b : UInt8, b < 0x80 ∧ Char.ofNat b.toNat = c ∧ toLatin1 (c :: s) = b :: toLatin1 s := by
  have hn : c.toNat < 0x80 := of_decide_eq_true h
  have hb : (UInt8.ofNat c.toNat).toNat = c.toNat := by
    rw [UInt8.toNat_ofNat']
    omega
  refine ⟨UInt8.ofNat c.toNat, ?_, ?_, ?_⟩
  · rw [UInt8.lt_iff_toNat_lt, hb]
    exact hn
  · rw [hb, Char.ofNat_toNat]
  · rw [toLatin1, List.flatMap_cons, if_pos (by omega)]
    rfl

theorem garbled_append {c : Char} (h : isAscii c = true) (s t : QString) :
    garbled (s ++ c :: t) = garbled s ++ c :: garbled t := by
  obtain ⟨b, hb, rfl, hbytes⟩ := toLatin1_ascii h t
  rw [garbled, toLatin1_append, hbytes, decodeUtf8_append (isContinuation_of_ascii hb),
    decodeUtf8_ascii hb]
  rfl

theorem utf8?_append {b : UInt8} (hb : b < 0x80) (bs t : QByteArray) :
    utf8? (bs ++ b :: t) =
      (utf8? bs).bind fun s => (utf8? t).map fun s' => s ++ Char.ofNat b.toNat :: s' := by
  have hsteps : steps 0 (bs ++ b :: t) =
      steps 0 bs ++ some (Char.ofNat b.toNat) :: steps 0 t := by
    rw [steps_append_of_not_continuation (isContinuation_of_ascii hb) (Nat.zero_le _),
      steps_ascii hb]
  have hdecode : decodeUtf8 (bs ++ b :: t) =
      decodeUtf8 bs ++ Char.ofNat b.toNat :: decodeUtf8 t := by
    rw [decodeUtf8_append (isContinuation_of_ascii hb), decodeUtf8_ascii hb]
  have hnone : none ∈ steps 0 (bs ++ b :: t) ↔ none ∈ steps 0 bs ∨ none ∈ steps 0 t := by
    simp [hsteps]
  unfold utf8?
  by_cases hbs : none ∈ steps 0 bs
  · rw [if_pos hbs, if_pos (hnone.mpr (.inl hbs))]
    rfl
  by_cases ht : none ∈ steps 0 t
  · rw [if_pos ht, if_pos (hnone.mpr (.inr ht)), if_neg hbs]
    rfl
  · rw [if_neg hbs, if_neg ht, if_neg (by simp [hnone, hbs, ht]), hdecode]
    rfl

theorem high_cons {b : UInt8} (hb : ¬ b < 0x80) (bs : QByteArray) :
    high (b :: bs) = high bs + 1 :=
  List.countP_cons_of_pos (by simpa using UInt8.not_lt.mp hb)

theorem wide_cons {c : Char} (hc : isAscii c = false) (s : QString) :
    wide (c :: s) = wide s + 1 :=
  List.countP_cons_of_pos (by simp [hc])

theorem high_ascii {b : UInt8} (hb : b < 0x80) (bs : QByteArray) : high (b :: bs) = high bs :=
  List.countP_cons_of_neg (by simpa using UInt8.not_le.mpr hb)

theorem wide_ascii {c : Char} (hc : isAscii c = true) (s : QString) : wide (c :: s) = wide s :=
  List.countP_cons_of_neg (by simp [hc])

theorem isAscii_byte {b : UInt8} (hb : b < 0x80) : isAscii (Char.ofNat b.toNat) = true := by
  rw [isAscii, toNat_ofNat_byte]
  simpa [UInt8.lt_iff_toNat_lt] using hb

theorem Encodes.isAscii_eq {b : UInt8} {t u : QByteArray} {c : Char} (h : Encodes b t c u) :
    isAscii c = false := by
  have hwide := h.isWide
  rw [isAscii, decide_eq_false_iff_not]
  omega

/-- The bytes of a wide character are two at least. -/
theorem Encodes.two_le_high {b : UInt8} {t u : QByteArray} {c : Char} (h : Encodes b t c u) :
    high u + 2 ≤ high (b :: (t ++ u)) := by
  obtain ⟨x, t', rfl⟩ := List.exists_cons_of_ne_nil h.ne_nil
  have hx := not_ascii_of_continuation (h.continues x List.mem_cons_self)
  rw [high_cons h.not_ascii, List.cons_append, high_cons hx, high_append]
  omega

/-- Every character outside ASCII has at least one byte outside ASCII. -/
theorem wide_decodeUtf8_le (bs : QByteArray) : wide (decodeUtf8 bs) ≤ high bs := by
  induction bs using decode_induction with
  | nil => simp [decodeUtf8_eq, steps, wide]
  | ascii b u hb ih => rwa [decodeUtf8_ascii hb, wide_ascii (isAscii_byte hb), high_ascii hb]
  | character b t c u h ih =>
    have hbytes := h.two_le_high
    rw [h.decodeUtf8_eq, wide_cons h.isAscii_eq]
    omega
  | invalid b u hb h ih =>
    have hreplacement : isAscii (Char.ofNat 0xFFFD) = false := by decide
    rw [decodeUtf8_invalid h, wide_cons hreplacement, high_cons hb]
    omega

/-- If nothing is replaced, it has at least two. -/
theorem wide_utf8?_le {bs : QByteArray} {s : QString} (h : utf8? bs = some s) :
    2 * wide s ≤ high bs := by
  unfold utf8? at h
  split_ifs at h with hvalid
  obtain rfl := Option.some.inj h
  clear h
  induction bs using decode_induction with
  | nil => simp [decodeUtf8_eq, steps, wide]
  | ascii b u hb ih =>
    rw [decodeUtf8_ascii hb, wide_ascii (isAscii_byte hb), high_ascii hb]
    exact ih fun hmem => hvalid (by simp [steps_ascii hb, hmem])
  | character b t c u h ih =>
    have hbytes := h.two_le_high
    have hlater := ih fun hmem => hvalid (by simp [h.steps_eq, hmem])
    rw [h.decodeUtf8_eq, wide_cons h.isAscii_eq]
    omega
  | invalid b u hb h ih => simp [steps_invalid h] at hvalid

theorem high_toLatin1_le (s : QString) : high (toLatin1 s) ≤ wide s := by
  induction s with
  | nil => rfl
  | cons c s ih =>
    have hcons : toLatin1 (c :: s) = toLatin1 [c] ++ toLatin1 s := toLatin1_append [c] s
    cases hc : isAscii c with
    | true =>
      obtain ⟨b, hb, -, hbytes⟩ := toLatin1_ascii hc s
      rwa [hbytes, high_ascii hb, wide_ascii hc]
    | false =>
      have hone : high (toLatin1 [c]) ≤ 1 := by
        simp only [toLatin1, List.flatMap_cons, List.flatMap_nil, List.append_nil]
        split_ifs
        · exact List.countP_le_length
        · decide
        · decide
      rw [hcons, high_append, wide_cons hc]
      omega

/-- The number of UTF-16 units, which is `QString::length`. -/
def utf16Length (s : QString) : ℕ := (s.map fun c => if c.toNat ≤ 0xFFFF then 1 else 2).sum

/-- Latin-1 has as many bytes as the text has UTF-16 units. -/
theorem length_toLatin1 (s : QString) : (toLatin1 s).length = utf16Length s := by
  rw [toLatin1, List.length_flatMap, utf16Length]
  congr 2
  funext c
  split_ifs <;> first | rfl | omega

/-- The UTF-16 units of a text; these are what `QString` counts its positions in. -/
def utf16 (s : QString) : List ℕ :=
  s.flatMap fun c => if c.toNat ≤ 0xFFFF then [c.toNat]
    else [0xD800 + (c.toNat - 0x10000) / 0x400, 0xDC00 + (c.toNat - 0x10000) % 0x400]

/-- `QString::toLatin1`, unit by unit. -/
def latin1Units (units : List ℕ) : QByteArray :=
  units.map fun u => if u ≤ 0xFF then UInt8.ofNat u else 63

theorem utf16_append (s t : QString) : utf16 (s ++ t) = utf16 s ++ utf16 t := List.flatMap_append

theorem utf16_eq_nil {s : QString} : utf16 s = [] ↔ s = [] := by
  cases s with
  | nil => exact iff_of_true rfl rfl
  | cons c s =>
    refine iff_of_false (fun h => ?_) (List.cons_ne_nil c s)
    rw [utf16, List.flatMap_cons, List.append_eq_nil_iff] at h
    have hunits := h.1
    split_ifs at hunits

theorem utf16_plane {c : Char} (h : c.toNat ≤ 0xFFFF) : utf16 [c] = [c.toNat] := by
  rw [utf16, List.flatMap_singleton, if_pos h]

theorem utf16_byte (b : UInt8) : utf16 [Char.ofNat b.toNat] = [b.toNat] := by
  have hlt := b.toNat_lt
  rw [utf16_plane (by rw [toNat_ofNat_byte]; omega), toNat_ofNat_byte]

/-- The text of UTF-16 units. Half of a surrogate pair on its own, which is no character, is
replaced. -/
def fromUtf16 : List ℕ → QString
  | [] => []
  | [u] => [unpaired u]
  | u :: v :: units =>
    if 0xD800 ≤ u ∧ u < 0xDC00 ∧ 0xDC00 ≤ v ∧ v < 0xE000 then
      Char.ofNat (0x10000 + (u - 0xD800) * 0x400 + (v - 0xDC00)) :: fromUtf16 units
    else unpaired u :: fromUtf16 (v :: units)
where
  unpaired (u : ℕ) : Char :=
    if 0xD800 ≤ u ∧ u < 0xE000 then Char.ofNat 0xFFFD else Char.ofNat u

theorem fromUtf16_of_plane {c : Char} (h : c.toNat ≤ 0xFFFF) (units : List ℕ) :
    fromUtf16 (c.toNat :: units) = c :: fromUtf16 units := by
  have hvalid : c.toNat.isValidChar := c.valid
  simp only [Nat.isValidChar] at hvalid
  have hself : fromUtf16.unpaired c.toNat = c := by
    rw [fromUtf16.unpaired, if_neg (by omega), Char.ofNat_toNat]
  cases units with
  | nil => exact congrArg (· :: []) hself
  | cons v units => rw [fromUtf16, if_neg (by omega), hself]

theorem fromUtf16_of_pair {c : Char} (h : 0xFFFF < c.toNat) (units : List ℕ) :
    fromUtf16 ((0xD800 + (c.toNat - 0x10000) / 0x400) ::
      (0xDC00 + (c.toNat - 0x10000) % 0x400) :: units) = c :: fromUtf16 units := by
  have hvalid : c.toNat.isValidChar := c.valid
  simp only [Nat.isValidChar] at hvalid
  have hpoint : 0x10000 + (0xD800 + (c.toNat - 0x10000) / 0x400 - 0xD800) * 0x400 +
      (0xDC00 + (c.toNat - 0x10000) % 0x400 - 0xDC00) = c.toNat := by omega
  rw [fromUtf16, if_pos (by omega), hpoint, Char.ofNat_toNat]

/-- A text is what its units are read as. -/
theorem fromUtf16_utf16 (s : QString) : fromUtf16 (utf16 s) = s := by
  induction s with
  | nil => rfl
  | cons c s ih =>
    rw [utf16, List.flatMap_cons, ← utf16]
    split_ifs with hplane
    · rw [List.singleton_append, fromUtf16_of_plane hplane, ih]
    · rw [List.cons_append, List.singleton_append, fromUtf16_of_pair (by omega), ih]

theorem length_utf16_cons_le (c : Char) (s : QString) :
    (utf16 (c :: s)).length ≤ 2 + (utf16 s).length := by
  rw [utf16, List.flatMap_cons, List.length_append]
  refine Nat.add_le_add_right ?_ _
  split_ifs <;> simp

/-- Decoding makes no more units than there are bytes. -/
theorem length_utf16_decodeUtf8_le (bs : QByteArray) :
    (utf16 (decodeUtf8 bs)).length ≤ bs.length := by
  induction bs using decode_induction with
  | nil => rw [decodeUtf8_eq_nil.mpr rfl]; rfl
  | ascii b u hb ih =>
    rw [decodeUtf8_ascii hb, ← List.singleton_append, utf16_append, utf16_byte,
      List.singleton_append, List.length_cons, List.length_cons]
    exact Nat.succ_le_succ ih
  | character b t c u h ih =>
    have hpos := List.length_pos_iff.mpr h.ne_nil
    have hcons := length_utf16_cons_le c (decodeUtf8 u)
    rw [h.decodeUtf8_eq, List.length_cons, List.length_append]
    omega
  | invalid b u hb h ih =>
    have hone : utf16 [Char.ofNat 0xFFFD] = [0xFFFD] := by decide
    rw [decodeUtf8_invalid h, ← List.singleton_append, utf16_append, hone, List.singleton_append,
      List.length_cons, List.length_cons]
    exact Nat.succ_le_succ ih

/-- Latin-1 makes no control characters. -/
theorem le_of_mem_toLatin1 {s : QString} (h : ∀ c ∈ s, 0x20 ≤ c.toNat) :
    ∀ b ∈ toLatin1 s, 0x20 ≤ b.toNat := by
  intro b hb
  obtain ⟨c, hc, hbyte⟩ := List.mem_flatMap.mp hb
  have hprintable := h c hc
  split_ifs at hbyte with hlatin hplane
  · rw [List.mem_singleton.mp hbyte, UInt8.toNat_ofNat']
    omega
  · rw [List.mem_singleton.mp hbyte]
    decide
  · obtain rfl : b = 63 := by simpa using hbyte
    decide

/-- A byte other than the question mark is made of its own character only. -/
theorem mem_toLatin1 {c : Char} (hlatin : c.toNat ≤ 0xFF) (hne : c ≠ '?') (s : QString) :
    UInt8.ofNat c.toNat ∈ toLatin1 s ↔ c ∈ s := by
  have hother : UInt8.ofNat c.toNat ≠ 63 := by
    rw [ne_eq, ← UInt8.toNat_inj, UInt8.toNat_ofNat', Nat.mod_eq_of_lt (by omega)]
    exact fun h => hne (Char.toNat_inj.mp h)
  have hchar : ∀ d : Char, UInt8.ofNat c.toNat ∈ (if d.toNat ≤ 0xFF then [UInt8.ofNat d.toNat]
      else if d.toNat ≤ 0xFFFF then [63] else [63, 63]) ↔ d = c := by
    intro d
    split_ifs with hd
    · rw [List.mem_singleton, ← UInt8.toNat_inj, UInt8.toNat_ofNat', UInt8.toNat_ofNat',
        Nat.mod_eq_of_lt (by omega), Nat.mod_eq_of_lt (by omega), eq_comm]
      exact Char.toNat_inj
    · exact iff_of_false (by simpa using hother) fun h => hd (h ▸ hlatin)
    · exact iff_of_false (by simpa using hother) fun h => hd (h ▸ hlatin)
  simp only [toLatin1, List.mem_flatMap, hchar]
  simp

/-- Latin-1 makes a line break of a line break only. -/
theorem newline_mem_toLatin1 (s : QString) : 10 ∈ toLatin1 s ↔ '\n' ∈ s :=
  mem_toLatin1 (c := '\n') (by decide) (by decide) s

/-- What becomes of characters outside ASCII: such characters and question marks. -/
def Tame (s : QString) : Prop := ∀ c ∈ s, c = '?' ∨ isAscii c = false

theorem tame_decodeUtf8 {bs : QByteArray} (h : ∀ b ∈ bs, b = 63 ∨ ¬ b < 0x80) :
    Tame (decodeUtf8 bs) := by
  induction bs using decode_induction with
  | nil => simp [decodeUtf8_eq, steps, Tame]
  | ascii b u hb ih =>
    obtain ⟨hfirst, hlater⟩ := List.forall_mem_cons.mp h
    rw [decodeUtf8_ascii hb]
    refine List.forall_mem_cons.mpr ⟨.inl ?_, ih hlater⟩
    rcases hfirst with rfl | hhigh
    · rfl
    · exact absurd hb hhigh
  | character b t c u h' ih =>
    rw [h'.decodeUtf8_eq]
    refine List.forall_mem_cons.mpr ⟨.inr h'.isAscii_eq, ih fun x hx => h x ?_⟩
    exact List.mem_cons_of_mem b (List.mem_append_right t hx)
  | invalid b u hb h' ih =>
    rw [decodeUtf8_invalid h']
    exact List.forall_mem_cons.mpr ⟨.inr (by decide), ih (List.forall_mem_cons.mp h).2⟩

theorem tame_toLatin1 {s : QString} (h : Tame s) : ∀ b ∈ toLatin1 s, b = 63 ∨ ¬ b < 0x80 := by
  intro b hb
  obtain ⟨c, hc, hbyte⟩ := List.mem_flatMap.mp hb
  have hquestion : ('?' : Char).toNat = 63 := rfl
  split_ifs at hbyte with hlatin hplane
  · obtain rfl := List.mem_singleton.mp hbyte
    rcases h c hc with rfl | hwide
    · exact .inl rfl
    · have hbig : 0x80 ≤ c.toNat := by simpa [isAscii] using hwide
      refine .inr fun hlt => ?_
      rw [UInt8.lt_iff_toNat_lt, UInt8.toNat_ofNat'] at hlt
      have hlimit : (0x80 : UInt8).toNat = 0x80 := by decide
      omega
  · exact .inl (by simpa using hbyte)
  · exact .inl (by simpa using hbyte)

theorem Tame.garbled {s : QString} (h : Tame s) : Tame (garbled s) :=
  tame_decodeUtf8 (tame_toLatin1 h)

theorem Tame.utf8? {s t : QString} (h : Tame s) (ht : utf8? (toLatin1 s) = some t) : Tame t := by
  unfold QString.utf8? at ht
  split_ifs at ht
  obtain rfl := Option.some.inj ht
  exact h.garbled

/-- The text whose Latin-1 bytes these are. -/
def ofLatin1 (bs : QByteArray) : QString := bs.map fun b => Char.ofNat b.toNat

theorem toLatin1_ofLatin1 (bs : QByteArray) : toLatin1 (ofLatin1 bs) = bs := by
  induction bs with
  | nil => rfl
  | cons b bs ih =>
    have hlt := b.toNat_lt
    have hone : toLatin1 [Char.ofNat b.toNat] = [b] := by
      simp only [toLatin1, List.flatMap_singleton, toNat_ofNat_byte]
      rw [if_pos (by omega), UInt8.ofNat_toNat]
    have hcons : toLatin1 (ofLatin1 (b :: bs)) =
        toLatin1 [Char.ofNat b.toNat] ++ toLatin1 (ofLatin1 bs) :=
      toLatin1_append [Char.ofNat b.toNat] (ofLatin1 bs)
    rw [hcons, hone, ih, List.singleton_append]

theorem ofLatin1_injective : Function.Injective ofLatin1 :=
  Function.LeftInverse.injective toLatin1_ofLatin1

theorem decodeUtf8_of_ascii {bs : QByteArray} (h : ∀ b ∈ bs, b < 0x80) :
    decodeUtf8 bs = ofLatin1 bs := by
  induction bs with
  | nil => rfl
  | cons b bs ih =>
    obtain ⟨hb, hbs⟩ := List.forall_mem_cons.mp h
    rw [decodeUtf8_ascii hb, ih hbs]
    rfl

/-- Bytes of ASCII are their own text. -/
theorem ofBytes_of_ascii {bs : QByteArray} (h : ∀ b ∈ bs, 0 < b ∧ b < 0x80) :
    ofBytes bs = ofLatin1 bs := by
  have hnull : 0 ∉ bs := fun hmem => absurd (h 0 hmem).1 (by decide)
  have hmark : ¬[0xEF, 0xBB, 0xBF] <+: bs := fun hmark =>
    absurd (h 0xEF (hmark.subset (List.mem_cons_self ..))).2 (by decide)
  rw [ofBytes_of_plain ⟨hnull, hmark⟩, decodeUtf8_of_ascii fun b hb => (h b hb).2]

theorem utf16_ofLatin1 (bs : QByteArray) : utf16 (ofLatin1 bs) = bs.map UInt8.toNat := by
  induction bs with
  | nil => rfl
  | cons b bs ih =>
    rw [ofLatin1, List.map_cons, ← List.singleton_append, utf16_append, utf16_byte]
    exact congrArg (b.toNat :: ·) ih

theorem latin1Units_append (us vs : List ℕ) :
    latin1Units (us ++ vs) = latin1Units us ++ latin1Units vs := List.map_append ..

theorem latin1Units_toNat (bs : QByteArray) : latin1Units (bs.map UInt8.toNat) = bs := by
  rw [latin1Units, List.map_map]
  refine (List.map_congr_left fun b _ => ?_).trans (List.map_id bs)
  have hlt := b.toNat_lt
  rw [Function.comp_apply, if_pos (by omega), UInt8.ofNat_toNat, id]

/-- A text goes on with what follows it, from an ASCII character on. -/
theorem ofBytes_append {bs t : QByteArray} {b : UInt8} (hbs : 0 ∉ bs) (ht : 0 ∉ b :: t)
    (hb : b < 0x80) : ofBytes (bs ++ b :: t) = ofBytes bs ++ decodeUtf8 (b :: t) := by
  have hall : 0 ∉ bs ++ b :: t := fun h => (List.mem_append.mp h).elim hbs ht
  have hdecode : ∀ us, decodeUtf8 (us ++ b :: t) = decodeUtf8 us ++ decodeUtf8 (b :: t) :=
    fun us => decodeUtf8_append (isContinuation_of_ascii hb) us t
  by_cases hmark : [0xEF, 0xBB, 0xBF] <+: bs
  · obtain ⟨us, rfl⟩ := hmark
    have hus : 0 ∉ us := fun h => hbs (List.mem_append_right _ h)
    have hus' : 0 ∉ us ++ b :: t := fun h => (List.mem_append.mp h).elim hus ht
    exact (ofBytes_of_mark hus').trans ((hdecode us).trans
      (congrArg (· ++ decodeUtf8 (b :: t)) (ofBytes_of_mark hus).symm))
  · have hmark' : ¬[0xEF, 0xBB, 0xBF] <+: bs ++ b :: t := by
      intro h
      rcases List.prefix_or_prefix_of_prefix h (List.prefix_append bs _) with hin | ⟨r, hr⟩
      · exact hmark hin
      · rw [← hr] at h
        have hrest := (List.prefix_append_right_inj bs).mp h
        cases r with
        | nil => exact hmark (by rw [← hr, List.append_nil])
        | cons c r =>
          obtain rfl : c = b := (List.cons_prefix_cons.mp hrest).1
          have hmem : c ∈ ([0xEF, 0xBB, 0xBF] : QByteArray) := by
            rw [← hr]
            exact List.mem_append_right bs List.mem_cons_self
          simp only [List.mem_cons, List.not_mem_nil, or_false] at hmem
          rcases hmem with rfl | rfl | rfl
          · exact absurd hb (by decide)
          · exact absurd hb (by decide)
          · exact absurd hb (by decide)
    rw [ofBytes_of_plain ⟨hall, hmark'⟩, ofBytes_of_plain ⟨hbs, hmark⟩, hdecode]

theorem splitOn_ofLatin1 (bs : QByteArray) :
    (ofLatin1 bs).splitOn '\n' = (bs.splitOn 10).map ofLatin1 := by
  have hnone : ∀ {s : QByteArray}, 10 ∉ s → '\n' ∉ ofLatin1 s := by
    intro s hs hmem
    obtain ⟨b, hb, hchar⟩ := List.mem_map.mp hmem
    have hnat : b.toNat = (10 : UInt8).toNat := by
      rw [← toNat_ofNat_byte b, hchar]
      rfl
    exact hs (UInt8.toNat_inj.mp hnat ▸ hb)
  induction bs using Framing.line_induction (c := (10 : UInt8)) with
  | hrest s hs =>
    rw [List.splitOn_eq_singleton hs, List.splitOn_eq_singleton (hnone hs), List.map_singleton]
  | hline l s hl ih =>
    have hline : ofLatin1 (l ++ 10 :: s) = ofLatin1 l ++ '\n' :: ofLatin1 s := List.map_append
    rw [hline, List.splitOn_append_cons_self_of_not_mem (hnone hl),
      List.splitOn_append_cons_self_of_not_mem hl, List.map_cons, ih]

/-- Only a byte order mark reads as no text. -/
theorem ofBytes_eq_nil {bs : QByteArray} (h : 0 ∉ bs) :
    ofBytes bs = [] ↔ bs = [] ∨ bs = [0xEF, 0xBB, 0xBF] := by
  constructor
  · intro hnil
    by_cases hmark : [0xEF, 0xBB, 0xBF] <+: bs
    · obtain ⟨us, rfl⟩ := hmark
      have hus : 0 ∉ us := fun hmem => h (List.mem_append_right _ hmem)
      obtain rfl := decodeUtf8_eq_nil.mp ((ofBytes_of_mark hus).symm.trans hnil)
      exact .inr rfl
    · exact .inl (decodeUtf8_eq_nil.mp ((ofBytes_of_plain ⟨h, hmark⟩).symm.trans hnil))
  · rintro (rfl | rfl)
    · rfl
    · rfl

/-- What is left of a text in Latin-1. -/
def latinized (s : QString) : QString := ofLatin1 (toLatin1 s)

theorem latinized_append (s t : QString) : latinized (s ++ t) = latinized s ++ latinized t := by
  rw [latinized, toLatin1_append, ofLatin1, List.map_append]
  rfl

theorem latinized_ascii {s : QString} (h : ∀ c ∈ s, isAscii c = true) : latinized s = s := by
  induction s with
  | nil => rfl
  | cons c s ih =>
    obtain ⟨hc, hlater⟩ := List.forall_mem_cons.mp h
    obtain ⟨b, -, hbyte, hbytes⟩ := toLatin1_ascii hc s
    rw [latinized, hbytes, ofLatin1, List.map_cons, hbyte]
    exact congrArg (c :: ·) (ih hlater)

theorem Tame.latinized {s : QString} (h : Tame s) : Tame (latinized s) := by
  intro c hc
  obtain ⟨b, hb, rfl⟩ := List.mem_map.mp hc
  rcases tame_toLatin1 h b hb with rfl | hhigh
  · exact .inl rfl
  · right
    rw [isAscii, toNat_ofNat_byte, decide_eq_false_iff_not]
    simpa [UInt8.lt_iff_toNat_lt] using hhigh

end CeloVpn.QString
