import CeloVpn.Library.Latin1
import CeloVpn.Library.Occurrences

/-!
# The autostart entry

On Linux `setStartup` keeps an entry in the autostart file. `delete_startup` finds its
first three lines in the file, but counts its line breaks in the entry itself, and writes
what remains behind itself, where the file was cut.
-/
namespace CeloVpn.Client
open Occurrences

/-- An open file, and the position in it. -/
structure QFile where
  bytes : QByteArray
  pos : ℕ

namespace QFile

def readAll (f : QFile) : QByteArray × QFile :=
  (f.bytes.drop f.pos, { f with pos := max f.pos f.bytes.length })

/-- A position beyond the end of a smaller file moves to its end. -/
def resize (n : ℕ) (f : QFile) : QFile :=
  ⟨f.bytes.take n ++ List.replicate (n - f.bytes.length) 0, min f.pos n⟩

/-- Writing goes to the position, over what is there. -/
def write (out : QByteArray) (f : QFile) : QFile :=
  ⟨f.bytes.take f.pos ++ out ++ f.bytes.drop (f.pos + out.length), f.pos + out.length⟩

end QFile

def gs_desktop : QString :=
  "[Desktop Entry]\n".toList ++
    "Type=Application\n".toList ++
    "Name=celoVPN\n".toList ++
    "Exec=/opt/celovpn/celovpn\n".toList ++
    "Icon=/usr/share/icons/hicolor/64x64/apps/celovpn.png\n".toList ++
    "Comment=OpenVPN client for celo.net\n".toList ++
    "X-GNOME-Autostart-enabled=true\n".toList

/-- `for (int k = 0; k < n; ++k) n3 = gs_desktop.indexOf('\n', n3 + 1);` -/
def breakAfter : ℕ → ℤ → ℤ
  | 0, n3 => n3
  | k + 1, n3 => breakAfter k (gs_desktop.indexOf '\n' (n3 + 1))

/-- The same, as long as a line break is found. -/
def lastBreak : ℕ → ℤ → ℤ
  | 0, lastn => lastn
  | k + 1, lastn =>
    if lastn > -1 then lastBreak k (gs_desktop.indexOf '\n' (lastn + 1)) else lastn

/-- `QString::indexOf(QString)` in the units of a text. -/
def indexOfUnits (s t : List ℕ) : ℤ :=
  match s.tails.findIdx? (t.isPrefixOf ·) with
  | some i => i
  | none => -1

/-- The text of a file, in its units. -/
def textOf (bytes : QByteArray) : List ℕ := QString.utf16 (QString.ofBytes bytes)

/-- `delete_startup`, with what it logs. -/
def deleteStartup (f : QFile) : QFile × Option QString :=
  let ncount := gs_desktop.count '\n'
  let n3 := breakAfter 3 0
  if n3 < 0 then (f, none)
  else
    let read := f.readAll
    let s := textOf read.1
    let f := read.2
    let begining := QString.utf16 (gs_desktop.mid 0 n3)
    let p := indexOfUnits s begining
    if p < 0 then (f, none)
    else
      let lastn := lastBreak ncount p
      if lastn < 0 then
        (f, some ("Openned .desktop file but cannot find proper ".toList ++
          QString.number ncount ++ " lines".toList))
      else
        let out := QString.latin1Units (s.take p.toNat ++ s.drop (lastn + 1).toNat)
        ((f.resize out.length).write out, none)

/-- The preference, the autostart file if it is there, and the log. -/
structure Autostart where
  cb_Startup : Option Bool
  desktop : Option QByteArray
  log : List QString

/-- The bytes of the entry. -/
def entry : QByteArray := QString.toLatin1 gs_desktop

/-- `Setting::setStartup` on Linux; `made` tells whether the directory is there or can be
made. -/
def Autostart.setStartup (made v : Bool) (a : Autostart) : Autostart :=
  let a := { a with cb_Startup := some v }
  if v then
    if made then
      match a.desktop with
      | some bytes =>
        let deleted := deleteStartup ⟨bytes, 0⟩
        { a with
          desktop := some (deleted.1.write entry).bytes
          log := deleted.2.toList ++ a.log }
      | none => { a with desktop := some entry }
    else a
  else match a.desktop with
    | some bytes =>
      let deleted := deleteStartup ⟨bytes, 0⟩
      { a with desktop := some deleted.1.bytes, log := deleted.2.toList ++ a.log }
    | none => a

/-- The file has one copy of the entry, and of the rest what it had before. -/
def HasOneCopy (before after : Option QByteArray) : Prop :=
  ∃ bytes ∈ after, copies entry bytes = 1 ∧ others entry bytes = others entry (before.getD [])

theorem length_entry : entry.length = 192 := by decide +kernel

theorem entry_ascii : ∀ b ∈ entry, 0 < b ∧ b < 0x80 := by decide +kernel

/-- The bracket it begins with comes only once in it. -/
theorem entry_eq : entry = 91 :: entry.tail ∧ 91 ∉ entry.tail := by decide +kernel

theorem entry_ne_nil : entry ≠ [] :=
  List.ne_nil_of_length_pos (by rw [length_entry]; exact Nat.succ_pos 191)

/-- The first three lines, in units. -/
def firstThree : List ℕ := (entry.take 45).map UInt8.toNat

theorem begining_eq : QString.utf16 (gs_desktop.mid 0 (breakAfter 3 0)) = firstThree := by
  decide +kernel

/-- From fifteen units on there are fewer line breaks left than are looked for. -/
theorem lastBreak_eq (p : ℕ) :
    lastBreak (gs_desktop.count '\n') p = if p < 15 then 191 else -1 := by
  have hcount : gs_desktop.count '\n' = 7 := by decide +kernel
  rw [hcount]
  by_cases hp : p < 192
  · have hall : ∀ p < 192, lastBreak 7 (p : ℕ) = if p < 15 then 191 else -1 := by decide +kernel
    exact hall p hp
  · have hlength : gs_desktop.length = 192 := by decide +kernel
    have hover : gs_desktop.indexOf '\n' ((p + 1 : ℕ) : ℤ) = -1 := by
      rw [QString.indexOf, QString.searchStart_natCast, List.drop_eq_nil_of_le (by omega)]
      rfl
    rw [lastBreak, if_pos (by omega), if_neg (by omega)]
    exact congrArg (lastBreak 6) hover

theorem indexOfUnits_cases (s t : List ℕ) : indexOfUnits s t = -1 ∨
    ∃ p : ℕ, indexOfUnits s t = p ∧ t <+: s.drop p ∧ ∀ i < p, ¬t <+: s.drop i := by
  unfold indexOfUnits
  cases hfind : s.tails.findIdx? (t.isPrefixOf ·) with
  | none => exact .inl rfl
  | some p =>
    obtain ⟨hp, hbegins, hfirst⟩ := List.findIdx?_eq_some_iff_getElem.mp hfind
    refine .inr ⟨p, rfl, ?_, fun i hi => ?_⟩
    · rwa [List.getElem_tails, List.isPrefixOf_iff_prefix] at hbegins
    · have hnone := hfirst i hi
      rwa [List.getElem_tails, List.isPrefixOf_iff_prefix] at hnone

/-- The text has no null in it, and no more units than there are bytes in front of the
first null. -/
theorem textOf_spec (bytes : QByteArray) :
    0 ∉ textOf bytes ∧ (textOf bytes).length ≤ (bytes.takeWhile (· != 0)).length := by
  constructor
  · intro hmem
    obtain ⟨c, hc, hunit⟩ := List.mem_flatMap.mp hmem
    have hnull : c ≠ Char.ofNat 0 := fun h => QString.null_notMem_ofBytes bytes (h ▸ hc)
    split_ifs at hunit with hplane
    · have hzero : c.toNat = 0 := (List.mem_singleton.mp hunit).symm
      exact hnull (Char.toNat_inj.mp hzero)
    · have hpair := List.mem_pair.mp hunit
      omega
  · unfold textOf QString.ofBytes
    split
    · rename_i us hus
      have hle := QString.length_utf16_decodeUtf8_le us
      rw [hus]
      simp only [List.length_cons]
      omega
    · exact QString.length_utf16_decodeUtf8_le _

/-- A removal: the first three lines are found near the beginning of the text, and this is
written. -/
structure Cut (bytes : QByteArray) (p : ℕ) (out : QByteArray) : Prop where
  lt : p < 15
  found : firstThree <+: (textOf bytes).drop p
  first : ∀ i < p, ¬firstThree <+: (textOf bytes).drop i
  out_eq : out = QString.latin1Units ((textOf bytes).take p ++ (textOf bytes).drop 192)

/-- The file is left as it is, or something is removed from it. -/
theorem deleteStartup_cases (bytes : QByteArray) :
    (deleteStartup ⟨bytes, 0⟩).1 = ⟨bytes, bytes.length⟩ ∨ ∃ p out, Cut bytes p out ∧
      (deleteStartup ⟨bytes, 0⟩).1 =
        (QFile.resize out.length ⟨bytes, bytes.length⟩).write out := by
  have hn3 : ¬breakAfter 3 0 < 0 := by decide +kernel
  have hread : (QFile.readAll ⟨bytes, 0⟩) = (bytes, ⟨bytes, bytes.length⟩) := by
    rw [QFile.readAll]
    simp
  unfold deleteStartup
  dsimp only
  rw [if_neg hn3, hread, begining_eq]
  dsimp only
  rcases indexOfUnits_cases (textOf bytes) firstThree with hnone | ⟨p, hp, hfound, hfirst⟩
  · rw [hnone, if_pos (by decide)]
    exact .inl rfl
  · rw [hp, if_neg (by omega), lastBreak_eq]
    by_cases hlt : p < 15
    · rw [if_pos hlt, if_neg (by decide)]
      exact .inr ⟨p, _, ⟨hlt, hfound, hfirst, rfl⟩, rfl⟩
    · rw [if_neg hlt, if_pos (by decide)]
      exact .inl rfl

namespace Cut
variable {bytes out : QByteArray} {p : ℕ}

theorem length_firstThree_le (h : Cut bytes p out) : p + 45 ≤ (textOf bytes).length := by
  have hfound := h.found.length_le
  have hlength : firstThree.length = 45 := by
    rw [firstThree, List.length_map, List.length_take, length_entry]
    rfl
  rw [hlength, List.length_drop] at hfound
  omega

theorem length_out (h : Cut bytes p out) :
    out.length = p + ((textOf bytes).length - 192) := by
  have hle := h.length_firstThree_le
  rw [h.out_eq, QString.latin1Units, List.length_map, List.length_append, List.length_take,
    List.length_drop, Nat.min_eq_left (by omega)]

/-- Less is written than there was in front of the first null. -/
theorem length_lt (h : Cut bytes p out) :
    out.length < (bytes.takeWhile (· != 0)).length := by
  have hle := h.length_firstThree_le
  have hlt := h.lt
  have hread := (textOf_spec bytes).2
  rw [h.length_out]
  omega

theorem length_lt_bytes (h : Cut bytes p out) : out.length < bytes.length :=
  h.length_lt.trans_le (List.takeWhile_prefix _).length_le

/-- What is written stands behind as much of the file as it is long. -/
theorem write_eq (h : Cut bytes p out) :
    (QFile.resize out.length ⟨bytes, bytes.length⟩).write out =
      ⟨bytes.take out.length ++ out, out.length + out.length⟩ := by
  have hlt := h.length_lt_bytes
  have hlength : (bytes.take out.length).length = out.length := by
    rw [List.length_take]
    omega
  have hzero : out.length - bytes.length = 0 := by omega
  have hmin : min bytes.length out.length = out.length := by omega
  rw [QFile.resize]
  dsimp only
  rw [hzero, hmin, List.replicate_zero, List.append_nil, QFile.write]
  dsimp only
  rw [List.take_of_length_le (by omega), List.drop_eq_nil_of_le (by omega), List.append_nil]

/-- It has no null. -/
theorem null_notMem (h : Cut bytes p out) : 0 ∉ bytes.take out.length ++ out := by
  intro hmem
  rcases List.mem_append.mp hmem with htaken | hwritten
  · have hbegins : bytes.take out.length <+: bytes.takeWhile (· != 0) := by
      refine List.prefix_of_prefix_length_le (List.take_prefix _ _) (List.takeWhile_prefix _) ?_
      rw [List.length_take]
      exact (min_le_left _ _).trans h.length_lt.le
    have hkeep := List.mem_takeWhile_imp (hbegins.subset htaken)
    simp at hkeep
  · rw [h.out_eq, QString.latin1Units] at hwritten
    obtain ⟨u, hu, hzero⟩ := List.mem_map.mp hwritten
    have hunit : u ∈ textOf bytes := by
      rcases List.mem_append.mp hu with hfront | hback
      · exact List.mem_of_mem_take hfront
      · exact List.mem_of_mem_drop hback
    split_ifs at hzero with hlatin
    · have hnat := congrArg UInt8.toNat hzero
      rw [UInt8.toNat_ofNat', Nat.mod_eq_of_lt (by omega)] at hnat
      have hu0 : u = 0 := hnat
      exact (textOf_spec bytes).1 (hu0 ▸ hunit)
    · exact absurd hzero (by decide)

end Cut

theorem length_textOf_ascii {bytes : QByteArray} (h : ∀ b ∈ bytes, 0 < b ∧ b < 0x80) :
    (textOf bytes).length = bytes.length := by
  rw [textOf, QString.ofBytes_of_ascii h, QString.utf16_ofLatin1, List.length_map]

/-- The entry is removed only from a file that holds nothing else. -/
theorem deleteStartup_removes_iff {A B : QByteArray} (hA : ∀ b ∈ A, b < 0x80)
    (hB : ∀ b ∈ B, b < 0x80) :
    (deleteStartup ⟨A ++ entry ++ B, 0⟩).1.bytes = A ++ B ↔ A = [] ∧ B = [] := by
  constructor
  · intro hremoved
    have hlength := congrArg List.length hremoved
    have hentry := length_entry
    rcases deleteStartup_cases (A ++ entry ++ B) with hkept | ⟨p, out, hcut, hwritten⟩
    · rw [hkept] at hlength
      simp only [List.length_append] at hlength
      omega
    · rw [hwritten, hcut.write_eq] at hremoved
      dsimp only at hremoved
      have hnull : 0 ∉ A ++ B := hremoved ▸ hcut.null_notMem
      have hascii : ∀ b ∈ A ++ entry ++ B, 0 < b ∧ b < 0x80 := by
        intro b hb
        have hpos : b ∈ A ++ B → 0 < b := fun hmem =>
          UInt8.pos_iff_ne_zero.mpr fun hzero => hnull (hzero ▸ hmem)
        rcases List.mem_append.mp hb with hfront | hback
        · rcases List.mem_append.mp hfront with hin | hin
          · exact ⟨hpos (List.mem_append_left B hin), hA b hin⟩
          · exact entry_ascii b hin
        · exact ⟨hpos (List.mem_append_right A hback), hB b hback⟩
      have hout := hcut.length_out
      have htotal := congrArg List.length hremoved
      rw [length_textOf_ascii hascii] at hout
      have hlt := hcut.length_lt_bytes
      simp only [List.length_append, List.length_take] at hout htotal hlt
      have hzero : A.length + B.length = 0 := by omega
      exact ⟨List.length_eq_zero_iff.mp (by omega), List.length_eq_zero_iff.mp (by omega)⟩
  · rintro ⟨rfl, rfl⟩
    decide +kernel

theorem QFile.write_end {bytes : QByteArray} {n : ℕ} (h : n = bytes.length) (out : QByteArray) :
    (QFile.write out ⟨bytes, n⟩).bytes = bytes ++ out := by
  rw [QFile.write, h]
  dsimp only
  rw [List.take_length, List.drop_eq_nil_of_le (by omega), List.append_nil]

/-- The text of a file that ends with the entry. -/
theorem textOf_append {Z t : QByteArray} (hZ : 0 ∉ Z) (ht : ∀ b ∈ t, 0 < b ∧ b < 0x80) :
    textOf (Z ++ t) = textOf Z ++ t.map UInt8.toNat := by
  cases t with
  | nil => rw [List.append_nil, List.map_nil, List.append_nil]
  | cons b t =>
    have hnull : 0 ∉ b :: t := fun hmem => absurd (ht 0 hmem).1 (by decide)
    have hb := (List.forall_mem_cons.mp ht).1.2
    rw [textOf, QString.ofBytes_append hZ hnull hb, QString.utf16_append,
      QString.decodeUtf8_of_ascii fun b hb => (ht b hb).2, QString.utf16_ofLatin1]
    rfl

/-- With no bracket in front, the first three lines are found where the entry begins. -/
theorem Cut.eq_length {bytes out T : QByteArray} {p : ℕ} (hcut : Cut bytes p out)
    (htext : textOf bytes = T.map UInt8.toNat ++ entry.map UInt8.toNat) (hT : 91 ∉ T) :
    p = T.length := by
  have hlength : (T.map UInt8.toNat).length = T.length := List.length_map _
  refine le_antisymm ?_ ?_
  · by_contra hlt
    refine hcut.first T.length (by omega) ?_
    rw [htext, ← hlength, List.drop_left]
    exact (List.take_prefix 45 entry).map _
  · by_contra hlt
    have hfound := hcut.found
    obtain ⟨b, rest, hrest⟩ := List.exists_cons_of_ne_nil (l := T.drop p)
      (mt List.drop_eq_nil_iff.mp (by omega))
    rw [htext, List.drop_append_of_le_length (by omega), ← List.map_drop, hrest] at hfound
    have hhead : b = 91 := by
      have hfirst : firstThree = 91 :: (entry.tail.take 44).map UInt8.toNat := by
        rw [firstThree, entry_eq.1]
        rfl
      rw [hfirst, List.map_cons, List.cons_append, List.cons_prefix_cons] at hfound
      exact UInt8.toNat_inj.mp hfound.1.symm
    have hmem : b ∈ T := List.mem_of_mem_drop (hrest ▸ List.mem_cons_self)
    rw [hhead] at hmem
    exact hT hmem

/-- ASCII at the end is read. -/
theorem eq_nil_of_textOf_nil {X T : QByteArray} (hnull : 0 ∉ X ++ T)
    (hT : ∀ b ∈ T, 0 < b ∧ b < 0x80) (h : textOf (X ++ T) = []) : T = [] := by
  rcases (QString.ofBytes_eq_nil hnull).mp (QString.utf16_eq_nil.mp h) with hnil | hmark
  · exact (List.append_eq_nil_iff.mp hnil).2
  · refine List.eq_nil_iff_forall_not_mem.mpr fun b hb => ?_
    have hmem : b ∈ ([0xEF, 0xBB, 0xBF] : QByteArray) := hmark ▸ List.mem_append_right X hb
    simp only [List.mem_cons, List.not_mem_nil, or_false] at hmem
    rcases hmem with rfl | rfl | rfl
    · exact absurd (hT _ hb).2 (by decide)
    · exact absurd (hT _ hb).2 (by decide)
    · exact absurd (hT _ hb).2 (by decide)

-- What is removed from a file that ends with the entry is written again in front of it.

section End
variable {Z out : QByteArray} {p : ℕ} (hcut : Cut (Z ++ entry) p out)
  (hZ : Z = (Z ++ entry).take out.length ++ out)
include hcut hZ

theorem Cut.null_notMem_front : 0 ∉ Z := by
  rw [hZ]
  exact hcut.null_notMem

theorem Cut.textOf_end : textOf (Z ++ entry) = textOf Z ++ entry.map UInt8.toNat :=
  textOf_append (hcut.null_notMem_front hZ) entry_ascii

/-- What is written, in the two parts that the removal leaves. -/
theorem Cut.out_end :
    out = QString.latin1Units ((textOf Z ++ entry.map UInt8.toNat).take p) ++
      QString.latin1Units ((textOf Z ++ entry.map UInt8.toNat).drop 192) := by
  have hout := hcut.out_eq
  rw [hcut.textOf_end hZ] at hout
  exact hout.trans (QString.latin1Units_append ..)

/-- After a long text the last entry itself is written. -/
theorem Cut.entry_infix (hlong : 192 ≤ (textOf Z).length) : entry <:+: Z := by
  have hout := hcut.out_end hZ
  rw [List.drop_append_of_le_length hlong, QString.latin1Units_append,
    QString.latin1Units_toNat] at hout
  rw [hZ, hout]
  exact ((List.suffix_append _ _).trans
    ((List.suffix_append _ _).trans (List.suffix_append _ _))).isInfix

/-- A short text is the end of the entry, written twice; then no text is read in front of
it, and nothing is written. -/
theorem Cut.eq_nil_of_short (hshort : (textOf Z).length < 192) : Z = [] := by
  have hunits : (entry.map UInt8.toNat).length = 192 := by rw [List.length_map, length_entry]
  have hnull := hcut.null_notMem_front hZ
  have htext := hcut.textOf_end hZ
  have hout := hcut.out_end hZ
  set D := textOf Z with hD
  set T := entry.drop (192 - D.length) with hT
  have hTlength : T.length = D.length := by
    rw [hT, List.length_drop, length_entry]
    omega
  have hTascii : ∀ b ∈ T, 0 < b ∧ b < 0x80 := fun b hb => entry_ascii b (List.mem_of_mem_drop hb)
  have htail : (D ++ entry.map UInt8.toNat).drop 192 = T.map UInt8.toNat := by
    rw [List.drop_append, List.drop_eq_nil_of_le (by omega), List.nil_append, hT, List.map_drop]
  rw [htail, QString.latin1Units_toNat] at hout
  obtain ⟨V, hV⟩ : ∃ V, V = (Z ++ entry).take out.length ++
    QString.latin1Units ((D ++ entry.map UInt8.toNat).take p) := ⟨_, rfl⟩
  have hsplit : Z = V ++ T := by
    rw [hV, List.append_assoc, ← hout]
    exact hZ
  have hVnull : 0 ∉ V := fun hmem => hnull (hsplit ▸ List.mem_append_left T hmem)
  have hDtext : D = textOf V ++ T.map UInt8.toNat := by
    rw [hD, hsplit, textOf_append hVnull hTascii]
  have hVtext : textOf V = [] := by
    have hDlength := congrArg List.length hDtext
    rw [List.length_append, List.length_map, hTlength] at hDlength
    exact List.length_eq_zero_iff.mp (by omega)
  rw [hVtext, List.nil_append] at hDtext
  have hbracket : 91 ∉ T := by
    have htail : T <:+ entry.tail := by
      rw [hT, ← List.drop_one]
      exact List.drop_suffix_drop_left entry (by omega)
    exact fun hmem => entry_eq.2 (htail.subset hmem)
  rw [hDtext] at htext
  have hp : p = T.length := hcut.eq_length htext hbracket
  have hVT : V = (Z ++ entry).take out.length ++ T := by
    have hmap : (T.map UInt8.toNat).length = T.length := List.length_map _
    rw [hV, hDtext, hp, ← hmap, List.take_left, QString.latin1Units_toNat]
  rw [hVT] at hVnull hVtext
  have hTnil : T = [] := eq_nil_of_textOf_nil hVnull hTascii hVtext
  have hzero : out.length = 0 := by
    rw [hcut.length_out, htext, List.length_append, hunits, hp, hTnil]
    rfl
  rw [hZ, List.length_eq_zero_iff.mp hzero]
  rfl

theorem Cut.eq_nil (hnone : ¬entry <:+: Z) : Z = [] := by
  by_cases hlong : 192 ≤ (textOf Z).length
  · exact absurd (hcut.entry_infix hZ hlong) hnone
  · exact hcut.eq_nil_of_short hZ (by omega)

end End

/-- The file after the entry has been written to it. -/
def rewritten (bytes : QByteArray) : QByteArray :=
  ((deleteStartup ⟨bytes, 0⟩).1.write entry).bytes

/-- The entry comes last. -/
theorem rewritten_cases (bytes : QByteArray) : ∃ Z, rewritten bytes = Z ++ entry ∧
    (Z = bytes ∨ ∃ p out, Cut bytes p out ∧ Z = bytes.take out.length ++ out) := by
  rcases deleteStartup_cases bytes with hkept | ⟨p, out, hcut, hwritten⟩
  · refine ⟨bytes, ?_, .inl rfl⟩
    rw [rewritten, hkept, QFile.write_end rfl]
  · refine ⟨bytes.take out.length ++ out, ?_, .inr ⟨p, out, hcut, rfl⟩⟩
    have hlt := hcut.length_lt_bytes
    have hend : out.length + out.length = (bytes.take out.length ++ out).length := by
      rw [List.length_append, List.length_take]
      omega
    rw [rewritten, hwritten, hcut.write_eq, QFile.write_end hend]

/-- A file that ends with its only copy of the entry is written anew as it is only if it
holds nothing else. -/
theorem eq_nil_of_rewritten {Z : QByteArray} (hnone : ¬entry <:+: Z)
    (h : rewritten (Z ++ entry) = Z ++ entry) : Z = [] := by
  obtain ⟨Y, hY, hkept | ⟨p, out, hcut, hcutY⟩⟩ := rewritten_cases (Z ++ entry)
  · have hlength := congrArg List.length (hY.symm.trans h)
    have hentry := length_entry
    rw [hkept] at hlength
    simp only [List.length_append] at hlength
    omega
  · obtain rfl : Y = Z := List.append_cancel_right (hY.symm.trans h)
    exact hcut.eq_nil hcutY hnone

/-- What is left of a file with one copy of the entry, at its end. -/
theorem not_infix_and_others {Z : QByteArray} (h : copies entry (Z ++ entry) = 1) :
    ¬entry <:+: Z ∧ others entry (Z ++ entry) = Z := by
  have hnone := not_infix_of_copies entry_ne_nil h
  refine ⟨hnone, ?_⟩
  rw [entry_eq.1] at hnone ⊢
  exact others_append_word entry_eq.2 hnone

/-- Two writings that keep the rest of a file as it is have nothing to keep. -/
theorem eq_of_rewritten_twice {X : QByteArray}
    (hone : HasOneCopy (some X) (some (rewritten X)))
    (htwo : HasOneCopy (some X) (some (rewritten (rewritten X)))) : X = [] ∨ X = entry := by
  obtain ⟨Y, hY, hcases⟩ := rewritten_cases X
  obtain ⟨Y', hY', -⟩ := rewritten_cases (rewritten X)
  rw [hY'] at htwo
  rw [hY] at hone hY'
  obtain ⟨_, ⟨⟩, hcopies, hothers⟩ := hone
  obtain ⟨_, ⟨⟩, hcopies', hothers'⟩ := htwo
  obtain ⟨hnone, hleft⟩ := not_infix_and_others hcopies
  have hleft' := (not_infix_and_others hcopies').2
  -- the second writing changes nothing, so that nothing stands in front of the entry
  have hsame : Y' = Y := by rw [← hleft', hothers', ← hothers, hleft]
  rw [hsame] at hY'
  have hnil : Y = [] := eq_nil_of_rewritten hnone hY'
  rcases hcases with hkept | ⟨p, out, hcut, hwritten⟩
  · exact .inl (hkept ▸ hnil)
  · -- all of the file is copies of the entry, and no more than one of them was read
    right
    rw [hleft, hnil, Option.getD_some] at hothers
    obtain ⟨k, hk⟩ := eq_flatten_of_others_nil entry_ne_nil hothers.symm
    have hascii : ∀ b ∈ X, 0 < b ∧ b < 0x80 := by
      intro b hb
      rw [hk] at hb
      obtain ⟨w, hw, hbw⟩ := List.mem_flatten.mp hb
      rw [List.eq_of_mem_replicate hw] at hbw
      exact entry_ascii b hbw
    have hlength : X.length = k * 192 := by
      rw [hk, List.length_flatten, List.map_replicate, length_entry, List.sum_replicate_nat]
    have hout := hcut.length_out
    have hread := hcut.length_firstThree_le
    rw [length_textOf_ascii hascii] at hout hread
    rw [hnil] at hwritten
    have hzero : out.length = 0 :=
      List.length_eq_zero_iff.mpr (List.append_eq_nil_iff.mp hwritten.symm).2
    have hk1 : k = 1 := by omega
    rw [hk, hk1, List.replicate_one, List.flatten_cons, List.flatten_nil, List.append_nil]

theorem rewritten_nil : rewritten [] = entry := by decide +kernel

theorem rewritten_entry : rewritten entry = entry := by decide +kernel

theorem hasOneCopy_entry {before : Option QByteArray}
    (h : before = none ∨ before = some [] ∨ before = some entry) :
    HasOneCopy before (some entry) := by
  refine ⟨entry, rfl, by decide +kernel, ?_⟩
  have hword := others_append entry_ne_nil []
  rw [List.append_nil] at hword
  rcases h with rfl | rfl | rfl
  · exact hword
  · exact hword
  · rfl

theorem Autostart.desktop_setStartup (a : Autostart) :
    (a.setStartup true true).desktop = some ((a.desktop.map rewritten).getD entry) := by
  rw [setStartup, if_pos rfl, if_pos rfl]
  cases a.desktop with
  | none => rfl
  | some X => rfl

/-- Where the file holds at most the entry, it holds the entry afterwards. -/
theorem Autostart.desktop_iterate {a : Autostart}
    (h : a.desktop = none ∨ a.desktop = some [] ∨ a.desktop = some entry) (n : ℕ) :
    ((setStartup true true)^[n + 1] a).desktop = some entry := by
  induction n with
  | zero =>
    rw [Function.iterate_one, desktop_setStartup]
    rcases h with h | h | h
    · rw [h]
      rfl
    · rw [h]
      exact congrArg some rewritten_nil
    · rw [h]
      exact congrArg some rewritten_entry
  | succ n ih =>
    rw [Function.iterate_succ_apply', desktop_setStartup, ih]
    exact congrArg some rewritten_entry

/-- It keeps one copy of the entry and the rest only where there is no rest. -/
theorem Autostart.hasOneCopy_iff (a : Autostart) :
    (∀ n, HasOneCopy a.desktop ((setStartup true true)^[n + 1] a).desktop) ↔
      a.desktop = none ∨ a.desktop = some [] ∨ a.desktop = some entry := by
  constructor
  · intro hruns
    have hone := hruns 0
    have htwo := hruns 1
    rw [Function.iterate_one, desktop_setStartup] at hone
    rw [Function.iterate_succ_apply', Function.iterate_one, desktop_setStartup,
      desktop_setStartup] at htwo
    cases hX : a.desktop with
    | none => exact .inl rfl
    | some X =>
      rw [hX] at hone htwo
      rcases eq_of_rewritten_twice hone htwo with rfl | rfl
      · exact .inr (.inl rfl)
      · exact .inr (.inr rfl)
  · intro h n
    rw [desktop_iterate h]
    exact hasOneCopy_entry h

/-- Removing the entry leaves the rest as it is only where there is no rest, and writing
it keeps one copy of it and the rest, however often, only where there is none either. -/
theorem Autostart.setStartup_iff {A B : QByteArray} (hA : ∀ b ∈ A, b < 0x80)
    (hB : ∀ b ∈ B, b < 0x80) (made : Bool) (a : Autostart) :
    ((setStartup made false { a with desktop := some (A ++ entry ++ B) }).desktop =
      some (A ++ B) ↔ A = [] ∧ B = []) ∧
    ((∀ n, HasOneCopy a.desktop ((setStartup true true)^[n + 1] a).desktop) ↔
      a.desktop = none ∨ a.desktop = some [] ∨ a.desktop = some entry) := by
  exact ⟨Option.some_inj.trans (deleteStartup_removes_iff hA hB), a.hasOneCopy_iff⟩

theorem Autostart.setStartup_only_entry :
    (setStartup true false ⟨none, some entry, []⟩).desktop = some [] ∧
    ∀ n, HasOneCopy (some entry) ((setStartup true true)^[n + 1] ⟨none, some entry, []⟩).desktop := by
  have hnone : ∀ b ∈ ([] : QByteArray), b < 0x80 := fun _ hb => absurd hb List.not_mem_nil
  obtain ⟨hoff, hon⟩ := setStartup_iff hnone hnone true ⟨none, some entry, []⟩
  have hremoved := hoff.mpr ⟨rfl, rfl⟩
  rw [List.nil_append, List.append_nil] at hremoved
  exact ⟨hremoved, hon.mpr (.inr (.inr rfl))⟩

/-- The line `[x]`. -/
def other : QByteArray := [91, 120, 93, 10]

/-- The line `#`. -/
def comment : QByteArray := [35, 10]

/-- Another entry behind it is left behind what begins the file, and a comment in front of
it is written again. -/
theorem Autostart.setStartup_other_text :
    ¬(∀ A B : QByteArray, (∀ b ∈ A, b < 0x80) → (∀ b ∈ B, b < 0x80) →
      ¬entry.take 45 <:+: A → ¬entry.take 45 <:+: B →
        (setStartup true false ⟨none, some (A ++ entry ++ B), []⟩).desktop = some (A ++ B)) ∧
    ¬∀ (X : QByteArray) (n : ℕ),
      HasOneCopy (some X) ((setStartup true true)^[n + 1] ⟨none, some X, []⟩).desktop := by
  have hshort : ∀ B : QByteArray, B.length < 45 → ¬entry.take 45 <:+: B := by
    intro B hB hinfix
    have hle := hinfix.length_le
    rw [List.length_take, length_entry] at hle
    omega
  constructor
  · intro h
    have hnone : ∀ b ∈ ([] : QByteArray), b < 0x80 := fun _ hb => absurd hb List.not_mem_nil
    have hother : ∀ b ∈ other, b < 0x80 := by decide +kernel
    have hkept := h [] other hnone hother (hshort [] (by decide)) (hshort other (by decide))
    have hnil := (deleteStartup_removes_iff hnone hother).mp (Option.some_inj.mp hkept)
    exact absurd hnil.2 (by decide)
  · intro h
    rcases (hasOneCopy_iff ⟨none, some comment, []⟩).mp (h comment) with hnone | hnil | hentry
    · cases hnone
    · exact absurd (Option.some_inj.mp hnil) (by decide)
    · have hlength := congrArg List.length (Option.some_inj.mp hentry)
      rw [length_entry] at hlength
      exact absurd hlength (by decide)

end CeloVpn.Client
