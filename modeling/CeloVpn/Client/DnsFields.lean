import CeloVpn.Common
import CeloVpn.Library.Framing
import CeloVpn.Library.Numerals
import CeloVpn.Library.Runs

/-!
# The fields for the DNS servers

`IsValidIp` counts the dots and has the parts between them read with `toInt`, which takes
white space around a number and a sign before it. A text that passes is stored as it was
typed, and sent with the next request to connect.
-/
namespace CeloVpn
open Framing

/-- Four groups between single dots. -/
def IsQuad (P : QString → Prop) (s : QString) : Prop :=
  ∃ groups : List QString, groups.length = 4 ∧ QString.join ".".toList groups = s ∧
    ∀ g ∈ groups, P g

/-- ASCII digits, at least one, of value at most 255. -/
def IsOctet (g : QString) : Prop :=
  g ≠ [] ∧ (∀ c ∈ g, c.isDigit = true) ∧ Nat.ofDigitChars 10 g 0 ≤ 255

/-- A number from 0 to 255 with white space around it and a sign, or without these. -/
def IsLooseOctet (g : QString) : Prop :=
  ∃ n : QString.Numeral, n.text = g ∧ 0 ≤ n.value ∧ n.value ≤ 255

/-- White space or a sign. -/
def IsPadding (c : Char) : Prop := QString.isSpace c = true ∨ c = '+' ∨ c = '-'

/-- Four numbers of which one at least has white space around it or a sign. -/
def IsPadded (s : QString) : Prop := IsQuad IsLooseOctet s ∧ ∃ c ∈ s, IsPadding c

theorem not_isPadding_of_isDigit {c : Char} (h : c.isDigit = true) : ¬IsPadding c := by
  rintro (hspace | rfl | rfl)
  · rw [QString.isSpace_of_isDigit h] at hspace
    cases hspace
  · exact absurd h (by decide)
  · exact absurd h (by decide)

/-- What stands in a numeral. -/
theorem mem_text {n : QString.Numeral} {c : Char} (h : c ∈ n.text) :
    c.isDigit = true ∨ IsPadding c := by
  rcases List.mem_append.mp h with hfront | hafter
  · rcases List.mem_append.mp hfront with hbefore | hnumber
    · exact .inr (.inl (n.isSpace_before c hbefore))
    · rcases List.mem_append.mp hnumber with hsign | hdigit
      · cases hs : n.sign <;> rw [hs] at hsign
        · cases hsign
        · exact .inr (.inr (.inl (List.mem_singleton.mp hsign)))
        · exact .inr (.inr (.inr (List.mem_singleton.mp hsign)))
      · exact .inl (n.isDigit c hdigit)
  · exact .inr (.inl (n.isSpace_after c hafter))

/-- A numeral without white space and signs is its digits. -/
theorem text_eq_digits {n : QString.Numeral} (h : ∀ c ∈ n.text, ¬IsPadding c) :
    n.text = n.digits ∧ n.sign = .none := by
  have hbefore : n.before = [] := by
    refine List.eq_nil_iff_forall_not_mem.mpr fun c hc => ?_
    refine h c ?_ (.inl (n.isSpace_before c hc))
    exact List.mem_append_left _ (List.mem_append_left _ hc)
  have hafter : n.after = [] := by
    refine List.eq_nil_iff_forall_not_mem.mpr fun c hc => ?_
    exact h c (List.mem_append_right _ hc) (.inl (n.isSpace_after c hc))
  have hsign : n.sign = .none := by
    have hmem : ∀ c ∈ n.sign.text, ¬IsPadding c := fun c hc =>
      h c (List.mem_append_left _ (List.mem_append_right _ (List.mem_append_left _ hc)))
    cases hs : n.sign with
    | none => rfl
    | plus =>
      rw [hs] at hmem
      exact absurd (.inr (.inl rfl)) (hmem '+' (List.mem_singleton_self _))
    | minus =>
      rw [hs] at hmem
      exact absurd (.inr (.inr rfl)) (hmem '-' (List.mem_singleton_self _))
  refine ⟨?_, hsign⟩
  rw [QString.Numeral.text, hbefore, hafter, hsign, List.append_nil]
  rfl

namespace IsLooseOctet
variable {g : QString}

theorem dot_notMem (h : IsLooseOctet g) : '.' ∉ g := by
  obtain ⟨n, rfl, -⟩ := h
  intro hdot
  rcases mem_text hdot with hdigit | hpadding
  · exact absurd hdigit (by decide)
  · exact absurd hpadding (by unfold IsPadding; decide)

theorem ne_nil (h : IsLooseOctet g) : g ≠ [] := by
  obtain ⟨n, rfl, -⟩ := h
  have hdigits := n.digits_ne_nil
  simp [QString.Numeral.text, hdigits]

end IsLooseOctet

/-- An octet is a number from 0 to 255 without white space and signs. -/
theorem isOctet_iff {g : QString} : IsOctet g ↔ IsLooseOctet g ∧ ∀ c ∈ g, ¬IsPadding c := by
  constructor
  · rintro ⟨hne, hdigit, hle⟩
    refine ⟨⟨.bare .none g hne hdigit, QString.Numeral.text_bare .none hne hdigit, ?_⟩, fun c hc =>
      not_isPadding_of_isDigit (hdigit c hc)⟩
    rw [QString.Numeral.value_bare, QString.Sign.factor]
    omega
  · rintro ⟨⟨n, rfl, -, hle⟩, hplain⟩
    obtain ⟨htext, hsign⟩ := text_eq_digits hplain
    rw [htext]
    refine ⟨n.digits_ne_nil, n.isDigit, ?_⟩
    rw [QString.Numeral.value, hsign, QString.Sign.factor] at hle
    omega

theorem isLooseOctet_iff {part : QString} :
    IsLooseOctet part ↔ ∃ v, part.toInt? = some v ∧ 0 ≤ v ∧ v ≤ 255 := by
  constructor
  · rintro ⟨n, htext, hlow, hhigh⟩
    exact ⟨n.value, QString.toInt?_eq_some_iff.mpr ⟨n, htext, rfl, by omega, by omega⟩, hlow, hhigh⟩
  · rintro ⟨v, hv, hlow, hhigh⟩
    obtain ⟨n, htext, rfl, -⟩ := QString.toInt?_eq_some_iff.mp hv
    exact ⟨n, htext, hlow, hhigh⟩

theorem partsOk_iff {ar : List QString} : partsOk ar = true ↔ ∀ part ∈ ar, IsLooseOctet part := by
  induction ar with
  | nil => exact iff_of_true rfl fun _ hpart => absurd hpart List.not_mem_nil
  | cons part ar ih =>
    rw [List.forall_mem_cons, ← ih, isLooseOctet_iff, partsOk]
    cases hv : part.toInt? with
    | none => simp
    | some v => by_cases hrange : 0 ≤ v ∧ v ≤ 255 <;> simp [hrange]

theorem isQuad_iff {P : QString → Prop} (hP : ∀ g, P g → '.' ∉ g) {s : QString} :
    IsQuad P s ↔ (s.splitOn '.').length = 4 ∧ ∀ g ∈ s.splitOn '.', P g :=
  exists_intercalate_iff hP (by decide)

/-- Three dots have four parts between them, and none of these is empty. -/
theorem isValidIp_iff {s : QString} : isValidIp s = true ↔ IsQuad IsLooseOctet s := by
  rw [isQuad_iff fun g => IsLooseOctet.dot_notMem, length_splitOn]
  have hparts : ∀ ar : List QString, (∀ part ∈ ar, (!part.isEmpty) = true) →
      ar.filter (fun t => !t.isEmpty) = ar := fun ar => List.filter_eq_self.mpr
  unfold isValidIp QString.splitSkipEmpty
  dsimp only
  split_ifs with hpoints hlength
  · have hall : ∀ part ∈ s.splitOn '.', (!part.isEmpty) = true := by
      apply List.length_filter_eq_length_iff.mp
      rw [hlength, length_splitOn, ← hpoints]
    rw [hparts _ hall, partsOk_iff, and_iff_right (by omega)]
  · apply iff_of_false (by simp)
    rintro ⟨-, hloose⟩
    apply hlength
    have hall : ∀ part ∈ s.splitOn '.', (!part.isEmpty) = true :=
      fun part hpart => by simpa using (hloose part hpart).ne_nil
    rw [hparts _ hall, length_splitOn, ← hpoints]
  · apply iff_of_false (by simp)
    rintro ⟨hcount, -⟩
    omega

/-- Four octets between single dots. -/
def IsDottedQuad (s : QString) : Prop := IsQuad IsOctet s

theorem isDottedQuad_iff {s : QString} :
    IsDottedQuad s ↔ IsQuad IsLooseOctet s ∧ ∀ c ∈ s, ¬IsPadding c := by
  have hoctet : ∀ g, IsOctet g → '.' ∉ g := fun g hg => (isOctet_iff.mp hg).1.dot_notMem
  have hdot : ¬IsPadding '.' := by
    unfold IsPadding
    decide
  rw [IsDottedQuad, isQuad_iff hoctet, isQuad_iff fun g => IsLooseOctet.dot_notMem, and_assoc]
  refine and_congr_right fun _ => ⟨fun h => ⟨fun g hg => (isOctet_iff.mp (h g hg)).1, ?_⟩, ?_⟩
  · intro c hc
    by_cases hsep : c = '.'
    · rw [hsep]
      exact hdot
    · obtain ⟨g, hg, hcg⟩ := (exists_mem_splitOn_iff hsep s).mpr hc
      exact (isOctet_iff.mp (h g hg)).2 c hcg
  · rintro ⟨hloose, hplain⟩ g hg
    refine isOctet_iff.mpr ⟨hloose g hg, fun c hc => hplain c ?_⟩
    have hsep : c ≠ '.' := by
      rintro rfl
      exact (hloose g hg).dot_notMem hc
    exact (exists_mem_splitOn_iff hsep s).mp ⟨g, hg, hc⟩

/-- `IsValidIp` tells the dotted quads from the other texts exactly where the text is not
padded. -/
theorem isValidIp_iff_isDottedQuad_iff (s : QString) :
    (isValidIp s = true ↔ IsDottedQuad s) ↔ ¬IsPadded s := by
  rw [isValidIp_iff, isDottedQuad_iff, IsPadded]
  constructor
  · rintro h ⟨hloose, c, hc, hpadding⟩
    exact (h.mp hloose).2 c hc hpadding
  · refine fun h => ⟨fun hloose => ⟨hloose, fun c hc hpadding => ?_⟩, And.left⟩
    exact h ⟨hloose, c, hc, hpadding⟩

/-- A sign before the first number. -/
theorem isValidIp_signed : ¬∀ s : QString, isValidIp s = true ↔ IsDottedQuad s := by
  intro h
  have hquad : IsDottedQuad "+1.2.3.4".toList := (h _).mp (by decide)
  exact (isDottedQuad_iff.mp hquad).2 '+' (by decide) (.inr (.inl rfl))

namespace Client
open Runs

/-- The stored servers for DNS. -/
structure DnsSetting where
  e_PrimaryDns : Option QString
  e_SecondaryDns : Option QString

namespace DnsSetting

def kDefaultDNS1 : QString := "1.1.1.1".toList
def kDefaultDNS2 : QString := "84.200.69.80".toList

def dns1 (s : DnsSetting) : QString := s.e_PrimaryDns.getD kDefaultDNS1
def dns2 (s : DnsSetting) : QString := s.e_SecondaryDns.getD kDefaultDNS2

def setDNS1 (value : QString) (s : DnsSetting) : DnsSetting :=
  { s with e_PrimaryDns := some value }

def setDNS2 (value : QString) (s : DnsSetting) : DnsSetting :=
  { s with e_SecondaryDns := some value }

/-- `dns1` and `dns2` of the request to connect; nothing sets other defaults. -/
def requested (s : DnsSetting) : List QString :=
  [if s.dns1.isEmpty then kDefaultDNS1 else s.dns1, if s.dns2.isEmpty then kDefaultDNS2 else s.dns2]

end DnsSetting

/-- An empty field is no error. -/
def vlidate_e_ip (text : QString) : Bool :=
  let error := if text.isEmpty then false else !isValidIp text
  !error

def validate_e_Dns (text : QString) (s : DnsSetting) : DnsSetting :=
  if vlidate_e_ip text then s.setDNS1 text else s

def validate_e_SecondaryDns (text : QString) (s : DnsSetting) : DnsSetting :=
  if vlidate_e_ip text then s.setDNS2 text else s

/-- The user finishes editing one of the fields. -/
inductive DnsEdit
  | e_PrimaryDns (text : QString)
  | e_SecondaryDns (text : QString)

namespace DnsSetting
variable {s : DnsSetting}

def edit (s : DnsSetting) : DnsEdit → DnsSetting
  | .e_PrimaryDns text => validate_e_Dns text s
  | .e_SecondaryDns text => validate_e_SecondaryDns text s

/-- What is stored has passed the check. -/
structure Checked (s : DnsSetting) : Prop where
  dns1 : vlidate_e_ip s.dns1 = true
  dns2 : vlidate_e_ip s.dns2 = true

theorem Checked.edit (h : s.Checked) (e : DnsEdit) : (s.edit e).Checked := by
  cases e with
  | e_PrimaryDns text =>
    show (validate_e_Dns text s).Checked
    unfold validate_e_Dns
    split_ifs with hvalid
    · exact ⟨hvalid, h.dns2⟩
    · exact h
  | e_SecondaryDns text =>
    show (validate_e_SecondaryDns text s).Checked
    unfold validate_e_SecondaryDns
    split_ifs with hvalid
    · exact ⟨h.dns1, hvalid⟩
    · exact h

theorem isValidIp_of_vlidate {v standard : QString} (hv : vlidate_e_ip v = true)
    (hstandard : isValidIp standard = true) :
    isValidIp (if v.isEmpty then standard else v) = true := by
  split_ifs with hempty
  · exact hstandard
  · simpa [vlidate_e_ip, hempty] using hv

theorem Checked.requested (h : s.Checked) : ∀ v ∈ s.requested, isValidIp v = true := by
  intro v hv
  rcases List.mem_pair.mp hv with rfl | rfl
  · exact isValidIp_of_vlidate h.dns1 (by decide)
  · exact isValidIp_of_vlidate h.dns2 (by decide)

/-- Whatever is typed, what is requested is four numbers from 0 to 255 between single dots,
with white space around them and signs as they were typed. -/
theorem requested_run (h : s.Checked) (edits : List DnsEdit) :
    ∀ v ∈ (run edit s edits).requested, IsQuad IsLooseOctet v := by
  have hrun : (run edit s edits).Checked := run_invariant (fun _ e hs => hs.edit e) h edits
  exact fun v hv => isValidIp_iff.mp (hrun.requested v hv)

/-- Nothing is stored at first. -/
example : (⟨none, none⟩ : DnsSetting).Checked := ⟨by decide, by decide⟩

end DnsSetting
end Client
end CeloVpn
