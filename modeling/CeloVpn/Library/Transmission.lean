import CeloVpn.Library.Members
import Mathlib.Algebra.Order.BigOperators.Group.List

/-!
# JSON texts sent through a channel

A channel carries a text and may change what stands between its ASCII characters. The
structure of a JSON text is ASCII, so that the value arrives with its strings changed,
or nothing arrives. It arrives unchanged exactly when all its strings are ASCII and the
reader follows its nesting.
-/
namespace CeloVpn
open QString (isAscii wide Tame)

/-- A channel keeps the ASCII characters in their places and leaves nothing but tame
texts between them, with half of the other characters at most. -/
structure Channel (carry : QString → Option QString) : Prop where
  nil : carry [] = some []
  ascii : ∀ s c t, isAscii c = true → carry (s ++ c :: t) =
    (carry s).bind fun s' => (carry t).map fun t' => s' ++ c :: t'
  tame : ∀ s s', Tame s → carry s = some s' → Tame s'
  narrow : ∀ s s', carry s = some s' → 2 * wide s' ≤ wide s

namespace Channel
variable {carry : QString → Option QString}

/-- Written in Latin-1 and read in UTF-8. -/
theorem latin1 : Channel fun s => QString.utf8? (QString.toLatin1 s) where
  nil := by decide
  ascii s c t hc := by
    obtain ⟨b, hb, rfl, hbytes⟩ := QString.toLatin1_ascii hc t
    rw [QString.toLatin1_append, hbytes, QString.utf8?_append hb]
  tame s s' h hs := h.utf8? hs
  narrow s s' hs := (QString.wide_utf8?_le hs).trans (QString.high_toLatin1_le s)

/-- Read with replacement before it is sent through a channel. -/
theorem garbled (h : Channel carry) : Channel fun s => carry (QString.garbled s) where
  nil := by
    have hnil : QString.garbled [] = [] := by decide
    rw [hnil, h.nil]
  ascii s c t hc := by rw [QString.garbled_append hc, h.ascii _ _ _ hc]
  tame s s' hs hs' := h.tame _ _ hs.garbled hs'
  narrow s s' hs :=
    (h.narrow _ _ hs).trans ((QString.wide_decodeUtf8_le _).trans (QString.high_toLatin1_le s))

/-- A text has no ASCII character, or a first one. -/
theorem ascii_induction {P : QString → Prop} (hwide : ∀ s, (∀ c ∈ s, isAscii c = false) → P s)
    (hascii : ∀ w c t, (∀ d ∈ w, isAscii d = false) → isAscii c = true → P t → P (w ++ c :: t))
    (s : QString) : P s := by
  induction hn : s.length using Nat.strongRecOn generalizing s with
  | ind n ih =>
    have hw : ∀ c ∈ s.takeWhile (!isAscii ·), isAscii c = false := fun c hc => by
      simpa using List.mem_takeWhile_imp hc
    cases hrest : s.dropWhile (!isAscii ·) with
    | nil =>
      rw [List.dropWhile_eq_nil_iff] at hrest
      exact hwide s fun c hc => by simpa using hrest c hc
    | cons c t =>
      have hsplit : s.takeWhile (!isAscii ·) ++ c :: t = s := by
        rw [← hrest, List.takeWhile_append_dropWhile]
      have hc : isAscii c = true := by
        have hhead := List.head_dropWhile_not (!isAscii ·) (l := s) (by simp [hrest])
        simpa [hrest] using hhead
      have hlt : t.length < n := by
        have hlength := congrArg List.length hsplit
        simp only [List.length_append, List.length_cons] at hlength
        omega
      rw [← hsplit]
      exact hascii _ c t hw hc (ih t.length hlt t rfl)

/-- What is ASCII passes unchanged. -/
theorem prefix_ascii (h : Channel carry) {a : QString} (ha : ∀ c ∈ a, isAscii c = true)
    (t : QString) : carry (a ++ t) = (carry t).map (a ++ ·) := by
  induction a with
  | nil => simp
  | cons c a ih =>
    obtain ⟨hc, hlater⟩ := List.forall_mem_cons.mp ha
    have hstep := h.ascii [] c (a ++ t) hc
    rw [List.nil_append, h.nil, ih hlater] at hstep
    rw [List.cons_append, hstep]
    cases carry t <;> rfl

theorem ascii_eq (h : Channel carry) {a : QString} (ha : ∀ c ∈ a, isAscii c = true) :
    carry a = some a := by
  have hprefix := h.prefix_ascii ha []
  rwa [List.append_nil, h.nil, Option.map_some, List.append_nil] at hprefix

theorem cons_ascii (h : Channel carry) {c : Char} (hc : isAscii c = true) (t : QString) :
    carry (c :: t) = (carry t).map (c :: ·) :=
  h.prefix_ascii (a := [c]) (by simpa using hc) t

theorem tame_of_wide {s : QString} (h : ∀ c ∈ s, isAscii c = false) : Tame s :=
  fun c hc => .inr (h c hc)

end Channel

namespace Json
variable {ν : Type*} {carry : QString → Option QString}

/-- Tame characters need no escape. -/
theorem escape_tame {s : QString} (h : Tame s) : escape s = s := by
  have hchar : ∀ c ∈ s, escapeChar c = [c] := by
    intro c hc
    rcases h c hc with rfl | hwide
    · decide
    · have hbig : 0x80 ≤ c.toNat := by simpa [isAscii] using hwide
      have hquote : ¬(c = '"' ∨ c = '\\') := by
        rintro (rfl | rfl)
        · revert hbig
          decide
        · revert hbig
          decide
      rw [escapeChar, if_neg hquote, if_neg (by omega)]
  rw [escape, List.flatMap_congr hchar, List.flatMap_singleton']

theorem escapeChar_ascii {c : Char} (h : isAscii c = true) :
    escapeChar c ≠ [] ∧ ∀ d ∈ escapeChar c, isAscii d = true := by
  have hall : ∀ i : Fin 0x80, escapeChar (Char.ofNat i) ≠ [] ∧
      (escapeChar (Char.ofNat i)).all isAscii = true := by decide +kernel
  have hc := hall ⟨c.toNat, of_decide_eq_true h⟩
  rwa [Char.ofNat_toNat, List.all_eq_true] at hc

theorem escape_append (s t : QString) : escape (s ++ t) = escape s ++ escape t :=
  List.flatMap_append

/-- Escaping and sending commute. -/
theorem carry_escape (h : Channel carry) (s : QString) :
    carry (escape s) = (carry s).map escape := by
  induction s using Channel.ascii_induction with
  | hwide s hs =>
    have htame := Channel.tame_of_wide hs
    rw [escape_tame htame]
    cases hcarry : carry s with
    | none => rfl
    | some s' => rw [Option.map_some, escape_tame (h.tame s s' htame hcarry)]
  | hascii w c t hw hc ih =>
    have htame := Channel.tame_of_wide hw
    obtain ⟨hne, hescaped⟩ := escapeChar_ascii hc
    obtain ⟨e, es, he⟩ := List.exists_cons_of_ne_nil hne
    rw [he] at hescaped
    obtain ⟨hhead, htail⟩ := List.forall_mem_cons.mp hescaped
    have hcons : escape (c :: t) = e :: (es ++ escape t) := by
      rw [escape, List.flatMap_cons, he, ← escape]
      rfl
    rw [escape_append, hcons, escape_tame htame, h.ascii _ _ _ hhead, h.prefix_ascii htail, ih,
      h.ascii _ _ _ hc]
    cases hcarry : carry w with
    | none => rfl
    | some w' =>
      have hw' : escape w' = w' := escape_tame (h.tame w w' htame hcarry)
      cases carry t with
      | none => rfl
      | some t' =>
        have hcons' : escape (c :: t') = e :: (es ++ escape t') := by
          rw [escape, List.flatMap_cons, he, ← escape]
          rfl
        simp [escape_append, hcons', hw']

theorem carry_quoted (h : Channel carry) (s t : QString) : carry (quoted s ++ t) =
    (carry s).bind fun s' => (carry t).map fun t' => quoted s' ++ t' := by
  have hquoted : ∀ u, quoted u ++ t = '"' :: (escape u ++ '"' :: t) := by
    intro u
    simp [quoted]
  rw [hquoted, h.cons_ascii (by decide), h.ascii _ _ _ (by decide), carry_escape h]
  cases carry s with
  | none => rfl
  | some s' =>
    cases carry t with
    | none => rfl
    | some t' => simp [quoted]

variable (carry)

mutual

/-- The value with its strings as they arrive. -/
def transmit : Json ν → Option (Json ν)
  | .null => some .null
  | .bool b => some (.bool b)
  | .number x => some (.number x)
  | .string s => (carry s).map .string
  | .array vs => (transmitElements vs).map .array
  | .object ms => (transmitMembers ms).map .object
termination_by structural v => v

def transmitElements : List (Json ν) → Option (List (Json ν))
  | [] => some []
  | v :: vs => (transmit v).bind fun v' => (transmitElements vs).map (v' :: ·)
termination_by structural vs => vs

def transmitMembers : List (QString × Json ν) → Option (List (QString × Json ν))
  | [] => some []
  | (k, v) :: ms => (carry k).bind fun k' => (transmit v).bind fun v' =>
    (transmitMembers ms).map ((k', v') :: ·)
termination_by structural ms => ms

end

variable {carry}

section Texts
variable {fmt : NumberFormat ν}

/-- The text of the value arrives as the text of the value that arrives. -/
def Carries (carry : QString → Option QString) (fmt : NumberFormat ν) (v : Json ν) : Prop :=
  ∀ t, carry (render fmt v ++ t) =
    (transmit carry v).bind fun v' => (carry t).map fun t' => render fmt v' ++ t'

theorem carries_of_ascii (h : Channel carry) {v : Json ν} (hv : transmit carry v = some v)
    (hascii : ∀ c ∈ render fmt v, isAscii c = true) : Carries carry fmt v := by
  intro t
  rw [h.prefix_ascii hascii, hv]
  rfl

theorem carry_renderElements (h : Channel carry) {vs : List (Json ν)}
    (hvs : ∀ v ∈ vs, Carries carry fmt v) (t : QString) : carry (renderElements fmt vs ++ t) =
      (transmitElements carry vs).bind fun vs' => (carry t).map (renderElements fmt vs' ++ ·) := by
  induction vs with
  | nil => simp [renderElements, transmitElements]
  | cons v vs ih =>
    obtain ⟨hv, hlater⟩ := List.forall_mem_cons.mp hvs
    rw [renderElements_cons, List.cons_append, List.append_assoc, h.cons_ascii (by decide), hv,
      ih hlater, transmitElements]
    cases transmit carry v with
    | none => rfl
    | some v' =>
      cases transmitElements carry vs with
      | none => rfl
      | some vs' =>
        cases carry t with
        | none => rfl
        | some t' => simp

theorem carry_renderMembers (h : Channel carry) {ms : List (QString × Json ν)}
    (hms : ∀ m ∈ ms, Carries carry fmt m.2) (t : QString) : carry (renderMembers fmt ms ++ t) =
      (transmitMembers carry ms).bind fun ms' => (carry t).map (renderMembers fmt ms' ++ ·) := by
  induction ms with
  | nil => simp [renderMembers, transmitMembers]
  | cons m ms ih =>
    obtain ⟨hm, hlater⟩ := List.forall_mem_cons.mp hms
    rw [renderMembers_cons, List.cons_append, List.append_assoc, List.cons_append,
      List.append_assoc, h.cons_ascii (by decide), carry_quoted h, h.cons_ascii (by decide), hm,
      ih hlater, transmitMembers]
    cases carry m.1 with
    | none => rfl
    | some k =>
      cases transmit carry m.2 with
      | none => rfl
      | some v =>
        cases transmitMembers carry ms with
        | none => rfl
        | some ms' =>
          cases carry t with
          | none => rfl
          | some t' => simp

theorem isAscii_of_isNumeric {c : Char} (h : isNumeric c = true) : isAscii c = true := by
  simp only [isNumeric, Bool.or_eq_true, Bool.and_eq_true, decide_eq_true_eq, beq_iff_eq] at h
  rw [isAscii, decide_eq_true_eq]
  rcases h with ((((⟨-, h⟩ | rfl) | rfl) | rfl) | rfl) | rfl
  · have hle : c.toNat ≤ '9'.toNat := h
    exact Nat.lt_of_le_of_lt hle (by decide)
  all_goals decide

theorem carries_render (h : Channel carry) (v : Json ν) : Carries carry fmt v := by
  induction v using induction with
  | null => exact carries_of_ascii h rfl (show ∀ c ∈ "null".toList, _ from List.all_eq_true.mp rfl)
  | bool b =>
    cases b with
    | false =>
      exact carries_of_ascii h rfl (show ∀ c ∈ "false".toList, _ from List.all_eq_true.mp rfl)
    | true =>
      exact carries_of_ascii h rfl (show ∀ c ∈ "true".toList, _ from List.all_eq_true.mp rfl)
  | number x =>
    exact carries_of_ascii h rfl fun c hc => isAscii_of_isNumeric (fmt.isNumeric_text x c hc)
  | string s =>
    intro t
    rw [render, carry_quoted h, transmit]
    cases carry s <;> rfl
  | array vs ih =>
    intro t
    cases vs with
    | nil =>
      have hascii : ∀ c ∈ ['[', ']'], isAscii c = true := List.all_eq_true.mp rfl
      exact carries_of_ascii (v := .array []) h rfl hascii t
    | cons v vs =>
      obtain ⟨hv, hlater⟩ := List.forall_mem_cons.mp ih
      rw [render, renderElements_cons, List.drop_succ_cons, List.drop_zero, List.cons_append,
        List.append_assoc, List.append_assoc, List.singleton_append, h.cons_ascii (by decide), hv,
        carry_renderElements h hlater, h.cons_ascii (by decide), transmit, transmitElements]
      cases transmit carry v with
      | none => rfl
      | some v' =>
        cases transmitElements carry vs with
        | none => rfl
        | some vs' =>
          cases carry t with
          | none => rfl
          | some t' => simp [render]
  | object ms ih =>
    intro t
    cases ms with
    | nil =>
      have hascii : ∀ c ∈ ['{', '}'], isAscii c = true := List.all_eq_true.mp rfl
      exact carries_of_ascii (v := .object []) h rfl hascii t
    | cons m ms =>
      obtain ⟨hm, hlater⟩ := List.forall_mem_cons.mp ih
      rw [render, renderMembers_cons, List.drop_succ_cons, List.drop_zero, List.cons_append,
        List.append_assoc, List.append_assoc, List.cons_append, List.append_assoc,
        List.singleton_append, h.cons_ascii (by decide), carry_quoted h, h.cons_ascii (by decide),
        hm, carry_renderMembers h hlater, h.cons_ascii (by decide), transmit, transmitMembers]
      cases carry m.1 with
      | none => rfl
      | some k =>
        cases transmit carry m.2 with
        | none => rfl
        | some v =>
          cases transmitMembers carry ms with
          | none => rfl
          | some ms' =>
            cases carry t with
            | none => rfl
            | some t' => simp [render]

/-- The text of a value arrives as the text of the value that arrives. -/
theorem carry_render (h : Channel carry) (v : Json ν) :
    carry (render fmt v) = (transmit carry v).map (render fmt) := by
  have hcarried : Carries carry fmt v := carries_render h v
  have hcarries := hcarried []
  rw [List.append_nil, h.nil] at hcarries
  rw [hcarries]
  cases transmit carry v <;> simp

end Texts

mutual

/-- The strings of a value, the keys of its members among them. -/
def strings : Json ν → List QString
  | .null => []
  | .bool _ => []
  | .number _ => []
  | .string s => [s]
  | .array vs => stringsElements vs
  | .object ms => stringsMembers ms
termination_by structural v => v

def stringsElements : List (Json ν) → List QString
  | [] => []
  | v :: vs => strings v ++ stringsElements vs
termination_by structural vs => vs

def stringsMembers : List (QString × Json ν) → List QString
  | [] => []
  | (k, v) :: ms => k :: (strings v ++ stringsMembers ms)
termination_by structural ms => ms

end

/-- How many characters of the strings are not ASCII. -/
def width (ss : List QString) : ℕ := wide ss.flatten

@[simp] theorem width_append (ss ts : List QString) : width (ss ++ ts) = width ss + width ts := by
  simp [width]

@[simp] theorem width_cons (s : QString) (ss : List QString) :
    width (s :: ss) = wide s + width ss := by
  simp [width]

theorem width_eq_zero {ss : List QString} :
    width ss = 0 ↔ ∀ s ∈ ss, ∀ c ∈ s, isAscii c = true := by
  rw [width, QString.wide_eq_zero]
  simp only [List.mem_flatten]
  exact ⟨fun h s hs c hc => h c ⟨s, hs, hc⟩, fun h c ⟨s, hs, hc⟩ => h s hs c hc⟩

theorem width_stringsElements (vs : List (Json ν)) :
    width (stringsElements vs) = (vs.map fun v => width (strings v)).sum := by
  induction vs with
  | nil => rfl
  | cons v vs ih => rw [stringsElements, width_append, ih, List.map_cons, List.sum_cons]

theorem width_stringsMembers (ms : List (QString × Json ν)) :
    width (stringsMembers ms) = (ms.map fun m => wide m.1 + width (strings m.2)).sum := by
  induction ms with
  | nil => rfl
  | cons m ms ih =>
    rw [stringsMembers, width_cons, width_append, ih, List.map_cons, List.sum_cons, Nat.add_assoc]

/-- At most half of the characters outside ASCII arrive. -/
theorem width_transmit (h : Channel carry) {v v' : Json ν} (hv : transmit carry v = some v') :
    2 * width (strings v') ≤ width (strings v) := by
  induction v using induction generalizing v' with
  | null =>
    obtain rfl := Option.some.inj hv
    exact le_rfl
  | bool b =>
    obtain rfl := Option.some.inj hv
    exact le_rfl
  | number x =>
    obtain rfl := Option.some.inj hv
    exact le_rfl
  | string s =>
    obtain ⟨s', hs, rfl⟩ := Option.map_eq_some_iff.mp hv
    have hnarrow := h.narrow s s' hs
    simpa [strings, width] using hnarrow
  | array vs ih =>
    obtain ⟨vs', hvs, rfl⟩ := Option.map_eq_some_iff.mp hv
    clear hv
    simp only [strings]
    induction vs generalizing vs' with
    | nil =>
      obtain rfl := Option.some.inj hvs
      exact le_rfl
    | cons u vs ihvs =>
      obtain ⟨hu, hlater⟩ := List.forall_mem_cons.mp ih
      obtain ⟨u', hu', hrest⟩ := Option.bind_eq_some_iff.mp hvs
      obtain ⟨vs'', hvs'', rfl⟩ := Option.map_eq_some_iff.mp hrest
      have hfirst := hu hu'
      have hothers := ihvs hlater vs'' hvs''
      simp only [stringsElements, width_append]
      omega
  | object ms ih =>
    obtain ⟨ms', hms, rfl⟩ := Option.map_eq_some_iff.mp hv
    clear hv
    simp only [strings]
    induction ms generalizing ms' with
    | nil =>
      obtain rfl := Option.some.inj hms
      exact le_rfl
    | cons m ms ihms =>
      obtain ⟨hm, hlater⟩ := List.forall_mem_cons.mp ih
      obtain ⟨k, hk, hvalue⟩ := Option.bind_eq_some_iff.mp hms
      obtain ⟨u, hu, hrest⟩ := Option.bind_eq_some_iff.mp hvalue
      obtain ⟨ms'', hms'', rfl⟩ := Option.map_eq_some_iff.mp hrest
      have hkey := h.narrow _ _ hk
      have hfirst := hm hu
      have hothers := ihms hlater ms'' hms''
      simp only [stringsMembers, width_cons, width_append]
      omega

theorem sum_insert_le (f : QString × Json ν → ℕ) (m : QString × Json ν)
    (ms : List (QString × Json ν)) : ((insert m ms).map f).sum ≤ f m + (ms.map f).sum := by
  induction ms with
  | nil => simp [insert]
  | cons u ms ih =>
    unfold insert
    split_ifs
    · simp
    · simp only [List.map_cons, List.sum_cons]
      omega
    · simp only [List.map_cons, List.sum_cons]
      omega

theorem sum_collect_le (f : QString × Json ν → ℕ) (ms : List (QString × Json ν)) :
    ((collect ms).map f).sum ≤ (ms.map f).sum := by
  have hfold : ∀ o : List (QString × Json ν),
      ((ms.foldl (fun o m => insert m o) o).map f).sum ≤ (o.map f).sum + (ms.map f).sum := by
    induction ms with
    | nil => simp
    | cons m ms ih =>
      intro o
      have hinsert := sum_insert_le f m o
      have hlater := ih (insert m o)
      rw [List.foldl_cons, List.map_cons, List.sum_cons]
      omega
  simpa [collect] using hfold []

theorem width_normalize_le (v : Json ν) : width (strings (normalize v)) ≤ width (strings v) := by
  induction v using induction with
  | null => exact le_rfl
  | bool b => exact le_rfl
  | number x => exact le_rfl
  | string s => exact le_rfl
  | array vs ih =>
    rw [normalize, strings, strings, width_stringsElements, width_stringsElements,
      normalizeElements_eq, List.map_map]
    exact List.sum_le_sum ih
  | object ms ih =>
    rw [normalize, strings, strings, width_stringsMembers, width_stringsMembers]
    refine (sum_collect_le _ _).trans ?_
    rw [normalizeMembers_eq, List.map_map]
    exact List.sum_le_sum fun m hm => Nat.add_le_add_left (ih m hm) _

/-- A value whose strings are ASCII arrives as it is. -/
theorem transmit_ascii (h : Channel carry) {v : Json ν}
    (hv : ∀ s ∈ strings v, ∀ c ∈ s, isAscii c = true) : transmit carry v = some v := by
  induction v using induction with
  | null => rfl
  | bool b => rfl
  | number x => rfl
  | string s => rw [transmit, h.ascii_eq (hv s (by simp [strings]))]; rfl
  | array vs ih =>
    have helements : transmitElements carry vs = some vs := by
      simp only [strings] at hv
      induction vs with
      | nil => rfl
      | cons u vs ihvs =>
        obtain ⟨hu, hlater⟩ := List.forall_mem_cons.mp ih
        obtain ⟨hfirst, hothers⟩ := List.forall_mem_append.mp hv
        rw [transmitElements, hu hfirst, ihvs hlater hothers]
        rfl
    rw [transmit, helements]
    rfl
  | object ms ih =>
    have hmembers : transmitMembers carry ms = some ms := by
      simp only [strings] at hv
      induction ms with
      | nil => rfl
      | cons m ms ihms =>
        obtain ⟨hm, hlater⟩ := List.forall_mem_cons.mp ih
        obtain ⟨hkey, hvalues⟩ := List.forall_mem_cons.mp hv
        obtain ⟨hfirst, hothers⟩ := List.forall_mem_append.mp hvalues
        rw [transmitMembers, h.ascii_eq hkey, hm hfirst, ihms hlater hothers]
        rfl
    rw [transmit, hmembers]
    rfl

theorem nesting_normalize_le (v : Json ν) : nesting (normalize v) ≤ nesting v := by
  induction v using induction with
  | array vs ih =>
    rw [normalize, nesting, nesting, normalizeElements_eq]
    refine Nat.succ_le_succ (nestingElements_le.mpr fun u hu => ?_)
    obtain ⟨v, hv, rfl⟩ := List.mem_map.mp hu
    exact (ih v hv).trans (nestingElements_le.mp le_rfl v hv)
  | object ms ih =>
    rw [normalize, nesting, nesting, normalizeMembers_eq]
    refine Nat.succ_le_succ (nestingMembers_le.mpr fun u hu => ?_)
    obtain ⟨m, hm, rfl⟩ := List.mem_map.mp (mem_collect hu)
    exact (ih m hm).trans (nestingMembers_le.mp le_rfl m hm)
  | _ => exact le_rfl

/-- An object in normal form arrives as it is exactly when all its strings are ASCII and it
is nested no more deeply than the reader follows. -/
theorem arrives_iff (h : Channel carry) (fmt : NumberFormat ν) {ms : List (QString × Json ν)}
    (hms : normalize (.object ms) = .object ms) :
    (carry (render fmt (.object ms))).bind (readDocument fmt) = some (.object ms) ↔
      (∀ s ∈ strings (.object ms), ∀ c ∈ s, isAscii c = true) ∧
        nesting (.object ms) ≤ nestingLimit := by
  rw [carry_render h]
  constructor
  · intro harrives
    cases htransmit : transmit carry (.object ms) with
    | none => simp [htransmit] at harrives
    | some v =>
      obtain ⟨ms', -, rfl⟩ := Option.map_eq_some_iff.mp htransmit
      simp only [htransmit, Option.map_some, Option.bind_some, readDocument_render] at harrives
      split_ifs at harrives with hshallow
      have hfewer := width_transmit h htransmit
      have hnormal := width_normalize_le (Json.object ms')
      have hnesting := nesting_normalize_le (Json.object ms')
      rw [Option.some.inj harrives] at hnormal hnesting
      exact ⟨width_eq_zero.mp (by omega), hnesting.trans hshallow⟩
  · rintro ⟨hascii, hshallow⟩
    rw [transmit_ascii h hascii, Option.map_some, Option.bind_some, readDocument_render,
      if_pos hshallow, hms]

end Json
end CeloVpn
