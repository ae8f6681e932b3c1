import CeloVpn.Library.Transmission

/-!
# Parts of JSON texts

What a reader makes of a part of an object's text. A text that is cut off before its
end is no object. A part that begins later is one only where it begins at an opening
brace, and inside a string such an object is empty, since every quote of the string
stands behind a backslash.
-/
namespace CeloVpn
open QString (isAscii Tame)

namespace Channel
variable {carry : QString → Option QString}

/-- An ASCII character that arrives was sent, question marks apart. -/
theorem exists_of_ascii (h : Channel carry) {c : Char} (hc : isAscii c = true) (hne : c ≠ '?')
    {s a t : QString} (hs : carry s = some (a ++ c :: t)) :
    ∃ a' t', s = a' ++ c :: t' ∧ carry a' = some a ∧ carry t' = some t := by
  have hnot : ∀ w w', (∀ d ∈ w, isAscii d = false) → carry w = some w' → c ∉ w' := by
    intro w w' hw hcarry hmem
    rcases h.tame w w' (tame_of_wide hw) hcarry c hmem with rfl | hwide
    · exact hne rfl
    · rw [hc] at hwide
      cases hwide
  induction s using ascii_induction generalizing a t with
  | hwide s hwide => exact absurd (by simp) (hnot s _ hwide hs)
  | hascii w d u hw hd ih =>
    rw [h.ascii _ _ _ hd] at hs
    obtain ⟨w', hw', hrest⟩ := Option.bind_eq_some_iff.mp hs
    obtain ⟨u', hu', heq⟩ := Option.map_eq_some_iff.mp hrest
    rcases List.append_eq_append_iff.mp heq with ⟨x, rfl, hx⟩ | ⟨x, rfl, hx⟩
    · cases x with
      | nil =>
        obtain ⟨rfl, rfl⟩ := List.cons.inj hx
        exact ⟨w, u, rfl, by simpa using hw', hu'⟩
      | cons e x =>
        obtain ⟨rfl, rfl⟩ := List.cons.inj hx
        obtain ⟨a', t', rfl, ha', ht'⟩ := ih hu'
        exact ⟨w ++ d :: a', t', by simp, by rw [h.ascii _ _ _ hd, hw', ha']; rfl, ht'⟩
    · cases x with
      | nil =>
        obtain ⟨rfl, rfl⟩ := List.cons.inj hx
        exact ⟨w, u, rfl, by simpa using hw', hu'⟩
      | cons e x =>
        obtain ⟨rfl, -⟩ := List.cons.inj hx
        exact absurd (by simp) (hnot w _ hw hw')

end Channel

namespace Json
variable {ν : Type*} {carry : QString → Option QString}

/-- Every quote stands behind a backslash. -/
def Guarded (e : QString) : Prop := ∀ v w, e = v ++ '"' :: w → v.getLast? = some '\\'

theorem Guarded.append {e e' : QString} (h : Guarded e) (h' : Guarded e') : Guarded (e ++ e') := by
  intro v w heq
  rcases List.append_eq_append_iff.mp heq with ⟨x, rfl, hx⟩ | ⟨x, rfl, hx⟩
  · rw [List.getLast?_append, h' x w hx]
    rfl
  · cases x with
    | nil => exact absurd (h' [] w hx.symm) (by simp)
    | cons d x =>
      obtain ⟨rfl, -⟩ := List.cons.inj hx
      exact h v x rfl

theorem guarded_of_notMem {e : QString} (h : '"' ∉ e) : Guarded e := by
  rintro v w rfl
  exact absurd (by simp) h

theorem escapeChar_wide {c : Char} (h : isAscii c = false) : escapeChar c = [c] := by
  have htame := escape_tame (s := [c]) (Channel.tame_of_wide (by simpa using h))
  rwa [escape, List.flatMap_singleton] at htame

theorem guarded_escapeChar (c : Char) : Guarded (escapeChar c) := by
  by_cases hquote : c = '"'
  · rintro v w heq
    rw [hquote, escapeChar, if_pos (.inl rfl)] at heq
    cases v with
    | nil => cases heq
    | cons d v =>
      obtain ⟨rfl, hrest⟩ := List.cons.inj heq
      have hlength : 1 = v.length + (w.length + 1) := by
        simpa using congrArg List.length hrest
      obtain rfl : v = [] := List.length_eq_zero_iff.mp (by omega)
      rfl
  · refine guarded_of_notMem fun hmem => ?_
    cases hc : isAscii c with
    | true =>
      have hall : ∀ i : Fin 0x80, Char.ofNat i ≠ '"' → '"' ∉ escapeChar (Char.ofNat i) := by
        decide +kernel
      have hchar := hall ⟨c.toNat, of_decide_eq_true hc⟩
      rw [Char.ofNat_toNat] at hchar
      exact hchar hquote hmem
    | false =>
      rw [escapeChar_wide hc, List.mem_singleton] at hmem
      exact hquote hmem.symm

theorem guarded_escape (s : QString) : Guarded (escape s) := by
  induction s with
  | nil => exact guarded_of_notMem List.not_mem_nil
  | cons c s ih =>
    rw [escape, List.flatMap_cons, ← escape]
    exact (guarded_escapeChar c).append ih

/-- A quote without a backslash is the one that closes the string. -/
theorem eq_of_unguarded {s v w z : QString} (hz : '"' ∉ z)
    (h : escape s ++ '"' :: z = v ++ '"' :: w) (hv : v.getLast? ≠ some '\\') : w = z := by
  rcases List.append_eq_append_iff.mp h with ⟨x, rfl, hx⟩ | ⟨x, hx, hx'⟩
  · cases x with
    | nil => exact (List.cons.inj hx).2.symm
    | cons d x =>
      obtain ⟨rfl, hrest⟩ := List.cons.inj hx
      exact absurd (by simp [hrest]) hz
  · cases x with
    | nil => exact (List.cons.inj hx').2
    | cons d x =>
      obtain ⟨rfl, -⟩ := List.cons.inj hx'
      exact absurd (guarded_escape s v x hx) hv

theorem mapRead_eq_some {α β : Type*} {f : α → β} {x : Option (α × QString)} {b : β}
    {r : QString} : mapRead f x = some (b, r) ↔ ∃ a, x = some (a, r) ∧ f a = b := by
  cases x with
  | none => simp [mapRead]
  | some p =>
    obtain ⟨a, r'⟩ := p
    simp only [mapRead, Option.some.injEq, Prod.mk.injEq]
    constructor
    · rintro ⟨rfl, rfl⟩
      exact ⟨a, ⟨rfl, rfl⟩, rfl⟩
    · rintro ⟨a', ⟨rfl, rfl⟩, rfl⟩
      exact ⟨rfl, rfl⟩

theorem readUnits_unicode (x₁ x₂ x₃ x₄ : Char) (s : QString) :
    readUnits ('\\' :: 'u' :: x₁ :: x₂ :: x₃ :: x₄ :: s) =
      (codeUnit? x₁ x₂ x₃ x₄).bind fun u => mapRead (u :: ·) (readUnits s) := by
  rw [readUnits.eq_def]
  rfl

theorem readUnits_refused {e : Char} {s : QString} (he : e = 'u' ∨ isAscii e = false)
    (hshort : ∀ x₁ x₂ x₃ x₄ t, e = 'u' → s ≠ x₁ :: x₂ :: x₃ :: x₄ :: t) :
    readUnits ('\\' :: e :: s) = none := by
  rw [readUnits.eq_4]
  · simp [he]
  · exact hshort

theorem readUnits_escaped {e : Char} (he : ¬(e = 'u' ∨ isAscii e = false)) (s : QString) :
    readUnits ('\\' :: e :: s) = mapRead (QString.utf16 [unescaped e] ++ ·) (readUnits s) := by
  rw [readUnits.eq_4 _ _ _ fun _ _ _ _ _ hu => absurd (.inl hu) he]
  simp [he]

theorem readUnits_append {s r : QString} {units : List ℕ} (h : readUnits s = some (units, r))
    (t : QString) : readUnits (s ++ t) = some (units, r ++ t) := by
  induction s using readUnits.induct generalizing units r with
  | case1 => simp [readUnits] at h
  | case2 s =>
    rw [readUnits_quote] at h
    obtain ⟨rfl, rfl⟩ := Prod.mk.inj (Option.some.inj h)
    exact readUnits_quote (s ++ t)
  | case3 => simp [readUnits] at h
  | case4 x₁ x₂ x₃ x₄ s _ ih =>
    rw [readUnits_unicode] at h
    obtain ⟨u, hu, hrest⟩ := Option.bind_eq_some_iff.mp h
    obtain ⟨units', hunits, rfl⟩ := mapRead_eq_some.mp hrest
    simp only [List.cons_append]
    rw [readUnits_unicode, hu, Option.bind_some, ih hunits]
    rfl
  | case5 e s hshort he =>
    rw [readUnits_refused he hshort] at h
    cases h
  | case6 e s _ he _ ih =>
    rw [readUnits_escaped he] at h
    obtain ⟨units', hunits, rfl⟩ := mapRead_eq_some.mp h
    simp only [List.cons_append]
    rw [readUnits_escaped he, ih hunits]
    rfl
  | case7 c s hquote hescape ih =>
    rw [readUnits_plain hquote hescape] at h
    obtain ⟨units', hunits, rfl⟩ := mapRead_eq_some.mp h
    rw [List.cons_append, readUnits_plain hquote hescape, ih hunits]
    rfl

/-- A string that is complete stays what it is when more characters follow. -/
theorem readString_append {s a r : QString} (h : readString s = some (a, r)) (t : QString) :
    readString (s ++ t) = some (a, r ++ t) := by
  obtain ⟨units, hunits, rfl⟩ := mapRead_eq_some.mp h
  rw [readString, readUnits_append hunits]
  rfl

/-- What is left of a string can be completed with ASCII characters. -/
theorem exists_of_prefix_escape {e s : QString} (h : e <+: escape s) :
    ∃ z s', (∀ c ∈ z, isAscii c = true) ∧ e ++ z = escape s' := by
  induction s generalizing e with
  | nil =>
    obtain rfl := List.prefix_nil.mp h
    exact ⟨[], [], nofun, rfl⟩
  | cons c s ih =>
    have hcons : escape (c :: s) = escapeChar c ++ escape s := List.flatMap_cons
    obtain ⟨u, hu⟩ := h
    rw [hcons] at hu
    rcases List.append_eq_append_iff.mp hu with ⟨x, hx, -⟩ | ⟨x, rfl, hx⟩
    · cases hc : isAscii c with
      | true =>
        refine ⟨x, [c], fun d hd => (escapeChar_ascii hc).2 d (by simp [hx, hd]), ?_⟩
        rw [← hx, escape, List.flatMap_singleton]
      | false =>
        rw [escapeChar_wide hc] at hx
        cases e with
        | nil => exact ⟨[], [], nofun, rfl⟩
        | cons d e =>
          obtain ⟨rfl, hrest⟩ := List.cons.inj hx
          obtain ⟨rfl, -⟩ := List.append_eq_nil_iff.mp hrest.symm
          refine ⟨[], [c], nofun, ?_⟩
          rw [escape, List.flatMap_singleton, escapeChar_wide hc]
          rfl
    · obtain ⟨z, s', hz, hcomplete⟩ := ih ⟨u, hx.symm⟩
      exact ⟨z, c :: s', hz, by rw [List.append_assoc, hcomplete]; rfl⟩

/-- A string without its closing quote cannot be read. -/
theorem readString_of_prefix_escape (h : Channel carry) {e s t : QString} (he : e <+: escape s)
    (ht : carry e = some t) : readString t = none := by
  obtain ⟨z, s', hz, hcomplete⟩ := exists_of_prefix_escape he
  have hcarry : carry (escape s') = some (t ++ z) := by
    rw [← hcomplete]
    cases z with
    | nil => rw [List.append_nil, List.append_nil, ht]
    | cons c z =>
      obtain ⟨hc, hlater⟩ := List.forall_mem_cons.mp hz
      rw [h.ascii _ _ _ hc, ht, h.ascii_eq hlater]
      rfl
  rw [carry_escape h] at hcarry
  obtain ⟨s'', -, hescape⟩ := Option.map_eq_some_iff.mp hcarry
  by_contra hread
  obtain ⟨⟨a, r⟩, hsome⟩ := Option.ne_none_iff_exists'.mp hread
  have hlong := readString_append hsome (z ++ ['"'])
  rw [← List.append_assoc, ← hescape, readString_escape] at hlong
  simp at hlong

/-- Where a string is cut off in itself or right behind its closing quote, nothing can
be read behind it. -/
theorem readString_cut (h : Channel carry) {s x z t : QString}
    (hx : escape s ++ ['"', '}'] = x ++ z) (hz : z ≠ []) (ht : carry x = some t) :
    ∀ a r, readString t = some (a, r) → r = [] := by
  intro a r hread
  rcases List.append_eq_append_iff.mp hx with ⟨w, rfl, hw⟩ | ⟨w, hw, -⟩
  · cases w with
    | nil =>
      rw [List.append_nil] at ht
      rw [readString_of_prefix_escape h (List.prefix_refl _) ht] at hread
      cases hread
    | cons c w =>
      obtain ⟨rfl, hrest⟩ := List.cons.inj hw
      obtain rfl : w = [] := by
        rcases List.append_eq_singleton_iff.mp hrest.symm with ⟨hw, -⟩ | ⟨-, hnil⟩
        · exact hw
        · exact absurd hnil hz
      rw [h.ascii _ _ _ (by decide), carry_escape h, h.nil] at ht
      obtain ⟨u, hu, hquote⟩ := Option.bind_eq_some_iff.mp ht
      obtain ⟨s', -, rfl⟩ := Option.map_eq_some_iff.mp hu
      obtain rfl := Option.some.inj hquote
      rw [readString_escape] at hread
      exact (Prod.mk.inj (Option.some.inj hread)).2.symm
  · rw [readString_of_prefix_escape h ⟨w, hw.symm⟩ ht] at hread
    cases hread

/-- Escaping and cutting down to Latin-1 commute. -/
theorem escape_latinized (s : QString) :
    escape (QString.latinized s) = QString.latinized (escape s) := by
  induction s with
  | nil => rfl
  | cons c s ih =>
    have hcons : QString.latinized (c :: s) = QString.latinized [c] ++ QString.latinized s :=
      QString.latinized_append [c] s
    have hescape : escape (c :: s) = escapeChar c ++ escape s := List.flatMap_cons
    rw [hcons, escape_append, hescape, QString.latinized_append, ih]
    congr 1
    cases hc : isAscii c with
    | true =>
      rw [QString.latinized_ascii (by simpa using hc),
        QString.latinized_ascii (escapeChar_ascii hc).2, escape, List.flatMap_singleton]
    | false =>
      have htame : Tame [c] := Channel.tame_of_wide (by simpa using hc)
      rw [escapeChar_wide hc, escape_tame htame.latinized]

section Documents
variable {fmt : NumberFormat ν}

/-- The text of an object with two members, up to where the second begins as a string. -/
def opening (fmt : NumberFormat ν) (k : QString) (v : Json ν) (k' : QString) : QString :=
  '{' :: (quoted k ++ ':' :: (render fmt v ++ ',' :: (quoted k' ++ [':', '"'])))

theorem render_opening (k : QString) (v : Json ν) (k' s : QString) :
    render fmt (.object [(k, v), (k', .string s)]) =
      opening fmt k v k' ++ (escape s ++ ['"', '}']) := by
  simp [render, renderMembers, opening, quoted]

theorem readMembers_quote (value : QString → Option (Json ν × QString)) (n : ℕ) (s : QString) :
    readMembers value (n + 1) ('"' :: s) =
      match readMember value s with
      | none => none
      | some (m, r) =>
        match skipBlanks r with
        | ',' :: r => mapRead (m :: ·) (readMembers value n r)
        | '}' :: r => some ([m], r)
        | _ => none := rfl

/-- Members that are cut off in a string cannot be read. -/
theorem readMembers_cut {array object : QString → Option (Json ν × QString)} (k : QString)
    {x : QString} (hx : ∀ a r, readString x = some (a, r) → r = []) (i : ℕ) :
    readMembers (readNested fmt array object) i
      ('"' :: (escape k ++ '"' :: ':' :: '"' :: x)) = none := by
  cases i with
  | zero => rfl
  | succ i =>
    have hvalue : readNested fmt array object (skipBlanks ('"' :: x)) =
        mapRead .string (readString x) := rfl
    rw [readMembers_quote, readMember, readString_escape]
    simp only [skipBlanks_cons (show isBlank ':' = false by decide), hvalue]
    cases hread : readString x with
    | none => rfl
    | some p =>
      obtain ⟨a, r⟩ := p
      obtain rfl := hx a r hread
      rfl

/-- An object that is cut off in its last string, or right behind it, cannot be read. -/
theorem readDocument_opening (k : QString) {v : Json ν} (hv : nesting v = 0) (k' : QString)
    {x : QString} (hx : ∀ a r, readString x = some (a, r) → r = []) :
    readDocument fmt (opening fmt k v k' ++ x) = none := by
  have htext : opening fmt k v k' ++ x = '{' :: '"' :: (escape k ++ '"' :: ':' ::
      (render fmt v ++ ',' :: '"' :: (escape k' ++ '"' :: ':' :: '"' :: x))) := by
    simp [opening, quoted]
  have hnone : readValue fmt nestingLimit (opening fmt k v k' ++ x) = none := by
    rw [htext]
    change mapRead _ (readMembers (readNested fmt _ _) (_ + 1) ('"' :: _)) = none
    rw [readMembers_quote, readMember_render (m := (k, v)) (readNested_render hv)
      (by simp [Ends, isNumeric])]
    simp only [skipBlanks_cons (show isBlank ',' = false by decide), readMembers_cut k' hx]
    rfl
  have hstart : skipBlanks (skipMark (opening fmt k v k' ++ x)) = opening fmt k v k' ++ x := by
    rw [htext]
    rfl
  rw [readDocument]
  simp only [hstart, hnone]
  exact ite_self _

theorem skipBlanks_spec (s : QString) :
    ∃ b, s = b ++ skipBlanks s ∧ ∀ c ∈ b, isBlank c = true :=
  ⟨s.takeWhile isBlank, List.takeWhile_append_dropWhile.symm, fun _ => List.mem_takeWhile_imp⟩

theorem readToken_ne_object {s r : QString} {ms : List (QString × Json ν)} :
    readToken fmt s ≠ some (.object ms, r) := by
  unfold readToken
  split_ifs
  · simp
  · simp
  · simp
  · intro h
    obtain ⟨x, -, hx⟩ := Option.map_eq_some_iff.mp h
    cases hx

theorem readArray_ne_object {value : QString → Option (Json ν × QString)} {s r : QString}
    {ms : List (QString × Json ν)} : readArray value s ≠ some (.object ms, r) := by
  unfold readArray
  split
  · simp
  · intro h
    obtain ⟨vs, -, hvs⟩ := mapRead_eq_some.mp h
    cases hvs

/-- An object with members begins with a string. -/
theorem exists_of_readObject {value : QString → Option (Json ν × QString)} {s r : QString}
    {ms : List (QString × Json ν)} (h : readObject value s = some (.object ms, r)) (hne : ms ≠ []) :
    ∃ b t, s = b ++ '"' :: t ∧ (∀ c ∈ b, isBlank c = true) ∧ readString t ≠ none := by
  unfold readObject at h
  split at h
  · simp only [Option.some.injEq, Prod.mk.injEq, Json.object.injEq] at h
    exact absurd h.1.symm hne
  · obtain ⟨ms', hms, -⟩ := mapRead_eq_some.mp h
    obtain ⟨b, hb, hblank⟩ := skipBlanks_spec s
    rw [readMembers] at hms
    split at hms
    · rename_i t ht
      refine ⟨b, t, by rw [← ht, ← hb], hblank, fun hnone => ?_⟩
      rw [readMember, hnone] at hms
      cases hms
    · cases hms

theorem exists_of_readNested {array object : QString → Option (Json ν × QString)}
    {s r : QString} {ms : List (QString × Json ν)} (harray : ∀ s, array s ≠ some (.object ms, r))
    (hobject : ∀ s, object s = some (.object ms, r) →
      ∃ b t, s = b ++ '"' :: t ∧ (∀ c ∈ b, isBlank c = true) ∧ readString t ≠ none)
    (h : readNested fmt array object s = some (.object ms, r)) :
    ∃ b t, s = '{' :: (b ++ '"' :: t) ∧ (∀ c ∈ b, isBlank c = true) ∧ readString t ≠ none := by
  unfold readNested at h
  split at h
  · obtain ⟨a, -, ha⟩ := mapRead_eq_some.mp h
    cases ha
  · exact absurd h (harray _)
  · obtain ⟨b, t, rfl, hb, ht⟩ := hobject _ h
    exact ⟨b, t, rfl, hb, ht⟩
  · exact absurd h readToken_ne_object

theorem exists_of_readValue {left : ℕ} {s r : QString} {ms : List (QString × Json ν)}
    (h : readValue fmt left s = some (.object ms, r)) (hne : ms ≠ []) :
    ∃ b t, s = '{' :: (b ++ '"' :: t) ∧ (∀ c ∈ b, isBlank c = true) ∧ readString t ≠ none := by
  cases left with
  | zero =>
    have hnone : ∀ s, (fun _ : QString => (none : Option (Json ν × QString))) s ≠
        some (.object ms, r) := fun _ => nofun
    exact exists_of_readNested hnone (fun s hs => absurd hs (hnone s)) h
  | succ left =>
    exact exists_of_readNested (fun _ => readArray_ne_object)
      (fun _ hobject => exists_of_readObject hobject hne) h

/-- Where an object with members is read, a brace stands, then only blanks, and then a
string that can be read. -/
theorem exists_of_readDocument {s : QString} {ms : List (QString × Json ν)}
    (h : readDocument fmt s = some (.object ms)) (hne : ms ≠ []) :
    ∃ a b t, s = a ++ '{' :: (b ++ '"' :: t) ∧ (∀ c ∈ b, isBlank c = true) ∧
      readString t ≠ none := by
  obtain ⟨m, hm⟩ : ∃ m, s = m ++ skipMark s := by
    unfold skipMark
    split_ifs with hmark
    · exact ⟨[Char.ofNat 0xFEFF], List.eq_cons_of_mem_head? hmark⟩
    · exact ⟨[], rfl⟩
  obtain ⟨b, hb, -⟩ := skipBlanks_spec (skipMark s)
  rw [readDocument] at h
  split_ifs at h
  split at h
  · rename_i v r hvalue
    split_ifs at h
    obtain rfl := Option.some.inj h
    obtain ⟨b', t, ht, hblank, hstring⟩ := exists_of_readValue hvalue hne
    refine ⟨m ++ b, b', t, ?_, hblank, hstring⟩
    rw [← ht, List.append_assoc, ← hb, ← hm]
  · cases h

/-- Within the rest of an object's text, behind its opening brace, there is no object
with members. -/
theorem readDocument_inside (h : Channel carry) {u s y t : QString}
    {ms : List (QString × Json ν)} (hu : '{' ∉ u) (htext : y <:+: u ++ (escape s ++ ['"', '}']))
    (ht : carry y = some t) (hread : readDocument fmt t = some (.object ms)) : ms = [] := by
  by_contra hne
  obtain ⟨a, b, r, rfl, hblank, hstring⟩ := exists_of_readDocument hread hne
  obtain ⟨a', y', rfl, -, hy'⟩ := h.exists_of_ascii (by decide) (by decide) ht
  obtain ⟨b', r', rfl, hb', hr'⟩ := h.exists_of_ascii (by decide) (by decide) hy'
  -- no backslash stands before the quote
  have hlast : ('{' :: b').getLast? ≠ some '\\' := by
    intro hbackslash
    obtain ⟨w, hw⟩ := List.getLast?_eq_some_iff.mp hbackslash
    cases w with
    | nil => cases hw
    | cons c w =>
      have hsplit : b' = w ++ ['\\'] := (List.cons.inj hw).2
      rw [hsplit, h.ascii w '\\' [] (by decide), h.nil] at hb'
      obtain ⟨w', -, hw'⟩ := Option.bind_eq_some_iff.mp hb'
      obtain rfl := Option.some.inj hw'
      exact absurd (hblank '\\' (by simp)) (by decide)
  obtain ⟨p, q, hpq⟩ := htext
  -- the brace stands in the string
  have hrest : ∃ p', escape s ++ ['"', '}'] = p' ++ '{' :: (b' ++ '"' :: (r' ++ q)) := by
    have heq : u ++ (escape s ++ ['"', '}']) = p ++ a' ++ '{' :: (b' ++ '"' :: (r' ++ q)) := by
      rw [← hpq]
      simp
    rcases List.append_eq_append_iff.mp heq with ⟨x, -, hx⟩ | ⟨x, hx, hx'⟩
    · exact ⟨x, hx⟩
    · cases x with
      | nil => exact ⟨[], hx'.symm⟩
      | cons c x =>
        obtain ⟨rfl, -⟩ := List.cons.inj hx'
        exact absurd (by simp [hx]) hu
  obtain ⟨p', hp'⟩ := hrest
  have hclosing : r' ++ q = ['}'] := by
    refine eq_of_unguarded (s := s) (v := p' ++ '{' :: b') (by simp) ?_ ?_
    · rw [hp']
      simp
    · rwa [List.getLast?_append_of_ne_nil _ (List.cons_ne_nil _ _)]
  -- so what follows the quote is no string
  apply hstring
  rcases List.append_eq_singleton_iff.mp hclosing with ⟨rfl, -⟩ | ⟨rfl, -⟩
  · obtain rfl := Option.some.inj (h.nil.symm.trans hr')
    rfl
  · have hbrace := h.ascii_eq (a := ['}']) (List.all_eq_true.mp rfl)
    obtain rfl := Option.some.inj (hbrace.symm.trans hr')
    rfl

end Documents
end Json
end CeloVpn
