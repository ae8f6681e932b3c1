import CeloVpn.Library.Latin1
import Mathlib.Data.Bool.AllAny

/-!
# JSON texts

The compact text of a value and the reader of such texts, over any way of writing
numbers. An object lists its members by ascending keys; the reader keeps the last of
several members with one key. Reading what was written gives the value back, unless it
is nested more deeply than the reader follows. How large a document may be is left out.
-/
namespace CeloVpn

inductive Json (ν : Type*)
  | null
  | bool (b : Bool)
  | number (x : ν)
  | string (s : QString)
  | array (elements : List (Json ν))
  | object (members : List (QString × Json ν))

namespace Json
variable {ν : Type*}

/-- What holds of an array or an object if it holds of what is inside holds of all
values. -/
@[elab_as_elim]
theorem induction {P : Json ν → Prop} (null : P .null) (bool : ∀ b, P (.bool b))
    (number : ∀ x, P (.number x)) (string : ∀ s, P (.string s))
    (array : ∀ vs, (∀ v ∈ vs, P v) → P (.array vs))
    (object : ∀ ms, (∀ m ∈ ms, P m.2) → P (.object ms)) (v : Json ν) : P v :=
  @Json.rec ν P (fun vs => ∀ v ∈ vs, P v) (fun ms => ∀ m ∈ ms, P m.2) (fun m => P m.2)
    null bool number string array object nofun
    (fun _ _ hv hvs => List.forall_mem_cons.mpr ⟨hv, hvs⟩) nofun
    (fun _ _ hm hms => List.forall_mem_cons.mpr ⟨hm, hms⟩) (fun _ _ hv => hv) v

def hexDigit (n : ℕ) : Char := if n < 10 then Char.ofNat (48 + n) else Char.ofNat (87 + n)

/-- A character as it stands in a string: quotes, backslashes and control characters
are escaped, all others are not. -/
def escapeChar (c : Char) : QString :=
  if c = '"' ∨ c = '\\' then ['\\', c]
  else if c.toNat < 0x20 then
    if c.toNat = 8 then ['\\', 'b']
    else if c.toNat = 9 then ['\\', 't']
    else if c.toNat = 10 then ['\\', 'n']
    else if c.toNat = 12 then ['\\', 'f']
    else if c.toNat = 13 then ['\\', 'r']
    else ['\\', 'u', '0', '0', hexDigit (c.toNat / 16), hexDigit (c.toNat % 16)]
  else [c]

def escape (s : QString) : QString := s.flatMap escapeChar

def quoted (s : QString) : QString := '"' :: (escape s ++ ['"'])

/-- The characters that numbers are written with. -/
def isNumeric (c : Char) : Bool :=
  ('0' ≤ c && c ≤ '9') || c == '+' || c == '-' || c == '.' || c == 'e' || c == 'E'

/-- A way of writing numbers and reading them again. -/
structure NumberFormat (ν : Type*) where
  text : ν → QString
  read : QString → Option ν
  read_text : ∀ x, read (text x) = some x
  text_ne_nil : ∀ x, text x ≠ []
  isNumeric_text : ∀ x, ∀ c ∈ text x, isNumeric c = true

section Writing
variable (fmt : NumberFormat ν)

mutual

/-- `QJsonDocument::toJson(Compact)`. -/
def render : Json ν → QString
  | .null => "null".toList
  | .bool b => if b then "true".toList else "false".toList
  | .number x => fmt.text x
  | .string s => quoted s
  | .array vs => '[' :: ((renderElements vs).drop 1 ++ [']'])
  | .object ms => '{' :: ((renderMembers ms).drop 1 ++ ['}'])
termination_by structural v => v

/-- The elements of an array, with a comma before each. -/
def renderElements : List (Json ν) → QString
  | [] => []
  | v :: vs => ',' :: (render v ++ renderElements vs)
termination_by structural vs => vs

/-- The members of an object, with a comma before each. -/
def renderMembers : List (QString × Json ν) → QString
  | [] => []
  | (k, v) :: ms => ',' :: (quoted k ++ ':' :: (render v ++ renderMembers ms))
termination_by structural ms => ms

end

end Writing

/-- White space between the tokens of a text. -/
def isBlank (c : Char) : Bool := c == ' ' || c == '\t' || c == '\n' || c == '\r'

def skipBlanks (s : QString) : QString := s.dropWhile isBlank

/-- The value of a hexadecimal digit. -/
def hexValue? (c : Char) : Option ℕ :=
  if '0' ≤ c ∧ c ≤ '9' then some (c.toNat - 48)
  else if 'a' ≤ c ∧ c ≤ 'f' then some (c.toNat - 87)
  else if 'A' ≤ c ∧ c ≤ 'F' then some (c.toNat - 55)
  else none

/-- The UTF-16 unit of four hexadecimal digits. -/
def codeUnit? (a b c d : Char) : Option ℕ :=
  match hexValue? a, hexValue? b, hexValue? c, hexValue? d with
  | some a, some b, some c, some d => some (((a * 16 + b) * 16 + c) * 16 + d)
  | _, _, _, _ => none

/-- The character behind a backslash; one without a meaning stands for itself. -/
def unescaped (c : Char) : Char :=
  if c = 'b' then Char.ofNat 8
  else if c = 't' then '\t'
  else if c = 'n' then '\n'
  else if c = 'f' then Char.ofNat 12
  else if c = 'r' then '\r'
  else c

/-- Apply a function to what was read. -/
def mapRead {α β : Type*} (f : α → β) : Option (α × QString) → Option (β × QString)
  | some (a, r) => some (f a, r)
  | none => none

/-- The units of a string after its opening quote, and what follows the closing one. -/
def readUnits : QString → Option (List ℕ × QString)
  | [] => none
  | c :: s =>
    if c = '"' then some ([], s)
    else if c = '\\' then
      match s with
      | [] => none
      | 'u' :: x₁ :: x₂ :: x₃ :: x₄ :: s =>
        (codeUnit? x₁ x₂ x₃ x₄).bind fun u => mapRead (u :: ·) (readUnits s)
      | e :: s =>
        -- of several bytes a backslash takes the first, and the others are no UTF-8
        if e = 'u' ∨ QString.isAscii e = false then none
        else mapRead (QString.utf16 [unescaped e] ++ ·) (readUnits s)
    else mapRead (QString.utf16 [c] ++ ·) (readUnits s)

/-- `Parser::parseString`. One half of a surrogate pair alone, which `QString` would keep, is
replaced. -/
def readString (s : QString) : Option (QString × QString) :=
  mapRead QString.fromUtf16 (readUnits s)

/-- Put a member in its place; a member with the same key is replaced. -/
def insert (m : QString × Json ν) : List (QString × Json ν) → List (QString × Json ν)
  | [] => [m]
  | m' :: ms =>
    if m.1 < m'.1 then m :: m' :: ms
    else if m.1 = m'.1 then m :: ms
    else m' :: insert m ms

/-- The members of an object, from the members of its text in order. -/
def collect (ms : List (QString × Json ν)) : List (QString × Json ν) :=
  ms.foldl (fun o m => insert m o) []

section Reading
variable (fmt : NumberFormat ν)

/-- A value that is a single token. -/
def readToken (s : QString) : Option (Json ν × QString) :=
  if "null".toList.isPrefixOf s then some (.null, s.drop 4)
  else if "true".toList.isPrefixOf s then some (.bool true, s.drop 4)
  else if "false".toList.isPrefixOf s then some (.bool false, s.drop 5)
  else (fmt.read (s.takeWhile isNumeric)).map fun x => (.number x, s.dropWhile isNumeric)

variable (value : QString → Option (Json ν × QString))

/-- `Parser::parseArray` after the opening bracket, from an element on. -/
def readElements : ℕ → QString → Option (List (Json ν) × QString)
  | 0, _ => none
  | n + 1, s =>
    match value (skipBlanks s) with
    | none => none
    | some (v, r) =>
      match skipBlanks r with
      | ',' :: r => mapRead (v :: ·) (readElements n r)
      | ']' :: r => some ([v], r)
      | _ => none

/-- `Parser::parseMember` after the opening quote. -/
def readMember (s : QString) : Option ((QString × Json ν) × QString) :=
  match readString s with
  | none => none
  | some (k, r) =>
    match skipBlanks r with
    | ':' :: r => mapRead (k, ·) (value (skipBlanks r))
    | _ => none

/-- `Parser::parseObject` after the opening brace, from a member on. -/
def readMembers : ℕ → QString → Option (List (QString × Json ν) × QString)
  | 0, _ => none
  | n + 1, s =>
    match skipBlanks s with
    | '"' :: s =>
      match readMember value s with
      | none => none
      | some (m, r) =>
        match skipBlanks r with
        | ',' :: r => mapRead (m :: ·) (readMembers n r)
        | '}' :: r => some ([m], r)
        | _ => none
    | _ => none

/-- `Parser::parseArray` after the opening bracket. -/
def readArray (s : QString) : Option (Json ν × QString) :=
  match skipBlanks s with
  | ']' :: r => some (.array [], r)
  | _ => mapRead .array (readElements value (s.length + 1) s)

/-- `Parser::parseObject` after the opening brace. -/
def readObject (s : QString) : Option (Json ν × QString) :=
  match skipBlanks s with
  | '}' :: r => some (.object [], r)
  | _ => mapRead (fun ms => .object (collect ms)) (readMembers value (s.length + 1) s)

variable (array object : QString → Option (Json ν × QString))

/-- `Parser::parseValue`, over ways to read arrays and objects. -/
def readNested (s : QString) : Option (Json ν × QString) :=
  match s with
  | '"' :: r => mapRead .string (readString r)
  | '[' :: r => array r
  | '{' :: r => object r
  | _ => readToken fmt s

/-- With so many levels of nesting left. -/
def readValue : ℕ → QString → Option (Json ν × QString)
  | 0 => readNested fmt (fun _ => none) fun _ => none
  | left + 1 => readNested fmt (readArray (readValue left)) (readObject (readValue left))

def nestingLimit : ℕ := 1024

/-- `Parser::eatBOM`. -/
def skipMark (s : QString) : QString := if s.head? = some (Char.ofNat 0xFEFF) then s.tail else s

/-- `Parser::parse`: a text is an array or an object, and nothing follows it. -/
def readDocument (s : QString) : Option (Json ν) :=
  let s := skipBlanks (skipMark s)
  if s.head? = some '[' ∨ s.head? = some '{' then
    match readValue fmt nestingLimit s with
    | some (v, r) => if skipBlanks r = [] then some v else none
    | none => none
  else none

end Reading

@[simp] theorem renderElements_cons (fmt : NumberFormat ν) (v : Json ν) (vs : List (Json ν)) :
    renderElements fmt (v :: vs) = ',' :: (render fmt v ++ renderElements fmt vs) := rfl

@[simp] theorem renderMembers_cons (fmt : NumberFormat ν) (m : QString × Json ν)
    (ms : List (QString × Json ν)) : renderMembers fmt (m :: ms) =
      ',' :: (quoted m.1 ++ ':' :: (render fmt m.2 ++ renderMembers fmt ms)) := rfl

mutual

/-- The value as its text is read: every object has its members collected. -/
def normalize : Json ν → Json ν
  | .null => .null
  | .bool b => .bool b
  | .number x => .number x
  | .string s => .string s
  | .array vs => .array (normalizeElements vs)
  | .object ms => .object (collect (normalizeMembers ms))
termination_by structural v => v

def normalizeElements : List (Json ν) → List (Json ν)
  | [] => []
  | v :: vs => normalize v :: normalizeElements vs
termination_by structural vs => vs

def normalizeMembers : List (QString × Json ν) → List (QString × Json ν)
  | [] => []
  | (k, v) :: ms => (k, normalize v) :: normalizeMembers ms
termination_by structural ms => ms

end

theorem normalizeElements_eq (vs : List (Json ν)) : normalizeElements vs = vs.map normalize := by
  induction vs with
  | nil => rfl
  | cons v vs ih => rw [normalizeElements, ih, List.map_cons]

theorem normalizeMembers_eq (ms : List (QString × Json ν)) :
    normalizeMembers ms = ms.map fun m => (m.1, normalize m.2) := by
  induction ms with
  | nil => rfl
  | cons m ms ih => rw [normalizeMembers, ih, List.map_cons]

mutual

/-- How deeply arrays and objects are nested. -/
def nesting : Json ν → ℕ
  | .null => 0
  | .bool _ => 0
  | .number _ => 0
  | .string _ => 0
  | .array vs => nestingElements vs + 1
  | .object ms => nestingMembers ms + 1
termination_by structural v => v

def nestingElements : List (Json ν) → ℕ
  | [] => 0
  | v :: vs => max (nesting v) (nestingElements vs)
termination_by structural vs => vs

def nestingMembers : List (QString × Json ν) → ℕ
  | [] => 0
  | (_, v) :: ms => max (nesting v) (nestingMembers ms)
termination_by structural ms => ms

end

theorem nestingElements_le {vs : List (Json ν)} {n : ℕ} :
    nestingElements vs ≤ n ↔ ∀ v ∈ vs, nesting v ≤ n := by
  induction vs with
  | nil => simp [nestingElements]
  | cons v vs ih => rw [nestingElements, max_le_iff, ih, List.forall_mem_cons]

theorem nestingMembers_le {ms : List (QString × Json ν)} {n : ℕ} :
    nestingMembers ms ≤ n ↔ ∀ m ∈ ms, nesting m.2 ≤ n := by
  induction ms with
  | nil => simp [nestingMembers]
  | cons m ms ih => rw [nestingMembers, max_le_iff, ih, List.forall_mem_cons]

theorem hexValue?_hexDigit {n : ℕ} (h : n < 16) : hexValue? (hexDigit n) = some n := by
  have hall : ∀ i : Fin 16, hexValue? (hexDigit i) = some i.val := by decide
  exact hall ⟨n, h⟩

theorem codeUnit?_hexDigit {n : ℕ} (h : n < 32) :
    codeUnit? '0' '0' (hexDigit (n / 16)) (hexDigit (n % 16)) = some n := by
  have hzero : hexValue? '0' = some 0 := rfl
  have hn : ((0 * 16 + 0) * 16 + n / 16) * 16 + n % 16 = n := by omega
  simp only [codeUnit?, hzero, hexValue?_hexDigit (show n / 16 < 16 by omega),
    hexValue?_hexDigit (show n % 16 < 16 by omega), hn]

theorem readUnits_quote (s : QString) : readUnits ('"' :: s) = some ([], s) := by
  rw [readUnits.eq_def]
  rfl

theorem readUnits_plain {c : Char} (hquote : c ≠ '"') (hescape : c ≠ '\\') (s : QString) :
    readUnits (c :: s) = mapRead (QString.utf16 [c] ++ ·) (readUnits s) := by
  rw [readUnits.eq_def]
  exact (if_neg hquote).trans (if_neg hescape)

/-- Whatever follows, an escaped character is read as the character. -/
theorem readUnits_escapeChar (c : Char) (s : QString) :
    readUnits (escapeChar c ++ s) = mapRead (QString.utf16 [c] ++ ·) (readUnits s) := by
  have hc := Char.ofNat_toNat c
  unfold escapeChar
  split_ifs with hquote hcontrol h8 h9 h10 h12 h13
  · rcases hquote with rfl | rfl <;> rfl
  · rw [← hc, h8]; rfl
  · rw [← hc, h9]; rfl
  · rw [← hc, h10]; rfl
  · rw [← hc, h12]; rfl
  · rw [← hc, h13]; rfl
  · have hunits : QString.utf16 [c] = [c.toNat] := QString.utf16_plane (by omega)
    change ((codeUnit? _ _ _ _).bind _) = _
    rw [codeUnit?_hexDigit hcontrol, hunits]
    rfl
  · rw [not_or] at hquote
    exact readUnits_plain hquote.1 hquote.2 s

theorem readUnits_escape (s t : QString) :
    readUnits (escape s ++ '"' :: t) = some (QString.utf16 s, t) := by
  induction s with
  | nil => exact readUnits_quote t
  | cons c s ih =>
    rw [escape, List.flatMap_cons, List.append_assoc, readUnits_escapeChar, ← escape, ih]
    exact congrArg (fun units => some (units, t)) (QString.utf16_append [c] s).symm

theorem readString_escape (s t : QString) :
    readString (escape s ++ '"' :: t) = some (s, t) := by
  rw [readString, readUnits_escape, mapRead, QString.fromUtf16_utf16]

/-- A text whose first character is one of a value. -/
def Begins (s : QString) : Prop :=
  ∃ c t, s = c :: t ∧ isBlank c = false ∧ c ≠ ']' ∧ c ≠ '}'

theorem Begins.skipBlanks_append {s : QString} (h : Begins s) (t : QString) :
    skipBlanks (s ++ t) = s ++ t := by
  obtain ⟨c, u, rfl, hc, -, -⟩ := h
  rw [List.cons_append, skipBlanks, List.dropWhile_cons_of_neg (by simp [hc])]

theorem skipBlanks_cons {c : Char} (h : isBlank c = false) (s : QString) :
    skipBlanks (c :: s) = c :: s := List.dropWhile_cons_of_neg (by simp [h])

theorem ne_of_isNumeric {c d : Char} (hc : isNumeric c = true) (hd : isNumeric d = false) :
    c ≠ d := by
  rintro rfl
  rw [hc] at hd
  cases hd

theorem isBlank_of_isNumeric {c : Char} (h : isNumeric c = true) : isBlank c = false := by
  have hblanks : isNumeric ' ' = false ∧ isNumeric '\t' = false ∧ isNumeric '\n' = false ∧
      isNumeric '\r' = false := by decide
  obtain ⟨hspace, htab, hline, hreturn⟩ := hblanks
  simp [isBlank, ne_of_isNumeric h hspace, ne_of_isNumeric h htab, ne_of_isNumeric h hline,
    ne_of_isNumeric h hreturn]

theorem begins_render (fmt : NumberFormat ν) (v : Json ν) : Begins (render fmt v) := by
  cases v with
  | null => exact ⟨'n', _, rfl, by decide⟩
  | bool b => cases b <;> exact ⟨_, _, rfl, by decide⟩
  | number x =>
    obtain ⟨c, t, ht⟩ := List.exists_cons_of_ne_nil (fmt.text_ne_nil x)
    have hc := fmt.isNumeric_text x c (by simp [ht])
    exact ⟨c, t, ht, isBlank_of_isNumeric hc, ne_of_isNumeric hc (by decide),
      ne_of_isNumeric hc (by decide)⟩
  | string s => exact ⟨'"', _, rfl, by decide⟩
  | array vs => exact ⟨'[', _, rfl, by decide⟩
  | object ms => exact ⟨'{', _, rfl, by decide⟩

/-- Nothing that follows can belong to a number. -/
def Ends (s : QString) : Prop := ∀ c ∈ s.head?, isNumeric c = false

section Values
variable {fmt : NumberFormat ν} {value : QString → Option (Json ν × QString)}

/-- The value is read back, whatever follows it. -/
def ReadsBack (fmt : NumberFormat ν) (value : QString → Option (Json ν × QString)) (v : Json ν) :
    Prop :=
  ∀ s, Ends s → value (render fmt v ++ s) = some (normalize v, s)

/-- Nothing is read, whatever follows it. -/
def Refuses (fmt : NumberFormat ν) (value : QString → Option (Json ν × QString)) (v : Json ν) :
    Prop :=
  ∀ s, Ends s → value (render fmt v ++ s) = none

theorem readElements_render {v : Json ν} {vs : List (Json ν)}
    (h : ∀ u ∈ v :: vs, ReadsBack fmt value u) {n : ℕ} (hn : vs.length < n) (s : QString) :
    readElements value n (render fmt v ++ (renderElements fmt vs ++ ']' :: s)) =
      some ((v :: vs).map normalize, s) := by
  induction vs generalizing v n with
  | nil =>
    obtain ⟨n, rfl⟩ : ∃ k, n = k + 1 := ⟨n - 1, by omega⟩
    rw [readElements, (begins_render fmt v).skipBlanks_append,
      h v List.mem_cons_self _ (by simp [Ends, renderElements, isNumeric])]
    rfl
  | cons u vs ih =>
    obtain ⟨n, rfl⟩ : ∃ k, n = k + 1 := ⟨n - 1, by omega⟩
    have hrest := ih (fun u hu => h u (List.mem_cons_of_mem v hu))
      (show vs.length < n by simpa using hn)
    rw [readElements, (begins_render fmt v).skipBlanks_append,
      h v List.mem_cons_self _ (by simp [Ends, isNumeric]), renderElements_cons, List.cons_append,
      List.append_assoc]
    simp only [skipBlanks_cons (show isBlank ',' = false by decide), hrest]
    rfl

theorem readMember_render {m : QString × Json ν} (h : ReadsBack fmt value m.2) {s : QString}
    (hs : Ends s) : readMember value (escape m.1 ++ '"' :: ':' :: (render fmt m.2 ++ s)) =
      some ((m.1, normalize m.2), s) := by
  rw [readMember, readString_escape]
  simp only [skipBlanks_cons (show isBlank ':' = false by decide),
    (begins_render fmt m.2).skipBlanks_append, h s hs]
  rfl

theorem quoted_append (k t : QString) : quoted k ++ t = '"' :: (escape k ++ '"' :: t) := by
  simp [quoted]

theorem readMembers_render {m : QString × Json ν} {ms : List (QString × Json ν)}
    (h : ∀ u ∈ m :: ms, ReadsBack fmt value u.2) {n : ℕ} (hn : ms.length < n) (s : QString) :
    readMembers value n
        (quoted m.1 ++ ':' :: (render fmt m.2 ++ (renderMembers fmt ms ++ '}' :: s))) =
      some ((m :: ms).map fun u => (u.1, normalize u.2), s) := by
  induction ms generalizing m n with
  | nil =>
    obtain ⟨n, rfl⟩ : ∃ k, n = k + 1 := ⟨n - 1, by omega⟩
    rw [quoted_append, readMembers]
    simp only [skipBlanks_cons (show isBlank '"' = false by decide)]
    rw [readMember_render (h m List.mem_cons_self) (by simp [Ends, renderMembers, isNumeric])]
    rfl
  | cons u ms ih =>
    obtain ⟨n, rfl⟩ : ∃ k, n = k + 1 := ⟨n - 1, by omega⟩
    have hrest := ih (fun u hu => h u (List.mem_cons_of_mem m hu))
      (show ms.length < n by simpa using hn)
    rw [quoted_append, readMembers]
    simp only [skipBlanks_cons (show isBlank '"' = false by decide)]
    rw [readMember_render (h m List.mem_cons_self) (by simp [Ends, isNumeric])]
    simp only [renderMembers_cons, List.cons_append, List.append_assoc,
      skipBlanks_cons (show isBlank ',' = false by decide), hrest]
    rfl

/-- One element that is refused is enough. -/
theorem readElements_refused {v : Json ν} {vs : List (Json ν)}
    (h : ∀ u ∈ v :: vs, ReadsBack fmt value u ∨ Refuses fmt value u)
    (hrefused : ∃ u ∈ v :: vs, Refuses fmt value u) (n : ℕ) (s : QString) :
    readElements value n (render fmt v ++ (renderElements fmt vs ++ ']' :: s)) = none := by
  induction vs generalizing v n with
  | nil =>
    obtain ⟨u, hu, hnone⟩ := hrefused
    obtain rfl := List.mem_singleton.mp hu
    cases n with
    | zero => rfl
    | succ n =>
      rw [readElements, (begins_render fmt u).skipBlanks_append,
        hnone _ (by simp [Ends, renderElements, isNumeric])]
  | cons w vs ih =>
    cases n with
    | zero => rfl
    | succ n =>
      have hends : Ends (renderElements fmt (w :: vs) ++ ']' :: s) := by simp [Ends, isNumeric]
      rw [readElements, (begins_render fmt v).skipBlanks_append]
      by_cases hv : Refuses fmt value v
      · rw [hv _ hends]
      · have hread : ReadsBack fmt value v := (h v List.mem_cons_self).resolve_right hv
        obtain ⟨u, hu, hnone⟩ := hrefused
        have hlater : u ∈ w :: vs :=
          (List.mem_cons.mp hu).resolve_left fun heq => hv (heq ▸ hnone)
        have hrest := ih (fun u hu => h u (List.mem_cons_of_mem v hu)) ⟨u, hlater, hnone⟩ n
        rw [hread _ hends, renderElements_cons, List.cons_append, List.append_assoc]
        simp only [skipBlanks_cons (show isBlank ',' = false by decide), hrest]
        rfl

theorem readMember_refused {m : QString × Json ν} (h : Refuses fmt value m.2) {s : QString}
    (hs : Ends s) : readMember value (escape m.1 ++ '"' :: ':' :: (render fmt m.2 ++ s)) =
      none := by
  rw [readMember, readString_escape]
  simp only [skipBlanks_cons (show isBlank ':' = false by decide),
    (begins_render fmt m.2).skipBlanks_append, h s hs]
  rfl

theorem readMembers_refused {m : QString × Json ν} {ms : List (QString × Json ν)}
    (h : ∀ u ∈ m :: ms, ReadsBack fmt value u.2 ∨ Refuses fmt value u.2)
    (hrefused : ∃ u ∈ m :: ms, Refuses fmt value u.2) (n : ℕ) (s : QString) :
    readMembers value n
      (quoted m.1 ++ ':' :: (render fmt m.2 ++ (renderMembers fmt ms ++ '}' :: s))) = none := by
  induction ms generalizing m n with
  | nil =>
    obtain ⟨u, hu, hnone⟩ := hrefused
    obtain rfl := List.mem_singleton.mp hu
    cases n with
    | zero => rfl
    | succ n =>
      rw [quoted_append, readMembers]
      simp only [skipBlanks_cons (show isBlank '"' = false by decide)]
      rw [readMember_refused hnone (by simp [Ends, renderMembers, isNumeric])]
  | cons w ms ih =>
    cases n with
    | zero => rfl
    | succ n =>
      have hends : Ends (renderMembers fmt (w :: ms) ++ '}' :: s) := by simp [Ends, isNumeric]
      rw [quoted_append, readMembers]
      simp only [skipBlanks_cons (show isBlank '"' = false by decide)]
      by_cases hm : Refuses fmt value m.2
      · rw [readMember_refused hm hends]
      · have hread : ReadsBack fmt value m.2 := (h m List.mem_cons_self).resolve_right hm
        obtain ⟨u, hu, hnone⟩ := hrefused
        have hlater : u ∈ w :: ms :=
          (List.mem_cons.mp hu).resolve_left fun heq => hm (heq ▸ hnone)
        have hrest := ih (fun u hu => h u (List.mem_cons_of_mem m hu)) ⟨u, hlater, hnone⟩ n
        rw [readMember_render hread hends]
        simp only [renderMembers_cons, List.cons_append, List.append_assoc,
          skipBlanks_cons (show isBlank ',' = false by decide), hrest]
        rfl

theorem length_renderElements (vs : List (Json ν)) :
    vs.length ≤ (renderElements fmt vs).length := by
  induction vs with
  | nil => rfl
  | cons v vs ih =>
    simp only [renderElements_cons, List.length_cons, List.length_append]
    omega

theorem length_renderMembers (ms : List (QString × Json ν)) :
    ms.length ≤ (renderMembers fmt ms).length := by
  induction ms with
  | nil => rfl
  | cons m ms ih =>
    simp only [renderMembers_cons, List.length_cons, List.length_append]
    omega

theorem readArray_render {vs : List (Json ν)} (h : ∀ v ∈ vs, ReadsBack fmt value v) (s : QString) :
    readArray value ((renderElements fmt vs).drop 1 ++ ']' :: s) =
      some (.array (vs.map normalize), s) := by
  cases vs with
  | nil => rfl
  | cons v vs =>
    have hlength : vs.length ≤ (renderElements fmt vs).length := length_renderElements vs
    have helements := readElements_render (s := s) h
      (show vs.length < (render fmt v ++ (renderElements fmt vs ++ ']' :: s)).length + 1 by
        simp only [List.length_append]
        omega)
    obtain ⟨c, t, hct, hblank, hclosing, -⟩ := begins_render fmt v
    rw [renderElements_cons, List.drop_succ_cons, List.drop_zero, List.append_assoc, readArray]
    split
    · rename_i hskip
      rw [hct, List.cons_append, skipBlanks_cons hblank] at hskip
      exact absurd (List.cons.inj hskip).1 hclosing
    · rw [helements]
      rfl

theorem readArray_refused {vs : List (Json ν)}
    (h : ∀ v ∈ vs, ReadsBack fmt value v ∨ Refuses fmt value v)
    (hrefused : ∃ v ∈ vs, Refuses fmt value v) (s : QString) :
    readArray value ((renderElements fmt vs).drop 1 ++ ']' :: s) = none := by
  cases vs with
  | nil =>
    obtain ⟨v, hv, -⟩ := hrefused
    cases hv
  | cons v vs =>
    obtain ⟨c, t, hct, hblank, hclosing, -⟩ := begins_render fmt v
    rw [renderElements_cons, List.drop_succ_cons, List.drop_zero, List.append_assoc, readArray]
    split
    · rename_i hskip
      rw [hct, List.cons_append, skipBlanks_cons hblank] at hskip
      exact absurd (List.cons.inj hskip).1 hclosing
    · rw [readElements_refused h hrefused]
      rfl

theorem readObject_render {ms : List (QString × Json ν)} (h : ∀ m ∈ ms, ReadsBack fmt value m.2)
    (s : QString) : readObject value ((renderMembers fmt ms).drop 1 ++ '}' :: s) =
      some (.object (collect (ms.map fun m => (m.1, normalize m.2))), s) := by
  cases ms with
  | nil => rfl
  | cons m ms =>
    have hlength : ms.length ≤ (renderMembers fmt ms).length := length_renderMembers ms
    have hmembers := readMembers_render (s := s) h
      (show ms.length < (quoted m.1 ++
          ':' :: (render fmt m.2 ++ (renderMembers fmt ms ++ '}' :: s))).length + 1 by
        simp only [List.length_append, List.length_cons]
        omega)
    rw [renderMembers_cons, List.drop_succ_cons, List.drop_zero, List.append_assoc,
      List.cons_append, List.append_assoc, readObject]
    split
    · rename_i hskip
      rw [quoted, List.cons_append, skipBlanks_cons (by decide)] at hskip
      exact absurd (List.cons.inj hskip).1 (by decide)
    · rw [hmembers]
      rfl

theorem readObject_refused {ms : List (QString × Json ν)}
    (h : ∀ m ∈ ms, ReadsBack fmt value m.2 ∨ Refuses fmt value m.2)
    (hrefused : ∃ m ∈ ms, Refuses fmt value m.2) (s : QString) :
    readObject value ((renderMembers fmt ms).drop 1 ++ '}' :: s) = none := by
  cases ms with
  | nil =>
    obtain ⟨m, hm, -⟩ := hrefused
    cases hm
  | cons m ms =>
    rw [renderMembers_cons, List.drop_succ_cons, List.drop_zero, List.append_assoc,
      List.cons_append, List.append_assoc, readObject]
    split
    · rename_i hskip
      rw [quoted, List.cons_append, skipBlanks_cons (by decide)] at hskip
      exact absurd (List.cons.inj hskip).1 (by decide)
    · rw [readMembers_refused h hrefused]
      rfl

end Values

section Documents
variable {fmt : NumberFormat ν}

theorem readToken_number (x : ν) {s : QString} (hs : Ends s) :
    readToken fmt (fmt.text x ++ s) = some (.number x, s) := by
  have hnumeric := fmt.isNumeric_text x
  have htake : (fmt.text x ++ s).takeWhile isNumeric = fmt.text x := by
    rw [List.takeWhile_append_of_pos hnumeric]
    cases s with
    | nil => simp
    | cons c s => simp [hs c rfl]
  have hdrop : (fmt.text x ++ s).dropWhile isNumeric = s := by
    rw [List.dropWhile_append_of_pos hnumeric]
    cases s with
    | nil => rfl
    | cons c s => simp [hs c rfl]
  obtain ⟨c, t, ht⟩ := List.exists_cons_of_ne_nil (fmt.text_ne_nil x)
  have hword : ∀ d w, isNumeric d = false → (d :: w).isPrefixOf (fmt.text x ++ s) = false := by
    intro d w hd
    have hne := ne_of_isNumeric (hnumeric c (by simp [ht])) hd
    rw [ht, List.cons_append, List.isPrefixOf_cons_cons, beq_false_of_ne hne.symm, Bool.false_and]
  have hnull : "null".toList.isPrefixOf (fmt.text x ++ s) = false := hword _ _ (by decide)
  have htrue : "true".toList.isPrefixOf (fmt.text x ++ s) = false := hword _ _ (by decide)
  have hfalse : "false".toList.isPrefixOf (fmt.text x ++ s) = false := hword _ _ (by decide)
  rw [readToken, hnull, htrue, hfalse, htake, hdrop, fmt.read_text]
  rfl

section Nested
variable {array object : QString → Option (Json ν × QString)}

/-- What is not nested needs no level. -/
theorem readNested_render {v : Json ν} (h : nesting v = 0) :
    ReadsBack fmt (readNested fmt array object) v := by
  intro s hs
  cases v with
  | null => rfl
  | bool b => cases b <;> rfl
  | number x =>
    obtain ⟨c, t, ht⟩ := List.exists_cons_of_ne_nil (fmt.text_ne_nil x)
    have hc := fmt.isNumeric_text x c (by simp [ht])
    have hnumber : readToken fmt (fmt.text x ++ s) = _ := readToken_number x hs
    rw [ht, List.cons_append] at hnumber
    rw [render, ht, List.cons_append, readNested, hnumber]
    · rfl
    all_goals
      intro r heq
      exact ne_of_isNumeric hc (by decide) (List.cons.inj heq).1
  | string t =>
    rw [render, quoted_append]
    change mapRead Json.string (readString _) = _
    rw [readString_escape]
    rfl
  | array vs => cases h
  | object ms => cases h

end Nested

/-- A value is read back where there are enough levels. -/
theorem readValue_render {left : ℕ} {v : Json ν} (h : nesting v ≤ left) :
    ReadsBack fmt (readValue fmt left) v := by
  induction left generalizing v with
  | zero => exact readNested_render (Nat.le_zero.mp h)
  | succ left ih =>
    intro s hs
    cases v with
    | array vs =>
      have helements : ∀ v ∈ vs, ReadsBack fmt (readValue fmt left) v := fun v hv =>
        ih (nestingElements_le.mp (Nat.le_of_succ_le_succ h) v hv)
      rw [render, List.cons_append, List.append_assoc, List.singleton_append]
      change readArray (readValue fmt left) _ = _
      rw [readArray_render helements, normalize, normalizeElements_eq]
    | object ms =>
      have hmembers : ∀ m ∈ ms, ReadsBack fmt (readValue fmt left) m.2 := fun m hm =>
        ih (nestingMembers_le.mp (Nat.le_of_succ_le_succ h) m hm)
      rw [render, List.cons_append, List.append_assoc, List.singleton_append]
      change readObject (readValue fmt left) _ = _
      rw [readObject_render hmembers, normalize, normalizeMembers_eq]
    | _ => exact readNested_render rfl s hs

/-- It is refused where there are not. -/
theorem readValue_refused {left : ℕ} {v : Json ν} (h : left < nesting v) :
    Refuses fmt (readValue fmt left) v := by
  induction left generalizing v with
  | zero =>
    intro s hs
    cases v with
    | array vs => rfl
    | object ms => rfl
    | _ => cases h
  | succ left ih =>
    have hread : ∀ u : Json ν, ReadsBack fmt (readValue fmt left) u ∨
        Refuses fmt (readValue fmt left) u := fun u =>
      (Nat.lt_or_ge left (nesting u)).symm.imp readValue_render ih
    intro s hs
    cases v with
    | array vs =>
      have hdeep : ∃ u ∈ vs, Refuses fmt (readValue fmt left) u := by
        by_contra hnot
        refine Nat.not_le.mpr (Nat.lt_of_succ_lt_succ h) (nestingElements_le.mpr fun u hu => ?_)
        exact Nat.not_lt.mp fun hlt => hnot ⟨u, hu, ih hlt⟩
      rw [render, List.cons_append, List.append_assoc, List.singleton_append]
      change readArray (readValue fmt left) _ = _
      exact readArray_refused (fun u _ => hread u) hdeep s
    | object ms =>
      have hdeep : ∃ m ∈ ms, Refuses fmt (readValue fmt left) m.2 := by
        by_contra hnot
        refine Nat.not_le.mpr (Nat.lt_of_succ_lt_succ h) (nestingMembers_le.mpr fun m hm => ?_)
        exact Nat.not_lt.mp fun hlt => hnot ⟨m, hm, ih hlt⟩
      rw [render, List.cons_append, List.append_assoc, List.singleton_append]
      change readObject (readValue fmt left) _ = _
      exact readObject_refused (fun m _ => hread m.2) hdeep s
    | _ => cases h

/-- Reading the text of an object gives the object, with its members collected, unless it is
nested too deeply. -/
theorem readDocument_render (ms : List (QString × Json ν)) :
    readDocument fmt (render fmt (.object ms)) =
      if nesting (.object ms) ≤ nestingLimit then some (normalize (.object ms)) else none := by
  have hstart : skipBlanks (skipMark (render fmt (.object ms))) = render fmt (.object ms) := rfl
  have hopening : (render fmt (.object ms)).head? = some '[' ∨
      (render fmt (.object ms)).head? = some '{' := .inr rfl
  have hends : Ends [] := by simp [Ends]
  rw [readDocument]
  simp only [hstart, if_pos hopening]
  split_ifs with hnesting
  · have hread : ReadsBack fmt _ (.object ms) := readValue_render hnesting
    have hvalue := hread [] hends
    rw [List.append_nil] at hvalue
    rw [hvalue]
    rfl
  · have hrefused : Refuses fmt _ (.object ms) := readValue_refused (Nat.not_le.mp hnesting)
    have hvalue := hrefused [] hends
    rw [List.append_nil] at hvalue
    rw [hvalue]

end Documents

theorem printable_escapeChar (c : Char) : ∀ d ∈ escapeChar c, 0x20 ≤ d.toNat := by
  by_cases hc : c.toNat < 0x80
  · have hall : ∀ i : Fin 0x80,
        ((escapeChar (Char.ofNat i)).all fun d => decide (0x20 ≤ d.toNat)) = true := by
      decide +kernel
    have hchar := hall ⟨c.toNat, hc⟩
    rw [Char.ofNat_toNat] at hchar
    exact List.all_iff_forall_prop.mp hchar
  · have hquote : ¬(c = '"' ∨ c = '\\') := by
      rintro (rfl | rfl) <;> exact hc (by decide)
    rw [escapeChar, if_neg hquote, if_neg (by omega)]
    intro d hd
    rw [List.mem_singleton.mp hd]
    omega

theorem printable_quoted (s : QString) : ∀ c ∈ quoted s, 0x20 ≤ c.toNat := by
  intro c hc
  rcases List.mem_cons.mp hc with rfl | hrest
  · decide
  · rcases List.mem_append.mp hrest with hescaped | hlast
    · obtain ⟨d, -, hd⟩ := List.mem_flatMap.mp hescaped
      exact printable_escapeChar d c hd
    · rw [List.mem_singleton.mp hlast]
      decide

theorem printable_of_isNumeric {c : Char} (h : isNumeric c = true) : 0x20 ≤ c.toNat := by
  simp only [isNumeric, Bool.or_eq_true, Bool.and_eq_true, decide_eq_true_eq, beq_iff_eq] at h
  rcases h with ((((⟨h, -⟩ | rfl) | rfl) | rfl) | rfl) | rfl
  · have hle : '0'.toNat ≤ c.toNat := h
    exact Nat.le_trans (by decide) hle
  all_goals decide

/-- The text of a value has no line breaks or other control characters. -/
theorem printable_render (fmt : NumberFormat ν) (v : Json ν) :
    ∀ c ∈ render fmt v, 0x20 ≤ c.toNat := by
  induction v using induction with
  | null => exact show ∀ c ∈ "null".toList, 0x20 ≤ c.toNat from List.all_iff_forall_prop.mp rfl
  | bool b =>
    cases b with
    | false =>
      exact show ∀ c ∈ "false".toList, 0x20 ≤ c.toNat from List.all_iff_forall_prop.mp rfl
    | true => exact show ∀ c ∈ "true".toList, 0x20 ≤ c.toNat from List.all_iff_forall_prop.mp rfl
  | number x => exact fun c hc => printable_of_isNumeric (fmt.isNumeric_text x c hc)
  | string s => exact printable_quoted s
  | array vs ih =>
    have helements : ∀ c ∈ renderElements fmt vs, 0x20 ≤ c.toNat := by
      induction vs with
      | nil => nofun
      | cons v vs ihvs =>
        obtain ⟨hv, hlater⟩ := List.forall_mem_cons.mp ih
        exact List.forall_mem_cons.mpr
          ⟨by decide, List.forall_mem_append.mpr ⟨hv, ihvs hlater⟩⟩
    refine List.forall_mem_cons.mpr ⟨by decide, List.forall_mem_append.mpr ⟨?_, by simp⟩⟩
    exact fun c hc => helements c (List.mem_of_mem_drop hc)
  | object ms ih =>
    have hmembers : ∀ c ∈ renderMembers fmt ms, 0x20 ≤ c.toNat := by
      induction ms with
      | nil => nofun
      | cons m ms ihms =>
        obtain ⟨hm, hlater⟩ := List.forall_mem_cons.mp ih
        refine List.forall_mem_cons.mpr ⟨by decide, ?_⟩
        refine List.forall_mem_append.mpr ⟨printable_quoted m.1, ?_⟩
        exact List.forall_mem_cons.mpr
          ⟨by decide, List.forall_mem_append.mpr ⟨hm, ihms hlater⟩⟩
    refine List.forall_mem_cons.mpr ⟨by decide, List.forall_mem_append.mpr ⟨?_, by simp⟩⟩
    exact fun c hc => hmembers c (List.mem_of_mem_drop hc)

theorem isDigit_digits {n : ℕ} : ∀ c ∈ Nat.toDigits 10 n, c.isDigit = true :=
  fun _ => Nat.isDigit_of_mem_toDigits (by decide) le_rfl

theorem head?_digits {n : ℕ} : (Nat.toDigits 10 n).head? ≠ some '-' := by
  intro h
  have hdigit := isDigit_digits '-' (List.mem_of_mem_head? h)
  revert hdigit
  decide

/-- The value of a text of digits. -/
def readDigits (s : QString) : Option ℕ :=
  if s = [] ∨ s.all Char.isDigit = false then none else some (Nat.ofDigitChars 10 s 0)

theorem readDigits_digits (n : ℕ) : readDigits (Nat.toDigits 10 n) = some n := by
  rw [readDigits, if_neg, Nat.ofDigitChars_ten_toDigits]
  rintro (hnil | hdigits)
  · exact Nat.toDigits_ne_nil hnil
  · exact absurd (List.all_eq_true.mpr isDigit_digits) (Bool.not_eq_true _ ▸ hdigits)

/-- Whole numbers in decimal. -/
def decimal : NumberFormat ℤ where
  text := QString.number
  read s :=
    if s.head? = some '-' then (readDigits s.tail).map fun n : ℕ => -(n : ℤ)
    else (readDigits s).map fun n : ℕ => (n : ℤ)
  read_text x := by
    unfold QString.number
    split_ifs with hneg hhead hhead'
    · rw [List.tail_cons, readDigits_digits, Option.map_some]
      exact congrArg some (by omega)
    · exact absurd rfl hhead
    · exact absurd hhead' head?_digits
    · rw [readDigits_digits, Option.map_some]
      exact congrArg some (by omega)
  text_ne_nil x := by
    unfold QString.number
    split_ifs
    · exact List.cons_ne_nil _ _
    · exact Nat.toDigits_ne_nil
  isNumeric_text x := by
    have hdigits : ∀ c ∈ Nat.toDigits 10 x.natAbs, isNumeric c = true := by
      intro c hc
      have hdigit := isDigit_digits c hc
      simp only [Char.isDigit, Bool.and_eq_true, decide_eq_true_eq] at hdigit
      simp only [isNumeric, Bool.or_eq_true, Bool.and_eq_true, decide_eq_true_eq]
      exact .inl (.inl (.inl (.inl (.inl hdigit))))
    unfold QString.number
    split_ifs
    · exact List.forall_mem_cons.mpr ⟨by decide, hdigits⟩
    · exact hdigits

end Json
end CeloVpn
