import Mathlib.Data.List.DropRight
import CeloVpn.Library.Framing
import CeloVpn.Service.Templates

/-!
# Which addresses are announced

`gotConnected` announces a field of its line and `parseNewIp` a part of its own. Both look
for separators one after the other, and where one is missing the next search begins in
another place; what is announced then is some other part of the line.
-/
namespace CeloVpn.Service
open OpenvpnManager

/-- Four groups of digits with points between them. -/
def IsQuad (v : QString) : Prop :=
  ∃ a b c d : QString, (∀ g ∈ [a, b, c, d], g ≠ [] ∧ ∀ x ∈ g, x.isDigit = true) ∧
    v = a ++ '.' :: (b ++ '.' :: (c ++ '.' :: d))

/-- The phrase `parseNewIp` looks for. -/
def remotePhrase : QString := "TCPv4_CLIENT link remote".toList

/-- The line has this address between `[AF_INET]` and the colon of the port. -/
def RemoteAddress (s v : QString) : Prop :=
  IsQuad v ∧ ∃ before port after : QString, port ≠ [] ∧ (∀ x ∈ port, x.isDigit = true) ∧
    s = before ++ (remotePhrase ++ ':' :: (" [AF_INET]".toList ++ (v ++ ':' :: (port ++ after))))

/-- The fifth field of a state line. -/
def fifthField (s : QString) : Option QString := (s.splitOn ',')[4]?

/-- The part of the line in which `parseNewIp` looks for its two colons: all of it where
the phrase is missing. -/
def searched (s : QString) : QString := s.drop (s.indexOfText remotePhrase 0 + 1).toNat

/-- The text between the first two colons, if there are two, ends with the address of the
line, and no point and no digit stands right before it. -/
def Delimited (s : QString) : Prop :=
  ∀ x between after, searched s = x ++ ':' :: (between ++ ':' :: after) → ':' ∉ x →
    ':' ∉ between → ∃ u v, between = u ++ v ∧ '.' ∉ u ∧
      (∀ c ∈ u.getLast?, QString.isDigit c = false) ∧ RemoteAddress s v

/-- The address an act announces. -/
def Act.newIp : Act → Option QString
  | emitted (.gotNewIp ip) => some ip
  | _ => none

/-- An act that announces no address. -/
def Act.Other (a : Act) : Prop := a.newIp = none

/-- The addresses announced between two states. -/
def newIps (m m' : OpenvpnManager) : List QString :=
  (m'.history.take (m'.history.length - m.history.length)).filterMap Act.newIp

/-- A line of the log that comes to `parseNewIp`. -/
def ReachesNewIp (s : QString) : Prop :=
  s.containsFolded "MANAGEMENT: CMD 'state'".toList = false ∧
    s.containsFolded "TCPv4_CLIENT link remote:".toList = true

instance (s : QString) : Decidable (ReachesNewIp s) :=
  inferInstanceAs (Decidable (_ ∧ _))

/-- A state line that comes to `gotConnected`. -/
def ReachesConnected (m : OpenvpnManager) (s : QString) : Prop :=
  ∃ word ∈ stateWordOf s, word.equalsFolded "CONNECTED".toList = true ∧
    word ≠ m.mPreviousStateWord

theorem newIps_eq {m m' : OpenvpnManager} {new : List Act} (h : m'.history = new ++ m.history) :
    newIps m m' = new.filterMap Act.newIp := by
  simp [newIps, h]

namespace IsQuad
variable {v : QString}

/-- It begins with digits and a point. -/
theorem point (h : IsQuad v) : ∃ g b, v = g ++ '.' :: b ∧ ∀ x ∈ g, x.isDigit = true := by
  obtain ⟨a, b, c, d, hgroups, rfl⟩ := h
  exact ⟨a, _, rfl, (hgroups a List.mem_cons_self).2⟩

theorem colon_notMem (h : IsQuad v) : ':' ∉ v := by
  obtain ⟨a, b, c, d, hgroups, rfl⟩ := h
  have hnone : ∀ g ∈ [a, b, c, d], ':' ∉ g := fun g hg hmem =>
    absurd ((hgroups g hg).2 ':' hmem) (by decide)
  simp only [List.mem_cons, List.not_mem_nil, or_false, forall_eq_or_imp, forall_eq] at hnone
  simp [hnone]

end IsQuad

/-- A digit of ASCII is one of Qt. -/
theorem isDigit_of_ascii {c : Char} (h : c.isDigit = true) : QString.isDigit c = true := by
  have hrange : 48 ≤ c.toNat ∧ c.toNat ≤ 57 := by
    simpa [Char.isDigit, UInt32.le_iff_toNat_le] using h
  rw [QString.isDigit, List.any_eq_true]
  exact ⟨48, by decide, by simpa using hrange⟩

/-- The walk ends where the digits at the end of what it walks over begin. -/
theorem digitsStart_eq (front a rest : QString) {p0 : ℤ} (hp0 : p0 + 1 = front.length) :
    digitsStart (front ++ (a ++ rest)) p0 a.length (p0 + a.length) =
      p0 + (a.rdropWhile QString.isDigit).length := by
  induction a using List.reverseRecOn generalizing rest with
  | nil => rfl
  | append_singleton a c ih =>
    have hsplit : front ++ (a ++ [c] ++ rest) = front ++ a ++ c :: rest := by simp
    have hposition : (p0 + ((a.length + 1 : ℕ) : ℤ)).toNat = (front ++ a).length := by
      rw [List.length_append]
      omega
    have hat : (front ++ a ++ c :: rest).getD (front ++ a).length ' ' = c := by
      rw [List.getD_eq_getElem?_getD, List.getElem?_append_right (le_refl _), Nat.sub_self]
      rfl
    have hlater : p0 + ((a.length + 1 : ℕ) : ℤ) - 1 = p0 + a.length := by omega
    rw [List.length_append, List.length_singleton, digitsStart, if_pos (by omega), hsplit, hposition,
      hat, hlater, ← hsplit, List.append_assoc]
    cases hdigit : QString.isDigit c with
    | true =>
      rw [if_pos rfl, ih, List.rdropWhile_concat_pos _ _ _ hdigit]
    | false =>
      rw [if_neg Bool.false_ne_true, List.rdropWhile_concat_neg _ _ _ (by simp [hdigit]),
        List.length_append, List.length_singleton]

/-- It does not go past a character that is no digit. -/
theorem rdropWhile_append_cons {c : Char} (hc : QString.isDigit c = false) (y a : QString) :
    (y ++ c :: a).rdropWhile QString.isDigit = y ++ c :: a.rdropWhile QString.isDigit := by
  induction a using List.reverseRecOn with
  | nil => exact List.rdropWhile_concat_neg _ _ _ (by simp [hc])
  | append_singleton a d ih =>
    rw [← List.cons_append, ← List.append_assoc]
    cases hd : QString.isDigit d with
    | true => rw [List.rdropWhile_concat_pos _ _ _ hd, ih, List.rdropWhile_concat_pos _ _ _ hd]
    | false =>
      have hnot : ¬QString.isDigit d = true := by simp [hd]
      rw [List.rdropWhile_concat_neg _ _ _ hnot, List.rdropWhile_concat_neg _ _ _ hnot,
        List.append_assoc, List.cons_append]

/-- What ends in no digit is kept, and all the digits after it are dropped. -/
theorem rdropWhile_digits {u g : QString} (hu : ∀ c ∈ u.getLast?, QString.isDigit c = false)
    (hg : ∀ c ∈ g, QString.isDigit c = true) : (u ++ g).rdropWhile QString.isDigit = u := by
  have hkept : u.rdropWhile QString.isDigit = u := by
    refine List.rdropWhile_eq_self_iff.mpr fun hne => ?_
    simp [hu _ (List.getLast_mem_getLast? hne)]
  rw [List.rdropWhile, List.reverse_append,
    List.dropWhile_append_of_pos fun c hc => hg c (List.mem_reverse.mp hc)]
  exact hkept

/-- What `parseNewIp` searches follows the beginning of the phrase. -/
theorem exists_searched (s : QString) : ∃ front, s = front ++ searched s ∧
    s.indexOfText remotePhrase 0 + 1 = (front.length : ℤ) := by
  obtain ⟨hlow, hhigh⟩ := QString.indexOfText_bounds s (t := remotePhrase) (by decide)
  refine ⟨s.take (s.indexOfText remotePhrase 0 + 1).toNat, (List.take_append_drop _ s).symm, ?_⟩
  rw [List.length_take]
  omega

namespace OpenvpnManager
variable (m : OpenvpnManager) {s x y z : QString}

/-- The cut of `parseNewIp`, once its two colons are found. -/
theorem parseNewIp_of_colons {q : ℤ} (hq : q > -1)
    (h0 : s.indexOf ':' (s.indexOfText remotePhrase 0 + 1) = q) {q1 : ℤ} (hq1 : q1 > -1)
    (h1 : s.indexOf ':' (q + 1) = q1) {p : ℤ}
    (hp : digitsStart s q (s.indexOf '.' q - 1 - q).toNat (s.indexOf '.' q - 1) = p) :
    m.parseNewIp s = m.emit (.gotNewIp (s.mid (p + 1) (q1 - p - 1))) := by
  unfold parseNewIp
  dsimp only
  rw [show "TCPv4_CLIENT link remote".toList = remotePhrase from rfl, h0, if_pos hq, h1, if_pos hq1,
    hp]

/-- Where there are no two colons, nothing is announced. -/
theorem parseNewIp_of_few (h : ∀ x y z, searched s = x ++ ':' :: (y ++ ':' :: z) → ':' ∉ x →
    ':' ∈ y) : m.parseNewIp s = m := by
  obtain ⟨front, hfront, hstart⟩ := exists_searched s
  unfold parseNewIp
  dsimp only
  rw [show "TCPv4_CLIENT link remote".toList = remotePhrase from rfl]
  by_cases hcolon : ':' ∈ searched s
  · obtain ⟨x, t, hx, hnot⟩ := List.eq_append_cons_of_mem hcolon
    have hsecond : ':' ∉ t := by
      intro ht
      obtain ⟨y, z, rfl, hy⟩ := List.eq_append_cons_of_mem ht
      exact hy (h x y z hx hnot)
    have h0 : s.indexOf ':' (s.indexOfText remotePhrase 0 + 1) = front.length + x.length := by
      conv_lhs => rw [hstart, hfront, hx]
      exact QString.indexOf_field rfl hnot
    have h1 : s.indexOf ':' ((front.length : ℤ) + x.length + 1) = -1 := by
      have hsplit : s = (front ++ (x ++ [':'])) ++ t := by
        rw [hfront, hx]
        simp
      rw [hsplit]
      exact QString.indexOf_of_notMem (by simp; omega) hsecond
    rw [h0, if_pos (by omega), h1, if_neg (by decide)]
  · have h0 : s.indexOf ':' (s.indexOfText remotePhrase 0 + 1) = -1 := by
      rw [hstart]
      conv_lhs => rw [hfront]
      exact QString.indexOf_of_notMem rfl hcolon
    rw [h0, if_neg (by decide)]

/-- Where the two colons are found. -/
theorem indexOf_colons (hs : searched s = x ++ ':' :: (y ++ ':' :: z)) (hx : ':' ∉ x)
    (hy : ':' ∉ y) : ∃ front : QString, s = front ++ (x ++ ':' :: (y ++ ':' :: z)) ∧
      s.indexOfText remotePhrase 0 + 1 = (front.length : ℤ) ∧
      s.indexOf ':' (s.indexOfText remotePhrase 0 + 1) = (front ++ x).length ∧
      s.indexOf ':' ((front ++ x).length + 1) = (front ++ x).length + 1 + y.length := by
  obtain ⟨front, hfront, hstart⟩ := exists_searched s
  rw [hs] at hfront
  refine ⟨front, hfront, hstart, ?_, ?_⟩
  · conv_lhs => rw [hstart, hfront]
    rw [QString.indexOf_field rfl hx, List.length_append]
    exact (Nat.cast_add _ _).symm
  · have hsplit : s = (front ++ (x ++ [':'])) ++ (y ++ ':' :: z) := by
      rw [hfront]
      simp
    conv_lhs => rw [hsplit]
    exact QString.indexOf_field (by simp; omega) hy

/-- The walk from the first point after a colon. -/
theorem walk_eq {c a b : QString} (hs : s = c ++ ':' :: (a ++ '.' :: b)) (ha : '.' ∉ a) :
    digitsStart s (c.length : ℤ) (s.indexOf '.' (c.length : ℤ) - 1 - c.length).toNat
      (s.indexOf '.' (c.length : ℤ) - 1) =
        c.length + ((a.rdropWhile QString.isDigit).length : ℤ) := by
  have hpoint : s.indexOf '.' (c.length : ℤ) = c.length + ((':' :: a).length : ℤ) := by
    have hnone : '.' ∉ ':' :: a := by simpa using ha
    have hs' : s = c ++ ((':' :: a) ++ '.' :: b) := hs
    have hfound := QString.indexOf_field (p := c) (b := b) rfl hnone
    rwa [← hs'] at hfound
  have hn : ((c.length : ℤ) + ((':' :: a).length : ℤ) - 1 - c.length).toNat = a.length := by
    rw [List.length_cons]
    omega
  have hp : (c.length : ℤ) + ((':' :: a).length : ℤ) - 1 = c.length + a.length := by
    rw [List.length_cons]
    omega
  have hsplit : s = (c ++ [':']) ++ (a ++ '.' :: b) := by rw [hs, List.append_cons]
  have hlength : (c.length : ℤ) + 1 = (c ++ [':']).length := by simp
  have hwalk := digitsStart_eq (c ++ [':']) a ('.' :: b) hlength
  rw [← hsplit] at hwalk
  rw [hpoint, hn, hp]
  exact hwalk

/-- Where a point stands between the colons, the address is cut out in front of the
second of them. -/
theorem parseNewIp_of_point {a b : QString}
    (hs : searched s = x ++ ':' :: (a ++ '.' :: b ++ ':' :: z)) (hx : ':' ∉ x)
    (hy : ':' ∉ a ++ '.' :: b) (ha : '.' ∉ a) : m.parseNewIp s =
      m.emit (.gotNewIp ((a ++ '.' :: b).drop (a.rdropWhile QString.isDigit).length)) := by
  obtain ⟨front, hfront, -, h0, h1⟩ := indexOf_colons hs hx hy
  have hwalk := walk_eq (s := s) (c := front ++ x) (a := a) (b := b ++ ':' :: z)
    (by rw [hfront]; simp) ha
  obtain ⟨g, hg⟩ := a.rdropWhile_prefix QString.isDigit
  set u := a.rdropWhile QString.isDigit
  have hdrop : (a ++ '.' :: b).drop u.length = g ++ '.' :: b := by
    rw [← hg, List.append_assoc, List.drop_left]
  have hsplit : s = (front ++ x ++ ':' :: u) ++ ((g ++ '.' :: b) ++ ':' :: z) := by
    rw [hfront, ← hg]
    simp
  rw [parseNewIp_of_colons m (by omega) h0 (by omega) h1 hwalk, hdrop]
  conv_lhs => rw [hsplit]
  congr 2
  refine QString.mid_field ?_ ?_
  · simp only [List.length_append, List.length_cons]
    omega
  · simp only [← hg, List.length_append]
    omega

/-- What follows the part that is searched without a point is no address of the line. -/
theorem not_remoteAddress {front d v : QString} (hs : s = front ++ x ++ (d ++ v))
    (hstart : s.indexOfText remotePhrase 0 + 1 = (front.length : ℤ)) (hx : ':' ∉ x)
    (hd : '.' ∉ d) : ¬RemoteAddress s v := by
  rintro ⟨hquad, before, port, after, -, -, hline⟩
  obtain ⟨g, b, hpoint, -⟩ := hquad.point
  have hmem : '.' ∈ v := by simp [hpoint]
  -- the address of the line lies in front of `v`, which has no colon
  have hfront : ∃ k, front ++ x ++ d =
      before ++ (remotePhrase ++ [':']) ++ (" [AF_INET]".toList ++ v ++ k) := by
    have heq : front ++ x ++ d ++ v =
        before ++ (remotePhrase ++ [':']) ++ (" [AF_INET]".toList ++ v) ++
          ':' :: (port ++ after) := by
      rw [List.append_assoc _ d v, ← hs, hline]
      simp
    rcases List.append_eq_append_iff.mp heq with ⟨k, -, hk⟩ | ⟨k, hk, -⟩
    · exact absurd (hk ▸ List.mem_append_right k List.mem_cons_self) hquad.colon_notMem
    · exact ⟨k, by rw [hk]; simp⟩
  obtain ⟨k, hfront⟩ := hfront
  -- its point is in front of `d`, so its colon is one of those not searched
  rcases List.append_eq_append_iff.mp hfront with ⟨c, -, hd'⟩ | ⟨c, hc, -⟩
  · refine hd ?_
    rw [hd']
    exact List.mem_append_right c (List.mem_append_left k (List.mem_append_right _ hmem))
  · have hle : front.length ≤ (before ++ remotePhrase).length := by
      have hfirst := QString.indexOfText_le before remotePhrase
        (':' :: (" [AF_INET]".toList ++ (v ++ ':' :: (port ++ after))))
      rw [← hline] at hfirst
      have hphrase : 0 < remotePhrase.length := by decide
      rw [List.length_append]
      omega
    have hrest : x = (before ++ remotePhrase).drop front.length ++ ':' :: c := by
      have hdrop : (front ++ x).drop front.length = x := List.drop_left
      rw [← List.drop_append_of_le_length hle, ← hdrop, hc]
      simp
    exact hx (by rw [hrest]; simp)

/-- Where no point stands there, what is announced is no address of the line. -/
theorem parseNewIp_of_no_point (hs : searched s = x ++ ':' :: (y ++ ':' :: z)) (hx : ':' ∉ x)
    (hy : ':' ∉ y) (hpoint : '.' ∉ y) :
    ∃ ip, m.parseNewIp s = m.emit (.gotNewIp ip) ∧ ¬RemoteAddress s ip := by
  obtain ⟨front, hfront, hstart, h0, h1⟩ := indexOf_colons hs hx hy
  by_cases hlater : '.' ∈ z
  · obtain ⟨a, b, rfl, ha⟩ := List.eq_append_cons_of_mem hlater
    have hnone : '.' ∉ y ++ ':' :: a := by simp [hpoint, ha]
    have hwalk := walk_eq (s := s) (c := front ++ x) (a := y ++ ':' :: a) (b := b)
      (by rw [hfront]; simp) hnone
    obtain ⟨g, hg⟩ := a.rdropWhile_prefix QString.isDigit
    rw [rdropWhile_append_cons (by decide)] at hwalk
    set u := a.rdropWhile QString.isDigit
    refine ⟨_, parseNewIp_of_colons m (by omega) h0 (by omega) h1 hwalk, ?_⟩
    have hsplit : s = front ++ x ++ (':' :: (y ++ ':' :: u) ++ (g ++ '.' :: b)) := by
      rw [hfront, ← hg]
      simp
    have hrest : s.mid ((front ++ x).length + ((y ++ ':' :: u).length : ℤ) + 1)
        ((front ++ x).length + 1 + (y.length : ℤ) -
          ((front ++ x).length + ((y ++ ':' :: u).length : ℤ)) - 1) = g ++ '.' :: b := by
      conv_lhs => rw [hsplit, ← List.append_assoc]
      refine QString.mid_rest ?_ ?_
      · simp only [List.length_append, List.length_cons]
        omega
      · simp only [List.length_append, List.length_cons]
        omega
    rw [hrest]
    refine not_remoteAddress hsplit hstart hx ?_
    have hu : '.' ∉ u := fun hmem => ha (by rw [← hg]; exact List.mem_append_left g hmem)
    simp [hpoint, hu]
  · have hnone : s.indexOf '.' ((front ++ x).length : ℤ) = -1 := by
      have hsplit : s = (front ++ x) ++ (':' :: (y ++ ':' :: z)) := by rw [hfront, List.append_assoc]
      conv_lhs => rw [hsplit]
      refine QString.indexOf_of_notMem rfl ?_
      simp [hpoint, hlater]
    have hwalk : digitsStart s ((front ++ x).length : ℤ)
        (s.indexOf '.' ((front ++ x).length : ℤ) - 1 - (front ++ x).length).toNat
        (s.indexOf '.' ((front ++ x).length : ℤ) - 1) = -2 := by
      rw [hnone, Int.toNat_of_nonpos (by omega)]
      rfl
    refine ⟨_, parseNewIp_of_colons m (by omega) h0 (by omega) h1 hwalk, fun haddress => ?_⟩
    have hsplit : s = (front ++ x ++ ':' :: y) ++ ':' :: z := by
      rw [hfront]
      simp
    have htake : ((front ++ x).length + 1 + (y.length : ℤ) - -2 - 1 + (-2 + 1)).toNat =
        (front ++ x ++ ':' :: y).length := by
      simp only [List.length_append, List.length_cons]
      omega
    refine haddress.1.colon_notMem ?_
    rw [QString.mid, if_pos (by decide), if_neg (by omega), htake]
    rw [hsplit, List.take_left]
    simp

/-- What `parseNewIp` announces depends on the line alone. -/
theorem history_parseNewIp (s : QString) : ∃ ips : List QString, ∀ m : OpenvpnManager,
    (m.parseNewIp s).history = (ips.map fun ip => .emitted (.gotNewIp ip)) ++ m.history := by
  by_cases h0 : s.indexOf ':' (s.indexOfText remotePhrase 0 + 1) > -1
  · by_cases h1 : s.indexOf ':' (s.indexOf ':' (s.indexOfText remotePhrase 0 + 1) + 1) > -1
    · have hcut := fun m => parseNewIp_of_colons m h0 rfl h1 rfl rfl
      exact ⟨[_], fun m => congrArg history (hcut m)⟩
    · refine ⟨[], fun m => ?_⟩
      unfold parseNewIp
      exact congrArg history ((if_pos h0).trans (if_neg h1))
  · refine ⟨[], fun m => ?_⟩
    unfold parseNewIp
    exact congrArg history (if_neg h0)

theorem newIps_emit (ip : QString) : newIps m (m.emit (.gotNewIp ip)) = [ip] := by
  have hhistory : (m.emit (.gotNewIp ip)).history = [.emitted (.gotNewIp ip)] ++ m.history := rfl
  rw [newIps_eq hhistory]
  rfl

/-- What is cut out is an address of the line where the text between the colons is
delimited. -/
theorem remoteAddress_iff_delimited {a b : QString}
    (hs : searched s = x ++ ':' :: (a ++ '.' :: b ++ ':' :: z)) (hx : ':' ∉ x)
    (hy : ':' ∉ a ++ '.' :: b) (ha : '.' ∉ a) :
    RemoteAddress s ((a ++ '.' :: b).drop (a.rdropWhile QString.isDigit).length) ↔
      Delimited s := by
  constructor
  · intro haddress x' y' z' hs' hx' hy'
    obtain ⟨-, htail⟩ := (Framing.line_inj hx hx').mp (hs.symm.trans hs')
    obtain ⟨rfl, -⟩ := (Framing.line_inj hy hy').mp htail
    have hprefix : a.rdropWhile QString.isDigit <+: a ++ '.' :: b :=
      (a.rdropWhile_prefix QString.isDigit).trans (List.prefix_append a _)
    refine ⟨_, _, (List.prefix_iff_eq_append.mp hprefix).symm, fun hmem => ha ?_, ?_, haddress⟩
    · exact (a.rdropWhile_prefix QString.isDigit).subset hmem
    · intro c hc
      obtain ⟨hne, rfl⟩ := List.mem_getLast?_eq_getLast hc
      exact Bool.eq_false_of_not_eq_true (List.rdropWhile_last_not _ _ hne)
  · intro hdelimited
    obtain ⟨u, v, huv, hu, hlast, haddress⟩ := hdelimited x _ z hs hx hy
    obtain ⟨g, b', rfl, hdigits⟩ := haddress.1.point
    have hg : '.' ∉ g := fun hmem => absurd (hdigits '.' hmem) (by decide)
    have hug : '.' ∉ u ++ g := by simp [hu, hg]
    rw [← List.append_assoc] at huv
    obtain ⟨rfl, rfl⟩ := (Framing.line_inj ha hug).mp huv
    have hkept : (u ++ g).rdropWhile QString.isDigit = u :=
      rdropWhile_digits hlast fun c hc => isDigit_of_ascii (hdigits c hc)
    rwa [hkept, List.append_assoc, List.drop_left]

/-- `parseNewIp` announces an address of the line only, exactly where the text between the
colons is delimited. -/
theorem parseNewIp_announces_iff :
    (∀ ip ∈ newIps m (m.parseNewIp s), RemoteAddress s ip) ↔ Delimited s := by
  by_cases hcolons : ∀ x y z, searched s = x ++ ':' :: (y ++ ':' :: z) → ':' ∉ x → ':' ∈ y
  · rw [parseNewIp_of_few m hcolons]
    refine iff_of_true (by simp [newIps]) fun x y z hs hx hy => ?_
    exact absurd (hcolons x y z hs hx) hy
  · push Not at hcolons
    obtain ⟨x, y, z, hs, hx, hy⟩ := hcolons
    by_cases hpoint : '.' ∈ y
    · obtain ⟨a, b, rfl, ha⟩ := List.eq_append_cons_of_mem hpoint
      rw [parseNewIp_of_point m hs hx hy ha, newIps_emit, List.forall_mem_singleton]
      exact remoteAddress_iff_delimited hs hx hy ha
    · obtain ⟨ip, hip, hno⟩ := parseNewIp_of_no_point m hs hx hy hpoint
      rw [hip, newIps_emit, List.forall_mem_singleton]
      refine iff_of_false hno fun hdelimited => ?_
      obtain ⟨u, v, rfl, -, -, haddress⟩ := hdelimited x y z hs hx hy
      obtain ⟨g, b, rfl, -⟩ := haddress.1.point
      exact hpoint (by simp)

/-- The text `gotConnected` announces. -/
def connectedIp (s : QString) : Option QString :=
  if fourthComma s > -1 then
    some (if s.indexOf ',' (fourthComma s + 1) > -1 then
      s.mid (fourthComma s + 1) (s.indexOf ',' (fourthComma s + 1) - fourthComma s - 1)
    else s.mid (fourthComma s + 1) (-1))
  else none

/-- Where the first fields end, with the comma of the last of them; with none of them this
is the position that is not found. -/
def fieldsEnd (fields : List QString) (k : ℕ) : ℤ :=
  (Framing.unlines ',' (fields.take k)).length - 1

/-- The number of fields in front of the next of `n` commas; a search that finds none starts
again from the beginning. -/
def nextField (n k : ℕ) : ℕ := if k < n then k + 1 else 0

theorem nextField_le (n k : ℕ) : nextField n k ≤ n := by
  unfold nextField
  split_ifs <;> omega

theorem nextField_four (n : ℕ) :
    nextField n (nextField n (nextField n (nextField n 0))) = 4 % (n + 1) := by
  match n with
  | 0 | 1 | 2 | 3 => rfl
  | n + 4 =>
    rw [Nat.mod_eq_of_lt (by omega)]
    simp [nextField]

section Fields
variable {fields : List QString} {last : QString} {k : ℕ}

theorem fieldsEnd_zero (fields : List QString) : fieldsEnd fields 0 = -1 := rfl

theorem fieldsEnd_length (before after : List QString) :
    fieldsEnd (before ++ after) before.length = (Framing.unlines ',' before).length - 1 := by
  rw [fieldsEnd, List.take_left]

theorem unlines_split (before : List QString) (l : QString) (after : List QString)
    (last : QString) : Framing.unlines ',' (before ++ l :: after) ++ last =
      Framing.unlines ',' before ++ (l ++ ',' :: (Framing.unlines ',' after ++ last)) := by
  simp [Framing.unlines]

theorem fieldsEnd_succ (before : List QString) (l : QString) (after : List QString) :
    fieldsEnd (before ++ l :: after) (before.length + 1) =
      (Framing.unlines ',' before).length + l.length := by
  have hnext := fieldsEnd_length (before ++ [l]) after
  rw [List.append_assoc, List.singleton_append, List.length_append, List.length_singleton] at hnext
  rw [hnext]
  simp [Framing.unlines]
  omega

theorem indexOf_nextField (hfields : ∀ l ∈ fields, ',' ∉ l) (hlast : ',' ∉ last)
    (hk : k ≤ fields.length) :
    QString.indexOf (Framing.unlines ',' fields ++ last) ',' (fieldsEnd fields k + 1) =
      fieldsEnd fields (nextField fields.length k) := by
  obtain ⟨before, after, rfl, rfl⟩ : ∃ before after, fields = before ++ after ∧
      before.length = k :=
    ⟨fields.take k, fields.drop k, (List.take_append_drop k fields).symm, by simpa using hk⟩
  rw [fieldsEnd_length, Int.sub_add_cancel, nextField]
  cases after with
  | nil =>
    rw [List.append_nil, if_neg (lt_irrefl _), fieldsEnd_zero]
    exact QString.indexOf_of_notMem rfl hlast
  | cons l after =>
    have hl := hfields l (by simp)
    rw [unlines_split, if_pos (by simp), fieldsEnd_succ]
    exact QString.indexOf_field rfl hl

/-- The search for the fourth comma goes round. -/
theorem fourthComma_eq (hfields : ∀ l ∈ fields, ',' ∉ l) (hlast : ',' ∉ last) :
    fourthComma (Framing.unlines ',' fields ++ last) =
      fieldsEnd fields (4 % (fields.length + 1)) := by
  have hnext : ∀ {k}, k ≤ fields.length →
      QString.indexOf (Framing.unlines ',' fields ++ last) ',' (fieldsEnd fields k + 1) =
        fieldsEnd fields (nextField fields.length k) :=
    fun hk => indexOf_nextField hfields hlast hk
  have hle := nextField_le fields.length
  unfold fourthComma
  rw [← fieldsEnd_zero fields]
  dsimp only
  rw [hnext (Nat.zero_le _), hnext (hle _), hnext (hle _), hnext (hle _), nextField_four]

/-- The text `gotConnected` announces, the field it comes to. -/
theorem connectedIp_eq (hfields : ∀ l ∈ fields, ',' ∉ l) (hlast : ',' ∉ last) :
    connectedIp (Framing.unlines ',' fields ++ last) =
      if 4 % (fields.length + 1) = 0 then none
      else (fields ++ [last])[4 % (fields.length + 1)]? := by
  have hk : 4 % (fields.length + 1) ≤ fields.length :=
    Nat.le_of_lt_succ (Nat.mod_lt _ (Nat.succ_pos _))
  unfold connectedIp
  rw [fourthComma_eq hfields hlast, indexOf_nextField hfields hlast hk]
  generalize 4 % (fields.length + 1) = k at hk ⊢
  obtain ⟨before, after, rfl, rfl⟩ : ∃ before after, fields = before ++ after ∧
      before.length = k :=
    ⟨fields.take k, fields.drop k, (List.take_append_drop k fields).symm, by simpa using hk⟩
  cases before with
  | nil => rfl
  | cons first before =>
    have hpos : (0 : ℤ) < (Framing.unlines ',' (first :: before)).length :=
      Int.natCast_pos.mpr (List.length_pos_iff.mpr (by simp [Framing.unlines]))
    have hne : ¬(first :: before).length = 0 := by simp
    rw [fieldsEnd_length, if_pos (by omega), if_neg hne, nextField]
    cases after with
    | nil =>
      rw [List.append_nil, if_neg (lt_irrefl _), fieldsEnd_zero, if_neg (by decide),
        QString.mid_rest (by omega) (by decide)]
      simp
    | cons l after =>
      have hlength : (first :: before).length < (first :: before ++ l :: after).length := by simp
      rw [if_pos hlength, fieldsEnd_succ, if_pos (by omega), unlines_split,
        QString.mid_field (by omega) (by omega)]
      simp

end Fields
/-- The field it comes to is the fifth, or the second where there are three. -/
theorem connectedIp_fifth_iff (s : QString) :
    (∀ ip ∈ connectedIp s, fifthField s = some ip) ↔ s.count ',' ≠ 2 := by
  have hlines : ∀ l ∈ Framing.lines ',' s, ',' ∉ l := Framing.not_mem_of_mem_lines
  have hip := connectedIp_eq hlines (Framing.not_mem_rest s)
  rw [Framing.unlines_lines] at hip
  have hlength := Framing.length_lines (c := ',') s
  rw [hip, fifthField, Framing.splitOn_eq, ← hlength]
  set fields := Framing.lines ',' s
  by_cases htwo : fields.length = 2
  · have hthree : (fields ++ [Framing.rest ',' s]).length = 3 := by simp [htwo]
    refine iff_of_false (fun h => ?_) fun h => h htwo
    rw [htwo, if_neg (by decide), List.getElem?_eq_none (i := 4) (by omega),
      List.getElem?_eq_getElem (by omega)] at h
    exact nomatch h _ rfl
  · refine iff_of_true (fun ip h => ?_) htwo
    by_cases hnone : 4 % (fields.length + 1) = 0
    · rw [if_pos hnone] at h
      cases h
    · rw [if_neg hnone] at h
      have hfour : 4 ≤ fields.length := by
        by_contra hlt
        have hcases : fields.length = 0 ∨ fields.length = 1 ∨ fields.length = 3 := by omega
        rcases hcases with hn | hn | hn <;> exact hnone (by rw [hn])
      rwa [Nat.mod_eq_of_lt (by omega)] at h

/-- Among acts that announce nothing, only what is between them is announced. -/
theorem newIps_between {m m₁ m₂ m' : OpenvpnManager} {new : List Act}
    (h₁ : Runs.Adds Act.Other m.history m₁.history)
    (hnew : m₂.history = new ++ m₁.history)
    (h₂ : Runs.Adds Act.Other m₂.history m'.history) :
    newIps m m' = new.filterMap Act.newIp := by
  obtain ⟨before, hbefore, hnone⟩ := h₁
  obtain ⟨after, hafter, hnone'⟩ := h₂
  have hhistory : m'.history = (after ++ new ++ before) ++ m.history := by
    rw [hafter, hnew, hbefore]
    simp
  rw [newIps_eq hhistory, List.filterMap_append, List.filterMap_append,
    List.filterMap_eq_nil_iff.mpr hnone, List.filterMap_eq_nil_iff.mpr hnone', List.append_nil,
    List.nil_append]

variable (host : Host) (w : World)

/-- A new state is announced, no address. -/
theorem adds_setState (st : VpnState) (h : st ≠ .total) :
    Runs.Adds Act.Other m.history (m.setState w st).history := by
  have hadds := Control.adds_setState (P := Act.Other) (c := m.control) st (w.clock m.asked) rfl rfl
    (.refl _ _)
  rwa [← control_setState w m h] at hadds

theorem adds_bindFailed : Runs.Adds Act.Other m.history (m.bindFailed host w).history := by
  have hconnect : ∀ m : OpenvpnManager,
      Runs.Adds Act.Other m.history (m.startConnecting host w).history := by
    intro m
    obtain ⟨r, -, h⟩ := control_startConnecting host w m
    have hadds := Control.adds_setState (P := Act.Other) (c := m.control) .connecting
      (w.clock m.asked) rfl rfl (.refl _ _)
    have hother : Act.Other (.requested
      (m.control.setState .connecting (w.clock m.asked)).openRequests) := rfl
    have hhistory : (m.startConnecting host w).history =
        .requested _ :: (Control.setState _ _ _).history := congrArg Control.history h
    rw [hhistory]
    exact hadds.cons hother
  have hswitched : ∀ port, Runs.Adds Act.Other m.history
      (emit { m with mPort := port } (.switchingPort port)).history := by
    intro port
    have hother : Act.Other (.emitted (.switchingPort port)) := rfl
    exact (Runs.Adds.refl Act.Other m.history).cons hother
  unfold bindFailed
  exact (hswitched _).trans (hconnect _)

/-- The line's announcement is that of `parseNewIp`. -/
theorem newIps_parseOpenvpnLogLine {s : QString} (h : ReachesNewIp s) :
    newIps m (m.parseOpenvpnLogLine host w s) = newIps m (m.parseNewIp s) := by
  obtain ⟨ips, hips⟩ := history_parseNewIp s
  have hbefore : ∀ m₁ : OpenvpnManager, Runs.Adds Act.Other m.history m₁.history →
      newIps m (m₁.parseLogNotice host w s) = newIps m (m.parseNewIp s) := by
    intro m₁ hadds
    rw [parseLogNotice, if_pos h.2, newIps_between hadds (hips m₁) (.refl _ _), newIps_eq (hips m)]
  unfold parseOpenvpnLogLine
  rw [h.1, if_neg Bool.false_ne_true]
  dsimp only
  split_ifs
  · exact hbefore _ (adds_bindFailed (m.serviceLog _) host w)
  · exact hbefore _ (.refl _ _)

/-- `gotConnected` announces before it sets the state. -/
theorem gotConnected_eq (s : QString) : ∃ m₁ : OpenvpnManager,
    m.gotConnected w s = m₁.setState w .connected ∧ m₁.history =
      ((connectedIp s).toList.map fun ip => .emitted (.gotNewIp ip)) ++ m.history := by
  unfold gotConnected connectedIp
  dsimp only
  split_ifs with hfourth
  · exact ⟨_, rfl, rfl⟩
  · exact ⟨_, rfl, rfl⟩
  · exact ⟨_, rfl, rfl⟩

/-- The line's announcement is that of `gotConnected`. -/
theorem newIps_parseSocketLine {s : QString} (h : ReachesConnected m s) :
    newIps m (m.parseSocketLine host w s) = (connectedIp s).toList := by
  obtain ⟨word, hword, hconnected, hnew⟩ := h
  have hacts : ∀ m₁ : OpenvpnManager, m₁.history = m.history →
      newIps m (({ m₁.gotConnected w s with mPreviousStateWord := word }).note (.stateWord word)) =
        (connectedIp s).toList := by
    intro m₁ hm₁
    obtain ⟨m₂, hm₂, hhistory⟩ := gotConnected_eq m₁ w s
    have hother : Act.Other (.stateWord word) := rfl
    have hafter := (adds_setState m₂ w .connected (by decide)).cons hother
    rw [hm₁] at hhistory
    rw [hm₂]
    refine (newIps_between (.refl _ _) hhistory hafter).trans ?_
    rw [List.filterMap_map]
    exact List.filterMap_some
  have hisnew : (word != m.mPreviousStateWord) = true := by simpa using hnew
  rw [parseSocketLine_of_stateWord host w m hword]
  unfold parseSocketStateWord
  dsimp only
  rw [hisnew, if_pos rfl, actOnStateWord, if_pos hconnected, if_pos rfl]
  exact hacts _ rfl

/-- From the log and from the state lines only the address of the line is announced,
exactly where the first is delimited and the second has not two commas. -/
theorem newIps_iff {s t : QString} (hs : ReachesNewIp s) (ht : ReachesConnected m t) :
    ((∀ ip ∈ newIps m (m.parseOpenvpnLogLine host w s), RemoteAddress s ip) ↔ Delimited s) ∧
      ((∀ ip ∈ newIps m (m.parseSocketLine host w t), fifthField t = some ip) ↔
        t.count ',' ≠ 2) := by
  constructor
  · rw [newIps_parseOpenvpnLogLine m host w hs]
    exact parseNewIp_announces_iff m
  · rw [newIps_parseSocketLine m host w ht, ← connectedIp_fifth_iff]
    exact forall_congr' fun ip => imp_congr_left Option.mem_toList

/-- Two lines as openvpn writes them. -/
theorem newIps_as_written :
    ((∀ ip ∈ newIps (initial .zero) ((initial .zero).parseOpenvpnLogLine (.on .linux) (.quiet 0)
        "TCPv4_CLIENT link remote: [AF_INET]50.31.252.10:443".toList),
        RemoteAddress "TCPv4_CLIENT link remote: [AF_INET]50.31.252.10:443".toList ip) ↔
      Delimited "TCPv4_CLIENT link remote: [AF_INET]50.31.252.10:443".toList) ∧
    ((∀ ip ∈ newIps (initial .zero) ((initial .zero).parseSocketLine (.on .linux) (.quiet 0)
        "1460435651,CONNECTED,SUCCESS,10.200.1.6,85.236.153.236".toList),
        fifthField "1460435651,CONNECTED,SUCCESS,10.200.1.6,85.236.153.236".toList = some ip) ↔
      "1460435651,CONNECTED,SUCCESS,10.200.1.6,85.236.153.236".toList.count ',' ≠ 2) :=
  newIps_iff (initial .zero) (.on .linux) (.quiet 0) (by decide +kernel)
    ⟨"CONNECTED".toList, by decide +kernel, by decide +kernel, by decide +kernel⟩

/-- A host name for an address, and a state line of three fields: the beginning of the one
is announced, and the state word of the other. -/
theorem newIps_other_text :
    (¬∀ (host : Host) (w : World) (m : OpenvpnManager) (s : QString), ReachesNewIp s →
      ∀ ip ∈ newIps m (m.parseOpenvpnLogLine host w s), RemoteAddress s ip) ∧
    ¬∀ (host : Host) (w : World) (m : OpenvpnManager) (s : QString), ReachesConnected m s →
      ∀ ip ∈ newIps m (m.parseSocketLine host w s), fifthField s = some ip := by
  constructor
  · intro h
    have haddress := h (.on .linux) (.quiet 0) (initial .zero)
      "TCPv4_CLIENT link remote: [AF_INET]localhost:1194".toList (by decide +kernel)
      "TCPv4_CLIENT link remote: [AF_INET]localhost".toList (by decide +kernel)
    exact absurd (by decide) haddress.1.colon_notMem
  · intro h
    have hfield := h (.on .linux) (.quiet 0) (initial .zero)
      "1432176303,CONNECTED,SUCCESS".toList
      ⟨"CONNECTED".toList, by decide +kernel, by decide +kernel, by decide +kernel⟩
      "CONNECTED".toList (by decide +kernel)
    exact absurd hfield (by decide)

end OpenvpnManager
end CeloVpn.Service
