import CeloVpn.Service.Simulation

/-!
# State lines

A state line of the management interface begins with a time stamp, a state word
and a reason, each ended by a comma. A reason that mentions an error hides the
word from the manager; the word CONNECTED is acted on only if it differs from
the last word that was not hidden.
-/
namespace CeloVpn.Service
open Runs

/-- The fields of a well-formed state line. -/
structure StateLine where
  digits : QString
  word : QString
  reason : QString
  rest : QString
  digits_ne_nil : digits ≠ []
  digits_isDigit : ∀ c ∈ digits, QString.isDigit c = true
  word_no_comma : ',' ∉ word
  reason_no_comma : ',' ∉ reason

namespace StateLine

/-- A line of given fields, its time stamp being 1. -/
def of (word reason rest : String) (hword : ',' ∉ word.toList) (hreason : ',' ∉ reason.toList) :
    StateLine where
  digits := ['1']
  word := word.toList
  reason := reason.toList
  rest := rest.toList
  digits_ne_nil := by decide
  digits_isDigit := List.forall_mem_singleton.mpr (by decide)
  word_no_comma := hword
  reason_no_comma := hreason

/-- The line as openvpn writes it. -/
def text (l : StateLine) : QString :=
  l.digits ++ ',' :: (l.word ++ ',' :: (l.reason ++ ',' :: l.rest))

theorem digits_no_comma (l : StateLine) : ',' ∉ l.digits :=
  fun h => absurd (l.digits_isDigit _ h) (by decide)

end StateLine

/-- The last state word that was not hidden from the manager. -/
def lastWord : List Act → QString
  | [] => []
  | .stateWord word :: _ => word
  | _ :: older => lastWord older

namespace Control

/-- The manager remembers the last word that was not hidden. -/
def Remembers (c : Control) : Prop := c.mPreviousStateWord = lastWord c.history

theorem Remembers.setState {c : Control} (st : VpnState) (now : ℤ) (hr : c.Remembers) :
    (c.setState st now).Remembers := by
  unfold Control.setState
  split
  · exact hr
  · exact hr

theorem Remembers.move {A : Allowed} {c c' : Control} (hm : Move A c c') (hr : c.Remembers) :
    c'.Remembers := by
  cases hm with
  | plain a h =>
    have hlast : lastWord (a :: c.history) = lastWord c.history := by
      cases a <;> first | rfl | exact absurd h id
    exact hr.trans hlast.symm
  | leave st now _ => exact hr.setState st now
  | promote now _ => exact hr.setState .connecting now
  | connect now r _ => exact hr.setState .connecting now
  | attempt url => exact hr
  | exiting now => exact Remembers.setState (c := c.arm) .connecting now hr
  | arm => exact hr
  | timer => exact hr
  | word word => exact rfl
  | processError => exact hr
  | opened => exact hr
  | closed _ _ _ => exact hr
  | gaveUp now _ => exact hr
  | launched args config template _ => exact hr

end Control

namespace OpenvpnManager
variable (host : Host) (w : World) (m : OpenvpnManager)

/-- A well-formed line hands its word on, unless its reason mentions an error. -/
theorem parseSocketLine_text (l : StateLine) : m.parseSocketLine host w l.text =
    if l.reason.containsFolded "ERROR".toList then m
    else m.parseSocketStateWord host w l.word l.text := by
  obtain ⟨c, digits, hdigits⟩ := List.exists_cons_of_ne_nil l.digits_ne_nil
  have hdigit : QString.isDigit c = true := l.digits_isDigit c (by simp [hdigits])
  have hword_at : l.text = (l.digits ++ [',']) ++ (l.word ++ ',' :: (l.reason ++ ',' :: l.rest)) := by
    simp [StateLine.text]
  have hreason_at : l.text =
      (l.digits ++ ',' :: (l.word ++ [','])) ++ (l.reason ++ ',' :: l.rest) := by
    simp [StateLine.text]
  have hstart : (l.digits.length : ℤ) + 1 = (l.digits ++ [',']).length := by simp
  have hstart' : (l.digits.length : ℤ) + 1 + l.word.length + 1 =
      (l.digits ++ ',' :: (l.word ++ [','])).length := by
    simp only [List.length_append, List.length_cons, List.length_nil]
    push_cast
    ring
  -- the first search skips the first digit
  have hp0 : l.text.indexOf ',' 1 = l.digits.length := by
    have hdigits_at : l.text = [c] ++ (digits ++ ',' :: (l.word ++ ',' :: (l.reason ++ ',' :: l.rest))) := by
      simp [StateLine.text, hdigits]
    rw [hdigits_at, QString.indexOf_field (by simp)
      (fun h => l.digits_no_comma (by simp [hdigits, h])), hdigits, List.length_cons]
    push_cast
    ring
  have hp1 : l.text.indexOf ',' (l.digits.length + 1) =
      l.digits.length + 1 + l.word.length := by
    rw [hword_at]
    exact QString.indexOf_field hstart l.word_no_comma
  have hp3 : l.text.indexOf ',' (l.digits.length + 1 + l.word.length + 1) =
      l.digits.length + 1 + l.word.length + 1 + l.reason.length := by
    rw [hreason_at]
    exact QString.indexOf_field hstart' l.reason_no_comma
  have hword : l.text.mid (l.digits.length + 1)
      (l.digits.length + 1 + l.word.length - l.digits.length - 1) = l.word := by
    rw [hword_at]
    exact QString.mid_field hstart (by ring)
  have hreason : l.text.mid (l.digits.length + 1 + l.word.length + 1)
      (l.digits.length + 1 + l.word.length + 1 + l.reason.length -
        (l.digits.length + 1 + l.word.length) - 1) = l.reason := by
    rw [hreason_at]
    exact QString.mid_field hstart' (by ring)
  have hhead : l.text.head? = some c := by simp [StateLine.text, hdigits]
  have hprompt : c ≠ '>' := fun h => absurd (h ▸ hdigit) (by decide)
  have herr : (decide ((l.digits.length : ℤ) + 1 + l.word.length + 1 + l.reason.length > -1 ∧
      (l.digits.length : ℤ) + 1 + l.word.length + 1 + l.reason.length >
        l.digits.length + 1 + l.word.length + 1) &&
      l.reason.containsFolded "ERROR".toList) = l.reason.containsFolded "ERROR".toList := by
    cases hcontains : l.reason.containsFolded "ERROR".toList with
    | false => exact Bool.and_false _
    | true =>
      have hne : l.reason ≠ [] := fun h => absurd (h ▸ hcontains) (by decide)
      have hpos := List.length_pos_iff.mpr hne
      rw [Bool.and_true, decide_eq_true_iff]
      omega
  have hcomma : (l.digits.length : ℤ) + 1 + l.word.length > -1 := by omega
  unfold parseSocketLine
  rw [if_neg (by simpa [hhead] using hprompt), if_pos (by simpa [hhead] using hdigit)]
  unfold parseSocketDigitLine
  dsimp only
  rw [hp0, hp1, hp3, hword, hreason, herr, if_pos hcomma]
  cases l.reason.containsFolded "ERROR".toList <;> rfl

/-- The words after which the manager is not connected. -/
def demotes (m : OpenvpnManager) (word : QString) : Bool :=
  promotes word || word.equalsFolded "EXITING".toList ||
    (word.equalsFolded "RESOLVE".toList && m.mNetDown)

/-- Both branches of a test end connected under the same condition. -/
theorem connected_ite_iff {p R : Prop} [Decidable p] {x y : OpenvpnManager}
    (hx : p → (x.mState = .connected ↔ R)) (hy : ¬p → (y.mState = .connected ↔ R)) :
    (if p then x else y).mState = .connected ↔ R := by
  split_ifs with h
  · exact hx h
  · exact hy h

theorem gotConnected_mState (s : QString) : (m.gotConnected w s).mState = .connected :=
  setState_mState w _ _

theorem demotes_congr {word known : QString} (h : word.equalsFolded known = true) :
    demotes m word = demotes m known := by
  simp only [demotes, promotes, QString.equalsFolded_congr h]

/-- The state is connected after a word exactly when the word is no demotion, and
it was connected before or the word is a new CONNECTED. -/
theorem actOnStateWord_connected_iff (isnew : Bool) (word s : QString) :
    (m.actOnStateWord host w isnew word s).mState = .connected ↔
      demotes m word = false ∧
        (m.mState = .connected ∨ word.equalsFolded "CONNECTED".toList = true ∧ isnew = true) := by
  have hdemoted : ∀ {known : QString}, word.equalsFolded known = true →
      demotes m known = true → ∀ x : OpenvpnManager, x.mState ≠ .connected →
      (x.mState = .connected ↔ demotes m word = false ∧ (m.mState = .connected ∨
        word.equalsFolded "CONNECTED".toList = true ∧ isnew = true)) := by
    intro known hword hknown x hx
    rw [demotes_congr m hword, hknown]
    simp [hx]
  have hkept : ∀ {known : QString}, word.equalsFolded known = true → demotes m known = false →
      known.equalsFolded "CONNECTED".toList = false → ∀ x : OpenvpnManager, x.mState = m.mState →
      (x.mState = .connected ↔ demotes m word = false ∧ (m.mState = .connected ∨
        word.equalsFolded "CONNECTED".toList = true ∧ isnew = true)) := by
    intro known hword hknown hother x hx
    rw [demotes_congr m hword, hknown, QString.equalsFolded_congr hword, hother, hx]
    simp
  have hconnecting : ∀ st, ((m.setState w .connecting).emit st).mState ≠ .connected := by
    intro st
    rw [emit_mState, setState_mState]
    decide
  unfold actOnStateWord
  refine connected_ite_iff (fun h => ?connected) fun h1 => ?_
  case connected =>
    rw [demotes_congr m h, h]
    refine connected_ite_iff (fun hnew => ?_) fun hold => ?_
    · exact iff_of_true (gotConnected_mState w m s) ⟨rfl, .inr ⟨rfl, hnew⟩⟩
    · exact ⟨fun hm => ⟨rfl, .inl hm⟩, fun hm => hm.2.resolve_right fun hnew => hold hnew.2⟩
  refine connected_ite_iff (fun h => ?connecting) fun h2 => ?_
  case connecting =>
    rcases Bool.or_eq_true_iff.mp h with hword | hword
    · exact hdemoted hword rfl _ (hconnecting _)
    · exact hdemoted hword rfl _ (hconnecting _)
  refine connected_ite_iff (fun h => hkept h rfl rfl _ rfl) fun h3 => ?_
  refine connected_ite_iff (fun h => ?exiting) fun h4 => ?_
  case exiting =>
    refine hdemoted h rfl _ ?_
    split <;> rw [setState_mState] <;> decide
  refine connected_ite_iff (fun h => hdemoted h rfl _ (hconnecting _)) fun h5 => ?_
  refine connected_ite_iff (fun h => hdemoted h rfl _ (hconnecting _)) fun h6 => ?_
  refine connected_ite_iff (fun h => hkept h rfl rfl _ rfl) fun h7 => ?_
  refine connected_ite_iff (fun h => hdemoted h rfl _ (hconnecting _)) fun h8 => ?_
  refine connected_ite_iff (fun h => hkept h rfl rfl _ rfl) fun h9 => ?_
  refine connected_ite_iff (fun h => ?resolve) fun h10 => ?unknown
  case resolve =>
    refine connected_ite_iff (fun hdown => ?_) fun hup => ?_
    · refine hdemoted h hdown _ ?_
      rw [emit_mState, stop_mState]
      decide
    · exact hkept h (Bool.not_eq_true _ ▸ hup) rfl _ rfl
  case unknown =>
    have hnone : demotes m word = false := by
      simp only [Bool.or_eq_true, not_or, Bool.not_eq_true] at h2 h4 h5 h6 h8 h10
      simp only [demotes, promotes, h2, h4, h5, h6, h8, h10, Bool.or_false, Bool.false_and]
    rw [hnone]
    exact ⟨fun hm => ⟨rfl, .inl hm⟩, fun hm => hm.2.resolve_right fun hnew => h1 hnew.1⟩

theorem parseSocketStateWord_connected_iff (word s : QString) :
    (m.parseSocketStateWord host w word s).mState = .connected ↔
      demotes m word = false ∧ (m.mState = .connected ∨
        word.equalsFolded "CONNECTED".toList = true ∧ word ≠ m.mPreviousStateWord) := by
  have hlogged : ∀ m' : OpenvpnManager, m'.mState = m.mState → m'.mNetDown = m.mNetDown →
      ((m'.actOnStateWord host w (word != m.mPreviousStateWord) word s).mState = .connected ↔
        demotes m word = false ∧ (m.mState = .connected ∨
          word.equalsFolded "CONNECTED".toList = true ∧ word ≠ m.mPreviousStateWord)) := by
    intro m' hstate hdown
    have hdemotes : demotes m' word = demotes m word := by rw [demotes, demotes, hdown]
    rw [actOnStateWord_connected_iff, hstate, hdemotes, bne_iff_ne]
  unfold parseSocketStateWord
  dsimp only
  refine hlogged _ ?_ ?_ <;> split_ifs <;> rfl

/-- The manager reads one line. -/
def feed (m : OpenvpnManager) (l : World × StateLine) : OpenvpnManager :=
  m.parseSocketLine host l.1 l.2.text

/-- A line with another word than CONNECTED does not leave the manager connected. -/
def Honest (m : OpenvpnManager) (l : World × StateLine) : Prop :=
  l.2.word ≠ "CONNECTED".toList → (feed host m l).mState ≠ .connected

/-- A line with another word than CONNECTED is not hidden by its reason and demotes,
or it finds the manager not connected and does not spell CONNECTED in another case. -/
def Heeded (m : OpenvpnManager) (l : World × StateLine) : Prop :=
  l.2.word ≠ "CONNECTED".toList →
    if l.2.reason.containsFolded "ERROR".toList then m.mState ≠ .connected
    else demotes m l.2.word = true ∨ (m.mState ≠ .connected ∧
      ¬(l.2.word.equalsFolded "CONNECTED".toList = true ∧ l.2.word ≠ m.mPreviousStateWord))

theorem honest_iff_heeded (m : OpenvpnManager) (l : World × StateLine) :
    Honest host m l ↔ Heeded m l := by
  refine imp_congr_right fun _ => ?_
  rw [feed, parseSocketLine_text]
  split_ifs
  · exact Iff.rfl
  · rw [ne_eq, parseSocketStateWord_connected_iff, not_and_or, Bool.not_eq_false, not_or]

/-- A batch of state lines leaves no false Connected behind exactly when each line
of it is heeded. -/
theorem feed_honest_iff (m : OpenvpnManager) (ls : List (World × StateLine)) :
    Meets (feed host) (Honest host) m ls ↔ Meets (feed host) Heeded m ls :=
  meets_congr (I := fun _ => True) (fun _ _ _ => trivial)
    (fun m l _ => honest_iff_heeded host m l) trivial

/-- After openvpn connected, losing its control channel to a TLS error goes unheeded. -/
theorem honest_fails_of_tls_error : ¬ ∀ (host : Host) (m : OpenvpnManager)
    (ls : List (World × StateLine)), ReachableBy host m → Meets (feed host) (Honest host) m ls := by
  intro h
  have hline := h (.on .linux)
    (run (step (.on .linux)) (initial .zero)
      [⟨.quiet 0, .connectionOpened⟩,
        ⟨.quiet 0, .send 0 (startObject 7 "443" "celo.example/7.ovpn")⟩,
        ⟨.quiet 0, .templateFinished 0 []⟩,
        ⟨.busy 1000, .line "1,CONNECTED,SUCCESS,10.8.0.2,192.0.2.1"⟩])
    [(.busy 2000, .of "RECONNECTING" "tls-error" ",,," (by decide) (by decide))]
    ⟨_, ⟨.zero, rfl⟩, _, rfl⟩
  exact absurd (hline.1 (by decide)) (by decide +kernel)

theorem remembers_of_reachable (hm : ReachableBy host m) : m.control.Remembers := by
  refine hm.invariant (P := fun m => m.control.Remembers) ?_ ?_
  · rintro _ ⟨u, rfl⟩
    exact rfl
  · intro m e hr
    refine Moves.invariant (fun _ _ hm hc => hc.move hm)
      (step_moves host m (permits_any host m fun _ _ => trivial)) ?_
    rw [Control.Remembers, taken_history, taken_mPreviousStateWord]
    exact hr

/-- A reported connection is seen exactly when the last word that was not hidden is
another one than CONNECTED. -/
theorem connected_line_seen_iff (l : StateLine) (hm : ReachableBy host m)
    (hconnecting : m.mState = .connecting) (_hattached : m.mSocket.isSome = true)
    (hword : l.word = "CONNECTED".toList) (hreason : l.reason = "SUCCESS".toList) :
    (m.parseSocketLine host w l.text).mState = .connected ↔
      lastWord m.history ≠ "CONNECTED".toList := by
  have hremembered : m.mPreviousStateWord = lastWord m.history := remembers_of_reachable host m hm
  have hkept : demotes m "CONNECTED".toList = false := rfl
  have hshown : QString.containsFolded "SUCCESS".toList "ERROR".toList = false := by decide
  rw [parseSocketLine_text, hreason, hshown, if_neg Bool.false_ne_true,
    parseSocketStateWord_connected_iff, hword, hkept, hremembered, hconnecting]
  exact ⟨fun h => (h.2.resolve_left (by decide)).2.symm, fun h => ⟨rfl, .inr ⟨rfl, h.symm⟩⟩⟩

/-- The first CONNECTED of a run is seen. -/
theorem connected_line_seen_first : ∃ m : OpenvpnManager, ∃ l : StateLine,
    (m.parseSocketLine (.on .linux) (.busy 1000) l.text).mState = .connected ∧
      ((m.parseSocketLine (.on .linux) (.busy 1000) l.text).mState = .connected ↔
        lastWord m.history ≠ "CONNECTED".toList) := by
  let m := run (step (.on .linux)) (initial .zero)
    [⟨.quiet 0, .connectionOpened⟩,
      ⟨.quiet 0, .send 0 (startObject 7 "443" "celo.example/7.ovpn")⟩,
      ⟨.quiet 0, .templateFinished 0 []⟩]
  let l := StateLine.of "CONNECTED" "SUCCESS" "10.8.0.2,192.0.2.1" (by decide) (by decide)
  exact ⟨m, l, by decide +kernel, connected_line_seen_iff (.on .linux) (.busy 1000) m l
    ⟨_, ⟨.zero, rfl⟩, _, rfl⟩ (by decide +kernel) (by decide +kernel) rfl rfl⟩

/-- After a crash, the connection of the next attempt is missed when CONNECTED is the
first word it is polled with. -/
theorem connected_line_missed : ¬ ∀ (host : Host) (w : World) (m : OpenvpnManager) (l : StateLine),
    ReachableBy host m → m.mState = .connecting → m.mSocket.isSome = true →
    l.word = "CONNECTED".toList → l.reason = "SUCCESS".toList →
    (m.parseSocketLine host w l.text).mState = .connected := by
  intro h
  have hline := h (.on .linux) (.busy 9000)
    (run (step (.on .linux)) (initial .zero)
      [⟨.quiet 0, .connectionOpened⟩,
        ⟨.quiet 0, .send 0 (startObject 7 "443" "celo.example/7.ovpn")⟩,
        ⟨.quiet 0, .templateFinished 0 []⟩,
        ⟨.busy 1000, .line "1,CONNECTED,SUCCESS,10.8.0.2,192.0.2.1"⟩,
        ⟨.quiet 5000, .socketError 1⟩, ⟨.quiet 5000, .stateTimer⟩,
        ⟨.quiet 8000, .send 0 (startObject 7 "443" "celo.example/7.ovpn")⟩,
        ⟨.quiet 8000, .templateFinished 1 []⟩])
    (.of "CONNECTED" "SUCCESS" "10.8.0.2,192.0.2.1" (by decide) (by decide))
    ⟨_, ⟨.zero, rfl⟩, _, rfl⟩ (by decide +kernel) (by decide +kernel) rfl rfl
  exact absurd hline (by decide +kernel)

end OpenvpnManager
end CeloVpn.Service
