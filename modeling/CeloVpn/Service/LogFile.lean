import CeloVpn.Library.Utf8
import CeloVpn.Service.LogLines

/-!
# The log file

openvpn writes its log in chunks of any size, and a restarted openvpn begins a new one
under the same watcher. `openvpnLogfileChanged` reads on from the position it reached,
and takes the log for a new one only where it has become shorter than that.
-/
namespace CeloVpn.Service
open Runs Framing OpenvpnManager

/-- The complete lines of a log that are not empty, as texts. -/
def completeLines (log : QByteArray) : List QString :=
  ((lines 10 log).filter (· ≠ [])).map QString.decodeUtf8

theorem completeLines_append {s : QByteArray} (h : rest 10 s = []) (t : QByteArray) :
    completeLines (s ++ t) = completeLines s ++ completeLines t := by
  rw [completeLines, lines_append, h, List.nil_append, List.filter_append, List.map_append]
  rfl

/-- Bytes that end behind a line break are parsed as the lines they hold. -/
theorem linesOf_whole {r : QByteArray} (h : rest 10 r = []) (hplain : QString.Plain r) :
    linesOf r = completeLines r := by
  cases r with
  | nil => rfl
  | cons b r =>
    refine (if_neg Bool.false_ne_true).trans ?_
    rw [QString.ofBytes_of_plain hplain, QString.splitSkipEmpty_decodeUtf8, pieces_eq, h, pieces_nil,
      List.append_nil]
    rfl

/-- Up to where reading stopped stands what precedes its beginning, and what was read. -/
theorem take_readPosition (p : ℤ) (log : QByteArray) :
    log.take (readPosition p (some log)).toNat =
      log.take (readFrom p log).toNat ++ unreadLog p (some log) := by
  unfold readPosition unreadLog
  dsimp only
  split_ifs
  · rw [Int.toNat_natCast, List.take_length, List.take_append_drop]
  · rw [List.append_nil]

/-- What becomes of the log file. -/
inductive LogEvent
  | append (chunk : QByteArray)
  /-- A new log begins. -/
  | truncate
  /-- The watcher reports a change; whether the file can be opened. -/
  | changed (w : World) (opens : Bool)

/-- openvpn writes a line of the log. -/
def LogEvent.line (s : String) : LogEvent := .append (QString.toLatin1 (s.toList ++ ['\n']))

/-- The manager and the log file it watches. -/
structure LogSession where
  manager : OpenvpnManager
  log : QByteArray
  /-- Whether the log has begun anew since it was last opened. -/
  anew : Bool
  /-- The lines of the logs before this one that preceded the read position. -/
  earlier : List QString
  /-- The strings passed to `parseOpenvpnLogLine`. -/
  parsed : List QString

namespace OpenvpnManager
variable (host : Host) (w : World) {m : OpenvpnManager} {p : ℤ}

/-- Whether the log file is watched, and the position. -/
def watch (m : OpenvpnManager) : Bool × ℤ := (m.mFileSystemWatcher, m.mLogFilePosition)

/-- The log file is watched from the given position on, and no error is flagged. -/
def Watches (p : ℤ) (m : OpenvpnManager) : Prop := m.watch = (true, p) ∧ m.mError = false

instance (p : ℤ) (m : OpenvpnManager) : Decidable (m.Watches p) :=
  inferInstanceAs (Decidable (_ ∧ _))

theorem watch_setState (st : VpnState) (m : OpenvpnManager) : (m.setState w st).watch = m.watch := by
  unfold setState
  split_ifs
  · cases st <;> rfl
  · rfl

theorem watch_enableTap (m : OpenvpnManager) : (m.enableTap w).watch = m.watch := by
  have hone : ∀ (m' : OpenvpnManager) q, m'.watch = m.watch → (m'.enableTapOne q).watch = m.watch := by
    intro m' q h
    rw [← h]
    unfold enableTapOne
    dsimp only
    split_ifs <;> rfl
  unfold enableTap
  split
  · rfl
  · rfl
  · exact run_invariant (P := fun m' => OpenvpnManager.watch m' = m.watch) hone rfl _

theorem watch_startConnecting (m : OpenvpnManager) : (m.startConnecting host w).watch = m.watch := by
  rw [← watch_setState w .connecting m]
  unfold startConnecting
  cases host.platform with
  | windows => exact watch_enableTap w (m.setState w .connecting)
  | linux => rfl
  | darwin => rfl

theorem watch_gotConnected (s : QString) (m : OpenvpnManager) :
    (m.gotConnected w s).watch = m.watch ∧ (m.gotConnected w s).mError = m.mError := by
  have hset : ∀ m : OpenvpnManager,
      (m.setState w .connected).watch = m.watch ∧ (m.setState w .connected).mError = m.mError := by
    intro m
    unfold setState
    split_ifs <;> exact ⟨rfl, rfl⟩
  unfold gotConnected
  dsimp only
  split_ifs <;> exact hset _

theorem Watches.startConnecting (h : m.watch = (true, p)) :
    (m.startConnecting host w).Watches p :=
  ⟨(watch_startConnecting host w m).trans h, rfl⟩

theorem Watches.parseLogNotice (s : QString) (h : m.Watches p) :
    (m.parseLogNotice host w s).Watches p := by
  unfold OpenvpnManager.parseLogNotice
  split_ifs
  · unfold parseNewIp
    dsimp only
    split_ifs <;> exact h
  · obtain ⟨hwatch, herror⟩ := watch_gotConnected w s m
    exact ⟨hwatch.trans h.1, herror.trans h.2⟩
  · -- The flag that `gotTunErr` sets is cleared by the attempt it begins.
    unfold gotTunErr
    split_ifs
    · exact Watches.startConnecting host w h.1
    · exact h
  · exact h

theorem Watches.parseOpenvpnLogLine (s : QString) (h : m.Watches p) :
    (m.parseOpenvpnLogLine host w s).Watches p := by
  unfold OpenvpnManager.parseOpenvpnLogLine
  dsimp only
  split_ifs
  · exact h
  · exact Watches.parseLogNotice host w s (Watches.startConnecting host w h.1)
  · exact Watches.parseLogNotice host w s h

/-- A change of the log file passes on what is read of it, and moves the position. -/
theorem Watches.changed (content : Option QByteArray) (h : m.Watches p)
    (hprocessing : m.mProcessing = false) :
    (m.step host ⟨w, .logFileChanged content⟩).Watches (readPosition p content) ∧
      (m.step host ⟨w, .logFileChanged content⟩).mProcessing = false ∧
      m.parses (.logFileChanged content) = linesOf (unreadLog p content) := by
  obtain ⟨hwatch, herror⟩ := h
  obtain ⟨hwatched, rfl⟩ := Prod.mk.inj hwatch
  have hskip : ¬ (m.mProcessing || m.mError) = true := by
    rw [hprocessing, herror]
    exact Bool.false_ne_true
  have hlines : m.logLines content = linesOf (unreadLog m.mLogFilePosition content) := if_neg hskip
  have hstep : m.step host ⟨w, .logFileChanged content⟩ =
      openvpnLogfileChanged host w content { m with asked := 0 } := if_pos hwatched
  have hline : ∀ (m' : OpenvpnManager) s,
      m'.Watches (readPosition m.mLogFilePosition content) →
      (m'.parseOpenvpnLogLine host w s).Watches (readPosition m.mLogFilePosition content) :=
    fun m' s h => h.parseOpenvpnLogLine host w s
  have hread := run_invariant hline
    (s := { m with
      asked := 0
      mProcessing := true
      mLogFilePosition := readPosition m.mLogFilePosition content })
    ⟨Prod.ext hwatched rfl, herror⟩ (m.logLines content)
  rw [hstep, openvpnLogfileChanged_eq, if_neg hskip]
  exact ⟨hread, rfl, (if_pos hwatched).trans hlines⟩

end OpenvpnManager

namespace LogSession
variable (host : Host)

/-- The complete lines of a log that precede a read position. Of a log begun anew nothing
precedes it until the file is opened. -/
def preceding (log : QByteArray) (position : ℤ) : Bool → List QString
  | true => []
  | false => completeLines (log.take position.toNat)

/-- The complete lines written so far that precede the read position. -/
def expected (t : LogSession) : List QString :=
  t.earlier ++ preceding t.log t.manager.mLogFilePosition t.anew

def step (t : LogSession) : LogEvent → LogSession
  | .append chunk => { t with log := t.log ++ chunk }
  | .truncate => { t with log := [], anew := true, earlier := t.expected }
  | .changed w opens =>
    let callback := Callback.logFileChanged (if opens then some t.log else none)
    { t with
      manager := t.manager.step host ⟨w, callback⟩
      anew := t.anew && !opens
      parsed := t.parsed ++ t.manager.parses callback }

def initial (m : OpenvpnManager) (log : QByteArray) : LogSession := ⟨m, log, false, [], []⟩

/-- The strings passed on are these lines, each once and in order. -/
def Exact (t : LogSession) : Prop := t.parsed = t.expected

/-- What a change finds to read ends behind a line break, and neither begins with a byte
order mark nor holds a null byte; and where the log has begun anew it is read from its
beginning. -/
def ReadsWhole (t : LogSession) : LogEvent → Prop
  | .changed _ true =>
    let unread := unreadLog t.manager.mLogFilePosition (some t.log)
    rest 10 unread = [] ∧ QString.Plain unread ∧
      (t.anew = true → readFrom t.manager.mLogFilePosition t.log = 0)
  | _ => True

/-- The watcher is at work, and what was read of the log ended behind a line break. -/
def Settled (t : LogSession) : Prop :=
  t.manager.Watches t.manager.mLogFilePosition ∧ t.manager.mProcessing = false ∧
    0 ≤ t.manager.mLogFilePosition ∧ (t.anew = false →
      t.manager.mLogFilePosition ≤ t.log.length ∧
        rest 10 (t.log.take t.manager.mLogFilePosition.toNat) = [])

instance (t : LogSession) : Decidable t.Exact := inferInstanceAs (Decidable (_ = _))

instance (t : LogSession) : ∀ e, Decidable (t.ReadsWhole e)
  | .append _ => isTrue trivial
  | .truncate => isTrue trivial
  | .changed _ false => isTrue trivial
  | .changed _ true => inferInstanceAs (Decidable (_ ∧ _ ∧ _))

variable {host}

/-- What is expected precedes the place where reading begins. -/
theorem expected_eq {t : LogSession} (h : t.Settled)
    (hanew : t.anew = true → readFrom t.manager.mLogFilePosition t.log = 0) :
    t.expected =
      t.earlier ++ completeLines (t.log.take (readFrom t.manager.mLogFilePosition t.log).toNat) := by
  unfold expected
  cases hbegun : t.anew with
  | true =>
    rw [hanew hbegun]
    rfl
  | false =>
    have hfrom : readFrom t.manager.mLogFilePosition t.log = t.manager.mLogFilePosition :=
      if_neg (not_lt.mpr (h.2.2.2 hbegun).1)
    rw [hfrom]
    rfl

theorem rest_readFrom {t : LogSession} (h : t.Settled)
    (hanew : t.anew = true → readFrom t.manager.mLogFilePosition t.log = 0) :
    rest 10 (t.log.take (readFrom t.manager.mLogFilePosition t.log).toNat) = [] := by
  cases hbegun : t.anew with
  | true =>
    rw [hanew hbegun]
    rfl
  | false =>
    obtain ⟨hle, hrest⟩ := h.2.2.2 hbegun
    have hfrom : readFrom t.manager.mLogFilePosition t.log = t.manager.mLogFilePosition :=
      if_neg (not_lt.mpr hle)
    rw [hfrom, hrest]

theorem readFrom_nonneg {p : ℤ} (h : 0 ≤ p) (log : QByteArray) : 0 ≤ readFrom p log := by
  unfold readFrom
  split_ifs
  · exact le_refl 0
  · exact h

theorem readPosition_bounds {p : ℤ} (h : 0 ≤ p) (log : QByteArray) :
    0 ≤ readPosition p (some log) ∧ readPosition p (some log) ≤ log.length := by
  have hfrom := readFrom_nonneg h log
  have hle : readFrom p log ≤ log.length := by
    unfold readFrom
    split_ifs <;> omega
  unfold readPosition
  dsimp only
  split_ifs <;> omega

theorem step_settled {t : LogSession} {e : LogEvent} (hC : t.ReadsWhole e) (h : t.Settled) :
    (t.step host e).Settled ∧ (t.Exact → (t.step host e).Exact) := by
  obtain ⟨hwatches, hprocessing, hpos, hread⟩ := id h
  cases e with
  | append chunk =>
    have htake : t.anew = false → (t.log ++ chunk).take t.manager.mLogFilePosition.toNat =
        t.log.take t.manager.mLogFilePosition.toNat := by
      intro hbegun
      have hle := (hread hbegun).1
      exact List.take_append_of_le_length (by omega)
    refine ⟨⟨hwatches, hprocessing, hpos, fun hbegun => ?_⟩, fun hexact => ?_⟩
    · obtain ⟨hle, hrest⟩ := hread hbegun
      refine ⟨?_, (congrArg (rest 10) (htake hbegun)).trans hrest⟩
      simp only [step, List.length_append]
      omega
    · refine hexact.trans (congrArg (t.earlier ++ ·) ?_)
      dsimp only [step]
      cases hbegun : t.anew with
      | true => rfl
      | false => rw [preceding, preceding, htake hbegun]
  | truncate =>
    exact ⟨⟨hwatches, hprocessing, hpos, nofun⟩, fun hexact => hexact.trans (List.append_nil _).symm⟩
  | changed w opens =>
    cases opens with
    | false =>
      obtain ⟨hafter, hdone, hparses⟩ := hwatches.changed host w none hprocessing
      have hposition : (t.step host (.changed w false)).manager.mLogFilePosition =
          t.manager.mLogFilePosition := (Prod.mk.inj hafter.1).2
      have hkept : (t.step host (.changed w false)).anew = t.anew := Bool.and_true t.anew
      have hnothing : (t.step host (.changed w false)).parsed = t.parsed :=
        (congrArg (t.parsed ++ ·) hparses).trans (List.append_nil _)
      refine ⟨?_, fun hexact => ?_⟩
      · unfold Settled
        rw [hposition, hkept]
        exact ⟨hafter, hdone, hpos, hread⟩
      · unfold Exact expected
        rw [hposition, hkept, hnothing]
        exact hexact
    | true =>
      obtain ⟨hrest, hplain, hanew⟩ := hC
      obtain ⟨hafter, hdone, hparses⟩ := hwatches.changed host w (some t.log) hprocessing
      have hposition : (t.step host (.changed w true)).manager.mLogFilePosition =
          readPosition t.manager.mLogFilePosition (some t.log) := (Prod.mk.inj hafter.1).2
      have htake := take_readPosition t.manager.mLogFilePosition t.log
      obtain ⟨hnonneg, hle⟩ := readPosition_bounds hpos t.log
      have hbefore := rest_readFrom h hanew
      refine ⟨⟨hposition ▸ hafter, hdone, hposition ▸ hnonneg, fun _ => ?_⟩, fun hexact => ?_⟩
      · rw [hposition]
        refine ⟨hle, (congrArg (rest 10) htake).trans ?_⟩
        rw [rest_append, hbefore]
        exact hrest
      · have hlines := hparses.trans (linesOf_whole hrest hplain)
        have hbegun : (t.step host (.changed w true)).anew = false := Bool.and_false t.anew
        unfold Exact expected
        rw [hposition, hbegun]
        calc t.parsed ++ t.manager.parses (.logFileChanged (some t.log))
            = t.expected ++ completeLines (unreadLog t.manager.mLogFilePosition (some t.log)) := by
              rw [hexact, hlines]
          _ = t.earlier ++
              completeLines (t.log.take (readPosition t.manager.mLogFilePosition t.log).toNat) := by
              rw [expected_eq h hanew, htake, completeLines_append hbefore, List.append_assoc]

/-- In every run whose reads end behind line breaks and notice that a log has begun anew,
the lines of the log are parsed once each, whole and in order. -/
theorem log_lines_exact {m : OpenvpnManager} (hm : m.Watches 0) (hprocessing : m.mProcessing = false)
    (log : QByteArray) (es : List LogEvent) (h : Meets (step host) ReadsWhole (initial m log) es) :
    Throughout (step host) Exact (initial m log) es := by
  have hp : m.mLogFilePosition = 0 := (Prod.mk.inj hm.1).2
  have hsettled : (initial m log).Settled := by
    unfold Settled initial
    dsimp only
    rw [hp]
    exact ⟨hm, hprocessing, le_refl 0, fun _ => ⟨Int.natCast_nonneg _, rfl⟩⟩
  have hexact : (initial m log).Exact := by
    rw [Exact, expected, initial, hp]
    rfl
  exact (throughout_of_meets (P := fun t => t.Settled ∧ t.Exact)
    (fun t e hC ht => ⟨(step_settled hC ht.1).1, (step_settled hC ht.1).2 ht.2⟩)
    ⟨hsettled, hexact⟩ h).imp fun _ ht => ht.2

/-- A manager that has launched openvpn and begun to watch its log. -/
def launched : OpenvpnManager :=
  run (OpenvpnManager.step (.on .linux)) (OpenvpnManager.initial .zero)
    [⟨.quiet 0, .connectionOpened⟩,
      ⟨.quiet 0, .send 0 (startObject 7 "443" "celo.example/7.ovpn")⟩,
      ⟨.quiet 0, .templateFinished 0 []⟩]

/-- A new log is shorter than the position. -/
theorem log_lines_exact_restarted : Throughout (step (.on .linux)) Exact (initial launched [])
    [.line "OpenVPN 2.4.6", .line "Restart pause", .changed (.quiet 0) true, .truncate,
      .line "OpenVPN 2.4.6", .changed (.quiet 0) true] :=
  log_lines_exact (by decide +kernel) (by decide +kernel) [] _ (by decide +kernel)

/-- A line that is read before it is complete is parsed in two pieces. -/
theorem log_line_parsed_in_two_pieces : ¬ ∀ (host : Host) (m : OpenvpnManager),
    ReachableBy host m → m.Watches 0 → m.mProcessing = false → ∀ log es,
      Throughout (step host) Exact (initial m log) es := by
  intro h
  have hlast := (h (.on .linux) launched ⟨_, ⟨.zero, rfl⟩, _, rfl⟩ (by decide +kernel)
    (by decide +kernel) []
    [.append (QString.toLatin1 "Initialization Seq".toList), .changed (.quiet 0) true]).last
  exact absurd hlast (by decide +kernel)

end LogSession
end CeloVpn.Service
