import CeloVpn.Library.Utf8
import CeloVpn.Service.StateLines
import Mathlib.Algebra.Order.BigOperators.Group.List

/-!
# The lines of the management socket

`socketReadyRead` waits for a line break and then takes everything that has
arrived, the beginning of a line included. A line is processed in one piece only
where no delivery ends inside it.
-/
namespace CeloVpn.Service
open Runs Framing

/-- The lines of a text as they are passed to `parseSocketLine`. -/
def trimmedLines (s : QString) : List QString := (s.splitSkipEmpty '\n').map QString.trimmed

/-- What is left unread of a socket's bytes when an event is over. -/
def unread (buffer : QByteArray) : Option QByteArray → QByteArray
  | some bytes => if (buffer ++ bytes).contains 10 then [] else buffer ++ bytes
  | none => buffer

namespace OpenvpnManager
variable (host : Host) (m : OpenvpnManager)

/-- The strings an event passes to `parseSocketLine`. -/
def passes (e : Event) : List QString :=
  match e.callback.socketBytes, m.mSocket with
  | some bytes, some socket => socketLines (socket.buffer ++ bytes)
  | _, _ => []

/-- The strings a run passes to `parseSocketLine`. -/
def passed : OpenvpnManager → List Event → List QString
  | _, [] => []
  | m, e :: es => m.passes e ++ passed (m.step host e) es

/-- Each event of the run finds the socket in place, with all that the deliveries
so far have left unread. -/
def Attached : QByteArray → OpenvpnManager → List Event → Prop
  | _, _, [] => True
  | buffer, m, e :: es =>
    m.mSocket.map (·.buffer) = some buffer ∧
      Attached (unread buffer e.callback.socketBytes) (m.step host e) es

instance decidableAttached : ∀ buffer m es, Decidable (Attached host buffer m es)
  | _, _, [] => isTrue trivial
  | buffer, m, e :: es =>
    haveI := decidableAttached (unread buffer e.callback.socketBytes) (m.step host e) es
    inferInstanceAs (Decidable (m.mSocket.map (·.buffer) = some buffer ∧ _))

/-- What a delivery passes is what the manager goes through, line by line, once the
bytes are read. -/
theorem step_socketReadyRead {w : World} {bytes : QByteArray} {socket arrived : QTcpSocket}
    (hm : m.mSocket = some socket)
    (harrived : arrived = { socket with buffer := socket.buffer ++ bytes }) :
    m.step host ⟨w, .socketReadyRead bytes⟩ =
      (m.passes ⟨w, .socketReadyRead bytes⟩).foldl (fun m s => m.parseSocketLine host w s)
        (readSocket arrived { m with asked := 0, mSocket := some arrived }) := by
  simp only [step, deliver, passes, Callback.socketBytes, hm, harrived, socketReadyRead]

/-- A condition on the lines alone is one on what the event passes. -/
theorem linesMeet_iff_passes {D : QString → Prop} (e : Event) :
    LinesMeet host (fun _ => D) m e ↔ ∀ s ∈ m.passes e, D s := by
  unfold LinesMeet passes
  cases e.callback.socketBytes with
  | none => simp
  | some bytes =>
    cases m.mSocket with
    | none => simp
    | some socket => simp [meets_iff_forall]

end OpenvpnManager

open OpenvpnManager

/-- A socket's time with the manager: the lines openvpn writes to it, and a run
that delivers their bytes while the manager keeps it. -/
structure ManagementSession (host : Host) where
  lines : List QByteArray
  newline_notMem : ∀ l ∈ lines, 10 ∉ l
  start : OpenvpnManager
  events : List Event
  delivered : (events.filterMap (·.callback.socketBytes)).flatten = unlines 10 lines
  attached : Attached host [] start events

namespace ManagementSession
variable {host : Host} (s : ManagementSession host)

/-- The strings the session passes to `parseSocketLine`. -/
def passed : List QString := OpenvpnManager.passed host s.start s.events

/-- The lines that are not empty, as texts, trimmed. -/
def expected : List QString :=
  (s.lines.filter (· ≠ [])).map fun l => (QString.decodeUtf8 l).trimmed

/-- What is read at a time. -/
def reads : List QByteArray := (takes 10 [] (s.events.filterMap (·.callback.socketBytes))).1

/-- No read ends inside a line, and none begins with a byte order mark or holds a
null byte. -/
def Undivided : Prop := Whole 10 s.reads ∧ ∀ r ∈ s.reads, QString.Plain r

theorem socketLines_of_mem {buffer : QByteArray} (h : 10 ∈ buffer) :
    socketLines buffer = trimmedLines (QString.ofBytes buffer) := by
  rw [socketLines, if_pos (by simpa using h)]
  rfl

theorem socketLines_of_not_mem {buffer : QByteArray} (h : 10 ∉ buffer) : socketLines buffer = [] := by
  rw [socketLines, if_neg (by simpa using h)]

/-- Event by event, the waiting reader of the library at work. -/
theorem passed_of_attached {buffer : QByteArray} {m : OpenvpnManager} {es : List Event}
    (h : Attached host buffer m es) : OpenvpnManager.passed host m es =
      (takes 10 buffer (es.filterMap (·.callback.socketBytes))).1.flatMap
        fun r => trimmedLines (QString.ofBytes r) := by
  induction es generalizing buffer m with
  | nil => rfl
  | cons e es ih =>
    obtain ⟨hsocket, hlater⟩ := h
    obtain ⟨socket, hm, rfl⟩ := Option.map_eq_some_iff.mp hsocket
    rw [OpenvpnManager.passed, ih hlater, passes, hm]
    cases hbytes : e.callback.socketBytes with
    | none => simp [hbytes, unread]
    | some bytes =>
      simp only [List.filterMap_cons, hbytes]
      by_cases hc : 10 ∈ socket.buffer ++ bytes
      · rw [takes, if_pos hc, unread, if_pos (by simpa using hc), List.flatMap_cons]
        simp only [socketLines_of_mem hc]
      · rw [takes, if_neg hc, unread, if_neg (by simpa using hc)]
        simp only [socketLines_of_not_mem hc, List.nil_append]

theorem passed_eq : s.passed = s.reads.flatMap fun r => trimmedLines (QString.ofBytes r) :=
  passed_of_attached s.attached

theorem flatten_reads : s.reads.flatten = unlines 10 s.lines := by
  rw [← s.delivered]
  refine (takes_of_rest_nil 10 ?_).2
  rw [s.delivered, rest_unlines s.newline_notMem]

/-- What is expected are the lines of all that is read, taken as one text. -/
theorem expected_eq : s.expected = trimmedLines (QString.decodeUtf8 s.reads.flatten) := by
  rw [trimmedLines, QString.splitSkipEmpty_decodeUtf8, s.flatten_reads,
    pieces_unlines s.newline_notMem, List.map_map]
  rfl

/-- Splitting into lines and trimming them loses white space only. -/
theorem count_trimmedLines {c : Char} (hc : QString.isSpace c = false) (t : QString) :
    (trimmedLines t).flatten.count c = t.count c := by
  have htrim : ∀ u : QString, u.trimmed.count c = u.count c := QString.count_trimmed hc
  have hne : c ≠ '\n' := by
    rintro rfl
    exact absurd hc (by decide)
  rw [← QString.count_flatten_splitSkipEmpty hne t, trimmedLines]
  simp only [List.count_flatten, List.map_map, Function.comp_def, htrim]

/-- Where the strings passed are the lines expected, nothing of any read was lost. -/
theorem plain_of_passed (h : s.passed = s.expected) : ∀ r ∈ s.reads, QString.Plain r := by
  have hcount : ∀ c, QString.isSpace c = false →
      (s.reads.map fun r => (QString.ofBytes r).count c).sum =
        (QString.decodeUtf8 s.reads.flatten).count c := by
    intro c hc
    have htotal := congrArg (fun ts => ts.flatten.count c) h
    simp only [s.passed_eq, s.expected_eq, count_trimmedLines hc] at htotal
    rw [← htotal, List.flatMap_def, List.flatten_flatten, List.count_flatten]
    simp only [List.map_map, Function.comp_def, count_trimmedLines hc]
  have hnull : ∀ r ∈ s.reads, 0 ∉ r := by
    intro r hr hzero
    have hnone : (s.reads.map fun r => (QString.ofBytes r).count (Char.ofNat 0)).sum = 0 := by
      rw [List.sum_eq_zero_iff]
      simp only [List.mem_map, forall_exists_index, and_imp, forall_apply_eq_imp_iff₂]
      exact fun r _ => List.count_eq_zero.mpr (QString.null_notMem_ofBytes r)
    rw [hcount _ (by decide)] at hnone
    have hbytes := QString.count_decodeUtf8 (x := 0) (by decide) s.reads.flatten
    have hpos : 0 < s.reads.flatten.count 0 :=
      List.count_pos_iff.mpr (List.mem_flatten_of_mem hr hzero)
    have hchar : Char.ofNat (UInt8.toNat 0) = Char.ofNat 0 := rfl
    rw [hchar] at hbytes
    omega
  have hmarks := hcount (Char.ofNat 0xFEFF) (by decide)
  have hle := QString.count_decodeUtf8_flatten (c := Char.ofNat 0xFEFF) (by decide) s.reads
  rw [← hmarks] at hle
  intro r hr
  by_contra hplain
  have hlt : (s.reads.map fun r => (QString.ofBytes r).count (Char.ofNat 0xFEFF)).sum <
      (s.reads.map fun r => (QString.decodeUtf8 r).count (Char.ofNat 0xFEFF)).sum := by
    refine List.sum_lt_sum _ _ (fun t ht => ?_) ⟨r, hr, ?_⟩
    · have ht := QString.count_mark_ofBytes (hnull t ht)
      omega
    · have hr := QString.count_mark_ofBytes (hnull r hr)
      rw [if_neg hplain] at hr
      omega
  omega

/-- The strings passed to `parseSocketLine` are the lines openvpn wrote, each once
and in order, exactly when no read is cut inside a line or cut short. They are the ones
that the steps go through (`step_socketReadyRead`). -/
theorem passed_lines_iff : s.passed = s.expected ↔ s.Undivided := by
  have hpassed (hplain : ∀ r ∈ s.reads, QString.Plain r) : s.passed =
      (s.reads.flatMap (pieces 10)).map fun l => (QString.decodeUtf8 l).trimmed := by
    rw [s.passed_eq, List.map_flatMap]
    refine List.flatMap_congr fun r hr => ?_
    rw [QString.ofBytes_of_plain (hplain r hr), trimmedLines, QString.splitSkipEmpty_decodeUtf8,
      List.map_map]
    rfl
  have hexpected : s.expected =
      (pieces 10 s.reads.flatten).map fun l => (QString.decodeUtf8 l).trimmed := by
    rw [s.flatten_reads, pieces_unlines s.newline_notMem]
    rfl
  constructor
  · intro h
    have hplain := s.plain_of_passed h
    have hlength := congrArg List.length h
    rw [hpassed hplain, hexpected, List.length_map, List.length_map] at hlength
    exact ⟨whole_of_length hlength, hplain⟩
  · rintro ⟨hwhole, hplain⟩
    rw [hpassed hplain, hexpected, (flatMap_pieces_eq_iff _).mpr hwhole]

/-- A password query that arrives in two deliveries, the first one behind the line
before it. -/
def cut : ManagementSession (.on .linux) where
  lines := [QString.toLatin1 ">HOLD:Waiting".toList,
    QString.toLatin1 ">PASSWORD:Need 'Auth' username/password".toList]
  newline_notMem := by decide
  start := run (step (.on .linux)) (initial .zero)
    [⟨.quiet 0, .connectionOpened⟩,
      ⟨.quiet 0, .send 0 (startObject 7 "443" "celo.example/7.ovpn")⟩,
      ⟨.quiet 0, .templateFinished 0 []⟩]
  events := [⟨.busy 1000, .socketReadyRead (QString.toLatin1 ">HOLD:Waiting\n>PASSWORD:Ne".toList)⟩,
    ⟨.busy 2000, .socketReadyRead (QString.toLatin1 "ed 'Auth' username/password\n".toList)⟩]
  delivered := by decide
  attached := by decide +kernel

/-- A line that a delivery cuts is processed in two pieces. -/
theorem line_processed_in_two_pieces : ¬ ∀ (host : Host) (s : ManagementSession host),
    ReachableBy host s.start → s.passed = s.expected := by
  intro h
  have hcut := h (.on .linux) cut ⟨_, ⟨.zero, rfl⟩, _, rfl⟩
  exact absurd hcut (by decide +kernel)

end ManagementSession
end CeloVpn.Service
