import CeloVpn.Service.LogLines

/-!
# TUN errors

`gotTunErr` sets the two flags that are to keep it from a second reconnect and then
calls `startConnecting`, which clears both. So every report of a TUN error begins a
reconnect unless it follows another fatal error of the same attempt.
-/
namespace CeloVpn.Service
open Runs

/-- The manager, with the reconnects begun by `gotTunErr` since the last `start()` and
the TUN errors reported since then while `mError` was clear. -/
structure TunSession where
  manager : OpenvpnManager
  reconnects : ℕ
  reports : ℕ

/-- Nothing is requested. -/
def Allowed.noRequest : Allowed := { Allowed.any with connect := fun _ _ => False }

theorem Control.nextRequest_setState (st : VpnState) (now : ℤ) (c : Control) :
    (c.setState st now).nextRequest = c.nextRequest := by
  unfold Control.setState
  split_ifs <;> rfl

theorem nextRequest_of_moves {c c' : Control} (h : Moves .noRequest c c') :
    c'.nextRequest = c.nextRequest := by
  refine h.invariant (P := fun c' => c'.nextRequest = c.nextRequest) (fun c₁ c₂ hm h₁ => ?_) rfl
  refine Eq.trans ?_ h₁
  cases hm with
  | leave st now _ => exact Control.nextRequest_setState st now c₁
  | promote now _ => exact Control.nextRequest_setState .connecting now c₁
  | connect now r h => exact absurd h id
  | exiting now => exact Control.nextRequest_setState .connecting now c₁.arm
  | _ => rfl

namespace OpenvpnManager
variable (host : Host) (w : World)

/-- A line of the log that comes to `gotTunErr`. -/
def logReportsTun (s : QString) : Bool :=
  !s.containsFolded "MANAGEMENT: CMD 'state'".toList &&
    !s.containsFolded "TCPv4_CLIENT link remote:".toList &&
    !s.containsFolded "Initialization Sequence Completed:".toList &&
    s.containsFolded "Opening utun (connect(AF_SYS_CONTROL)): Operation not permitted".toList

/-- The reconnects an event's lines begin: every request is one of `gotTunErr` but for
the retries after failed binds. -/
def tunReconnects (m : OpenvpnManager) (e : Event) : ℕ :=
  match e.callback with
  | .logFileChanged _ => (m.step host e).nextRequest - m.nextRequest -
      ((m.parses e.callback).filter bindFails).length
  | .socketReadyRead _ => (m.step host e).nextRequest - m.nextRequest
  | _ => 0

/-- The TUN errors an event's lines report while `mError` is clear; the log is read only
while it is. -/
def tunReports (m : OpenvpnManager) (e : Event) : ℕ :=
  match e.callback, m.mSocket with
  | .logFileChanged _, _ => ((m.parses e.callback).filter logReportsTun).length
  | .socketReadyRead bytes, some socket =>
    countAlong (fun m s => parseSocketLine host e.world s m)
      (fun m s => socketReportsTun s && !m.mError)
      (readSocket { socket with buffer := socket.buffer ++ bytes }
        { m with asked := 0, mSocket := some { socket with buffer := socket.buffer ++ bytes } })
      (socketLines (socket.buffer ++ bytes))
  | _, _ => 0

section Line
variable {m : OpenvpnManager}

theorem startConnecting_nextRequest : (m.startConnecting host w).nextRequest = m.nextRequest + 1 := by
  obtain ⟨r, -, hcontrol⟩ := control_startConnecting host w m
  refine (congrArg Control.nextRequest hcontrol).trans ?_
  exact congrArg (· + 1) (Control.nextRequest_setState .connecting _ m.control)

/-- Unless another error is flagged, a TUN error begins a reconnect. -/
theorem gotTunErr_nextRequest (h : m.mTunError = false) :
    (m.gotTunErr host w).nextRequest = m.nextRequest + if !m.mError then 1 else 0 := by
  unfold gotTunErr
  cases m.mError with
  | true => simp
  | false =>
    simp only [h]
    exact startConnecting_nextRequest host w

/-- Neither flag is set. -/
def Clear (m : OpenvpnManager) : Prop := m.mTunError = false ∧ m.mError = false

theorem Clear.startConnecting : (m.startConnecting host w).Clear := ⟨rfl, rfl⟩

theorem Clear.gotConnected (s : QString) (h : m.Clear) : (m.gotConnected w s).Clear := by
  have hset : ∀ m' : OpenvpnManager, m'.Clear → (m'.setState w .connected).Clear := by
    intro m' h'
    unfold setState
    split_ifs <;> exact h'
  unfold OpenvpnManager.gotConnected
  dsimp only
  split_ifs <;> exact hset _ h

/-- The part of a line of the log that may report a TUN error. -/
theorem parseLogNotice_spec {s : QString} (h : m.Clear)
    (hs : s.containsFolded "MANAGEMENT: CMD 'state'".toList = false) :
    (m.parseLogNotice host w s).Clear ∧ (m.parseLogNotice host w s).nextRequest =
      m.nextRequest + if logReportsTun s then 1 else 0 := by
  have hnone : ∀ m' : OpenvpnManager, m'.Clear → m'.nextRequest = m.nextRequest →
      logReportsTun s = false → m'.Clear ∧
        m'.nextRequest = m.nextRequest + if logReportsTun s then 1 else 0 := by
    intro m' h' hsame hno
    rw [hno, if_neg Bool.false_ne_true]
    exact ⟨h', hsame⟩
  unfold parseLogNotice
  cases hip : s.containsFolded "TCPv4_CLIENT link remote:".toList with
  | true =>
    have hkept : (m.parseNewIp s).Clear ∧ (m.parseNewIp s).nextRequest = m.nextRequest := by
      unfold parseNewIp
      dsimp only
      split_ifs <;> exact ⟨h, rfl⟩
    rw [if_pos rfl]
    refine hnone _ hkept.1 hkept.2 ?_
    rw [logReportsTun, hip, Bool.not_true, Bool.and_false, Bool.false_and, Bool.false_and]
  | false =>
    rw [if_neg Bool.false_ne_true]
    cases hconnected : s.containsFolded "Initialization Sequence Completed:".toList with
    | true =>
      rw [if_pos rfl]
      refine hnone _ (h.gotConnected w s) (nextRequest_of_moves (moves_gotConnected w m s)) ?_
      rw [logReportsTun, hconnected, Bool.not_true, Bool.and_false, Bool.false_and]
    | false =>
      rw [if_neg Bool.false_ne_true]
      have hreports : logReportsTun s = s.containsFolded
          "Opening utun (connect(AF_SYS_CONTROL)): Operation not permitted".toList := by
        rw [logReportsTun, hs, hip, hconnected, Bool.not_false, Bool.true_and, Bool.true_and,
          Bool.true_and]
      rw [← hreports]
      cases htun : logReportsTun s with
      | true =>
        rw [if_pos rfl, gotTunErr_nextRequest host w h.1, h.2]
        refine ⟨?_, rfl⟩
        unfold gotTunErr
        split_ifs
        · exact Clear.startConnecting host w
        · exact h
      | false => exact ⟨h, rfl⟩

/-- A line of the log makes a request for a failed bind and one for a TUN error. -/
theorem parseOpenvpnLogLine_spec (s : QString) (h : m.Clear) :
    (m.parseOpenvpnLogLine host w s).Clear ∧ (m.parseOpenvpnLogLine host w s).nextRequest =
      m.nextRequest + (if bindFails s then 1 else 0) + if logReportsTun s then 1 else 0 := by
  unfold parseOpenvpnLogLine
  cases hskip : s.containsFolded "MANAGEMENT: CMD 'state'".toList with
  | true =>
    rw [bindFails, logReportsTun, hskip, Bool.not_true, Bool.false_and, Bool.false_and,
      Bool.false_and, Bool.false_and]
    exact ⟨h, rfl⟩
  | false =>
    rw [if_neg Bool.false_ne_true]
    dsimp only
    cases hbind : QString.contains s "Socket bind failed on local address".toList with
    | true =>
      have hretry : ∀ m' : OpenvpnManager, (m'.bindFailed host w).Clear ∧
          (m'.bindFailed host w).nextRequest = m'.nextRequest + 1 := fun m' =>
        ⟨Clear.startConnecting host w, startConnecting_nextRequest host w⟩
      obtain ⟨hclear, hnext⟩ := parseLogNotice_spec host w (hretry _).1 hskip
      have hfails : bindFails s = true := by
        rw [bindFails, hskip, hbind]
        rfl
      refine ⟨hclear, hnext.trans ?_⟩
      rw [(hretry _).2, hfails]
      rfl
    | false =>
      have hbinds : bindFails s = false := by rw [bindFails, hbind, Bool.and_false]
      rw [hbinds]
      exact parseLogNotice_spec host w (m := m.serviceLog _) h hskip

theorem foldl_parseOpenvpnLogLine (lines : List QString) (h : m.Clear) :
    (lines.foldl (fun m s => m.parseOpenvpnLogLine host w s) m).nextRequest = m.nextRequest +
      (lines.filter bindFails).length + (lines.filter logReportsTun).length := by
  induction lines generalizing m with
  | nil => rfl
  | cons s lines ih =>
    obtain ⟨hclear, hnext⟩ := parseOpenvpnLogLine_spec host w s h
    have hcount : ∀ P : QString → Bool, ((s :: lines).filter P).length =
        (if P s then 1 else 0) + (lines.filter P).length := by
      intro P
      rw [List.filter_cons]
      split_ifs
      · rw [List.length_cons, Nat.add_comm]
      · rw [Nat.zero_add]
    rw [List.foldl_cons, ih hclear, hnext, hcount, hcount]
    omega

/-- A line that reports a TUN error comes to `gotTunErr`. -/
theorem parseSocketLine_of_reports {s : QString} (h : socketReportsTun s = true) :
    ∃ m' : OpenvpnManager, m.parseSocketLine host w s = m'.gotTunErr host w ∧
      m'.mTunError = m.mTunError ∧ m'.mError = m.mError ∧ m'.nextRequest = m.nextRequest := by
  simp only [socketReportsTun, Bool.and_eq_true, beq_iff_eq, decide_eq_true_eq] at h
  obtain ⟨⟨⟨hhead, hcolon⟩, hfatal⟩, htun⟩ := h
  have hother : ∀ known : QString, QString.equalsFolded "FATAL".toList known = false →
      (s.mid 1 (s.indexOf ':' 0 - 1)).equalsFolded known = false := by
    intro known hknown
    rw [QString.equalsFolded_congr hfatal, hknown]
  refine ⟨(m.serviceLog ("ProcessRtWord(): '".toList ++ s ++ "'".toList)).serviceLog
    ("processing RT word '".toList ++ s.mid 1 (s.indexOf ':' 0 - 1) ++ "'".toList), ?_, rfl, rfl, rfl⟩
  unfold parseSocketLine parseSocketQueryWord
  rw [if_pos hhead]
  dsimp only
  rw [if_pos hcolon, hother "INFO".toList (by decide), if_neg Bool.false_ne_true,
    hother "HOLD".toList (by decide), if_neg Bool.false_ne_true,
    hother "PASSWORD".toList (by decide), if_neg Bool.false_ne_true,
    hother "SUCCES".toList (by decide), if_neg Bool.false_ne_true, if_pos hfatal]
  exact if_pos htun

/-- A line of the management socket makes a request for a TUN error only. -/
theorem parseSocketLine_nextRequest (s : QString) (h : m.mTunError = false) :
    (m.parseSocketLine host w s).nextRequest =
      m.nextRequest + if socketReportsTun s && !m.mError then 1 else 0 := by
  cases hs : socketReportsTun s with
  | true =>
    obtain ⟨m', hline, htun, herror, hnext⟩ := parseSocketLine_of_reports host w (m := m) hs
    rw [hline, gotTunErr_nextRequest host w (htun.trans h), herror, hnext]
    rfl
  | false =>
    have hother : socketReportsTun s = true → Connects host .noRequest := by
      intro htrue
      exact absurd (hs.symm.trans htrue) Bool.false_ne_true
    exact nextRequest_of_moves (moves_parseSocketLine host w m s hother fun _ _ _ => trivial)

theorem parseSocketLine_mTunError (s : QString) (h : m.mTunError = false) :
    (m.parseSocketLine host w s).mTunError = false := by
  refine Bool.eq_false_of_not_eq_true fun htrue => ?_
  have hkept := ((Keeps.refl m).parseSocketLine host w s).2.2.1 htrue
  exact absurd (h.symm.trans hkept) Bool.false_ne_true

end Line

/-- Reading the log makes a request for each failed bind and for each TUN error. -/
theorem logFileChanged_nextRequest {m : OpenvpnManager} (w : World) (content : Option QByteArray)
    (h : m.mTunError = false) : (m.step host ⟨w, .logFileChanged content⟩).nextRequest =
      m.nextRequest + ((m.parses (.logFileChanged content)).filter bindFails).length +
        m.tunReports host ⟨w, .logFileChanged content⟩ := by
  have hasked : logLines content { m with asked := 0 } = m.logLines content := rfl
  unfold step deliver tunReports parses
  dsimp only
  by_cases hwatched : m.mFileSystemWatcher = true
  · rw [if_pos hwatched, if_pos hwatched, openvpnLogfileChanged_eq, hasked]
    by_cases hskip : (m.mProcessing || m.mError) = true
    · rw [if_pos hskip, logLines, if_pos hskip]
      rfl
    · rw [if_neg hskip]
      have herror : m.mError = false := by
        refine Bool.eq_false_of_not_eq_true fun herror => hskip ?_
        rw [herror, Bool.or_true]
      exact foldl_parseOpenvpnLogLine host w _ ⟨h, herror⟩
  · rw [if_neg hwatched, if_neg hwatched]
    rfl

theorem readSocket_tun (m : OpenvpnManager) (socket : QTcpSocket) :
    (m.readSocket socket).nextRequest = m.nextRequest ∧
      (m.readSocket socket).mTunError = m.mTunError := by
  unfold readSocket
  dsimp only
  split_ifs <;> exact ⟨rfl, rfl⟩

theorem socketReadyRead_reports {m : OpenvpnManager} (w : World) (socket : QTcpSocket)
    (h : m.mTunError = false) : (m.socketReadyRead host w socket).nextRequest = m.nextRequest +
      countAlong (fun m s => parseSocketLine host w s m)
        (fun m s => socketReportsTun s && !m.mError) (m.readSocket socket)
        (socketLines socket.buffer) := by
  have hread := readSocket_tun m socket
  rw [← hread.1]
  exact run_countAlong (I := fun m => m.mTunError = false) (f := OpenvpnManager.nextRequest)
    (fun m s hm => parseSocketLine_mTunError host w s hm)
    (fun m s hm => parseSocketLine_nextRequest host w s hm) (hread.2.trans h) _

/-- Reading the management socket makes one for each TUN error. -/
theorem socketReadyRead_nextRequest {m : OpenvpnManager} (w : World) (bytes : QByteArray)
    (h : m.mTunError = false) : (m.step host ⟨w, .socketReadyRead bytes⟩).nextRequest =
      m.nextRequest + m.tunReports host ⟨w, .socketReadyRead bytes⟩ := by
  unfold step deliver tunReports
  cases hsocket : m.mSocket with
  | none => exact (Nat.add_zero _).symm
  | some socket => exact socketReadyRead_reports host w _ h

/-- Every TUN error that an event reports begins a reconnect. -/
theorem tunReconnects_eq {m : OpenvpnManager} (e : Event) (h : m.mTunError = false) :
    m.tunReconnects host e = m.tunReports host e := by
  obtain ⟨w, callback⟩ := e
  cases callback with
  | logFileChanged content =>
    rw [tunReconnects]
    dsimp only
    rw [logFileChanged_nextRequest host w content h, Nat.add_assoc, Nat.add_sub_cancel_left,
      Nat.add_sub_cancel_left]
  | socketReadyRead bytes =>
    rw [tunReconnects]
    dsimp only
    rw [socketReadyRead_nextRequest host w bytes h, Nat.add_sub_cancel_left]
  | _ => rfl

end OpenvpnManager

namespace TunSession
variable (host : Host)

/-- Nothing is counted before the first start, and each start counts anew. -/
def step (t : TunSession) (e : Event) : TunSession :=
  if (t.manager.startCall e.callback).isSome || t.manager.starts == 0 then
    ⟨t.manager.step host e, 0, 0⟩
  else
    ⟨t.manager.step host e, t.reconnects + t.manager.tunReconnects host e,
      t.reports + t.manager.tunReports host e⟩

def initial (u : Indeterminate) : TunSession := ⟨.initial u, 0, 0⟩

/-- `mTunError` is clear once `start()` was called, so that each report is a reconnect. -/
def Counted (t : TunSession) : Prop :=
  (0 < t.manager.starts → t.manager.mTunError = false) ∧ t.reconnects = t.reports

theorem Counted.step {t : TunSession} (e : Event) (h : t.Counted) : (t.step host e).Counted := by
  obtain ⟨htun, hcount⟩ := h
  unfold TunSession.step
  cases hcall : t.manager.startCall e.callback with
  | some a => exact ⟨fun _ => t.manager.mTunError_of_start host hcall, rfl⟩
  | none =>
    have hstarts := (t.manager.settings_of_no_start host hcall).2
    cases hnone : t.manager.starts == 0 with
    | true =>
      refine ⟨fun hpos => ?_, rfl⟩
      have hzero := hstarts.trans (beq_iff_eq.mp hnone)
      exact absurd hpos (hzero ▸ Nat.lt_irrefl 0)
    | false =>
      have hclear := htun (Nat.pos_of_ne_zero (beq_eq_false_iff_ne.mp hnone))
      refine ⟨fun _ => t.manager.step_mTunError host e hclear, ?_⟩
      exact congrArg₂ (· + ·) hcount (OpenvpnManager.tunReconnects_eq host e hclear)

/-- In every run, at most one reconnect follows a start exactly when at most one TUN
error is reported after it, errors after another fatal error apart. -/
theorem tun_reconnects_iff (u : Indeterminate) (es : List Event) :
    Throughout (step host) (fun t => t.reconnects ≤ 1) (initial u) es ↔
      Throughout (step host) (fun t => t.reports ≤ 1) (initial u) es := by
  refine throughout_congr (I := Counted) (fun t e h => h.step host e) (fun t h => ?_) 
    ⟨fun hpos => absurd hpos (Nat.lt_irrefl 0), rfl⟩
  rw [h.2]

/-- openvpn reports twice that it cannot allocate the device. -/
theorem tun_reconnects_twice : ¬ ∀ (host : Host) (u : Indeterminate) (es : List Event),
    Throughout (step host) (fun t => t.reconnects ≤ 1) (initial u) es := by
  intro h
  have hlast := (h (.on .linux) .zero
    [⟨.quiet 0, .connectionOpened⟩,
      ⟨.quiet 0, .send 0 (startObject 7 "443" "celo.example/7.ovpn")⟩,
      ⟨.quiet 0, .templateFinished 0 []⟩,
      ⟨.quiet 0, .line ">FATAL:Cannot allocate TUN/TAP dev dynamically"⟩,
      ⟨.quiet 0, .line ">FATAL:Cannot allocate TUN/TAP dev dynamically"⟩]).last
  exact absurd hlast (by decide +kernel)

end TunSession
end CeloVpn.Service
