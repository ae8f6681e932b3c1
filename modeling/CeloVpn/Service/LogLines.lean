import CeloVpn.Service.Settings

/-!
# The lines of the log file

What an event hands to `parseOpenvpnLogLine`, the manager that parses the first of
these lines, and what a start takes from a command.
-/
namespace CeloVpn.Service
open Runs

namespace OpenvpnManager
variable (host : Host) (m : OpenvpnManager)

/-- The arguments with which an event calls `start()`. -/
def startCall (m : OpenvpnManager) : Callback → Option Attempt
  | .command client _ jObj =>
    if m.connections.any (·.id == client) then
      if (jObj.value "cmd".toList).toInt = cmdStart then some (attemptOf jObj) else none
    else none
  | _ => none

/-- The strings an event passes to `parseOpenvpnLogLine`. -/
def parses (m : OpenvpnManager) : Callback → List QString
  | .logFileChanged content => if m.mFileSystemWatcher then m.logLines content else []
  | _ => []

/-- The manager once the log file is read and before the first line is parsed. -/
def logRead (m : OpenvpnManager) : Callback → OpenvpnManager
  | .logFileChanged content => ({ m with asked := 0, mProcessing := true }.readLog content).2
  | _ => m

/-- Where reading the log file stopped. -/
def readPosition (position : ℤ) : Option QByteArray → ℤ
  | none => position
  | some file =>
    if readFrom position file + 1 < file.length then file.length else readFrom position file

/-- Reading the log file moves the position and nothing else. -/
theorem readLog_snd (content : Option QByteArray) : (m.readLog content).2 =
    { m with mLogFilePosition := readPosition m.mLogFilePosition content } := by
  cases content with
  | none => rfl
  | some file =>
    unfold readLog readPosition readFrom
    dsimp only
    split_ifs <;> rfl

/-- `openvpnLogfileChanged` by the lines it parses. -/
theorem openvpnLogfileChanged_eq (w : World) (content : Option QByteArray) :
    m.openvpnLogfileChanged host w content =
      if m.mProcessing || m.mError then m
      else { (m.logLines content).foldl (fun m s => m.parseOpenvpnLogLine host w s)
        { m with
          mProcessing := true
          mLogFilePosition := readPosition m.mLogFilePosition content } with
        mProcessing := false } := by
  unfold openvpnLogfileChanged logLines
  by_cases hskip : (m.mProcessing || m.mError) = true
  · rw [if_pos hskip, if_pos hskip]
  · rw [if_neg hskip, if_neg hskip, if_neg hskip]
    dsimp only
    rw [readLog_fst, readLog_snd]
    rfl

/-- Before and after each of the event's lines of the log file `P` holds. -/
def LogLinesKeep (P : OpenvpnManager → Prop) (m : OpenvpnManager) (e : Event) : Prop :=
  Throughout (fun m s => parseOpenvpnLogLine host e.world s m) P (m.logRead e.callback)
    (m.parses e.callback)

theorem logRead_settings (callback : Callback) : (m.logRead callback).settings = m.settings := by
  cases callback with
  | logFileChanged content =>
    exact ((Keeps.refl { m with asked := 0, mProcessing := true }).readLog content).1
  | _ => rfl

/-- An event that calls `start()` is an open client's command. -/
theorem exists_of_startCall {callback : Callback} {a : Attempt} (h : m.startCall callback = some a) :
    ∃ client line jObj, callback = .command client line jObj ∧
      m.connections.any (·.id == client) = true ∧ (jObj.value "cmd".toList).toInt = cmdStart ∧
      attemptOf jObj = a := by
  cases callback with
  | command client line jObj =>
    simp only [startCall] at h
    split_ifs at h with hopen hstart
    exact ⟨client, line, jObj, rfl, hopen, hstart, Option.some.inj h⟩
  | _ => cases h

/-- A start takes its arguments. -/
theorem settings_of_start {e : Event} {a : Attempt} (h : m.startCall e.callback = some a) :
    (m.step host e).settings = (m.settings.netDown host e.world false).start a := by
  obtain ⟨w, callback⟩ := e
  obtain ⟨client, line, jObj, rfl, hopen, hstart, rfl⟩ := m.exists_of_startCall h
  rw [step_settings, settingsAfter]
  dsimp only
  rw [if_pos hopen, Settings.command, hstart, if_neg (by decide), if_neg (by decide), if_pos rfl]

/-- No other event changes the arguments but for the port, nor the number of starts. -/
theorem settings_of_no_start {e : Event} (h : m.startCall e.callback = none) :
    (m.step host e).settings.attempt =
        ((m.parses e.callback).foldl Settings.readLine m.settings).attempt ∧
      (m.step host e).starts = m.starts := by
  have hafter : (m.settingsAfter host e).attempt =
        ((m.parses e.callback).foldl Settings.readLine m.settings).attempt ∧
      (m.settingsAfter host e).starts = m.starts := by
    obtain ⟨w, callback⟩ := e
    cases callback with
    | command client line jObj =>
      simp only [startCall] at h
      simp only [settingsAfter, Settings.command, parses, List.foldl_nil]
      split_ifs at h ⊢
      · exact ⟨rfl, rfl⟩
      · exact ⟨rfl, rfl⟩
      · exact ⟨rfl, rfl⟩
      · exact ⟨rfl, rfl⟩
    | logFileChanged content =>
      simp only [settingsAfter, parses]
      split_ifs
      · obtain ⟨port, hport⟩ := Settings.foldl_readLine (m.logLines content) m.settings
        rw [hport]
        exact ⟨rfl, rfl⟩
      · exact ⟨rfl, rfl⟩
    | _ => exact ⟨rfl, rfl⟩
  rw [← step_settings] at hafter
  exact hafter

/-- A start clears `mTunError`. -/
theorem mTunError_of_start {e : Event} {a : Attempt} (h : m.startCall e.callback = some a) :
    (m.step host e).mTunError = false := by
  obtain ⟨w, callback⟩ := e
  obtain ⟨client, line, jObj, rfl, hopen, hstart, rfl⟩ := m.exists_of_startCall h
  have hcommand : m.step host ⟨w, .command client line jObj⟩ =
      (({ m with asked := 0 } : OpenvpnManager).serviceLog (commandRead line)).commandStart host w
        jObj := by
    rw [step, deliver, if_pos hopen, command, hstart]
    rfl
  have hclear : Keeps _ _ False _ _ :=
    ((Keeps.refl { m with asked := 0 }).serviceLog (commandRead line)).commandStart host w jObj
  rw [hcommand]
  exact Bool.eq_false_of_not_eq_true hclear.2.2.1

end OpenvpnManager
end CeloVpn.Service
