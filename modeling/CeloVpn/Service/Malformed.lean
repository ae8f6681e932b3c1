import CeloVpn.Wire

/-!
# Lines that are no commands

`QVPNClientConnection::socket_readyRead` takes the number of a command from whatever it
could parse, by conversions that give zero where they fail. Zero is the number of
`cmdGetStatus`. What can be parsed of a line is left open.
-/
namespace CeloVpn

/-- What `QJsonDocument::fromJson` gives. No command looks into an array, nor into the arrays
and objects among the members of an object, which are not converted to anything. -/
inductive QJsonDocument
  | null
  | ofArray
  | ofObject (o : QJsonObject)

/-- `QJsonDocument::object`, empty for everything that is no object. -/
def QJsonDocument.object : QJsonDocument → QJsonObject
  | ofObject o => o
  | _ => []

namespace Service
open OpenvpnManager
variable (fromJson : QByteArray → QJsonDocument)

/-- The numbers of the commands. -/
def commands : List ℤ :=
  [cmdGetStatus, cmdStart, cmdStop, cmdKillRunningOpenvpn, cmdSetCredentials, cmdNetdown]

/-- The line is an object with a member `cmd` that is one of these whole numbers. -/
def HasNumber (P : ℤ → Prop) (line : QByteArray) : Prop :=
  ∃ o, fromJson line = .ofObject o ∧ ∃ n, P n ∧ o.value "cmd".toList = .ofInt n

/-- The line is an object that names a command. -/
def IsCommand : QByteArray → Prop := HasNumber fromJson (· ∈ commands)

/-- The line is an object that names a number of 32 bits. -/
def NamesNumber : QByteArray → Prop :=
  HasNumber fromJson fun n => -2147483648 ≤ n ∧ n ≤ 2147483647

/-- All that a line does is to be logged. -/
def DoesNothing (host : Host) (w : World) (client : ℕ) (m : OpenvpnManager) (line : QByteArray) :
    Prop :=
  ∃ log, m.command host w client line (fromJson line).object = { m with log := log }

theorem toInt_ofInt {n : ℤ} (h : -2147483648 ≤ n ∧ n ≤ 2147483647) :
    (QJsonValue.ofInt n).toInt = n :=
  if_pos ⟨Rat.den_intCast n, by simpa using h.1, by simpa using h.2⟩

theorem IsCommand.namesNumber {line : QByteArray} (h : IsCommand fromJson line) :
    NamesNumber fromJson line := by
  obtain ⟨o, hobject, n, hn, hcmd⟩ := h
  have hrange : ∀ n ∈ commands, -2147483648 ≤ n ∧ n ≤ 2147483647 := by decide
  exact ⟨o, hobject, n, hrange n hn, hcmd⟩

/-- Where no number can be read, the default is the number of `cmdGetStatus`. -/
theorem toInt_eq_cmdGetStatus {line : QByteArray} (h : ¬NamesNumber fromJson line) :
    ((fromJson line).object.value "cmd".toList).toInt = cmdGetStatus := by
  cases hread : fromJson line with
  | null => rfl
  | ofArray => rfl
  | ofObject o =>
    change (o.value "cmd".toList).toInt = cmdGetStatus
    cases hcmd : o.value "cmd".toList with
    | double x =>
      refine if_neg fun hwhole => h ⟨o, hread, x.num, hwhole.2, ?_⟩
      rw [hcmd, QJsonValue.ofInt, Rat.coe_int_num_of_den_eq_one hwhole.1]
    | _ => rfl

/-- A status request of an open connection is answered. -/
theorem getStatus_answers (host : Host) (w : World) {client : ℕ} {m : OpenvpnManager}
    (hopen : m.connections.any (·.id == client) = true) {line : QByteArray} {jObj : QJsonObject}
    (hcmd : (jObj.value "cmd".toList).toInt = cmdGetStatus) :
    (m.command host w client line jObj).connections ≠ m.connections := by
  obtain ⟨c, hc, hid⟩ := List.any_eq_true.mp hopen
  intro h
  unfold command at h
  dsimp only at h
  rw [hcmd, if_neg (by decide), if_pos rfl] at h
  have hkept := List.map_inj_left.mp (h.trans (List.map_id _).symm) c hc
  rw [if_pos (eq_of_beq hid)] at hkept
  have hsent := congrArg (fun c : QVPNClientConnection => c.sent.length) hkept
  simp [QVPNClientConnection.vpnStateChanged, QVPNClientConnection.vpnStatus,
    QVPNClientConnection.sendMessage] at hsent

/-- A number that names no command is logged and no more. -/
theorem unknown_doesNothing (host : Host) (w : World) (client : ℕ) (m : OpenvpnManager)
    {line : QByteArray} (h : ((fromJson line).object.value "cmd".toList).toInt ∉ commands) :
    DoesNothing fromJson host w client m line := by
  simp only [commands, List.mem_cons, List.not_mem_nil, or_false, not_or] at h
  obtain ⟨hstatus, hstart, hstop, hkill, hset, hdown⟩ := h
  unfold DoesNothing command
  dsimp only
  rw [if_neg hkill, if_neg hstatus, if_neg hset, if_neg hdown, if_neg hstart, if_neg hstop]
  exact ⟨_, rfl⟩

/-- A line that is no command does nothing, exactly when the line is an object that names
some whole number of 32 bits. -/
theorem malformed_inert_iff (host : Host) (w : World) (client : ℕ) (m : OpenvpnManager)
    (line : QByteArray) (hopen : m.connections.any (·.id == client) = true) :
    (¬IsCommand fromJson line → DoesNothing fromJson host w client m line) ↔
      NamesNumber fromJson line := by
  constructor
  · intro h
    by_contra hnumber
    obtain ⟨log, hlog⟩ := h fun hcommand => hnumber (hcommand.namesNumber fromJson)
    have hkept := congrArg OpenvpnManager.connections hlog
    exact getStatus_answers host w hopen (toInt_eq_cmdGetStatus fromJson hnumber) hkept
  · intro hnumber hmalformed
    obtain ⟨o, hobject, n, hrange, hcmd⟩ := hnumber
    refine unknown_doesNothing fromJson host w client m fun hmem => hmalformed ?_
    rw [hobject, QJsonDocument.object, hcmd, toInt_ofInt hrange] at hmem
    exact ⟨o, hobject, n, hmem, hcmd⟩

/-- A reader of documents whose numbers are whole. -/
def readWhole (line : QByteArray) : QJsonDocument :=
  match Wire.fromJson Json.decimal line with
  | some (.object ms) => .ofObject (.ofMembers ms)
  | some _ => .ofArray
  | none => .null

/-- An object with a number that no command has. -/
def unknownCommand : JsonObject ℤ where
  members := [("cmd".toList, .number 6)]
  normal := rfl

theorem readWhole_unknownCommand :
    readWhole (Wire.line Json.decimal unknownCommand.members) =
      .ofObject [("cmd".toList, .ofInt 6)] := by
  have hread : Wire.fromJson Json.decimal (Wire.line Json.decimal unknownCommand.members) =
      some (.object unknownCommand.members) := by
    have hstrings : Json.strings (.object unknownCommand.members) = ["cmd".toList] := rfl
    refine (Json.arrives_iff Channel.latin1 Json.decimal unknownCommand.normal).mpr ⟨?_, ?_⟩
    · rw [hstrings, List.forall_mem_singleton]
      exact List.all_eq_true.mp (by decide)
    · exact show 1 ≤ 1024 by decide
  rw [readWhole, hread]
  rfl

/-- A number that no command has does nothing. -/
theorem malformed_inert_unknown :
    ¬IsCommand readWhole (Wire.line Json.decimal unknownCommand.members) ∧
      DoesNothing readWhole (.on .linux) (.quiet 0) 0 (openConnection (.initial .zero))
        (Wire.line Json.decimal unknownCommand.members) := by
  have hunknown : ¬IsCommand readWhole (Wire.line Json.decimal unknownCommand.members) := by
    rintro ⟨o, hobject, n, hn, hcmd⟩
    obtain rfl := QJsonDocument.ofObject.inj (readWhole_unknownCommand.symm.trans hobject)
    have hnumber : (6 : ℚ) = n := QJsonValue.double.inj hcmd
    have hsix : n = 6 := by exact_mod_cast hnumber.symm
    rw [hsix] at hn
    exact absurd hn (by decide)
  have hinert := (malformed_inert_iff readWhole (.on .linux) (.quiet 0) 0
    (openConnection (.initial .zero)) _ (by decide)).mpr ⟨_, readWhole_unknownCommand, 6,
      by decide, rfl⟩
  exact ⟨hunknown, hinert hunknown⟩

/-- An empty line is answered with a status. -/
theorem malformed_answered : ¬ ∀ (host : Host) (w : World) (client : ℕ) (m : OpenvpnManager)
    (line : QByteArray), m.connections.any (·.id == client) = true →
      ¬IsCommand readWhole line → DoesNothing readWhole host w client m line := by
  intro h
  have hread : readWhole [] = .null := by
    have htext : QString.utf8? [] = some [] := by decide
    rw [readWhole, Wire.fromJson, htext, Option.bind_some]
    rfl
  have hmalformed : ¬IsCommand readWhole [] := by
    rintro ⟨o, hobject, -⟩
    rw [hread] at hobject
    cases hobject
  obtain ⟨log, hlog⟩ := h (.on .linux) (.quiet 0) 0 (openConnection (.initial .zero)) []
    (by decide) hmalformed
  have hkept := congrArg OpenvpnManager.connections hlog
  exact getStatus_answers (.on .linux) (.quiet 0) (by decide) (by rw [hread]; rfl) hkept

end Service
end CeloVpn
