import CeloVpn.Library.Framing
import CeloVpn.Service.Events

/-!
# The commands of a client

`QVPNClientConnection::socket_readyRead`: what arrives is appended to
`mReceiveBuffer`, and every line of it is parsed and executed. How the bytes were
cut into deliveries decides nothing.
-/
namespace CeloVpn.Service
open Framing

/-- What a connection has received and not parsed, and the manager its commands
are executed on. `parsed` collects the byte strings handed to the parser. -/
structure Receiving where
  mReceiveBuffer : QByteArray
  manager : OpenvpnManager
  parsed : List QByteArray

namespace Receiving
variable (host : Host) (fromJson : QByteArray → QJsonObject) (client : ℕ) (w : World)

/-- One turn of the loop: take the first line, remove it with its line break and
execute what it parses to. -/
def turn (r : Receiving) : Receiving :=
  let command := (r.mReceiveBuffer.splitOn 10).headD []
  { mReceiveBuffer := r.mReceiveBuffer.drop (command.length + 1)
    manager := r.manager.command host w client command (fromJson command)
    parsed := r.parsed ++ [command] }

/-- Every turn shortens the buffer, so the loop ends. -/
theorem length_turn_lt {r : Receiving} (h : r.mReceiveBuffer.contains 10 = true) :
    (r.turn host fromJson client w).mReceiveBuffer.length < r.mReceiveBuffer.length := by
  have hpos : 0 < r.mReceiveBuffer.length := by
    apply List.length_pos_of_mem (a := 10)
    simpa using h
  simp only [turn, List.length_drop]
  omega

/-- `while (mReceiveBuffer.contains('\n'))`. -/
def readCommands (r : Receiving) : Receiving :=
  if _h : r.mReceiveBuffer.contains 10 = true then readCommands (r.turn host fromJson client w)
  else r
termination_by r.mReceiveBuffer.length
decreasing_by exact length_turn_lt host fromJson client w _h

def socketReadyRead (bytesRead : QByteArray) (r : Receiving) : Receiving :=
  readCommands host fromJson client w
    { r with
      manager := r.manager.serviceLog "socket_readyRead".toList
      mReceiveBuffer := r.mReceiveBuffer ++ bytesRead }

/-- A connection that has received nothing. -/
def fresh (m : OpenvpnManager) : Receiving := ⟨[], m, []⟩

/-- One delivery, with the answers the commands in it find. -/
def deliver (r : Receiving) (d : World × QByteArray) : Receiving :=
  r.socketReadyRead host fromJson client d.1 d.2

/-- The loop is a number of turns, after which no line is left. -/
theorem exists_turns (r : Receiving) : ∃ n,
    r.readCommands host fromJson client w = (turn host fromJson client w)^[n] r ∧
      ((turn host fromJson client w)^[n] r).mReceiveBuffer.contains 10 = false := by
  induction r using readCommands.induct host fromJson client w with
  | case1 r h ih =>
    obtain ⟨n, hturns, hover⟩ := ih
    refine ⟨n + 1, ?_, hover⟩
    rw [readCommands, dif_pos h]
    exact hturns
  | case2 r h =>
    refine ⟨0, ?_, Bool.eq_false_of_not_eq_true h⟩
    rw [readCommands, dif_neg h]
    rfl

/-- A turn takes the first line. -/
theorem turn_line {r : Receiving} {l s : QByteArray} (hl : 10 ∉ l)
    (hbuffer : r.mReceiveBuffer = l ++ 10 :: s) : r.turn host fromJson client w =
      ⟨s, r.manager.command host w client l (fromJson l), r.parsed ++ [l]⟩ := by
  have hfirst : (r.mReceiveBuffer.splitOn 10).headD [] = l := by
    rw [hbuffer, List.splitOn_append_cons_self_of_not_mem hl, List.headD_cons]
  have hdrop : (l ++ 10 :: s).drop (l.length + 1) = s := by
    simp [List.drop_append]
  rw [turn, hfirst, hbuffer, hdrop]

/-- The loop executes the lines of the buffer in order and keeps what follows them. -/
theorem readCommands_eq (s : QByteArray) (r : Receiving) (hs : r.mReceiveBuffer = s) :
    r.readCommands host fromJson client w =
      { mReceiveBuffer := rest 10 s
        manager := (lines 10 s).foldl
          (fun m l => m.command host w client l (fromJson l)) r.manager
        parsed := r.parsed ++ lines 10 s } := by
  induction s using line_induction (c := (10 : UInt8)) generalizing r with
  | hrest s h =>
    have hnone : ¬r.mReceiveBuffer.contains 10 = true := by simpa [hs] using h
    rw [readCommands, dif_neg hnone, rest_of_not_mem h, lines_of_not_mem h, ← hs]
    simp
  | hline l s hl ih =>
    have hline : r.mReceiveBuffer.contains 10 = true := by simp [hs]
    rw [readCommands, dif_pos hline, ih _ (by rw [turn_line host fromJson client w hl hs]),
      turn_line host fromJson client w hl hs, rest_line hl, lines_line hl]
    simp

/-- A delivery after a reading that kept what followed the last line. -/
theorem deliver_spec (r : Receiving) (d : World × QByteArray) :
    (r.deliver host fromJson client d).parsed =
        r.parsed ++ lines 10 (r.mReceiveBuffer ++ d.2) ∧
      (r.deliver host fromJson client d).mReceiveBuffer = rest 10 (r.mReceiveBuffer ++ d.2) := by
  rw [deliver, socketReadyRead, readCommands_eq host fromJson client d.1 _ _ rfl]
  exact ⟨rfl, rfl⟩

/-- Delivery after delivery, the reader of the library at work. -/
theorem run_deliver (r : Receiving) (ds : List (World × QByteArray)) :
    (Runs.run (deliver host fromJson client) r ds).parsed =
        r.parsed ++ (receive 10 r.mReceiveBuffer (ds.map (·.2))).1 ∧
      (Runs.run (deliver host fromJson client) r ds).mReceiveBuffer =
        (receive 10 r.mReceiveBuffer (ds.map (·.2))).2 := by
  induction ds generalizing r with
  | nil => simp [Runs.run, receive]
  | cons d ds ih =>
    obtain ⟨hparsed, hbuffer⟩ := deliver_spec host fromJson client r d
    obtain ⟨hparsed', hbuffer'⟩ := ih (r.deliver host fromJson client d)
    rw [hparsed, hbuffer] at hparsed'
    rw [hbuffer] at hbuffer'
    rw [List.map_cons, receive]
    exact ⟨hparsed'.trans (List.append_assoc _ _ _), hbuffer'⟩

/-- Every delivery is over after a number of turns; and however the bytes of a
client are cut into deliveries, the lines of the whole stream are parsed, each once
and in order, and what follows the last line break is kept. -/
theorem commands_framed (m : OpenvpnManager) (ds : List (World × QByteArray)) :
    (∀ w (r : Receiving), ∃ n, r.readCommands host fromJson client w =
        (turn host fromJson client w)^[n] r ∧
      ((turn host fromJson client w)^[n] r).mReceiveBuffer.contains 10 = false) ∧
    (Runs.run (deliver host fromJson client) (fresh m) ds).parsed =
        lines 10 (ds.map (·.2)).flatten ∧
      (Runs.run (deliver host fromJson client) (fresh m) ds).mReceiveBuffer =
        rest 10 (ds.map (·.2)).flatten := by
  obtain ⟨hparsed, hbuffer⟩ := run_deliver host fromJson client (fresh m) ds
  refine ⟨fun w r => exists_turns host fromJson client w r, ?_⟩
  rw [hparsed, hbuffer]
  change [] ++ (receive 10 [] (ds.map (·.2))).1 = _ ∧ (receive 10 [] (ds.map (·.2))).2 = _
  rw [receive_eq 10 List.not_mem_nil]
  exact ⟨rfl, rfl⟩

end Receiving
end CeloVpn.Service
