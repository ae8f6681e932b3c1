import CeloVpn.Library.Transmission
import CeloVpn.Service.Commands

/-!
# Objects on the local socket

Both programs write an object as the Latin-1 bytes of its compact text, and both parse
what they read as UTF-8. The client even reads a notification as UTF-8, makes Latin-1
of it again and parses that. An object goes through unchanged exactly when its strings
are ASCII and it is not nested more deeply than what is parsed may be.
-/
namespace CeloVpn
open Framing
open Json (NumberFormat)
open Service (Receiving Host World OpenvpnManager)

/-- A `QJsonObject` with arbitrary values: its members by ascending keys. -/
structure JsonObject (ν : Type*) where
  members : List (QString × Json ν)
  normal : (Json.object members).normalize = .object members

namespace JsonObject

/-- All keys and strings in the object are ASCII. -/
def IsAscii {ν : Type*} (o : JsonObject ν) : Prop :=
  ∀ s ∈ Json.strings (.object o.members), ∀ c ∈ s, QString.isAscii c = true

/-- Arrays and objects are nested no more deeply in it than `QJsonDocument::fromJson`
follows. -/
def IsShallow {ν : Type*} (o : JsonObject ν) : Prop :=
  Json.nesting (.object o.members) ≤ Json.nestingLimit

end JsonObject

-- The objects of the two programs, whose numbers are whole.

/-- A value as it is written. -/
def QJsonValue.toJson : QJsonValue → Json ℤ
  | .undefined => .null
  | .null => .null
  | .bool b => .bool b
  | .double x => .number x.num
  | .string s => .string s

/-- A value as it was read; arrays and objects, which neither program looks at, are
dropped. -/
def QJsonValue.ofJson : Json ℤ → QJsonValue
  | .null => .null
  | .bool b => .bool b
  | .number n => .ofInt n
  | .string s => .string s
  | .array _ => .null
  | .object _ => .null

def QJsonObject.toMembers (o : QJsonObject) : List (QString × Json ℤ) :=
  Json.collect (o.map fun m => (m.1, m.2.toJson))

def QJsonObject.ofMembers (ms : List (QString × Json ℤ)) : QJsonObject :=
  ms.map fun m => (m.1, .ofJson m.2)

/-- Nothing is nested in them. -/
theorem QJsonObject.isShallow (o : QJsonObject)
    (hnormal : (Json.object o.toMembers).normalize = .object o.toMembers) :
    (JsonObject.mk o.toMembers hnormal).IsShallow := by
  have hflat : Json.nestingMembers o.toMembers ≤ 0 := by
    refine Json.nestingMembers_le.mpr fun m hm => ?_
    obtain ⟨m', -, rfl⟩ := List.mem_map.mp (Json.mem_collect hm)
    cases m'.2 <;> exact le_rfl
  exact (Nat.succ_le_succ hflat).trans (show 1 ≤ 1024 by decide)

namespace Wire
variable {ν : Type*} (fmt : NumberFormat ν)

/-- What both programs write: `strJson.toLatin1()`, as many bytes as `strJson` has
UTF-16 units, and a line break. -/
def written (ms : List (QString × Json ν)) : QByteArray :=
  let strJson := QString.ofBytes (QString.encodeUtf8 (Json.render fmt (.object ms)))
  (QString.toLatin1 strJson).take (QString.utf16Length strJson) ++ [10]

/-- `VPNServiceManager::sendCommand`. -/
def sendCommand (ms : List (QString × Json ν)) : QByteArray := written fmt ms

/-- `QVPNClientConnection::sendMessage`. -/
def sendMessage (ms : List (QString × Json ν)) : QByteArray := written fmt ms

/-- `QJsonDocument::fromJson`, which is to be UTF-8. -/
def fromJson (bytes : QByteArray) : Option (Json ν) :=
  (QString.utf8? bytes).bind (Json.readDocument fmt)

/-- `QJsonDocument::object`, empty for everything that is no object. -/
def object : Option (Json ν) → List (QString × Json ν)
  | some (.object ms) => ms
  | _ => []

/-- The objects `VPNServiceManager::socket_readyRead` finds in a delivery. -/
def notifications (bytes : QByteArray) : List (List (QString × Json ν)) :=
  (QString.splitSkipEmpty (QString.ofBytes bytes) '\n').map fun notifyToken =>
    object (fromJson fmt (QString.toLatin1 notifyToken))

/-- What `socket_readyRead` finds in a piece of a delivery. -/
def found (bytes : QByteArray) : List (QString × Json ν) :=
  object (fromJson fmt (QString.toLatin1 (QString.decodeUtf8 bytes)))

/-- Nothing is found where no object with members can be read. -/
theorem found_eq_nil {bytes : QByteArray} (h : ∀ t ms,
    QString.utf8? (QString.toLatin1 (QString.garbled (QString.ofLatin1 bytes))) = some t →
      Json.readDocument fmt t = some (.object ms) → ms = []) : found fmt bytes = [] := by
  rw [QString.garbled, QString.toLatin1_ofLatin1] at h
  rw [found, fromJson]
  cases htext : QString.utf8? (QString.toLatin1 (QString.decodeUtf8 bytes)) with
  | none => rfl
  | some t =>
    rw [Option.bind_some]
    cases hread : Json.readDocument fmt t with
    | none => rfl
    | some v =>
      cases v with
      | object ms => exact h t ms htext hread
      | _ => rfl

theorem found_nil : found fmt [] = [] := by
  have hread : Json.readDocument fmt [] = none := rfl
  have hbytes : QString.utf8? (QString.toLatin1 (QString.decodeUtf8 [])) = some [] := by decide
  rw [found, fromJson, hbytes, Option.bind_some, hread]
  rfl

theorem notifications_of_plain {bytes : QByteArray} (h : QString.Plain bytes) :
    notifications fmt bytes = (pieces 10 bytes).map (found fmt) := by
  rw [notifications, QString.ofBytes_of_plain h, QString.splitSkipEmpty_decodeUtf8, List.map_map]
  rfl

/-- A byte order mark at the beginning of a delivery is skipped: the first piece is read
without it. -/
theorem notifications_of_mark {us : QByteArray} (h : 0 ∉ us) : ∃ l ps,
    pieces 10 (0xEF :: 0xBB :: 0xBF :: us) = (0xEF :: 0xBB :: 0xBF :: l) :: ps ∧
    (notifications fmt (0xEF :: 0xBB :: 0xBF :: us)).filter (· ≠ []) =
      ((l :: ps).map (found fmt)).filter (· ≠ []) := by
  have hread : notifications fmt (0xEF :: 0xBB :: 0xBF :: us) = (pieces 10 us).map (found fmt) := by
    rw [notifications, QString.ofBytes_of_mark h, QString.splitSkipEmpty_decodeUtf8, List.map_map]
    rfl
  have hmark : (10 : UInt8) ∉ [(0xEF : UInt8), 0xBB, 0xBF] := by decide
  have hnil : ∀ ls : List QByteArray, ((([] : QByteArray) :: ls).map (found fmt)).filter (· ≠ []) =
      (ls.map (found fmt)).filter (· ≠ []) := by
    intro ls
    rw [List.map_cons, found_nil, List.filter_cons_of_neg (by simp)]
  cases us with
  | nil => exact ⟨[], [], rfl, by rw [hread, hnil]; rfl⟩
  | cons b us =>
    by_cases hb : b = 10
    · subst hb
      have hempty : pieces 10 (10 :: us) = pieces 10 us := by
        simpa [pieces_nil] using pieces_append_sep (c := (10 : UInt8)) [] us
      refine ⟨[], pieces 10 us, ?_, by rw [hread, hnil, hempty]⟩
      exact (pieces_append_sep [0xEF, 0xBB, 0xBF] us).trans
        (by rw [pieces_of_not_mem hmark (by simp)]; rfl)
    · obtain ⟨l, ps, hpieces, hcontinued⟩ := pieces_continue (s := us) hmark hb
      exact ⟨l, ps, hcontinued, by rw [hread, hpieces]⟩

/-- The text of an object, in Latin-1. -/
def line (ms : List (QString × Json ν)) : QByteArray :=
  QString.toLatin1 (Json.render fmt (.object ms))

/-- The line of a command without its line break. -/
def command (o : QJsonObject) : QByteArray := line Json.decimal o.toMembers

/-- What the service obtains of a command. -/
def received (o : QJsonObject) : QJsonObject :=
  .ofMembers (object (fromJson Json.decimal (command o)))

/-- `strJson` of `sendCommand`. -/
def strJson (o : QJsonObject) : QString :=
  QString.ofBytes (QString.encodeUtf8 (Json.render Json.decimal (.object o.toMembers)))

theorem render_object_cons (ms : List (QString × Json ν)) :
    ∃ s, Json.render fmt (.object ms) = '{' :: s := ⟨_, rfl⟩

theorem ofBytes_render (ms : List (QString × Json ν)) :
    QString.ofBytes (QString.encodeUtf8 (Json.render fmt (.object ms))) =
      Json.render fmt (.object ms) := by
  have hprintable := Json.printable_render fmt (.object ms)
  have hnull : Char.ofNat 0 ∉ Json.render fmt (.object ms) := fun hmem =>
    absurd (hprintable _ hmem) (by decide)
  have hmark : (Json.render fmt (.object ms)).head? ≠ some (Char.ofNat 0xFEFF) := by
    obtain ⟨s, hs⟩ := render_object_cons fmt ms
    rw [hs, List.head?_cons]
    decide
  exact QString.ofBytes_encodeUtf8 hnull hmark

theorem written_eq (ms : List (QString × Json ν)) : written fmt ms = line fmt ms ++ [10] := by
  rw [written, ofBytes_render, ← QString.length_toLatin1, List.take_length, line]

theorem printable_line (ms : List (QString × Json ν)) : ∀ b ∈ line fmt ms, 0x20 ≤ b.toNat :=
  QString.le_of_mem_toLatin1 (Json.printable_render fmt (.object ms))

theorem newline_notMem_line (ms : List (QString × Json ν)) : 10 ∉ line fmt ms := fun h =>
  absurd (printable_line fmt ms _ h) (by decide)

theorem line_cons (ms : List (QString × Json ν)) : ∃ bs, line fmt ms = 0x7B :: bs := by
  obtain ⟨s, hs⟩ := render_object_cons fmt ms
  exact ⟨_, by rw [line, hs]; rfl⟩

theorem plain_line (ms : List (QString × Json ν)) : QString.Plain (line fmt ms) := by
  obtain ⟨bs, hbs⟩ := line_cons fmt ms
  refine ⟨fun h => absurd (printable_line fmt ms _ h) (by decide), ?_⟩
  rw [hbs]
  rintro ⟨t, ht⟩
  exact absurd (List.cons.inj ht).1 (by decide)

/-- The line of an object is read as it stands. -/
theorem plain_line_newline (ms : List (QString × Json ν)) :
    QString.Plain (line fmt ms ++ [10]) := by
  obtain ⟨bs, hbs⟩ := line_cons fmt ms
  refine ⟨?_, ?_⟩
  · rw [List.mem_append, not_or]
    exact ⟨(plain_line fmt ms).1, by decide⟩
  · rw [hbs]
    rintro ⟨t, ht⟩
    exact absurd (List.cons.inj ht).1 (by decide)

/-- A command as the service logs it. -/
theorem ofBytes_command (o : QJsonObject) : QString.ofBytes (command o) =
    QString.garbled (Json.render Json.decimal (.object o.toMembers)) :=
  QString.ofBytes_of_plain (plain_line _ _)

/-- What the client makes of the line of an object. -/
theorem notifications_line (ms : List (QString × Json ν)) :
    notifications fmt (line fmt ms ++ [10]) =
      [object (fromJson fmt (QString.toLatin1 (QString.decodeUtf8 (line fmt ms))))] := by
  obtain ⟨bs, hbs⟩ := line_cons fmt ms
  have hpieces : pieces 10 (line fmt ms ++ [10]) = [line fmt ms] := by
    rw [pieces_append_sep, pieces_nil, List.append_nil,
      pieces_of_not_mem (newline_notMem_line fmt ms) (by rw [hbs]; exact List.cons_ne_nil _ _)]
  rw [notifications, QString.ofBytes_of_plain (plain_line_newline fmt ms),
    QString.splitSkipEmpty_decodeUtf8, hpieces]
  rfl

end Wire

namespace JsonObject
variable {ν : Type*}

/-- An object that is found where one was sent is this object exactly when what was
parsed is this object. -/
theorem object_eq_iff {carry : QString → Option QString} (h : Channel carry)
    (fmt : NumberFormat ν) (o : JsonObject ν) :
    Wire.object ((carry (Json.render fmt (.object o.members))).bind (Json.readDocument fmt)) =
      o.members ↔ o.IsAscii ∧ o.IsShallow := by
  have harrives := Json.arrives_iff h fmt o.normal
  constructor
  · intro hobject
    cases hmembers : o.members with
    | nil =>
      rw [IsAscii, IsShallow, hmembers]
      exact ⟨nofun, show 1 ≤ 1024 by decide⟩
    | cons m ms =>
      refine harrives.mp ?_
      revert hobject
      cases (carry (Json.render fmt (.object o.members))).bind (Json.readDocument fmt) with
      | none => simp [Wire.object, hmembers]
      | some v => cases v <;> simp [Wire.object, hmembers]
  · intro h
    rw [harrives.mpr h, Wire.object]

/-- The one line that is parsed of a command, however it is cut into deliveries. -/
theorem parsed_sendCommand (fmt : NumberFormat ν) (ms : List (QString × Json ν)) (host : Host)
    (execute : QByteArray → QJsonObject) (client : ℕ) (m : OpenvpnManager)
    {ds : List (World × QByteArray)} (hds : (ds.map (·.2)).flatten = Wire.sendCommand fmt ms) :
    (Runs.run (Receiving.deliver host execute client) (Receiving.fresh m) ds).parsed =
      [Wire.line fmt ms] := by
  rw [(Receiving.run_deliver host execute client (Receiving.fresh m) ds).1]
  change [] ++ (receive 10 [] (ds.map (·.2))).1 = _
  rw [receive_eq 10 List.not_mem_nil, List.nil_append, List.nil_append, hds, Wire.sendCommand,
    Wire.written_eq, lines_line (Wire.newline_notMem_line fmt ms),
    lines_of_not_mem List.not_mem_nil]

/-- A command arrives as it was given to `sendCommand`, however it is cut into
deliveries, and a notification as it was given to `sendMessage`, exactly when all keys
and strings in the object are ASCII and it is nested no more deeply than is followed. -/
theorem exchanged_iff (fmt : NumberFormat ν) (o : JsonObject ν) (host : Host)
    (execute : QByteArray → QJsonObject) (client : ℕ) (m : OpenvpnManager) :
    (∀ ds : List (World × QByteArray), (ds.map (·.2)).flatten = Wire.sendCommand fmt o.members →
      ((Runs.run (Receiving.deliver host execute client) (Receiving.fresh m) ds).parsed.map
        (fun command => Wire.object (Wire.fromJson fmt command)) = [o.members] ↔
          o.IsAscii ∧ o.IsShallow)) ∧
    (Wire.notifications fmt (Wire.sendMessage fmt o.members) = [o.members] ↔
      o.IsAscii ∧ o.IsShallow) := by
  constructor
  · intro ds hds
    rw [parsed_sendCommand fmt o.members host execute client m hds, List.map_singleton,
      List.singleton_inj]
    exact o.object_eq_iff Channel.latin1 fmt
  · rw [Wire.sendMessage, Wire.written_eq, Wire.notifications_line, List.singleton_inj]
    exact o.object_eq_iff Channel.latin1.garbled fmt

/-- The credentials of a user whose password is not ASCII. -/
def accented : JsonObject ℤ where
  members := [("cmd".toList, .number cmdSetCredentials),
    ("vpnpassword".toList, .string "grün".toList), ("vpnusername".toList, .string "user".toList)]
  normal := rfl

/-- Nothing can be parsed of these credentials. -/
theorem credentials_lost : ¬ ∀ (o : JsonObject ℤ) (ds : List (World × QByteArray)),
    (ds.map (·.2)).flatten = Wire.sendCommand Json.decimal o.members →
      (Runs.run (Receiving.deliver (.on .linux) (fun _ => []) 0)
        (Receiving.fresh (.initial .zero)) ds).parsed.map
          (fun command => Wire.object (Wire.fromJson Json.decimal command)) = [o.members] := by
  intro h
  have harrives := h accented [(World.quiet 0, Wire.sendCommand Json.decimal accented.members)]
    (by simp)
  have hlost : (QString.utf8? (Wire.line Json.decimal accented.members)) = none := by
    decide +kernel
  rw [parsed_sendCommand Json.decimal accented.members _ _ _ _ (by simp), List.map_singleton,
    Wire.fromJson, hlost] at harrives
  simp [accented, Wire.object] at harrives

end JsonObject
end CeloVpn
