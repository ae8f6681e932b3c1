import CeloVpn.Library.Framing
import CeloVpn.Library.Latin1
import CeloVpn.Library.Quoting
import CeloVpn.Service.Credentials

/-!
# The reply with the credentials

openvpn takes what the service writes for its commands, one a line. `EscapePsw` escapes
what ends a quoted argument but leaves line breaks alone, and nothing before it removes
them from the credentials. What is quoted is read back as it was, as far as Latin-1 has it.
-/
namespace CeloVpn
open Framing

/-- Escaping neither makes nor removes a line break. -/
theorem newline_mem_escapePsw (raw : QString) : '\n' ∈ escapePsw raw ↔ '\n' ∈ raw := by
  have hchar : ∀ c : Char, '\n' ∈ (if c = '\\' then ['\\', '\\']
      else if c = '"' then ['\\', '"'] else [c]) ↔ c = '\n' := by
    intro c
    split_ifs with hslash hquote
    · exact iff_of_false (by decide) (by rw [hslash]; decide)
    · exact iff_of_false (by decide) (by rw [hquote]; decide)
    · rw [List.mem_singleton, eq_comm]
  simp only [escapePsw, List.mem_flatMap, hchar]
  simp

theorem escapePsw_eq (raw : QString) : escapePsw raw = Quoting.escape '\\' '"' raw := rfl

/-- Any reader that keeps to the rule of quotes reads a password back as it was, whatever
follows, and no two passwords are escaped alike; no part of one ends the argument. -/
theorem read_escapePsw : Function.Injective escapePsw ∧
    ∀ read : QString → Option (QString × QString), Quoting.Rule '\\' '"' read →
      (∀ s t : QString, read ("\"".toList ++ escapePsw s ++ "\"".toList ++ t) = some (s, t)) ∧
      ∀ s p : QString, p <+: escapePsw s → read ("\"".toList ++ p) = none := by
  have hinjective : Function.Injective (Quoting.escape '\\' '"') :=
    (Quoting.rule_readToken (by decide)).escape_injective
  refine ⟨hinjective, fun read hread => ⟨fun s t => ?_, fun s p hp => ?_⟩⟩
  · rw [List.append_assoc, List.append_assoc]
    exact hread.read_escape s t
  · exact hread.read_of_isPrefix hp

/-- A password with a quote in it that ends in a backslash. -/
theorem read_escapePsw_backslash :
    escapePsw "a\"\\".toList = "a\\\"\\\\".toList ∧
    Quoting.readToken '\\' '"'
      ("\"".toList ++ escapePsw "a\"\\".toList ++ "\"".toList ++ "\n".toList) =
        some ("a\"\\".toList, "\n".toList) :=
  ⟨by decide, (read_escapePsw.2 _ (Quoting.rule_readToken (by decide))).1 _ _⟩

namespace QString

/-- A question mark stands for what Latin-1 does not have, and needs no escape. -/
theorem toLatin1_escapeOne (c : Char) :
    toLatin1 (Quoting.escapeOne '\\' '"' c) = Quoting.escape 92 34 (toLatin1 [c]) := by
  by_cases hplain : c ≠ '\\' ∧ c ≠ '"'
  · rw [Quoting.escapeOne_of_ne hplain.1 hplain.2]
    have hslash : 92 ∉ toLatin1 [c] := by
      intro hb
      have hmem := (mem_toLatin1 (c := '\\') (by decide) (by decide) [c]).mp hb
      exact hplain.1 (List.mem_singleton.mp hmem).symm
    have hquote : 34 ∉ toLatin1 [c] := by
      intro hb
      have hmem := (mem_toLatin1 (c := '"') (by decide) (by decide) [c]).mp hb
      exact hplain.2 (List.mem_singleton.mp hmem).symm
    exact (Quoting.escape_of_notMem hslash hquote).symm
  · rcases not_and_or.mp hplain with hslash | hquote
    · rw [not_not.mp hslash]
      decide
    · rw [not_not.mp hquote]
      decide

theorem toLatin1_escapePsw (s : QString) :
    toLatin1 (escapePsw s) = Quoting.escape 92 34 (toLatin1 s) := by
  induction s with
  | nil => rfl
  | cons c s ih =>
    rw [escapePsw_eq, Quoting.escape_cons, toLatin1_append, toLatin1_escapeOne, ← escapePsw_eq, ih,
      ← Quoting.escape_append, ← toLatin1_append, List.singleton_append]

end QString

/-- Neither the name nor the password has a line break. -/
def Credentials.Unbroken (c : Credentials) : Prop := '\n' ∉ c.name ∧ '\n' ∉ c.password

instance (c : Credentials) : Decidable c.Unbroken :=
  inferInstanceAs (Decidable ('\n' ∉ c.name ∧ '\n' ∉ c.password))

namespace Service
open Runs

/-- What an act wrote to the management socket. -/
def Act.socketBytes : Act → Option QByteArray
  | wroteSocket bytes => some bytes
  | _ => none

/-- What the acts, newest first, wrote to the management socket. -/
def writtenBytes (acts : List Act) : QByteArray :=
  (acts.reverse.filterMap Act.socketBytes).flatten

/-- Two lines, one with the name and one with the password. -/
def IsReply (bytes : QByteArray) : Prop :=
  ∃ l₁ l₂, bytes = unlines 10 [l₁, l₂] ∧ 10 ∉ l₁ ∧ 10 ∉ l₂ ∧
    QString.toLatin1 "username \"Auth\" ".toList <+: l₁ ∧
    QString.toLatin1 "password \"Auth\" ".toList <+: l₂

namespace OpenvpnManager
variable (host : Host) (w : World)

/-- The line by which a value is sent, without its line break. -/
def replyLine (what : String) (value : QString) : QByteArray :=
  QString.toLatin1 (what.toList ++ " \"Auth\" \"".toList ++ escapePsw value ++ "\"".toList)

theorem newline_mem_replyLine (what : String) (h : '\n' ∉ what.toList) (value : QString) :
    10 ∈ replyLine what value ↔ '\n' ∈ value := by
  rw [replyLine, QString.newline_mem_toLatin1]
  simp [newline_mem_escapePsw, h]

theorem replyLine_prefix (what : String) (value : QString) :
    QString.toLatin1 (what.toList ++ " \"Auth\" ".toList) <+: replyLine what value := by
  refine ⟨QString.toLatin1 ("\"".toList ++ escapePsw value ++ "\"".toList), ?_⟩
  rw [replyLine, ← QString.toLatin1_append]
  simp

/-- The argument in the line is the value, as far as Latin-1 has it. -/
theorem read_replyLine {read : QByteArray → Option (QByteArray × QByteArray)}
    (h : Quoting.Rule 92 34 read) (what : String) (value : QString) :
    ∃ argument,
      replyLine what value = QString.toLatin1 (what.toList ++ " \"Auth\" ".toList) ++ argument ∧
      read argument = some (QString.toLatin1 value, []) := by
  refine ⟨34 :: (Quoting.escape 92 34 (QString.toLatin1 value) ++ [34]), ?_, h.read_escape _ []⟩
  have hquote : " \"Auth\" \"".toList = " \"Auth\" ".toList ++ "\"".toList := by decide
  rw [replyLine, hquote, ← QString.toLatin1_escapePsw]
  simp only [QString.toLatin1_append, List.append_assoc]
  rfl

theorem writtenBytes_answer (c : Credentials) : writtenBytes (answer c) =
    unlines 10 [replyLine "username" c.name, replyLine "password" c.password] := by
  have hline : ∀ t : QString, QString.toLatin1 (t ++ "\"\n".toList) =
      QString.toLatin1 (t ++ "\"".toList) ++ [10] := by
    intro t
    rw [QString.toLatin1_append, QString.toLatin1_append, List.append_assoc]
    rfl
  simp only [answer, writtenBytes, Act.socketBytes, replyLine, unlines, hline, List.reverse_cons,
    List.reverse_nil, List.nil_append, List.cons_append, List.filterMap_cons, List.filterMap_nil,
    List.flatten_cons, List.flatten_nil, List.flatMap_cons, List.flatMap_nil]
  rfl

/-- Name and password are what is read from the arguments of the two lines. -/
theorem read_answer {read : QByteArray → Option (QByteArray × QByteArray)}
    (h : Quoting.Rule 92 34 read) (c : Credentials) : ∃ name password,
      writtenBytes (answer c) =
        unlines 10 [QString.toLatin1 ("username".toList ++ " \"Auth\" ".toList) ++ name,
          QString.toLatin1 ("password".toList ++ " \"Auth\" ".toList) ++ password] ∧
      read name = some (QString.toLatin1 c.name, []) ∧
      read password = some (QString.toLatin1 c.password, []) := by
  obtain ⟨name, hname, hreadName⟩ := read_replyLine h "username" c.name
  obtain ⟨password, hpassword, hreadPassword⟩ := read_replyLine h "password" c.password
  refine ⟨name, password, ?_, hreadName, hreadPassword⟩
  rw [writtenBytes_answer, hname, hpassword]

/-- The reply is two lines exactly when no line break is in what it carries: the line
breaks in it are counted. -/
theorem isReply_answer_iff (c : Credentials) : IsReply (writtenBytes (answer c)) ↔ c.Unbroken := by
  have hname := newline_mem_replyLine "username" (by decide) c.name
  have hpassword := newline_mem_replyLine "password" (by decide) c.password
  rw [writtenBytes_answer]
  constructor
  · rintro ⟨l₁, l₂, hlines, h₁, h₂, -, -⟩
    have hcount := congrArg (List.count 10) hlines
    simp only [unlines, List.flatMap_cons, List.flatMap_nil, List.append_nil, List.count_append,
      List.count_singleton_self, List.count_eq_zero.mpr h₁, List.count_eq_zero.mpr h₂] at hcount
    refine ⟨fun hbreak => ?_, fun hbreak => ?_⟩
    · have hpos := List.count_pos_iff.mpr (hname.mpr hbreak)
      omega
    · have hpos := List.count_pos_iff.mpr (hpassword.mpr hbreak)
      omega
  · rintro ⟨h₁, h₂⟩
    exact ⟨_, _, rfl, mt hname.mp h₁, mt hpassword.mp h₂, replyLine_prefix "username" c.name,
      replyLine_prefix "password" c.password⟩

/-- A line that asks for the credentials is answered with two lines, if it can be. -/
def Replies (m : OpenvpnManager) (s : QString) : Prop :=
  asksCredentials s = true → m.mSocket.isSome = true →
    ∃ new, (m.parseSocketLine host w s).history = new ++ m.history ∧ IsReply (writtenBytes new)

/-- It finds credentials without line breaks. -/
def AsksUnbroken (m : OpenvpnManager) (s : QString) : Prop :=
  asksCredentials s = true → m.mSocket.isSome = true → m.credentials.Unbroken

instance (m : OpenvpnManager) (s : QString) : Decidable (AsksUnbroken m s) :=
  inferInstanceAs (Decidable (_ → _ → m.credentials.Unbroken))

theorem replies_iff (m : OpenvpnManager) (s : QString) : Replies host w m s ↔ AsksUnbroken m s := by
  refine forall₂_congr fun hasks hsocket => ?_
  rw [parseSocketLine_history host w m hasks hsocket]
  constructor
  · rintro ⟨new, hnew, hreply⟩
    rw [← List.append_cancel_right hnew] at hreply
    exact (isReply_answer_iff m.credentials).mp hreply
  · exact fun hunbroken => ⟨_, rfl, (isReply_answer_iff m.credentials).mpr hunbroken⟩

theorem linesMeet_replies_iff (m : OpenvpnManager) (e : Event) :
    LinesMeet host (Replies host e.world) m e ↔ LinesMeet host AsksUnbroken m e :=
  forall₂_congr fun _ _ => forall₂_congr fun _ _ =>
    meets_congr (I := fun _ => True) (fun _ _ _ => trivial)
      (fun m s _ => replies_iff host e.world m s) trivial

/-- In every run, each request for the credentials is answered with two lines exactly
when it finds credentials without a line break. What is read in them is the credentials, in
Latin-1 (`read_answer`). -/
theorem credential_reply_iff (u : Indeterminate) (es : List Event) :
    Meets (step host) (fun m e => LinesMeet host (Replies host e.world) m e) (initial u) es ↔
      Meets (step host) (LinesMeet host AsksUnbroken) (initial u) es :=
  meets_congr (I := fun _ => True) (fun _ _ _ => trivial)
    (fun m e _ => linesMeet_replies_iff host m e) trivial

/-- A password with a line break, and behind it a command. -/
def brokenCredentials : QJsonObject :=
  [("cmd".toList, .ofInt cmdSetCredentials), ("vpnusername".toList, .string "user".toList),
    ("vpnpassword".toList, .string "\nsignal SIGTERM".toList)]

/-- The rest of a broken password is a command of its own. -/
theorem credential_reply_injects : ¬ ∀ (host : Host) (u : Indeterminate) (es : List Event),
    Meets (step host) (fun m e => LinesMeet host (Replies host e.world) m e) (initial u) es := by
  intro h
  have hrun := h (.on .linux) .zero
    [⟨.quiet 0, .connectionOpened⟩, ⟨.quiet 0, .send 0 brokenCredentials⟩,
      ⟨.quiet 0, .send 0 (startObject 7 "443" "celo.example/7.ovpn")⟩,
      ⟨.quiet 0, .templateFinished 0 []⟩,
      ⟨.busy 1000, .line ">PASSWORD:Need 'Auth' username/password"⟩]
  have hline := (linesMeet_replies_iff _ _ _).mp hrun.2.2.2.2.1
  exact absurd hline (by decide +kernel)

end OpenvpnManager
end Service
end CeloVpn
