import CeloVpn.Service.Settings

/-!
# The credentials of the service

Nothing but the command for it changes the credentials, and openvpn is answered with
those of the moment.
-/
namespace CeloVpn
namespace Service
namespace OpenvpnManager

section Supply
variable (host : Host) (w : World) (m : OpenvpnManager)

/-- The credentials in a command to set them. -/
def credentialsOf (jObj : QJsonObject) : Option Credentials :=
  if (jObj.value "cmd".toList).toInt = cmdSetCredentials then
    some ⟨(jObj.value "vpnusername".toList).toString, (jObj.value "vpnpassword".toList).toString⟩
  else none

/-- The credentials a callback sets. -/
def supplies (m : OpenvpnManager) : Callback → Option Credentials
  | .command client _ jObj =>
    if m.connections.any (·.id == client) then credentialsOf jObj else none
  | _ => none

theorem settings_command_credentials (jObj : QJsonObject) (c : Settings) :
    (c.command host w jObj).credentials = (credentialsOf jObj).getD c.credentials := by
  unfold Settings.command credentialsOf
  dsimp only
  split_ifs <;> rfl

/-- The credentials after an event are those it sets, or else those before it. -/
theorem step_credentials (e : Event) : (m.step host e).credentials =
    (m.supplies e.callback).getD m.credentials := by
  obtain ⟨w, callback⟩ := e
  refine (congrArg Settings.credentials (step_settings host m ⟨w, callback⟩)).trans ?_
  cases callback with
  | command client line jObj =>
    rw [settingsAfter, supplies]
    dsimp only
    split_ifs
    · exact settings_command_credentials host w jObj m.settings
    · rfl
  | logFileChanged content =>
    rw [settingsAfter]
    dsimp only
    split_ifs
    · obtain ⟨port, hport⟩ := Settings.foldl_readLine (m.logLines content) m.settings
      rw [hport]
      rfl
    · rfl
  | _ => rfl

/-- A command of an open connection is in the log, as it was read. -/
theorem step_command_log {client : ℕ} (h : m.connections.any (·.id == client) = true)
    (line : QByteArray) (jObj : QJsonObject) :
    commandRead line :: m.log <:+ (m.step host ⟨w, .command client line jObj⟩).log := by
  rw [step, deliver, if_pos h]
  exact (keeps_command host w { m with asked := 0 } client line jObj).2.1

/-- The line asks for the credentials. -/
def asksCredentials (s : QString) : Bool :=
  s.head? == some '>' && decide (s.indexOf ':' 0 > -1) &&
    (s.mid 1 (s.indexOf ':' 0 - 1)).equalsFolded "PASSWORD".toList &&
      decide (s.indexOfText "Need 'Auth' username/password".toList 0 > -1)

/-- The two lines with which the service answers. -/
def answer (c : Credentials) : List Act :=
  [.wroteSocket (QString.toLatin1 ("password \"Auth\" \"".toList ++ escapePsw c.password ++ "\"\n".toList)),
    .wroteSocket (QString.toLatin1 ("username \"Auth\" \"".toList ++ escapePsw c.name ++ "\"\n".toList))]

theorem writeSocket_writeSocket {m : OpenvpnManager} (h : m.mSocket.isSome = true) (t u : QString) :
    (m.writeSocket t).writeSocket u =
      (m.note (.wroteSocket t.toLatin1)).note (.wroteSocket u.toLatin1) := by
  have hwrite : ∀ {m : OpenvpnManager} (v : QString), m.mSocket.isSome = true →
      m.writeSocket v = m.note (.wroteSocket v.toLatin1) := by
    intro m v h
    obtain ⟨socket, hsocket⟩ := Option.isSome_iff_exists.mp h
    rw [writeSocket, hsocket]
  rw [hwrite t h]
  exact hwrite u h

/-- A line that asks for the credentials is answered with those of the moment. -/
theorem parseSocketLine_history {s : QString} (h : asksCredentials s = true)
    (hsocket : m.mSocket.isSome = true) : (m.parseSocketLine host w s).history =
      answer m.credentials ++ m.history := by
  simp only [asksCredentials, Bool.and_eq_true, beq_iff_eq, decide_eq_true_eq] at h
  obtain ⟨⟨⟨hprompt, hcolon⟩, hword⟩, hneed⟩ := h
  have hother : ∀ known : QString, QString.equalsFolded "PASSWORD".toList known = false →
      ¬(s.mid 1 (s.indexOf ':' 0 - 1)).equalsFolded known = true := by
    intro known hknown
    rw [QString.equalsFolded_congr hword, hknown]
    exact Bool.false_ne_true
  rw [parseSocketLine, if_pos hprompt]
  dsimp only
  rw [if_pos hcolon, parseSocketQueryWord]
  dsimp only
  rw [if_neg (hother _ (by decide)), if_neg (hother _ (by decide)), if_pos hword, if_pos hneed]
  rw [writeSocket_writeSocket]
  · rfl
  · exact hsocket

/-- What is asked of the credentials at the lines of an event is asked of those the
event finds. -/
theorem linesMeet_credentials {C : OpenvpnManager → QString → Prop} {D : QString → Prop}
    (h : ∀ m' s, m'.credentials = m.credentials → (C m' s ↔ D s)) (e : Event) :
    LinesMeet host C m e ↔ LinesMeet host (fun _ => D) m e := by
  refine forall₂_congr fun bytes _ => forall₂_congr fun socket _ => ?_
  refine Runs.meets_congr (I := fun m' => m'.credentials = m.credentials) ?_ (fun m' s => h m' s) ?_
  · exact fun m' s hm' => (congrArg Settings.credentials
      ((Keeps.refl m').parseSocketLine host e.world s).1).trans hm'
  · exact congrArg Settings.credentials ((Keeps.refl _).readSocket _).1

end Supply
end OpenvpnManager
end Service
end CeloVpn
