import CeloVpn.Service.Broadcasts

/-!
# What openvpn is told

openvpn takes its commands from the management socket, one a line. The service writes them
in many handlers, a piece at a time, and to whichever socket there is at the moment. All the
same what openvpn reads in a whole run are commands, none of them cut or run into another,
as long as no line break is in the credentials.
-/
namespace CeloVpn.Service
open Framing Runs

/-- The commands of openvpn that the service uses. -/
inductive ManagementCommand
  | state
  | signalTerm
  | exit
  | holdOff
  | holdRelease
  | username (argument : QByteArray)
  | password (argument : QByteArray)
  deriving DecidableEq

namespace ManagementCommand
variable (read : QByteArray → Option (QByteArray × QByteArray))

/-- The argument behind a command of that name; nothing may follow it. -/
def argument? (what : String) (line : QByteArray) : Option QByteArray :=
  let name := QString.toLatin1 (what.toList ++ " \"Auth\" ".toList)
  if name.isPrefixOf line then
    (read (line.drop name.length)).bind fun r => if r.2 = [] then some r.1 else none
  else none

/-- How openvpn takes a line, reading what is quoted in its way. -/
def ofLine (line : QByteArray) : Option ManagementCommand :=
  if line = QString.toLatin1 "state".toList then some state
  else if line = QString.toLatin1 "signal SIGTERM".toList then some signalTerm
  else if line = QString.toLatin1 "exit".toList then some exit
  else if line = QString.toLatin1 "hold off".toList then some holdOff
  else if line = QString.toLatin1 "hold release".toList then some holdRelease
  else match argument? read "username" line with
    | some argument => some (username argument)
    | none => (argument? read "password" line).map password

end ManagementCommand

namespace Utterance

/-- The lines that say it. -/
def lines : Utterance → List QByteArray
  | state => [QString.toLatin1 "state".toList]
  | terminate => [QString.toLatin1 "signal SIGTERM".toList, QString.toLatin1 "exit".toList]
  | release => [QString.toLatin1 "hold off".toList, QString.toLatin1 "hold release".toList]
  | login c =>
    [OpenvpnManager.replyLine "username" c.name, OpenvpnManager.replyLine "password" c.password]

/-- What openvpn is to do. -/
def commands : Utterance → List ManagementCommand
  | state => [.state]
  | terminate => [.signalTerm, .exit]
  | release => [.holdOff, .holdRelease]
  | login c => [.username c.name.toLatin1, .password c.password.toLatin1]

/-- The credentials it takes have no line break. -/
def Unbroken (said : Utterance) : Prop := ∀ c, said = login c → c.Unbroken

theorem writtenBytes_acts (said : Utterance) : writtenBytes said.acts = unlines 10 said.lines := by
  cases said with
  | login c => exact OpenvpnManager.writtenBytes_answer c
  | _ => rfl

theorem not_mem_lines {said : Utterance} (h : said.Unbroken) : ∀ l ∈ said.lines, 10 ∉ l := by
  cases said with
  | login c =>
    obtain ⟨hname, hpassword⟩ := h c rfl
    refine List.forall_mem_cons.mpr ⟨?_, List.forall_mem_singleton.mpr ?_⟩
    · exact mt (OpenvpnManager.newline_mem_replyLine "username" (by decide) c.name).mp hname
    · exact mt (OpenvpnManager.newline_mem_replyLine "password" (by decide) c.password).mp hpassword
  | _ => decide

variable {read : QByteArray → Option (QByteArray × QByteArray)}

/-- The line with a name or a password is none of the others. -/
theorem ofLine_of_argument {b : UInt8} {bs : QByteArray}
    (hb : b ≠ 115 ∧ b ≠ 101 ∧ b ≠ 104) : ManagementCommand.ofLine read (b :: bs) =
      match ManagementCommand.argument? read "username" (b :: bs) with
      | some argument => some (.username argument)
      | none => (ManagementCommand.argument? read "password" (b :: bs)).map .password := by
  have hne : ∀ {c : UInt8} {cs : QByteArray}, b ≠ c → b :: bs ≠ c :: cs :=
    fun hbc heq => hbc (List.cons.inj heq).1
  have hstate : b :: bs ≠ QString.toLatin1 "state".toList := hne hb.1
  have hsignal : b :: bs ≠ QString.toLatin1 "signal SIGTERM".toList := hne hb.1
  have hexit : b :: bs ≠ QString.toLatin1 "exit".toList := hne hb.2.1
  have hoff : b :: bs ≠ QString.toLatin1 "hold off".toList := hne hb.2.2
  have hrelease : b :: bs ≠ QString.toLatin1 "hold release".toList := hne hb.2.2
  rw [ManagementCommand.ofLine, if_neg hstate, if_neg hsignal, if_neg hexit, if_neg hoff,
    if_neg hrelease]

theorem argument?_replyLine (h : Quoting.Rule 92 34 read) (what : String) (value : QString) :
    ManagementCommand.argument? read what (OpenvpnManager.replyLine what value) =
      some value.toLatin1 := by
  obtain ⟨argument, hline, hread⟩ := OpenvpnManager.read_replyLine h what value
  have hprefix : (QString.toLatin1 (what.toList ++ " \"Auth\" ".toList)).isPrefixOf
      (QString.toLatin1 (what.toList ++ " \"Auth\" ".toList) ++ argument) = true :=
    List.isPrefixOf_iff_prefix.mpr (List.prefix_append _ _)
  rw [ManagementCommand.argument?, hline, if_pos hprefix, List.drop_left, hread,
    Option.bind_some, if_pos rfl]

/-- openvpn reads from its lines what is said. -/
theorem ofLine_lines (h : Quoting.Rule 92 34 read) (said : Utterance) :
    said.lines.map (ManagementCommand.ofLine read) = said.commands.map some := by
  cases said with
  | login c =>
    have hfirst : ∀ (what : String) (value : QString) {b : UInt8} {bs : QByteArray},
        QString.toLatin1 (what.toList ++ " \"Auth\" \"".toList) = b :: bs →
        ∃ cs, OpenvpnManager.replyLine what value = b :: cs := by
      intro what value b bs hb
      refine ⟨bs ++ QString.toLatin1 (escapePsw value ++ "\"".toList), ?_⟩
      rw [OpenvpnManager.replyLine, List.append_assoc _ (escapePsw value), QString.toLatin1_append,
        hb, List.cons_append]
    have hname : ManagementCommand.ofLine read (OpenvpnManager.replyLine "username" c.name) =
        some (.username c.name.toLatin1) := by
      have hargument := argument?_replyLine h "username" c.name
      obtain ⟨cs, hcs⟩ := hfirst "username" c.name (b := 117) rfl
      rw [hcs] at hargument ⊢
      rw [ofLine_of_argument (by decide), hargument]
    have hpassword : ManagementCommand.ofLine read
        (OpenvpnManager.replyLine "password" c.password) =
        some (.password c.password.toLatin1) := by
      have hargument := argument?_replyLine h "password" c.password
      obtain ⟨cs, hcs⟩ := hfirst "password" c.password (b := 112) rfl
      have hother : ManagementCommand.argument? read "username" (112 :: cs) = none := rfl
      rw [hcs] at hargument ⊢
      rw [ofLine_of_argument (by decide), hother, hargument]
      rfl
    rw [lines, commands, List.map_cons, List.map_singleton, hname, hpassword]
    rfl
  | _ => rfl

/-- What stands in these bytes for openvpn, and no part of a line behind it. -/
def Hears (read : QByteArray → Option (QByteArray × QByteArray)) (bytes : QByteArray)
    (said : List Utterance) : Prop :=
  rest 10 bytes = [] ∧
    (Framing.lines 10 bytes).map (ManagementCommand.ofLine read) =
      (said.flatMap commands).map some

theorem hears_unlines (h : Quoting.Rule 92 34 read) {said : List Utterance}
    (hunbroken : ∀ u ∈ said, u.Unbroken) : Hears read (unlines 10 (said.flatMap lines)) said := by
  have hlines : ∀ l ∈ said.flatMap lines, 10 ∉ l := by
    intro l hl
    obtain ⟨u, hu, hlu⟩ := List.mem_flatMap.mp hl
    exact not_mem_lines (hunbroken u hu) l hlu
  refine ⟨rest_unlines hlines, ?_⟩
  rw [lines_unlines hlines, List.map_flatMap, List.map_flatMap]
  exact congrArg said.flatMap (funext (ofLine_lines h))

end Utterance

theorem writtenBytes_append (acts acts' : List Act) :
    writtenBytes (acts ++ acts') = writtenBytes acts' ++ writtenBytes acts := by
  rw [writtenBytes, List.reverse_append, List.filterMap_append, List.flatten_append]
  rfl

theorem writtenBytes_filter (acts : List Act) :
    writtenBytes (acts.filter Act.writes) = writtenBytes acts := by
  induction acts with
  | nil => rfl
  | cons a acts ih =>
    have hrest := writtenBytes_append [a] acts
    rw [List.singleton_append] at hrest
    cases hw : a.writes with
    | true =>
      rw [List.filter_cons_of_pos hw, hrest, ← ih]
      exact writtenBytes_append [a] _
    | false =>
      have hnone : a.socketBytes = none :=
        Option.not_isSome_iff_eq_none.mp (by simp [← hw, Act.writes])
      have hempty : writtenBytes [a] = [] := by
        rw [writtenBytes, List.reverse_singleton, List.filterMap_cons_none hnone]
        rfl
      rw [List.filter_cons_of_neg (by simp [hw]), ih, hrest, hempty, List.append_nil]

theorem writtenBytes_of_said {acts : List Act} {said : List Utterance}
    (h : acts.filter Act.writes = said.flatMap Utterance.acts) :
    writtenBytes acts = unlines 10 (said.reverse.flatMap Utterance.lines) := by
  rw [← writtenBytes_filter, h]
  clear h
  induction said with
  | nil => rfl
  | cons u said ih =>
    rw [List.flatMap_cons, writtenBytes_append, ih, u.writtenBytes_acts, List.reverse_cons,
      List.flatMap_append, List.flatMap_singleton, unlines, unlines, unlines, List.flatMap_append]

namespace OpenvpnManager
variable (host : Host)

/-- The credentials that clients set in a run. -/
def credentialsSet (es : List Event) : List Credentials :=
  es.filterMap fun e => match e.callback with
    | .command _ _ jObj => credentialsOf jObj
    | _ => none

/-- What an event writes is said whole, with the credentials it finds. -/
theorem step_utters (m : OpenvpnManager) (e : Event) :
    ∃ (acts : List Act) (said : List Utterance), (m.step host e).history = acts ++ m.history ∧
      acts.filter Act.writes = said.flatMap Utterance.acts ∧
      ∀ c, .login c ∈ said → c = m.credentials := by
  obtain ⟨w, callback⟩ := e
  by_cases hb : callback.broadcasts = true
  · obtain ⟨-, acts, said, hacts, -, hsaid⟩ := tells_deliver host w { m with asked := 0 } hb
    exact ⟨acts, said, hacts, hsaid⟩
  · cases callback with
    | connectionOpened => exact ⟨[.opened m.mState], [], rfl, rfl, nofun⟩
    | connectionClosed client => exact ⟨[], [], rfl, rfl, nofun⟩
    | command client line jObj =>
      have hcmd : (jObj.value "cmd".toList).toInt = cmdGetStatus := by
        simpa [Callback.broadcasts] using hb
      refine ⟨[], [], ?_, rfl, nofun⟩
      rw [step, deliver, command, hcmd]
      split <;> rfl
    | _ => exact absurd rfl hb

theorem step_credentials_mem (m : OpenvpnManager) (e : Event) :
    (m.step host e).credentials = m.credentials ∨
      (m.step host e).credentials ∈ credentialsSet [e] := by
  rw [step_credentials]
  obtain ⟨w, callback⟩ := e
  cases callback with
  | command client line jObj =>
    have hsupplies : m.supplies (.command client line jObj) =
        if m.connections.any (·.id == client) then credentialsOf jObj else none := rfl
    rw [hsupplies]
    split_ifs
    · cases hc : credentialsOf jObj with
      | none => exact .inl rfl
      | some c => exact .inr (List.mem_filterMap.mpr ⟨_, List.mem_singleton_self _, hc⟩)
    · exact .inl rfl
  | _ => exact .inl rfl

theorem run_utters (m : OpenvpnManager) (es : List Event) :
    ∃ (acts : List Act) (said : List Utterance),
      (run (step host) m es).history = acts ++ m.history ∧
      acts.filter Act.writes = said.flatMap Utterance.acts ∧
      ∀ c, .login c ∈ said → c = m.credentials ∨ c ∈ credentialsSet es := by
  induction es generalizing m with
  | nil => exact ⟨[], [], rfl, rfl, nofun⟩
  | cons e es ih =>
    obtain ⟨acts, said, hacts, hsaid, hlogin⟩ := m.step_utters host e
    obtain ⟨acts', said', hacts', hsaid', hlogin'⟩ := ih (m.step host e)
    refine ⟨acts' ++ acts, said' ++ said, ?_, ?_, fun c hc => ?_⟩
    · rw [List.append_assoc, ← hacts]
      exact hacts'
    · rw [List.filter_append, hsaid', hsaid, List.flatMap_append]
    · have hset : credentialsSet (e :: es) = credentialsSet [e] ++ credentialsSet es :=
        List.filterMap_append (l := [e]) ..
      rw [hset, List.mem_append]
      rcases List.mem_append.mp hc with hc | hc
      · rcases hlogin' c hc with rfl | hc
        · exact (m.step_credentials_mem host e).imp_right .inl
        · exact .inr (.inr hc)
      · exact .inl (hlogin c hc)

theorem run_credentials (m : OpenvpnManager) (es : List Event) :
    (run (step host) m es).credentials = m.credentials ∨
      (run (step host) m es).credentials ∈ credentialsSet es := by
  induction es using List.reverseRecOn with
  | nil => exact .inl rfl
  | append_singleton es e ih =>
    have hset : credentialsSet (es ++ [e]) = credentialsSet es ++ credentialsSet [e] :=
      List.filterMap_append ..
    rw [run_append, hset, List.mem_append]
    rcases step_credentials_mem host (run (step host) m es) e with hsame | hset
    · exact (hsame ▸ ih).imp_right .inl
    · exact .inr (.inr hset)

/-- Whatever the clients, openvpn and the clock do: if no credentials with a line break are
set, then what openvpn is written in a run are commands, each of them on a line of its own,
and the names and passwords in them are read as far as Latin-1 has them. What is written at
the next event goes on with whole commands, and with the credentials of that moment. -/
theorem openvpn_told_commands {read : QByteArray → Option (QByteArray × QByteArray)}
    (hread : Quoting.Rule 92 34 read) (u : Indeterminate) {es : List Event}
    (hunbroken : ∀ c ∈ credentialsSet es, c.Unbroken) :
    ∃ said : List Utterance,
      Utterance.Hears read (writtenBytes (run (step host) (initial u) es).history) said ∧
      (∀ c, .login c ∈ said → c = ⟨[], []⟩ ∨ c ∈ credentialsSet es) ∧
      ∀ e, ∃ next : List Utterance,
        Utterance.Hears read (writtenBytes (run (step host) (initial u) (es ++ [e])).history)
          (said ++ next) ∧
        ∀ c, .login c ∈ next → c = (run (step host) (initial u) es).credentials := by
  have hempty : (⟨[], []⟩ : Credentials).Unbroken := by decide
  obtain ⟨acts, said, hacts, hsaid, hlogin⟩ := run_utters host (initial u) es
  have hwhole : ∀ v ∈ said.reverse, v.Unbroken := by
    rintro v hv c rfl
    rcases hlogin c (List.mem_reverse.mp hv) with rfl | hc
    · exact hempty
    · exact hunbroken c hc
  have hwritten := writtenBytes_of_said hsaid
  rw [← List.append_nil acts] at hwritten
  refine ⟨said.reverse, ?_, fun c hc => hlogin c (List.mem_reverse.mp hc), fun e => ?_⟩
  · rw [hacts]
    exact hwritten ▸ Utterance.hears_unlines hread hwhole
  · obtain ⟨acts', said', hacts', hsaid', hlogin'⟩ :=
      (run (step host) (initial u) es).step_utters host e
    have hnow : (run (step host) (initial u) es).credentials.Unbroken := by
      rcases run_credentials host (initial u) es with hsame | hset
      · exact hsame ▸ hempty
      · exact hunbroken _ hset
    refine ⟨said'.reverse, ?_, fun c hc => hlogin' c (List.mem_reverse.mp hc)⟩
    have hboth : (acts' ++ (acts ++ [])).filter Act.writes =
        (said' ++ said).flatMap Utterance.acts := by
      rw [List.append_nil, List.filter_append, hsaid, hsaid', List.flatMap_append]
    have hhistory : (run (step host) (initial u) (es ++ [e])).history = acts' ++ (acts ++ []) := by
      rw [run_append]
      exact hacts'.trans (congrArg (acts' ++ ·) hacts)
    rw [hhistory, writtenBytes_of_said hboth, List.reverse_append]
    refine Utterance.hears_unlines hread fun v hv => ?_
    rcases List.mem_append.mp hv with hv | hv
    · exact hwhole v hv
    · rintro c rfl
      exact hlogin' c (List.mem_reverse.mp hv) ▸ hnow

/-- openvpn waits to be let go on, and asks for the credentials. -/
def loggingIn : List Event :=
  [⟨.quiet 0, .connectionOpened⟩,
    ⟨.quiet 0, .send 0 [("cmd".toList, .ofInt cmdSetCredentials),
      ("vpnusername".toList, .string "user".toList),
      ("vpnpassword".toList, .string "\"x\\".toList)]⟩,
    ⟨.quiet 0, .send 0 (startObject 7 "443" "celo.example/7.ovpn")⟩,
    ⟨.quiet 0, .templateFinished 0 []⟩,
    ⟨.busy 1000, .line ">HOLD:Waiting for hold release"⟩,
    ⟨.busy 1000, .line ">PASSWORD:Need 'Auth' username/password"⟩]

/-- It reads four commands, and nothing before it asks. -/
theorem login_told : writtenBytes (run (step (Host.on .linux)) (initial .zero)
    (loggingIn.take 4)).history = [] ∧ (Framing.lines 10 (writtenBytes
      (run (step (Host.on .linux)) (initial .zero) loggingIn).history)).length = 4 ∧
    ∃ said : List Utterance, Utterance.Hears (Quoting.readToken 92 34)
      (writtenBytes (run (step (Host.on .linux)) (initial .zero) loggingIn).history) said ∧
      ∀ c, .login c ∈ said → c = ⟨[], []⟩ ∨ c = ⟨"user".toList, "\"x\\".toList⟩ := by
  have hset : credentialsSet loggingIn = [⟨"user".toList, "\"x\\".toList⟩] := by decide +kernel
  have hunbroken : ∀ c ∈ credentialsSet loggingIn, c.Unbroken := by
    rw [hset]
    exact List.forall_mem_singleton.mpr (by decide)
  refine ⟨by decide +kernel, by decide +kernel, ?_⟩
  obtain ⟨said, hsaid, hlogin, -⟩ := openvpn_told_commands (Host.on .linux)
    (Quoting.rule_readToken (by decide)) .zero hunbroken
  refine ⟨said, hsaid, fun c hc => ?_⟩
  have hknown := hlogin c hc
  rw [hset, List.mem_singleton] at hknown
  exact hknown

end OpenvpnManager
end CeloVpn.Service
