import CeloVpn.Client.Choices
import CeloVpn.Service.Dialogue

/-!
# What openvpn is told of the user

The credentials that a user enters are kept by the account, sent as a command, held by the
service until another command replaces them, and written to openvpn when it asks. What
openvpn reads are the ones that were in the fields when they were sent last.
-/
namespace CeloVpn
namespace Service
open Framing

/-- The credentials are those of the last command that sets them. -/
theorem Held.credentials_foldl (objects : List QJsonObject) (c : Held) :
    (objects.foldl take c).credentials =
      (objects.filterMap OpenvpnManager.credentialsOf).getLast?.getD c.credentials := by
  induction objects using List.reverseRecOn with
  | nil => rfl
  | append_singleton objects o ih =>
    rw [List.foldl_append, List.filterMap_append, List.foldl_cons, List.foldl_nil, take]
    by_cases hset : (o.value "cmd".toList).toInt = cmdSetCredentials
    · have hsets : [o].filterMap OpenvpnManager.credentialsOf =
          [⟨(o.value "vpnusername".toList).toString, (o.value "vpnpassword".toList).toString⟩] :=
        List.filterMap_cons_some (if_pos hset)
      rw [if_pos hset, hsets, List.getLast?_concat]
      rfl
    · have hnone : [o].filterMap OpenvpnManager.credentialsOf = [] :=
        List.filterMap_cons_none (if_neg hset)
      rw [if_neg hset, hnone, List.append_nil, ← ih]
      split_ifs <;> rfl

namespace OpenvpnManager

/-- What openvpn reads when it has asked for the credentials. -/
theorem hears_answer {read : QByteArray → Option (QByteArray × QByteArray)}
    (hread : Quoting.Rule 92 34 read) {c : Credentials} (h : c.Unbroken) :
    Utterance.Hears read (writtenBytes (answer c)) [.login c] := by
  have hunbroken : ∀ u ∈ [Utterance.login c], u.Unbroken :=
    List.forall_mem_singleton.mpr fun _ hc => Utterance.login.inj hc ▸ h
  rw [writtenBytes_answer]
  exact Utterance.hears_unlines hread hunbroken

end OpenvpnManager
end Service

namespace Client
open Framing Runs
open Service (Held Host OpenvpnManager Receiving World)

namespace Gui

/-- The credentials that were sent, the oldest first. -/
def credentialsSent (s : Gui) : List Credentials :=
  s.manager.sent.filterMap OpenvpnManager.credentialsOf

variable {s : Gui}

/-- Only credentials in the fields are sent at an event. -/
theorem credentialsSent_step (e : Outside × GuiEvent) :
    ∃ new, (s.step e).credentialsSent = s.credentialsSent ++ new ∧
      ∀ c ∈ new, c = ⟨e.1.eLogin, e.1.ePsw⟩ := by
  have hcovers : Act.Covers e.1.eLogin e.1.ePsw fun a => ∀ c,
      a.object?.bind OpenvpnManager.credentialsOf = some c → c = ⟨e.1.eLogin, e.1.ePsw⟩ := by
    refine ⟨fun a ha c hc => ?_, fun t c hc => ?_, fun c hc => ?_, fun c hc => ?_⟩
    · rw [ha] at hc
      cases hc
    · cases hc
    · cases hc
    · exact (Option.some.inj hc).symm
  obtain ⟨acts, hacts, hall⟩ := (steady_adds hcovers).step e.2 (Adds.refl _ s.manager.history)
  have hsent : ∀ s : Gui, s.credentialsSent = (s.manager.history.filterMap fun a =>
      a.object?.bind OpenvpnManager.credentialsOf).reverse := by
    intro s
    rw [credentialsSent, VPNServiceManager.sent, List.filterMap_reverse, List.filterMap_filterMap]
  refine ⟨(acts.filterMap fun a => a.object?.bind OpenvpnManager.credentialsOf).reverse, ?_, ?_⟩
  · rw [hsent, hsent, hacts, List.filterMap_append, List.reverse_append]
  · intro c hc
    obtain ⟨a, ha, hsent⟩ := List.mem_filterMap.mp (List.mem_reverse.mp hc)
    exact hall a ha c hsent

/-- Where credentials were sent, the last ones were in the fields then. -/
theorem exists_entry {es : List (Outside × GuiEvent)}
    (h : (run step s es).credentialsSent ≠ s.credentialsSent) :
    ∃ before e, LastChange step credentialsSent s es before e ∧
      (run step s es).credentialsSent.getLast? = some ⟨e.1.eLogin, e.1.ePsw⟩ := by
  obtain ⟨before, e, hat⟩ :=
    (exists_lastChange credentialsSent s es).resolve_left h
  have hmoment := hat
  obtain ⟨-, hchange, hsame⟩ := hmoment
  have hstep : run step s (before ++ [e]) = (run step s before).step e := run_append ..
  obtain ⟨new, hnew, hall⟩ := credentialsSent_step (s := run step s before) e
  rw [← hstep] at hnew
  have hsome : new ≠ [] := by
    rintro rfl
    exact hchange (hnew.trans (List.append_nil _))
  refine ⟨before, e, hat, ?_⟩
  rw [hsame, hnew, List.getLast?_append_of_ne_nil _ hsome, List.getLast?_eq_some_getLast hsome,
    hall _ (List.getLast_mem hsome)]

/-- Whatever is stored and whatever happens to the client: when the last commands that it
has written have arrived on a connection, credentials among them, in any portions and with
anything in between that the service does without commands of other clients, then what
openvpn reads when it asks is what was in the fields when credentials were sent last, as far
as Latin-1 has it. -/
theorem entry_told (stored : Setting) (v : System.Unset) (mPingsLoaded : Bool)
    (es : List (Outside × GuiEvent)) {later : List QJsonObject}
    (hlater : later <:+ (run step (initial stored v mPingsLoaded) es).manager.sent)
    (hset : ∃ object ∈ later, (object.value "cmd".toList).toInt = cmdSetCredentials)
    (hascii : ∀ object ∈ later, object.IsAscii) (host : Host) (client : ℕ) (m : OpenvpnManager)
    {arrivals : List ((World × QByteArray) ⊕ Service.Event)} {cut : QByteArray}
    (hcut : 10 ∉ cut)
    (harrived : (Receiving.portions arrivals).flatten = later.flatMap bytesOf ++ cut)
    (halone : ∀ arrival ∈ arrivals, Receiving.Alone arrival)
    {read : QByteArray → Option (QByteArray × QByteArray)} (hread : Quoting.Rule 92 34 read) :
    ∃ before e, LastChange step credentialsSent
        (initial stored v mPingsLoaded) es before e ∧
      (run (Receiving.next host client) (.fresh m) arrivals).manager.credentials =
        ⟨e.1.eLogin, e.1.ePsw⟩ ∧
      ∀ (w : World) (line : QString), OpenvpnManager.asksCredentials line = true →
        (run (Receiving.next host client) (.fresh m) arrivals).manager.mSocket.isSome = true →
        (⟨e.1.eLogin, e.1.ePsw⟩ : Credentials).Unbroken →
        ∃ acts, ((run (Receiving.next host client) (.fresh m) arrivals).manager.parseSocketLine
            host w line).history =
              acts ++ (run (Receiving.next host client) (.fresh m) arrivals).manager.history ∧
          Service.Utterance.Hears read (Service.writtenBytes acts)
            [.login ⟨e.1.eLogin, e.1.ePsw⟩] := by
  obtain ⟨object, hobject, hcmd⟩ := hset
  have hsome : later.filterMap OpenvpnManager.credentialsOf ≠ [] :=
    List.ne_nil_of_mem (List.mem_filterMap.mpr ⟨object, hobject, if_pos hcmd⟩)
  have hheld := held_arrived (Receiving.told_withoutPort host) hlater hascii client m hcut
    harrived (meets_iff_forall.mpr halone)
  -- the last credentials of all that was written are among these commands
  have hlast : (run step (initial stored v mPingsLoaded) es).credentialsSent.getLast? =
      (later.filterMap OpenvpnManager.credentialsOf).getLast? := by
    obtain ⟨earlier, hsent⟩ := hlater
    rw [credentialsSent, ← hsent, List.filterMap_append,
      List.getLast?_append_of_ne_nil _ hsome]
  have hchanged : (run step (initial stored v mPingsLoaded) es).credentialsSent ≠
      (initial stored v mPingsLoaded).credentialsSent := by
    intro hnone
    rw [hnone] at hlast
    exact hsome (List.getLast?_eq_none_iff.mp hlast.symm)
  obtain ⟨before, e, hat, hentry⟩ := exists_entry hchanged
  have hcredentials : (run (Receiving.next host client) (.fresh m) arrivals).manager.credentials =
      ⟨e.1.eLogin, e.1.ePsw⟩ := by
    refine (congrArg Held.credentials hheld).trans ?_
    change (later.foldl Held.take m.held).credentials = _
    rw [Held.credentials_foldl, ← hlast, hentry]
    rfl
  refine ⟨before, e, hat, hcredentials, fun w line hasks hsocket hunbroken => ?_⟩
  refine ⟨_, OpenvpnManager.parseSocketLine_history host w _ hasks hsocket, ?_⟩
  rw [hcredentials]
  exact OpenvpnManager.hears_answer hread hunbroken

/-- The commands of a user who has logged in and connects; openvpn is started, and waits. -/
def entryArriving : List ((World × QByteArray) ⊕ Service.Event) :=
  [.inl (.quiet 0, (picked.flatMap bytesOf).take 30),
    .inl (.quiet 0, (picked.flatMap bytesOf).drop 30), .inr ⟨.quiet 0, .templateFinished 0 []⟩,
    .inr ⟨.busy 1000, .line ">HOLD:Waiting for hold release"⟩]

/-- The service then. -/
def waiting : OpenvpnManager :=
  (run (Receiving.next (.on .linux) 0) (.fresh (.initial .zero)) entryArriving).manager

/-- openvpn asks for the credentials, and reads those of the log-in. -/
theorem first_entry_told : waiting.credentials = ⟨"user".toList, "secret".toList⟩ ∧
    ∃ before e, LastChange step credentialsSent (initial .fresh .blocking false) picksSecond
        before e ∧ waiting.credentials = ⟨e.1.eLogin, e.1.ePsw⟩ ∧
      ∃ acts, (waiting.parseSocketLine (.on .linux) (.quiet 0)
          ">PASSWORD:Need 'Auth' username/password".toList).history = acts ++ waiting.history ∧
        Service.Utterance.Hears (Quoting.readToken 92 34) (Service.writtenBytes acts)
          [.login ⟨e.1.eLogin, e.1.ePsw⟩] := by
  have hset : ∃ object ∈ picked, (object.value "cmd".toList).toInt = cmdSetCredentials := by
    decide +kernel
  have harrived : (Receiving.portions entryArriving).flatten = picked.flatMap bytesOf ++ [] := by
    decide +kernel
  have halone : ∀ arrival ∈ entryArriving, Receiving.Alone arrival := by
    intro arrival harrival
    simp only [entryArriving, List.mem_cons, List.not_mem_nil, or_false] at harrival
    rcases harrival with rfl | rfl | rfl | rfl
    · trivial
    · trivial
    · exact nofun
    · exact nofun
  have hwaiting : waiting.credentials = ⟨"user".toList, "secret".toList⟩ := by decide +kernel
  obtain ⟨before, e, hat, hcredentials, htold⟩ := entry_told .fresh .blocking false picksSecond
    (List.suffix_refl picked) hset isAscii_picked (.on .linux) 0 (.initial .zero)
    List.not_mem_nil harrived halone (Quoting.rule_readToken (by decide))
  have hentered : (⟨e.1.eLogin, e.1.ePsw⟩ : Credentials) = ⟨"user".toList, "secret".toList⟩ :=
    hcredentials.symm.trans hwaiting
  have hunbroken : (⟨e.1.eLogin, e.1.ePsw⟩ : Credentials).Unbroken := by
    rw [hentered]
    decide
  exact ⟨hwaiting, before, e, hat, hcredentials,
    htold (.quiet 0) _ (by decide) (by decide +kernel) hunbroken⟩

end Gui
end Client
end CeloVpn
