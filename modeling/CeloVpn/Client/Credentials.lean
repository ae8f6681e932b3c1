import CeloVpn.Client.Desktop
import CeloVpn.Service.Credentials
import CeloVpn.Service.ManagementLines

/-!
# The credentials of an attempt

The client sends its credentials once, when its user logs in; the service keeps those
it was sent last, by whatever client, until it begins anew. Nothing ties them to the
attempt for which openvpn asks for them.
-/
namespace CeloVpn.Client
open Runs
open Service (Host World OpenvpnManager)
open Service.OpenvpnManager (asksCredentials LinesMeet linesMeet_credentials linesMeet_iff_passes
  step_credentials)

/-- `AuthManager::VPNName()` and `AuthManager::VPNPassword()`. -/
def AuthManager.credentials (m : AuthManager) : Credentials := ⟨m.mVPNLogin, m.mVPNPassword⟩

/-- The commands on their way to the service. -/
def Desktop.queue (d : Desktop) : List QJsonObject :=
  (d.system.manager.link.map (·.outgoing)).getD []

/-- The desktop, and what is to be compared. -/
structure Session where
  desktop : Desktop
  /-- For each command on its way, the credentials of the account when it was sent. -/
  held : List Credentials
  /-- Those of the attempt the service is making, if a `cmdStart` of this client began it. -/
  attempt : Option Credentials
  /-- Those of the last `cmdSetCredentials` the service has executed, of any client. -/
  supplied : Credentials

namespace Session
variable (host : Host)

/-- The callback executes a `cmdStart`. -/
def starts (m : OpenvpnManager) : Service.Callback → Bool
  | .command client _ jObj =>
    m.connections.any (·.id == client) && (jObj.value "cmd".toList).toInt == cmdStart
  | _ => false

/-- A command of this client is executed with what was held when it was sent. -/
def executed (t : Session) : DesktopAction → Option Credentials
  | .execute _ => t.held.head?
  | _ => none

/-- What was held when each command was sent that is on its way after a step. -/
def heldAfter (t : Session) (desktop : Desktop) (a : DesktopAction) : List Credentials :=
  match desktop.system.manager.link, a with
  | none, _ => []
  | some link, .execute _ => t.held.drop (t.desktop.queue.length - link.outgoing.length)
  | some link, _ => t.held ++
      List.replicate (link.outgoing.length - t.desktop.queue.length) desktop.account.credentials

/-- An attempt is over when the service is disconnected. -/
def step (t : Session) (a : DesktopAction) : Session where
  desktop := t.desktop.step host a
  held := t.heldAfter (t.desktop.step host a) a
  attempt :=
    if (t.desktop.step host a).system.service.mState = .disconnected then none
    else match t.desktop.event a with
      | some e => if starts t.desktop.system.service e.callback then t.executed a else t.attempt
      | none => t.attempt
  supplied :=
    if a.restarts then ⟨[], []⟩
    else ((t.desktop.event a).bind fun e => t.desktop.system.service.supplies e.callback).getD
      t.supplied

def initial (u : Service.Indeterminate) (v : System.Unset) (mPingsLoaded mEnabled : Bool) :
    Session := ⟨.initial u v mPingsLoaded mEnabled, [], none, ⟨[], []⟩⟩

/-- Where openvpn asks for the credentials during an attempt of this client, the
service has those the client held when it sent the `cmdStart`. -/
def Agrees (t : Session) (a : DesktopAction) : Prop :=
  ∀ c ∈ t.attempt, ∀ e ∈ t.desktop.event a,
    LinesMeet host (fun m s => asksCredentials s = true → m.credentials = c)
      t.desktop.system.service e

/-- Where openvpn asks for them, the last `cmdSetCredentials` the service has executed
carried those credentials. -/
def Supplied (t : Session) (a : DesktopAction) : Prop :=
  ∀ c ∈ t.attempt, ∀ e ∈ t.desktop.event a, ∀ s ∈ t.desktop.system.service.passes e,
    asksCredentials s = true → t.supplied = c

instance (t : Session) (a : DesktopAction) : Decidable (t.Agrees host a) :=
  inferInstanceAs (Decidable (∀ c ∈ t.attempt, ∀ e ∈ t.desktop.event a,
    LinesMeet host (fun m s => asksCredentials s = true → m.credentials = c) _ e))

/-- The service has the credentials of the last command to set them. -/
theorem step_supplied (t : Session) (a : DesktopAction)
    (h : t.desktop.system.service.credentials = t.supplied) :
    (t.step host a).desktop.system.service.credentials = (t.step host a).supplied := by
  by_cases hrestarts : a.restarts = true
  · cases a with
    | system b pending hb =>
      cases b with
      | restart u arrives =>
        rw [step, if_pos hrestarts, Desktop.step, Desktop.write_system]
        rfl
      | _ => cases hrestarts
    | _ => cases hrestarts
  · by_cases hread : a = .readyRead
    · subst hread
      exact h
    · simp only [step, if_neg hrestarts]
      rw [Desktop.step_service host _ (Bool.eq_false_of_not_eq_true hrestarts) hread]
      cases t.desktop.event a with
      | none => exact h
      | some e =>
        rw [Option.elim_some, step_credentials, h]
        rfl

theorem agrees_iff_supplied (t : Session) (a : DesktopAction)
    (h : t.desktop.system.service.credentials = t.supplied) :
    t.Agrees host a ↔ t.Supplied a := by
  refine forall₂_congr fun c _ => forall₂_congr fun e _ => ?_
  have hsame : ∀ (m' : OpenvpnManager) (s : QString),
      m'.credentials = t.desktop.system.service.credentials →
      ((asksCredentials s = true → m'.credentials = c) ↔
        (asksCredentials s = true → t.supplied = c)) := by
    intro m' s hm'
    rw [hm', h]
  rw [linesMeet_credentials host _ hsame, linesMeet_iff_passes]

/-- Along every run, the service answers for this client with the credentials it held
when it started the attempt, exactly when those are what the last command to set
credentials has carried. -/
theorem credentials_agree_iff (u : Service.Indeterminate) (v : System.Unset)
    (mPingsLoaded mEnabled : Bool) (as : List DesktopAction) :
    Meets (step host) (Agrees host) (initial u v mPingsLoaded mEnabled) as ↔
      Meets (step host) Supplied (initial u v mPingsLoaded mEnabled) as :=
  meets_congr (step_supplied host) (agrees_iff_supplied host) rfl

/-- A user logs in and the service is begun anew before the user connects. -/
def restarted : List DesktopAction :=
  let s := Surroundings.server 7 "template 7"
  [.account (.login "user".toList "secret".toList) s false,
    .system (.accept (World.quiet 0)) false, .execute (World.quiet 1000),
    .system (.restart .zero 0) false, .system (.socketDisconnected 0) false,
    .system (.connect s) false, .system (.accept (World.quiet 2000)) false,
    .execute (World.quiet 3000),
    .system (.service ⟨World.quiet 4000, .templateFinished 0 []⟩) false,
    .system (.service ⟨World.busy 5000, .line ">PASSWORD:Need 'Auth' username/password"⟩) false]

/-- The service answers with empty credentials. -/
theorem credentials_lost_in_restart : ¬ ∀ (host : Host) (u : Service.Indeterminate)
    (v : System.Unset) (mPingsLoaded mEnabled : Bool) (as : List DesktopAction),
    Meets (step host) (Agrees host) (initial u v mPingsLoaded mEnabled) as := by
  intro h
  exact absurd (h (.on .linux) .zero .blocking false false restarted) (by decide +kernel)

end Session
end CeloVpn.Client
