import CeloVpn.Client.AuthManager
import CeloVpn.Client.System
import CeloVpn.Wire

/-!
# The desktop client with its account and its log

Around the client and the service stand the account, whose login sends the
credentials, and the log of the client. A command reaches the service as the text that
is on the wire. Of the client's log the model keeps what the manager and a login write;
the rest of the client, which never reads the password, logs what it likes.
-/
namespace CeloVpn.Client
open Service (Host World)

namespace VPNServiceManager
variable (s : Surroundings) (pending : Bool) (m : VPNServiceManager)

def connectToCoreLog (reaches : Bool) (m : VPNServiceManager) : List QString :=
  "Trying to connect to service ".toList ::
    if m.link.isSome then []
    else if reaches then ["Connect to celovpn service suceeded".toList]
    else ["Could not connect to celovpn service within half a second".toList]

def ensureConnectedLog : List QString :=
  if m.mConnected then []
  else
    let first := m.connectToCore s.reachesAtOnce
    m.connectToCoreLog s.reachesAtOnce ++
      if first.1 then [] else first.2.connectToCoreLog s.reachesLater

/-- `pending` when the bytes are not written in time. -/
def sendCommandLog (object : QJsonObject) : List QString :=
  [(if pending then "Pending sending command ".toList else "Sent command ".toList) ++
    Wire.strJson object]

/-- What the functions that send a command have in common. -/
def requestLog (called sending : String) (unreachable : List QString) (object : QJsonObject) :
    List QString :=
  called.toList :: m.ensureConnectedLog s ++
    if (m.ensureConnected s).1 then sending.toList :: sendCommandLog pending object
    else unreachable

/-- The object of a `cmdSetCredentials`. -/
def credentialsObject (vpnName vpnPassword : QString) : QJsonObject :=
  [("cmd".toList, .ofInt cmdSetCredentials), ("vpnusername".toList, .string vpnName),
    ("vpnpassword".toList, .string vpnPassword)]

def sendCredentialsLog : List QString :=
  m.requestLog s pending "sendCredentials called" "Sending command 'cmdSetCredentials'" []
    (credentialsObject s.vpnName s.vpnPassword)

def sendConnectToVPNRequestLog : List QString :=
  m.requestLog s pending "sendConnectToVPNRequest called" "Sending command 'connectToVPN'"
    ["socket to send connect command to is not open".toList] (startObject s)

def sendDisconnectFromVPNRequestLog : List QString :=
  m.requestLog s pending "sendDisconnectFromVPNRequest called"
    "Sending command 'disconnectFromVPN'"
    ["gui is not connected to celovpn service to send disconnect from vpn command".toList]
    [("cmd".toList, .ofInt cmdStop)]

/-- A notification is logged only where it makes the client send a command. -/
def notifiedLog (object : QJsonObject) : List QString :=
  if (object.value "code".toList).toInt = notifyTimeout ∧ m.mInPortLoop = true then
    m.sendConnectToVPNRequestLog s pending
  else []

end VPNServiceManager

/-- What an action makes the manager write to the log. -/
def System.log (pending : Bool) (s : System) : Action → List QString
  | .connect t => s.manager.sendConnectToVPNRequestLog t pending
  | .disconnect t => s.manager.sendDisconnectFromVPNRequestLog t pending
  | .portDialog t accepted _ =>
    if s.manager.portDialog ∧ accepted then s.manager.sendConnectToVPNRequestLog t pending else []
  | .handle t =>
    match s.incoming with
    | n :: _ => s.manager.notifiedLog t pending n.object
    | [] => []
  | _ => []

/-- The event of the service that an action is. -/
def System.event (s : System) : Action → Option Service.Event
  | .accept w =>
    match s.manager.link with
    | some ⟨none, _⟩ => some ⟨w, .connectionOpened⟩
    | _ => none
  | .execute w line parses =>
    match s.manager.link with
    | some ⟨some client, object :: _⟩ =>
      some ⟨w, .command client line (if parses then object else [])⟩
    | _ => none
  | .service e => if s.client.any fun c => concerns c e.callback then none else some e
  | .broken w _ => s.client.map fun client => ⟨w, .connectionClosed client⟩
  | _ => none

structure Desktop where
  system : System
  account : AuthManager
  /-- `Log::mEnabled` of the client; the service always logs. -/
  mEnabled : Bool
  /-- The log of the client, newest line first. -/
  log : List QString
  /-- What the services before the present one wrote to the service log. -/
  formerLog : List QString

/-- The action is taken as it is. Sending the credentials is part of a login, and a
command is executed as it arrives. -/
def Action.stands : Action → Bool
  | .credentials _ => false
  | .execute _ _ _ => false
  | _ => true

/-- The action begins the service anew. -/
def Action.restarts : Action → Bool
  | .restart _ _ => true
  | _ => false

inductive DesktopAction
  /-- Something happens to the account; a login sends the credentials. -/
  | account (e : AuthManager.Event) (s : Surroundings) (pending : Bool)
  /-- What else the two programs do. -/
  | system (a : Action) (pending : Bool) (h : a.stands = true := by rfl)
  /-- The service executes the next command of the client. -/
  | execute (w : World)
  /-- Bytes of a command arrive at the service. -/
  | readyRead
  | setLogging (value : Bool)
  /-- The rest of the client writes to the log. -/
  | logt (line : QString)

/-- The service begins anew. -/
def DesktopAction.restarts : DesktopAction → Bool
  | .system a _ _ => a.restarts
  | _ => false

/-- The log that a line is in. -/
inductive LogFile
  | client
  | service

/-- What a connection sends of the account. -/
def Surroundings.of (account : AuthManager) (s : Surroundings) : Surroundings :=
  { s with vpnName := account.mVPNLogin, vpnPassword := account.mVPNPassword }

namespace Desktop
variable (host : Host)

/-- `Log::logt`. -/
def write (lines : List QString) (d : Desktop) : Desktop :=
  if d.mEnabled then { d with log := lines.reverse ++ d.log } else d

/-- What `AuthManager::login` does once the credentials are stored. -/
def sendCredentials (s : Surroundings) (pending : Bool) (d : Desktop) : Desktop :=
  { d with system := d.system.step host (.credentials (s.of d.account)) }.write
    (d.system.manager.sendCredentialsLog (s.of d.account) pending ++
      ["request url is https://celo.net/celo-ovpn-servers.xml".toList])

/-- The log the service leaves behind when it begins anew. -/
def ended (d : Desktop) : Action → List QString
  | .restart _ _ => d.system.service.log ++ d.formerLog
  | _ => d.formerLog

def step (d : Desktop) : DesktopAction → Desktop
  | .account e s pending =>
    let d := { d with account := d.account.step e }
    match e with
    | .login _ _ => d.sendCredentials host s pending
    | _ => d
  | .system a pending _ =>
    { d with system := d.system.step host a, formerLog := d.ended a }.write
      (d.system.log pending a)
  | .execute w =>
    match d.system.manager.link with
    | some ⟨some client, object :: outgoing⟩ =>
      let manager := { d.system.manager with
        link := some ⟨some client, Wire.received object :: outgoing⟩ }
      let arrived := { d.system with manager := manager }
      { d with system := arrived.step host (.execute w (Wire.command object) true) }
    | _ => d
  | .readyRead =>
    { d with system := { d.system with
        service := d.system.service.serviceLog "socket_readyRead".toList } }
  | .setLogging value => { d with mEnabled := value }
  | .logt line => d.write [line]

/-- The event of the service that a step is. -/
def event (d : Desktop) : DesktopAction → Option Service.Event
  | .system a _ _ => d.system.event a
  | .execute w =>
    match d.system.manager.link with
    | some ⟨some client, object :: _⟩ =>
      some ⟨w, .command client (Wire.command object) (Wire.received object)⟩
    | _ => none
  | _ => none

/-- The two logs, newest line first. -/
def logs (d : Desktop) : LogFile → List QString
  | .client => d.log
  | .service => d.system.service.log ++ d.formerLog

/-- Both programs just constructed. -/
def initial (u : Service.Indeterminate) (v : System.Unset) (mPingsLoaded mEnabled : Bool) :
    Desktop where
  system := .initial u v
  account := .initial mPingsLoaded
  mEnabled := mEnabled
  log := []
  formerLog := []

end Desktop

/-- A service that is not begun anew takes the event of the action. -/
theorem System.step_service (host : Host) (s : System) {a : Action} (h : a.restarts = false) :
    (s.step host a).service = (s.event a).elim s.service (s.service.step host) := by
  cases a with
  | portDialog t accepted isCyclePort =>
    unfold System.step
    dsimp only
    split_ifs <;> rfl
  | handle t =>
    rw [System.step]
    split <;> rfl
  | accept w =>
    rcases hlink : s.manager.link with _ | ⟨_ | client, outgoing⟩ <;>
      simp only [System.step, event, hlink] <;> rfl
  | execute w line parses =>
    rcases hlink : s.manager.link with _ | ⟨_ | client, _ | ⟨object, outgoing⟩⟩ <;>
      simp only [System.step, event, hlink] <;> rfl
  | service e =>
    rw [System.step, event]
    split_ifs <;> rfl
  | broken w arrives =>
    rw [System.step, event, cut]
    cases s.client <;> rfl
  | restart u arrives => cases h
  | socketDisconnected arrives =>
    unfold System.step
    dsimp only
    split_ifs <;> rfl
  | _ => rfl

namespace Desktop
variable (host : Host) (d : Desktop)

@[simp] theorem write_system (lines : List QString) : (d.write lines).system = d.system := by
  unfold write
  split_ifs <;> rfl

@[simp] theorem write_formerLog (lines : List QString) :
    (d.write lines).formerLog = d.formerLog := by
  unfold write
  split_ifs <;> rfl

/-- A command is executed as it arrives, and is on its way no longer. -/
theorem step_execute {client : ℕ} {object : QJsonObject} {outgoing : List QJsonObject} (w : World)
    (h : d.system.manager.link = some ⟨some client, object :: outgoing⟩) :
    d.step host (.execute w) = { d with system :=
      { d.system.serve host (System.isStartOrStop (Wire.received object))
          ⟨w, .command client (Wire.command object) (Wire.received object)⟩ with
        manager := { d.system.manager with link := some ⟨some client, outgoing⟩ } } } := by
  simp only [step, h, System.step, System.serve, System.client]
  rfl

/-- A service that is not begun anew takes the event of the step. -/
theorem step_service {a : DesktopAction} (h : a.restarts = false) (hread : a ≠ .readyRead) :
    (d.step host a).system.service = (d.event a).elim d.system.service
      (d.system.service.step host) := by
  cases a with
  | account e s pending =>
    cases e with
    | login name password => simp [step, sendCredentials, System.step, event]
    | _ => rfl
  | system b pending hb =>
    rw [step, write_system]
    exact d.system.step_service host h
  | execute w =>
    rcases hlink : d.system.manager.link with _ | ⟨_ | client, _ | ⟨object, outgoing⟩⟩ <;>
      simp only [step, event, hlink] <;> rfl
  | readyRead => exact absurd rfl hread
  | setLogging value => rfl
  | logt line => simp [step, event]

end Desktop
end CeloVpn.Client
