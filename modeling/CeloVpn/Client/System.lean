import CeloVpn.Client.Manager
import CeloVpn.Service.Events

/-!
# The desktop client and the service

The two programs joined by the local socket. Each acts on its own; between them
lie the commands the service has not read and the notifications the client has
not handled. The service has other clients, its timers and its openvpn, and may
be restarted; the connection may break and be made anew. A notification carries
along whether the service made it while it executed a start or a stop of this
client, which neither program reads.
-/
namespace CeloVpn.Client
open Service (OpenvpnManager World Host)

/-- A message on its way to the client. -/
structure Notification where
  object : QJsonObject
  own : Bool

namespace Notification

/-- A change of state to disconnected. -/
def isDisconnected (n : Notification) : Bool :=
  (n.object.value "code".toList).toInt == notifyStatusChange &&
    (n.object.value "state".toList).toInt == VpnState.disconnected.toInt

end Notification

structure System where
  manager : VPNServiceManager
  incoming : List Notification
  service : OpenvpnManager

/-- What the two programs do, each with the answers it finds. -/
inductive Action
  | connect (s : Surroundings)
  | disconnect (s : Surroundings)
  | credentials (s : Surroundings)
  /-- The port dialog is closed. -/
  | portDialog (s : Surroundings) (accepted isCyclePort : Bool)
  | setBlockOnDisconnect (v : Bool)
  | setLoggedIn (v : Bool)
  /-- The client handles the next notification. -/
  | handle (s : Surroundings)
  /-- The next notification cannot be read, as when it is split between two reads. -/
  | garble
  /-- The service accepts the client's connection. -/
  | accept (w : World)
  /-- The service executes the next command of the client; a line it cannot parse
  becomes the empty object. -/
  | execute (w : World) (line : QByteArray) (parses : Bool)
  /-- Any other callback of the service. -/
  | service (e : Service.Event)
  /-- The connection breaks, and so much of what was on its way still arrives. -/
  | broken (w : World) (arrives : ℕ)
  /-- The service begins anew. -/
  | restart (u : Service.Indeterminate) (arrives : ℕ)
  /-- The client learns that its connection is gone. -/
  | socketDisconnected (arrives : ℕ)

namespace System
variable (host : Host)

/-- The service's number of the client's connection. -/
def client (s : System) : Option ℕ := s.manager.link.bind (·.client)

/-- What was written to a connection of the service. -/
def sentTo (client : ℕ) (m : OpenvpnManager) : List QJsonObject :=
  ((m.connections.find? (·.id == client)).map (·.sent)).getD []

/-- Let the service take an event; what it writes to the client is on its way. -/
def serve (own : Bool) (e : Service.Event) (s : System) : System :=
  let after := s.service.step host e
  let written := match s.client with
    | some client => (sentTo client after).drop (sentTo client s.service).length
    | none => []
  { s with service := after, incoming := s.incoming ++ written.map fun object => ⟨object, own⟩ }

/-- The command is a start or a stop. -/
def isStartOrStop (jObj : QJsonObject) : Bool :=
  (jObj.value "cmd".toList).toInt == cmdStart || (jObj.value "cmd".toList).toInt == cmdStop

/-- The callback belongs to the connection of this client. -/
def concerns (client : ℕ) : Service.Callback → Bool
  | .command client' _ _ => client' == client
  | .connectionClosed client' => client' == client
  | _ => false

/-- The connection is gone on both sides. -/
def cut (w : World) (arrives : ℕ) (s : System) : System :=
  let service := match s.client with
    | some client => s.service.step host ⟨w, .connectionClosed client⟩
    | none => s.service
  { s with
    manager := { s.manager with link := none }
    incoming := s.incoming.take arrives
    service := service }

def step (s : System) : Action → System
  | .connect t => { s with manager := s.manager.sendConnectToVPNRequest t }
  | .disconnect t => { s with manager := s.manager.sendDisconnectFromVPNRequest t }
  | .credentials t => { s with manager := s.manager.sendCredentials t }
  | .portDialog t accepted isCyclePort =>
    if s.manager.portDialog then
      { s with manager := s.manager.portDialogResult t accepted isCyclePort }
    else s
  | .setBlockOnDisconnect v => { s with manager := { s.manager with blockOnDisconnect := v } }
  | .setLoggedIn v => { s with manager := { s.manager with loggedIn := v } }
  | .handle t =>
    match s.incoming with
    | n :: rest => { s with manager := s.manager.notified t n.object, incoming := rest }
    | [] => s
  | .garble => { s with incoming := s.incoming.tail }
  | .accept w =>
    match s.manager.link with
    | some ⟨none, outgoing⟩ =>
      let s' := s.serve host false ⟨w, .connectionOpened⟩
      { s' with manager := { s.manager with
          link := some ⟨some s.service.nextConnection, outgoing⟩ } }
    | _ => s
  | .execute w line parses =>
    match s.manager.link with
    | some ⟨some client, object :: outgoing⟩ =>
      let jObj := if parses then object else []
      let s' := s.serve host (isStartOrStop jObj) ⟨w, .command client line jObj⟩
      { s' with manager := { s.manager with link := some ⟨some client, outgoing⟩ } }
    | _ => s
  | .service e => if s.client.any fun c => concerns c e.callback then s else s.serve host false e
  | .broken w arrives => s.cut host w arrives
  | .restart u arrives =>
    { s with
      manager := { s.manager with link := none }
      incoming := s.incoming.take arrives
      service := .initial u }
  | .socketDisconnected arrives =>
    if s.manager.link.isNone then
      { s with
        manager := s.manager.socketDisconnected
        incoming := s.incoming.take arrives }
    else s

/-- The notification an action handles. -/
def handling (s : System) : Action → Option Notification
  | .handle _ => s.incoming.head?
  | _ => none

/-- What the members and settings hold at the start that no code has set. -/
structure Unset where
  mState : ℤ
  mChangingPorts : Bool
  blockOnDisconnect : Bool
  authManagerExists : Bool
  loggedIn : Bool

/-- Both programs just constructed. -/
def initial (u : Service.Indeterminate) (v : Unset) : System where
  manager :=
    { mConnected := false
      mState := v.mState
      mChangingPorts := v.mChangingPorts
      mInPortLoop := false
      mPortDialogShown := false
      mUserRequestedDisconnect := false
      link := none
      blockOnDisconnect := v.blockOnDisconnect
      authManagerExists := v.authManagerExists
      loggedIn := v.loggedIn
      portDialog := false
      history := [] }
  incoming := []
  service := .initial u

end System

/-- Settings that reach the service at once, for runs on given actions. -/
def Surroundings.server (serverID : ℤ) (template : String) : Surroundings where
  reachesAtOnce := true
  reachesLater := true
  encryption := 0
  serverID := serverID
  serverAddress := "vpn.example".toList
  port := "1194".toList
  template := template.toList
  localPort := "9020".toList
  tcpOrUdp := "tcp".toList
  fixDns := true
  dns1 := []
  dns2 := []
  defaultDNS1 := "8.8.8.8".toList
  defaultDNS2 := "8.8.4.4".toList
  vpnName := "user".toList
  vpnPassword := "secret".toList

/-- A client that connects to a server until openvpn reports the connection. -/
def connecting : List Action :=
  [.connect (.server 7 "template 7"), .accept (World.quiet 0),
    .execute (World.quiet 1000) [] true, .service ⟨World.quiet 2000, .templateFinished 0 []⟩,
    .service ⟨World.busy 3000, .line "1,CONNECTED,SUCCESS,10.8.0.6,"⟩]

/-- A client whose user is logged in and wants traffic blocked. -/
def System.Unset.blocking : System.Unset := ⟨0, false, true, true, true⟩

end CeloVpn.Client
