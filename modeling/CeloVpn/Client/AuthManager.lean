import CeloVpn.Common
import Mathlib.Logic.Function.Basic

/-!
# The account of the desktop client

`AuthManager`: the credentials, the list of servers with the containers that hold
indices into it, and the processes that ping the servers. The index containers
outlive the list they refer to, which is why every access to the list and to the
pings is recorded when it is out of range.

What the server sends is given parsed, an XML document as the children of its root
element. A ping process that cannot be started reports it by an event of its own.
-/
namespace CeloVpn.Client

/-- `AServer`, without the load that nothing sets. -/
structure AServer where
  address : QString
  ip : QString
  name : QString
  country : QString
  handlesTcp : Bool
  handlesUdp : Bool
  configUrls : List (ℕ × QString)
  deriving DecidableEq

/-- A child of the root element: its name, the texts of its first `Name` and `IP`
elements, and those of its configuration elements, empty where there is none. -/
structure ServerNode where
  nodeName : QString
  nameNode : Option QString
  ipNode : Option QString
  config443 : QString
  config53 : QString
  config1194 : QString

/-- What `mReply` holds when it is finished. -/
inductive ServersReply
  | error (errorString : QString)
  | empty
  | malformed (message : QString) (line column : ℤ)
  | document (nodes : List ServerNode)

/-- The signals of `AuthManager` that a login or logout emits. -/
inductive AuthSignal
  | serverListsLoaded
  | loginCompleted
  | loginError (message : QString)
  | logoutCompleted
  deriving DecidableEq

/-- A ping process of a worker: whether it is connected and can still signal. -/
structure QProcess where
  live : Bool

/-- The single-shot timer of a worker: whether it is running, and how often its
timeout is connected to the worker. -/
structure QTimer where
  active : Bool
  connections : ℕ

/-- `PINGWORKERS_NUM`. -/
def pingWorkersNum : ℕ := 5

structure AuthManager where
  mLoggedIn : Bool
  mCancellingLogin : Bool
  mVPNLogin : QString
  mVPNPassword : QString
  /-- `mReply` has not finished. -/
  replyPending : Bool
  mServers : List AServer
  /-- `mServerIds[ENCRYPTION_RSA]`, the only entry of the array. -/
  mServerIds : List ℕ
  mTcpServerIds : List ℕ
  mUdpServerIds : List ℕ
  mServerNameToId : List (QString × ℕ)
  /-- The pings, minus one where there is none. -/
  mPings : List ℤ
  mToPing : List ℕ
  mPingsLoaded : Bool
  /-- The size of the vectors with an entry for each worker. -/
  workers : ℕ
  mWorkers : ℕ → Option QProcess
  mInProgress : ℕ → ℕ
  mTimers : ℕ → QTimer
  /-- Some access to `mServers` or `mPings` was out of range. -/
  outOfRange : Bool
  /-- The signals emitted, newest first. -/
  signals : List AuthSignal

namespace AuthManager

/-- The object after its constructor; one member is left as it is found. -/
def initial (mPingsLoaded : Bool) : AuthManager where
  mLoggedIn := false
  mCancellingLogin := false
  mVPNLogin := []
  mVPNPassword := []
  replyPending := false
  mServers := []
  mServerIds := []
  mTcpServerIds := []
  mUdpServerIds := []
  mServerNameToId := []
  mPings := []
  mToPing := []
  mPingsLoaded := mPingsLoaded
  workers := 0
  mWorkers := fun _ => none
  mInProgress := fun _ => 0
  mTimers := fun _ => ⟨false, 0⟩
  outOfRange := false
  signals := []

def emit (signal : AuthSignal) (m : AuthManager) : AuthManager :=
  { m with signals := signal :: m.signals }

/-- `mServers.at(i)`. -/
def readServer (i : ℕ) (m : AuthManager) : AuthManager :=
  { m with outOfRange := m.outOfRange || !decide (i < m.mServers.length) }

/-- `mPings[i] = p`. -/
def writePing (i : ℕ) (p : ℤ) (m : AuthManager) : AuthManager :=
  { m with
    outOfRange := m.outOfRange || !decide (i < m.mPings.length)
    mPings := m.mPings.set i p }

/-- A process of the worker before this one is disconnected and given up. -/
def startWorker (id : ℕ) (m : AuthManager) : AuthManager :=
  match m.mToPing with
  | srv :: rest =>
    let m := ({ m with mToPing := rest }).readServer srv
    { m with
      mInProgress := Function.update m.mInProgress id srv
      mWorkers := Function.update m.mWorkers id (some ⟨true⟩)
      mTimers := Function.update m.mTimers id ⟨true, (m.mTimers id).connections + 1⟩ }
  | [] => { m with mPingsLoaded := true }

/-- `mTimers.at(id)->stop()`; a single shot that fires stops as well. -/
def stopTimer (id : ℕ) (m : AuthManager) : AuthManager :=
  { m with mTimers := Function.update m.mTimers id { m.mTimers id with active := false } }

/-- The process of a worker is over. -/
def endProcess (id : ℕ) (m : AuthManager) : AuthManager :=
  { m with mWorkers := Function.update m.mWorkers id (some ⟨false⟩) }

/-- `p` is what `extractPing` finds in the output of the process. -/
def pingComplete (id : ℕ) (p : ℤ) (m : AuthManager) : AuthManager :=
  let m := (m.stopTimer id).readServer (m.mInProgress id)
  (m.writePing (m.mInProgress id) p).startWorker id

def pingError (id : ℕ) (p : ℤ) (m : AuthManager) : AuthManager :=
  let m := m.stopTimer id
  (m.writePing (m.mInProgress id) p).startWorker id

/-- The process is told to terminate; what comes of it is an event of its own. -/
def pingTerminated (id : ℕ) (p : ℤ) (m : AuthManager) : AuthManager :=
  (m.writePing (m.mInProgress id) p).startWorker id

/-- A timer runs out: one call for each connection. -/
def timerTerminate (id : ℕ) (p : ℕ → ℤ) (m : AuthManager) : AuthManager :=
  (List.range (m.mTimers id).connections).foldl (fun m i => m.pingTerminated id (p i))
    (m.stopTimer id)

/-- The loop over the workers. -/
def startWorkers (m : AuthManager) : AuthManager :=
  (List.range m.workers).foldl (fun m k => if m.mToPing.isEmpty then m else m.startWorker k) m

def pingAllServers (m : AuthManager) : AuthManager :=
  let m := { m with
    mPings := m.mPings ++ List.replicate (m.mServers.length - m.mPings.length) (-1)
    mToPing := m.mToPing ++ List.range m.mServers.length }
  let m := if m.workers = 0 then { m with mInProgress := fun _ => 0, workers := pingWorkersNum }
    else m
  ({ m with mPingsLoaded := false }).startWorkers

def clearServerLists (m : AuthManager) : AuthManager :=
  { m with mServerNameToId := [], mServers := [], mPings := [] }

/-- The server a node describes, if it has a name and both elements. -/
def server? (se : ServerNode) : Option AServer :=
  match se.nameNode, se.ipNode with
  | some nameNode, some ipNode =>
    if se.nodeName.isEmpty then none
    else some {
      address := nameNode
      ip := ipNode
      name := se.nodeName
      country := se.nodeName
      handlesTcp := true
      handlesUdp := true
      configUrls := [(443, se.config443), (53, se.config53), (1194, se.config1194)] }
  | _, _ => none

/-- One round of the loop over the nodes. -/
def addServer (m : AuthManager) (se : ServerNode) : AuthManager :=
  match server? se with
  | none => m
  | some s2 =>
    let m := { m with mServers := m.mServers ++ [s2] }
    let serverId := m.mServers.length - 1
    { m with
      mServerIds := m.mServerIds ++ [serverId]
      mTcpServerIds := if s2.handlesTcp then m.mTcpServerIds ++ [serverId] else m.mTcpServerIds
      mUdpServerIds := if s2.handlesUdp then m.mUdpServerIds ++ [serverId] else m.mUdpServerIds }

/-- The message returned, empty where the login succeeds. -/
def processServersXml (reply : ServersReply) (testing : Bool) (m : AuthManager) :
    QString × AuthManager :=
  let m := m.clearServerLists
  match reply with
  | .error errorString => (errorString, { m with mLoggedIn := false })
  | .empty =>
    ("Cannot get server list xml. Server response is empty.".toList, { m with mLoggedIn := false })
  | .malformed message line column =>
    ("Error parsing server XML response\nmessage: ".toList ++ message ++ "\nline: ".toList ++
      QString.number line ++ "\ncolumn: ".toList ++ QString.number column ++ "\n".toList,
      { m with mLoggedIn := false })
  | .document [] =>
    ("Incorrect credentials. Make sure to use your VPN credentials and not your email.".toList,
      { m with mLoggedIn := false })
  | .document nodes =>
    let m := (({ nodes.foldl addServer m with mLoggedIn := true } : AuthManager)).emit
      .serverListsLoaded
    ([], if testing then m else m.pingAllServers)

/-- The slot of the reply; it has finished before. -/
def loginFinished (reply : ServersReply) (testing : Bool) (m : AuthManager) : AuthManager :=
  let processed := ({ m with replyPending := false }).processServersXml reply testing
  processed.2.emit (if processed.1.isEmpty then .loginCompleted else .loginError processed.1)

/-- The credentials are sent to the service in between. -/
def login (name password : QString) (m : AuthManager) : AuthManager :=
  { m with
    mVPNLogin := name
    mVPNPassword := password
    mLoggedIn := true
    mCancellingLogin := false
    replyPending := true }

/-- `mReply->abort()` finishes a reply that is pending before it returns. -/
def abortReply (m : AuthManager) : AuthManager :=
  if m.replyPending then m.loginFinished (.error "Operation canceled".toList) false else m

def cancel (m : AuthManager) : AuthManager := ({ m with mCancellingLogin := true }).abortReply

def logout (m : AuthManager) : AuthManager :=
  ({ m.cancel with mLoggedIn := false, mVPNLogin := [], mVPNPassword := [] } : AuthManager).emit
    .logoutCompleted

/-- What happens to the account. -/
inductive Event
  | login (name password : QString)
  | cancel
  | logout
  /-- The reply of the last login finishes. -/
  | replyFinished (reply : ServersReply) (testing : Bool)
  /-- A ping process ends; the ping found in its output. -/
  | pingFinished (id : ℕ) (p : ℤ)
  /-- A ping process reports an error, which may be its end. -/
  | pingErrorOccurred (id : ℕ) (ends : Bool) (p : ℤ)
  /-- A timer runs out; the pings found call by call. -/
  | timeout (id : ℕ) (p : ℕ → ℤ)

/-- The process of a worker can still signal. -/
def processLives (id : ℕ) (m : AuthManager) : Bool := (m.mWorkers id).any (·.live)

/-- One event; one whose source is not pending leaves the state alone. -/
def step (m : AuthManager) : Event → AuthManager
  | .login name password => m.login name password
  | .cancel => m.cancel
  | .logout => m.logout
  | .replyFinished reply testing => if m.replyPending then m.loginFinished reply testing else m
  | .pingFinished id p => if m.processLives id then (m.endProcess id).pingComplete id p else m
  | .pingErrorOccurred id ends p =>
    if m.processLives id then (if ends then m.endProcess id else m).pingError id p else m
  | .timeout id p => if (m.mTimers id).active then m.timerTerminate id p else m

/-- The reply an event hands to `processServersXml`, and whether the client is in
testing mode then. -/
def processes (m : AuthManager) : Event → Option (ServersReply × Bool)
  | .replyFinished reply testing => if m.replyPending then some (reply, testing) else none
  | .cancel | .logout =>
    if m.replyPending then some (.error "Operation canceled".toList, false) else none
  | _ => none

end AuthManager
end CeloVpn.Client
