import CeloVpn.Common

/-!
# The state of the service

`OpenvpnManager` and the client connections wired to its signals, as one
record. Besides the members of the class it holds what Qt keeps on its behalf
(template requests in flight, armed single shots, released processes), the text
of the service log, and a newest-first history that no code reads.

Everything the outside world decides is asked of a `World`: the n-th question
of a handler is answered by the n-th value.
-/
namespace CeloVpn.Service

inductive Platform
  | windows
  | linux
  | darwin
  deriving DecidableEq, Repr

/-- What is fixed for a whole run of the service: the platform it was built for,
where it is installed, and the function of Qt that completes an address. -/
structure Host where
  platform : Platform
  applicationDirPath : QString
  urlFromUserInput : QString → QString

-- `ServicePathHelper`.
namespace Host

def resourcesPath (host : Host) : QString :=
  match host.platform with
  | .darwin => "/Applications/Celo VPN.app/Contents/Resources".toList
  | _ => host.applicationDirPath

def openvpnFilename (host : Host) : QString :=
  match host.platform with
  | .darwin => host.resourcesPath ++ "/openvpn/openvpn-executable".toList
  | .windows => host.resourcesPath ++ "/OpenVPN/bin/openvpn.exe".toList
  | .linux => "/user/sbin/openvpn".toList

def openvpnRunningScriptFilename (host : Host) : QString :=
  host.resourcesPath ++ "/openvpnRunning.sh".toList

def openvpnLogFilename (host : Host) : QString :=
  host.resourcesPath ++ "/celovpn-openvpn.log".toList

def openvpnConfigFilename (host : Host) : QString :=
  match host.platform with
  | .darwin => "/tmp/celovpn-openvpn.ovpn".toList
  | _ => host.resourcesPath ++ "/celovpn-openvpn.ovpn".toList

def upScriptFilename (host : Host) : QString :=
  host.resourcesPath ++ "/client.up.celovpn.sh".toList

def downScriptFilename (host : Host) : QString :=
  host.resourcesPath ++ "/client.down.celovpn.sh".toList

end Host

/-- What a process listing command returned. -/
structure Listing where
  exitCode : ℤ
  output : QString

/-- A network adapter, with what `ShellExecute` answers when it is switched. -/
structure Adapter where
  description : QString
  friendlyName : QString
  shellResult : ℤ
  lastError : ℤ

/-- The two calls of `GetAdaptersAddresses`. -/
inductive Adapters
  | unavailable
  | failed (code : ℤ)
  | listed (adapters : List Adapter)

/-- The answers one event finds. Listings, clock readings, whether a connection to
the management port is refused on the spot and whether the log file exists are
given by the number of the question; the rest is asked at most once in an event. -/
structure World where
  listing : ℕ → Listing
  clock : ℕ → ℤ
  refused : ℕ → Bool
  logExists : ℕ → Bool
  obfsproxyListing : ℕ → QString
  adapters : Adapters
  configOpens : Bool
  windows10 : Bool
  launchFailure : Option QString
  execResult : ℤ
  processStarts : Bool
  processId : ℤ
  killedExitCode : ℤ
  killedCrashed : Bool
  rightsFailure : Option QString
  netDownOutput : QString
  replyErrorString : QString

/-- The signals of `OpenvpnManager`. -/
inductive Signal
  | stateChanged (state : VpnState)
  | stateWordChanged (word : OpenVPNStateWord)
  | sendError (errorMessage : QString)
  | gotNewIp (ip : QString)
  | timedOut
  | blockOnDisconnect
  | switchingPort (port : QString)
  deriving DecidableEq

/-- `QProcess::ProcessState`. -/
inductive ProcessState
  | notRunning
  | starting
  | running
  deriving DecidableEq, Repr

/-- The management socket: what the code asks of it, and the bytes that arrived
and have not been read. -/
structure QTcpSocket where
  isOpen : Bool
  isValid : Bool
  connected : Bool
  buffer : QByteArray
  deriving DecidableEq

/-- A template request whose reply has not finished. `issue` counts the `start()`
calls up to the request and is read by no code. -/
structure TemplateRequest where
  id : ℕ
  serverKey : ℤ
  url : QString
  issue : ℕ
  failed : Bool
  deriving DecidableEq

/-- A template in the cache. The code keeps the bytes; the request that fetched
them is carried along for the statements about it. -/
structure Template where
  bytes : QByteArray
  request : TemplateRequest
  deriving DecidableEq

/-- An entry of the history. -/
inductive Act
  /-- `openvpnRunning()` returned. -/
  | observed (running : Bool)
  | emitted (signal : Signal)
  /-- `mState` changed; the clock reading of that moment. -/
  | entered (state : VpnState) (now : ℤ)
  /-- `stop()` was called. -/
  | stopped
  /-- A template was requested while so many requests were in flight and had not
  failed. -/
  | requested (outstanding : ℕ)
  /-- openvpn was started with these arguments and this config file, while this was
  the cached template of the attempt. -/
  | launched (args : List QString) (config : QByteArray) (template : Option Template)
  /-- `checkState` gave the attempt up at this clock reading. -/
  | gaveUp (now : ℤ)
  /-- `parseSocketStateWord` is done with a word. -/
  | stateWord (word : QString)
  /-- A client connection was opened in this state of the manager. -/
  | opened (state : VpnState)
  /-- `processError` reported to so many connections in this state. -/
  | processErrored (state : VpnState) (connections : ℕ)
  | wroteSocket (bytes : QByteArray)
  /-- A null `mSocket` was dereferenced. -/
  | nullSocket
  deriving DecidableEq

namespace Act

/-- The config file and the template a launch used. -/
def launch : Act → Option (QByteArray × Option Template)
  | launched _ config template => some (config, template)
  | _ => none

def isLaunch (a : Act) : Bool := a.launch.isSome

end Act

/-- `QVPNClientConnection`: the cached state and the messages written so far. -/
structure QVPNClientConnection where
  id : ℕ
  m_state : VpnState
  sent : List QJsonObject

namespace QVPNClientConnection

def sendMessage (c : QVPNClientConnection) (jObj : QJsonObject) : QVPNClientConnection :=
  { c with sent := c.sent ++ [jObj] }

def vpnStatus (c : QVPNClientConnection) (state : VpnState) : QVPNClientConnection :=
  c.sendMessage [("code".toList, .ofInt notifyStatusChange), ("state".toList, .ofInt state.toInt)]

def vpnStateChanged (c : QVPNClientConnection) (state : VpnState) : QVPNClientConnection :=
  { c with m_state := state }.vpnStatus state

def vpnStateWord (c : QVPNClientConnection) (word : OpenVPNStateWord) : QVPNClientConnection :=
  c.sendMessage [("code".toList, .ofInt notifyStatusWord), ("state".toList, .ofInt word.toInt)]

def vpnError (c : QVPNClientConnection) (message : QString) : QVPNClientConnection :=
  c.sendMessage [("code".toList, .ofInt notifyError), ("message".toList, .string message)]

def gotNewIp (c : QVPNClientConnection) (ip : QString) : QVPNClientConnection :=
  c.sendMessage [("code".toList, .ofInt notifyGotIP), ("ip".toList, .string ip)]

def timedOut (c : QVPNClientConnection) : QVPNClientConnection :=
  c.sendMessage [("code".toList, .ofInt notifyTimeout)]

/-- The slots a connection's constructor wires to the signals of the manager.
`blockOnDisconnect` and `switchingPort` are connected to nothing. -/
def receive (c : QVPNClientConnection) : Signal → QVPNClientConnection
  | .stateChanged state => c.vpnStateChanged state
  | .stateWordChanged word => c.vpnStateWord word
  | .sendError message => c.vpnError message
  | .gotNewIp ip => c.gotNewIp ip
  | .timedOut => c.timedOut
  | .blockOnDisconnect => c
  | .switchingPort _ => c

end QVPNClientConnection

/-- The members the constructor leaves uninitialised, with the values they
happen to hold. -/
structure Indeterminate where
  mLogFilePosition : ℤ
  mProcessing : Bool
  mTunError : Bool
  mError : Bool
  mReconnectAttempt : ℤ
  mServerId : ℤ
  mEncryption : ℤ
  mReconnect : Bool
  mFixDNS : Bool
  mTemplateHasDNSOptions : Bool

/-- The manager with everything wired to it. -/
structure OpenvpnManager where
  mState : VpnState
  /-- Whether `mStateTimer` points to a timer; one that exists is running. -/
  mStateTimer : Bool
  mPID : ℤ
  mSocket : Option QTcpSocket
  mProcess : Option ProcessState
  mFileSystemWatcher : Bool
  mLogFilePosition : ℤ
  mProcessing : Bool
  mTunError : Bool
  mError : Bool
  mPreviousStateWord : QString
  mReconnectAttempt : ℤ
  mStartDateTime : Option ℤ
  mTesting : Bool
  mVPNUsername : QString
  mVPNPassword : QString
  mHostname : QString
  mPort : QString
  mLocalPort : QString
  mTemplateUrl : QString
  mTcpOrUdp : QString
  mServerId : ℤ
  mEncryption : ℤ
  mReconnect : Bool
  mFixDNS : Bool
  mDNS1 : QString
  mDNS2 : QString
  mNetDown : Bool
  mTemplateHasDNSOptions : Bool
  mOvpnTemplate : ℤ → Option Template
  /-- The content of the config file. -/
  configFile : QByteArray
  /-- Template replies that have not finished. -/
  requests : List TemplateRequest
  nextRequest : ℕ
  /-- How many `reconnectTimeout` single shots are armed. -/
  reconnectTimers : ℕ
  /-- Running processes handed to `deleteLater` with their signals connected. -/
  released : ℕ
  connections : List QVPNClientConnection
  nextConnection : ℕ
  /-- How often `start()` was called; read by no code. -/
  starts : ℕ
  /-- How many questions the current event has asked. -/
  asked : ℕ
  /-- The service log, newest line first. -/
  log : List QString
  history : List Act

namespace OpenvpnManager

/-- The object after its constructor. -/
def initial (u : Indeterminate) : OpenvpnManager where
  mState := .disconnected
  mStateTimer := false
  mPID := 0
  mSocket := none
  mProcess := none
  mFileSystemWatcher := false
  mLogFilePosition := u.mLogFilePosition
  mProcessing := u.mProcessing
  mTunError := u.mTunError
  mError := u.mError
  mPreviousStateWord := []
  mReconnectAttempt := u.mReconnectAttempt
  mStartDateTime := none
  mTesting := false
  mVPNUsername := []
  mVPNPassword := []
  mHostname := []
  mPort := []
  mLocalPort := []
  mTemplateUrl := []
  mTcpOrUdp := []
  mServerId := u.mServerId
  mEncryption := u.mEncryption
  mReconnect := u.mReconnect
  mFixDNS := u.mFixDNS
  mDNS1 := []
  mDNS2 := []
  mNetDown := false
  mTemplateHasDNSOptions := u.mTemplateHasDNSOptions
  mOvpnTemplate := fun _ => none
  configFile := []
  requests := []
  nextRequest := 0
  reconnectTimers := 0
  released := 0
  connections := []
  nextConnection := 0
  starts := 0
  asked := 0
  log := []
  history := []

/-- `Log::serviceLog`. -/
def serviceLog (m : OpenvpnManager) (s : QString) : OpenvpnManager :=
  { m with log := s :: m.log }

/-- Enter an act into the history. -/
def note (m : OpenvpnManager) (a : Act) : OpenvpnManager :=
  { m with history := a :: m.history }

/-- The next question of this event is another one. -/
def ask (m : OpenvpnManager) : OpenvpnManager := { m with asked := m.asked + 1 }

/-- Emit a signal: its direct connections run the slots of every client
connection before the emission returns. -/
def emit (m : OpenvpnManager) (signal : Signal) : OpenvpnManager :=
  { m with
    connections := m.connections.map fun c => c.receive signal
    history := .emitted signal :: m.history }

/-- Write to the management socket through `mSocket`. -/
def writeSocket (m : OpenvpnManager) (text : QString) : OpenvpnManager :=
  match m.mSocket with
  | some _ => m.note (.wroteSocket text.toLatin1)
  | none => m.note .nullSocket

/-- `serverKey`, in 32-bit arithmetic. -/
def serverKey (serverId port : ℤ) : ℤ :=
  let portnumber := if port = 1194 then 1 else if port = 53 then 2 else 3
  Int.bmod (serverId * 10 + portnumber) 4294967296

/-- The key under which the present attempt's template is stored and looked up. -/
def currentKey (m : OpenvpnManager) : ℤ := serverKey m.mServerId m.mPort.toInt

end OpenvpnManager
end CeloVpn.Service
