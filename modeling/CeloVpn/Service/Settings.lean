import CeloVpn.Service.Simulation

/-!
# What the commands leave in the manager

Credentials, the arguments of `start()` and the switches for testing, reconnecting and
a network that is down: few handlers touch them. A start takes new arguments, the
credentials and the network have commands of their own, a failed bind moves on to the
next port, and every other handler keeps them all. What was written to the service
log stays there. Both are said of every handler at once.
-/
namespace CeloVpn

/-- A name with its password. -/
structure Credentials where
  name : QString
  password : QString
  deriving DecidableEq

namespace Service

structure Settings where
  credentials : Credentials
  attempt : OpenvpnManager.Attempt
  /-- How often `start()` was called. -/
  starts : ℕ
  mReconnect : Bool
  mTesting : Bool
  mNetDown : Bool

/-- The adapter is none that `netDown` passes over, and its command is executed. -/
def Adapter.switched (p : Adapter) : Bool :=
  let skips (t : String) := p.description.indexOfText t.toList 0 > -1
  !decide (skips "TAP-Windows" ∨ skips "WAN Miniport" ∨ skips "Kernel Debug" ∨ skips "ISATAP" ∨
    skips "Tunelling" ∨ p.friendlyName.indexOfText "isatap".toList 0 > -1) &&
      !decide (p.shellResult ≤ 32)

/-- `netDown` switches an adapter, or runs the script that does. -/
def switchesNetwork (host : Host) (w : World) (down : Bool) : Bool :=
  match host.platform with
  | .windows => match w.adapters with
    | .listed adapters => adapters.any (·.switched)
    | _ => false
  | _ => down && w.rightsFailure.isNone

/-- The line reports a bind that failed, and is not skipped. -/
def bindFails (s : QString) : Bool :=
  !s.containsFolded "MANAGEMENT: CMD 'state'".toList &&
    s.contains "Socket bind failed on local address".toList

/-- An event that may begin to watch the log file. -/
def Callback.watches : Callback → Bool
  | .templateFinished _ _ => true
  | .processDied _ _ _ => true
  | _ => false

namespace Settings

def netDown (host : Host) (w : World) (down : Bool) (c : Settings) : Settings :=
  { c with mNetDown := c.mNetDown || switchesNetwork host w down }

/-- The next port number. -/
def switchPort (c : Settings) : Settings :=
  { c with attempt := { c.attempt with
      port := QString.number (Int.bmod (c.attempt.port.toInt + 1) 4294967296) } }

def readLine (c : Settings) (s : QString) : Settings := if bindFails s then c.switchPort else c

/-- The lines of the log change nothing but the port. -/
theorem foldl_readLine (lines : List QString) (c : Settings) : ∃ port,
    lines.foldl readLine c = { c with attempt := { c.attempt with port := port } } := by
  induction lines generalizing c with
  | nil => exact ⟨c.attempt.port, rfl⟩
  | cons s lines ih =>
    rw [List.foldl_cons, readLine]
    split_ifs
    · obtain ⟨port, h⟩ := ih c.switchPort
      exact ⟨port, h⟩
    · exact ih c

theorem readLine_of_binds {c : Settings} {s : QString} (h : bindFails s = false) :
    c.readLine s = c := by
  rw [readLine, h, if_neg Bool.false_ne_true]

/-- And where no bind has failed they change nothing. -/
theorem foldl_readLine_of_binds {lines : List QString} (h : ∀ s ∈ lines, bindFails s = false)
    (c : Settings) : lines.foldl readLine c = c := by
  induction lines with
  | nil => rfl
  | cons s lines ih =>
    obtain ⟨hs, hlines⟩ := List.forall_mem_cons.mp h
    rw [List.foldl_cons, readLine_of_binds hs, ih hlines]

def start (a : OpenvpnManager.Attempt) (c : Settings) : Settings :=
  { c with attempt := a, starts := c.starts + 1 }

/-- What a command makes of them. -/
def command (host : Host) (w : World) (jObj : QJsonObject) (c : Settings) : Settings :=
  let cmd := (jObj.value "cmd".toList).toInt
  if cmd = cmdSetCredentials then
    { c with credentials :=
      ⟨(jObj.value "vpnusername".toList).toString, (jObj.value "vpnpassword".toList).toString⟩ }
  else if cmd = cmdNetdown then c.netDown host w true
  else if cmd = cmdStart then (c.netDown host w false).start (OpenvpnManager.attemptOf jObj)
  else c

end Settings

namespace OpenvpnManager

def credentials (m : OpenvpnManager) : Credentials := ⟨m.mVPNUsername, m.mVPNPassword⟩

def settings (m : OpenvpnManager) : Settings where
  credentials := m.credentials
  attempt :=
    { encryption := m.mEncryption
      serverId := m.mServerId
      server := m.mHostname
      port := m.mPort
      templateUrl := m.mTemplateUrl
      localPort := m.mLocalPort
      tcpOrUdp := m.mTcpOrUdp
      fixDNS := m.mFixDNS
      dns1 := m.mDNS1
      dns2 := m.mDNS2 }
  starts := m.starts
  mReconnect := m.mReconnect
  mTesting := m.mTesting
  mNetDown := m.mNetDown

/-- The settings are these, the log began with this, and `mTunError` is set or the log
file watched only under these conditions. -/
def Keeps (c : Settings) (l : List QString) (tun watched : Prop) (m : OpenvpnManager) : Prop :=
  m.settings = c ∧ l <:+ m.log ∧ (m.mTunError = true → tun) ∧
    (m.mFileSystemWatcher = true → watched)

/-- Where reading the log file begins: anew, where the file is shorter than what was
read of it. -/
def readFrom (position : ℤ) (file : QByteArray) : ℤ :=
  if position > file.length then 0 else position

/-- What is read of the log file. -/
def unreadLog (position : ℤ) : Option QByteArray → QByteArray
  | none => []
  | some file =>
    if readFrom position file + 1 < file.length then file.drop (readFrom position file).toNat
    else []

theorem readLog_fst (content : Option QByteArray) (m : OpenvpnManager) :
    (m.readLog content).1 = unreadLog m.mLogFilePosition content := by
  cases content with
  | none => rfl
  | some file =>
    unfold readLog unreadLog readFrom
    dsimp only
    split_ifs <;> rfl

/-- The lines of what is read. -/
def linesOf (bytes : QByteArray) : List QString :=
  if bytes.isEmpty then [] else (QString.ofBytes bytes).splitSkipEmpty '\n'

/-- The lines `openvpnLogfileChanged` hands to the parser. -/
def logLines (content : Option QByteArray) (m : OpenvpnManager) : List QString :=
  if m.mProcessing || m.mError then [] else linesOf (unreadLog m.mLogFilePosition content)

section Keeps
variable (host : Host) (w : World) {c : Settings} {l : List QString} {tun watched : Prop}
  {m : OpenvpnManager}

theorem Keeps.refl (m : OpenvpnManager) :
    Keeps m.settings m.log (m.mTunError = true) (m.mFileSystemWatcher = true) m :=
  ⟨rfl, List.suffix_rfl, id, id⟩

theorem Keeps.weaken {watched' : Prop} (hw : watched → watched') (h : Keeps c l tun watched m) :
    Keeps c l tun watched' m := ⟨h.1, h.2.1, h.2.2.1, fun hm => hw (h.2.2.2 hm)⟩

theorem Keeps.serviceLog (s : QString) (h : Keeps c l tun watched m) :
    Keeps c l tun watched (m.serviceLog s) :=
  ⟨h.1, h.2.1.trans (List.suffix_cons _ _), h.2.2⟩

theorem Keeps.unwatch (h : Keeps c l tun watched m) :
    Keeps c l tun watched { m with mFileSystemWatcher := false } := ⟨h.1, h.2.1, h.2.2.1, nofun⟩

/-- Clearing the flags keeps whatever may be said of `mTunError`. -/
theorem Keeps.clear {any : Prop} (h : Keeps c l tun watched m) :
    Keeps c l any watched { m with mTunError := false, mError := false, mProcessing := false } :=
  ⟨h.1, h.2.1, nofun, h.2.2.2⟩

theorem Keeps.note (a : Act) (h : Keeps c l tun watched m) : Keeps c l tun watched (m.note a) := h

theorem Keeps.ask (h : Keeps c l tun watched m) : Keeps c l tun watched m.ask := h

theorem Keeps.emit (signal : Signal) (h : Keeps c l tun watched m) :
    Keeps c l tun watched (m.emit signal) := h

theorem Keeps.writeSocket (text : QString) (h : Keeps c l tun watched m) :
    Keeps c l tun watched (m.writeSocket text) := by
  unfold OpenvpnManager.writeSocket
  split <;> exact h

theorem Keeps.ite {p : Prop} [Decidable p] {m' : OpenvpnManager} (h : Keeps c l tun watched m)
    (h' : Keeps c l tun watched m') : Keeps c l tun watched (if p then m else m') := by
  split
  · exact h
  · exact h'

/-- What every step of a loop keeps, the loop keeps. -/
theorem Keeps.foldl {α : Type*} {f : OpenvpnManager → α → OpenvpnManager}
    (hf : ∀ m a, Keeps c l tun watched m → Keeps c l tun watched (f m a)) (as : List α)
    (h : Keeps c l tun watched m) :
    Keeps c l tun watched (as.foldl f m) := by
  induction as generalizing m with
  | nil => exact h
  | cons a as ih => exact ih (hf m a h)

theorem Keeps.scanLinux (listing : Listing) (h : Keeps c l tun watched m) :
    Keeps c l tun watched (scanLinux listing m).2 := by
  unfold OpenvpnManager.scanLinux
  split_ifs
  · exact h.serviceLog _
  · exact h.serviceLog _
  · dsimp only
    split <;> exact h
  · exact h
  · exact h.serviceLog _

theorem Keeps.scanProcesses (running : Bool) (h : Keeps c l tun watched m) :
    Keeps c l tun watched (scanProcesses host w running m).2 := by
  unfold OpenvpnManager.scanProcesses
  dsimp only
  split
  · exact h
  · exact h.ask.serviceLog _
  · split_ifs
    · exact h
    · exact h.ask.scanLinux _

theorem Keeps.openvpnRunning (h : Keeps c l tun watched m) :
    Keeps c l tun watched (m.openvpnRunning host w).2 := by
  unfold OpenvpnManager.openvpnRunning
  dsimp only
  refine (((Keeps.scanProcesses host w _ ?_).serviceLog _).note _)
  split_ifs
  · exact (h.serviceLog _).serviceLog _
  · exact h.serviceLog _
  · exact h.serviceLog _
  · exact h

theorem Keeps.disconnectFromOpenvpnSocket (h : Keeps c l tun watched m) :
    Keeps c l tun watched m.disconnectFromOpenvpnSocket := by
  unfold OpenvpnManager.disconnectFromOpenvpnSocket
  split_ifs
  · exact (h.serviceLog _).serviceLog _
  · exact h

theorem Keeps.socketError (error : ℤ) (h : Keeps c l tun watched m) :
    Keeps c l tun watched (m.socketError error) := by
  unfold OpenvpnManager.socketError
  split_ifs
  · exact (h.serviceLog _).disconnectFromOpenvpnSocket
  · exact h.serviceLog _

theorem Keeps.connectToOpenvpnSocket (h : Keeps c l tun watched m) :
    Keeps c l tun watched (m.connectToOpenvpnSocket w) := by
  have hfree : Keeps c l tun watched
      { (m.serviceLog "connecting to openvpn management socket".toList
        |>.disconnectFromOpenvpnSocket) with mSocket := some ⟨true, true, false, []⟩ } :=
    (h.serviceLog _).disconnectFromOpenvpnSocket
  unfold OpenvpnManager.connectToOpenvpnSocket
  dsimp only
  refine Keeps.serviceLog _ ?_
  split_ifs
  · exact hfree.ask.socketError _
  · exact hfree

theorem Keeps.setupFileWatcher (h : Keeps c l tun True m) :
    Keeps c l tun True (m.setupFileWatcher host w) := by
  unfold OpenvpnManager.setupFileWatcher
  split_ifs
  · exact h
  · exact Keeps.serviceLog (m := { m.ask with mLogFilePosition := 0, mFileSystemWatcher := true }) _
      ⟨h.1, h.2.1, h.2.2.1, fun _ => trivial⟩
  · exact h

theorem Keeps.removeProcess (h : Keeps c l tun watched m) :
    Keeps c l tun watched m.removeProcess := h

theorem Keeps.setState (st : VpnState) (h : Keeps c l tun watched m) :
    Keeps c l tun watched (m.setState w st) := by
  unfold OpenvpnManager.setState
  split_ifs
  · dsimp only
    have hentered : Keeps c l tun watched ((m.enter w st).serviceLog
        ("Set state ".toList ++ QString.number st.toInt)) :=
      Keeps.serviceLog (m := m.enter w st) _ h
    cases st <;> exact hentered
  · exact h

theorem Keeps.waitForEnd (n : ℕ) (h : Keeps c l tun watched m) :
    Keeps c l tun watched (m.waitForEnd host w n) := by
  induction n generalizing m with
  | zero => exact h
  | succ n ih =>
    unfold OpenvpnManager.waitForEnd
    dsimp only
    split_ifs
    · exact ih (h.openvpnRunning host w)
    · exact h.openvpnRunning host w

theorem Keeps.signalTerm (socket : QTcpSocket) (h : Keeps c l tun watched m) :
    Keeps c l tun watched (m.signalTerm socket) := by
  unfold OpenvpnManager.signalTerm
  split_ifs
  · exact h.serviceLog _
  · exact (h.serviceLog _).writeSocket _
  · exact h

theorem Keeps.softStop (h : Keeps c l tun watched m) :
    Keeps c l tun watched (m.softStop host w) := by
  have hrunning : ∀ {m : OpenvpnManager}, Keeps c l tun watched m →
      Keeps c l tun watched (m.removeProcess.openvpnRunning host w).2 :=
    fun h => h.removeProcess.openvpnRunning host w
  unfold OpenvpnManager.softStop
  dsimp only
  cases m.mSocket with
  | none =>
    split_ifs
    · exact (hrunning h).serviceLog _
    · exact hrunning h
  | some socket =>
    have hsignalled := (h.signalTerm socket).disconnectFromOpenvpnSocket.waitForEnd host w 8
    split_ifs
    · exact (hrunning hsignalled).serviceLog _
    · exact hrunning hsignalled

theorem Keeps.obfsproxyRunning (h : Keeps c l tun watched m) :
    Keeps c l tun watched (m.obfsproxyRunning host w).2 := by
  unfold OpenvpnManager.obfsproxyRunning
  dsimp only
  split
  · dsimp only
    split_ifs
    · exact h.ask.serviceLog _
    · exact h
  · exact h.ask.serviceLog _

theorem Keeps.stopObfsproxy (h : Keeps c l tun watched m) :
    Keeps c l tun watched (m.stopObfsproxy host w) := by
  have hrunning := h.obfsproxyRunning host w
  unfold OpenvpnManager.stopObfsproxy
  dsimp only
  split_ifs
  · split
    · exact hrunning.serviceLog _
    · exact (hrunning.serviceLog _).serviceLog _
  · exact hrunning

theorem Keeps.stop (h : Keeps c l tun watched m) : Keeps c l tun watched (m.stop host w) := by
  have hrunning : Keeps c l tun watched ((m.note .stopped).openvpnRunning host w).2 :=
    (h.note _).openvpnRunning host w
  have hstopped : ∀ {m : OpenvpnManager}, Keeps c l tun watched m → Keeps c l tun watched
      (({ m.disconnectFromOpenvpnSocket.stopObfsproxy host w with mFileSystemWatcher := false }
        : OpenvpnManager).setState w .disconnected) := by
    intro m h
    exact (h.disconnectFromOpenvpnSocket.stopObfsproxy host w).unwatch.setState w .disconnected
  unfold OpenvpnManager.stop
  dsimp only
  split_ifs
  · exact hstopped (hrunning.softStop host w)
  · exact hstopped hrunning

theorem Keeps.cancel (msg : QString) (h : Keeps c l tun watched m) :
    Keeps c l tun watched (m.cancel host w msg) :=
  ((h.stop host w).emit _).emit _

theorem Keeps.showErrorMessageCleanup (msg : QString) (h : Keeps c l tun watched m) :
    Keeps c l tun watched (m.showErrorMessageCleanup w msg) :=
  (h.disconnectFromOpenvpnSocket.removeProcess.setState w .disconnected).emit _

theorem Keeps.enableTapOne (p : Adapter) (h : Keeps c l tun watched m) :
    Keeps c l tun watched (m.enableTapOne p) := by
  unfold OpenvpnManager.enableTapOne
  dsimp only
  split_ifs
  · exact (h.serviceLog _).serviceLog _
  · exact (h.serviceLog _).serviceLog _
  · exact h

theorem Keeps.enableTap (h : Keeps c l tun watched m) : Keeps c l tun watched (m.enableTap w) := by
  unfold OpenvpnManager.enableTap
  split
  · exact h
  · exact h.serviceLog _
  · exact h.foldl (fun _ p h => h.enableTapOne p) _

theorem Keeps.getTemplate (h : Keeps c l tun watched m) :
    Keeps c l tun watched (m.getTemplate host) := h.serviceLog _

theorem Keeps.startConnecting {any : Prop} (h : Keeps c l tun watched m) :
    Keeps c l any watched (m.startConnecting host w) := by
  have hset : Keeps c l tun watched (m.setState w .connecting) := h.setState w .connecting
  unfold OpenvpnManager.startConnecting
  dsimp only
  split
  · exact Keeps.getTemplate host (hset.enableTap w).clear
  · exact Keeps.getTemplate host hset.clear

theorem Keeps.takeAttempt (a : Attempt) (h : Keeps c l tun watched m) :
    Keeps (c.start a) l tun watched (m.takeAttempt a) := by
  obtain ⟨rfl, hlog⟩ := h
  exact ⟨rfl, hlog⟩

theorem Keeps.start {any : Prop} (a : Attempt) (h : Keeps c l tun watched m) :
    Keeps (c.start a) l any watched (m.start host w a) := by
  have hstopped : Keeps c l tun watched ({ m with mReconnectAttempt := 0 }.stop host w) :=
    Keeps.stop host w (m := { m with mReconnectAttempt := 0 }) h
  exact (hstopped.takeAttempt a).startConnecting host w

theorem Keeps.reconnectTimeout (h : Keeps c l tun watched m) :
    Keeps c l tun watched (m.reconnectTimeout host w) := by
  have hrunning : Keeps c l tun watched
      ({ m with mReconnectAttempt := m.mReconnectAttempt + 1 }.openvpnRunning host w).2 :=
    Keeps.openvpnRunning host w (m := { m with mReconnectAttempt := m.mReconnectAttempt + 1 }) h
  unfold OpenvpnManager.reconnectTimeout
  dsimp only
  split_ifs
  · exact hrunning
  · exact (hrunning.stop host w).startConnecting host w
  · exact hrunning.startConnecting host w

theorem Keeps.killRunningOpenvpn (h : Keeps c l tun watched m) :
    Keeps c l tun watched (m.killRunningOpenvpn host w) := by
  have hrunning := (h.serviceLog "KillRunningOV() enter".toList).openvpnRunning host w
  unfold OpenvpnManager.killRunningOpenvpn
  dsimp only
  refine Keeps.serviceLog _ ?_
  split_ifs
  · exact ((hrunning.connectToOpenvpnSocket w).stop host w).openvpnRunning host w
  · exact hrunning

theorem Keeps.netDownOne (down : Bool) (p : Adapter) (h : Keeps c l tun watched m) :
    Keeps { c with mNetDown := c.mNetDown || p.switched } l tun watched (netDownOne down m p) := by
  have hkept : ∀ m', Keeps c l tun watched m' → p.switched = false →
      Keeps { c with mNetDown := c.mNetDown || p.switched } l tun watched m' := by
    intro m' hm' hp
    rw [hp, Bool.or_false]
    exact hm'
  have hswitched : ∀ m', Keeps c l tun watched m' → p.switched = true →
      Keeps { c with mNetDown := c.mNetDown || p.switched } l tun watched
        { m' with mNetDown := true } := by
    intro m' hm' hp
    obtain ⟨rfl, hlog⟩ := hm'
    rw [hp, Bool.or_true]
    exact ⟨rfl, hlog⟩
  unfold OpenvpnManager.netDownOne
  dsimp only
  split
  · rename_i hskips
    exact hkept m h (by simp only [Adapter.switched, hskips, decide_true, Bool.not_true,
      Bool.false_and])
  · rename_i hskips
    split
    · rename_i hfails
      exact hkept _ ((h.serviceLog _).serviceLog _)
        (by simp only [Adapter.switched, hfails, decide_true, Bool.not_true, Bool.and_false])
    · rename_i hfails
      exact hswitched _ ((h.serviceLog _).serviceLog _)
        (by simp only [Adapter.switched, hskips, hfails, decide_false, Bool.not_false,
          Bool.and_true])

theorem Keeps.netDownAll (down : Bool) (adapters : List Adapter) (h : Keeps c l tun watched m) :
    Keeps { c with mNetDown := c.mNetDown || adapters.any (·.switched) } l tun watched
      (adapters.foldl (OpenvpnManager.netDownOne down) m) := by
  induction adapters generalizing c m with
  | nil =>
    rw [List.any_nil, Bool.or_false]
    exact h
  | cons p adapters ih =>
    rw [List.any_cons, ← Bool.or_assoc]
    exact ih (h.netDownOne down p)

theorem Keeps.netDown (down : Bool) (h : Keeps c l tun watched m) :
    Keeps (c.netDown host w down) l tun watched (m.netDown host w down) := by
  have hkept : ∀ m', Keeps c l tun watched m' → switchesNetwork host w down = false →
      Keeps (c.netDown host w down) l tun watched m' := by
    intro m' hm' hno
    rw [Settings.netDown, hno, Bool.or_false]
    exact hm'
  unfold OpenvpnManager.netDown
  split
  · rename_i hplatform
    cases hadapters : w.adapters with
    | unavailable => exact hkept m h (by rw [switchesNetwork, hplatform, hadapters])
    | failed code =>
      exact hkept _ (h.serviceLog _) (by rw [switchesNetwork, hplatform, hadapters])
    | listed adapters =>
      rw [Settings.netDown, switchesNetwork, hplatform, hadapters]
      exact h.netDownAll down adapters
  · rename_i hplatform
    have hswitches : switchesNetwork host w down = (down && w.rightsFailure.isNone) := by
      unfold switchesNetwork
      split
      · exact absurd ‹_› hplatform
      · rfl
    cases down with
    | false => exact hkept m h hswitches
    | true =>
      cases hrights : w.rightsFailure with
      | some what => exact hkept _ (h.serviceLog _) (by rw [hswitches, hrights]; rfl)
      | none =>
        have hdown : Keeps (c.netDown host w true) l tun watched
            { m.serviceLog "NetDown()".toList with mNetDown := true } := by
          obtain ⟨rfl, hlog⟩ := h.serviceLog "NetDown()".toList
          rw [Settings.netDown, hswitches, hrights, Option.isNone_none, Bool.and_self,
            Bool.or_true]
          exact ⟨rfl, hlog⟩
        rw [if_pos rfl]
        dsimp only
        split_ifs
        · exact hdown
        · exact hdown.serviceLog _

theorem Keeps.writeConfigFile (h : Keeps c l tun watched m) :
    Keeps c l tun watched (m.writeConfigFile host w).2 := by
  unfold OpenvpnManager.writeConfigFile
  split
  · exact h.serviceLog _
  · dsimp only
    split
    · exact Keeps.serviceLog (m := { m with configFile := [] }) _ h
    · exact h

theorem Keeps.processError (error : ℤ) (h : Keeps c l tun watched m) :
    Keeps c l tun watched (m.processError error) :=
  h.serviceLog _

theorem Keeps.processStarted (h : Keeps c l tun watched m) :
    Keeps c l tun watched m.processStarted := h.serviceLog _

theorem Keeps.processStateChanged (st : ℤ) (h : Keeps c l tun True m) :
    Keeps c l tun True (m.processStateChanged host w st) := (h.serviceLog _).setupFileWatcher host w

theorem Keeps.processFinished (exitCode exitStatus : ℤ) (h : Keeps c l tun True m) :
    Keeps c l tun True (m.processFinished host w exitCode exitStatus) := by
  have hlogged : ∀ s, Keeps c l tun True (m.serviceLog s) := fun s => h.serviceLog s
  unfold OpenvpnManager.processFinished
  dsimp only
  split_ifs
  · exact (hlogged _).openvpnRunning host w
  · exact ((hlogged _).openvpnRunning host w).setState w _
  · exact ((hlogged _).setupFileWatcher host w).connectToOpenvpnSocket w

theorem Keeps.processDied (exitCode : ℤ) (crashed : Bool) (h : Keeps c l tun True m) :
    Keeps c l tun True (m.processDied host w exitCode crashed) := by
  unfold OpenvpnManager.processDied
  dsimp only
  refine Keeps.processFinished host w _ _ (Keeps.processStateChanged host w _ ?_)
  split_ifs
  · exact h.processError 1
  · exact h

theorem Keeps.deleteProcess (h : Keeps c l tun True m) :
    Keeps c l tun True (m.deleteProcess host w) := by
  unfold OpenvpnManager.deleteProcess
  split_ifs
  · exact Keeps.processDied host w (m := { m with mProcess := some .notRunning }) _ _ h
  · exact h

theorem Keeps.startProcess (h : Keeps c l tun True m) :
    Keeps c l tun True (m.startProcess host w) := by
  have hset : ∀ {m : OpenvpnManager} (state : ProcessState) (st : ℤ), Keeps c l tun True m →
      Keeps c l tun True ({ m with mProcess := some state }.processStateChanged host w st) :=
    fun {m} state st h =>
      Keeps.processStateChanged host w (m := { m with mProcess := some state }) st h
  unfold OpenvpnManager.startProcess
  dsimp only
  split_ifs
  · exact (hset .running 2 (hset .starting 1 h)).processStarted
  · exact (hset .notRunning 0 (hset .starting 1 h)).processError 0

theorem Keeps.noteLaunch (args : List QString) (h : Keeps c l tun watched m) :
    Keeps c l tun watched (m.noteLaunch args) := h

theorem Keeps.stampAndStartTimer (h : Keeps c l tun watched m) :
    Keeps c l tun watched (m.stampAndStartTimer w) :=
  h.serviceLog _

theorem Keeps.launchDaemon (args : List QString) (h : Keeps c l tun True m) :
    Keeps c l tun True (m.launchDaemon host w args) := by
  unfold OpenvpnManager.launchDaemon
  split
  · exact ((h.serviceLog _).emit _).setState w _
  · exact ((((((h.serviceLog _).noteLaunch args).serviceLog _).serviceLog _).connectToOpenvpnSocket
      w).setupFileWatcher host w |>.serviceLog _).stampAndStartTimer w

theorem Keeps.launchProcess (args : List QString) (h : Keeps c l tun True m) :
    Keeps c l tun True (m.launchProcess host w args) :=
  ((((h.deleteProcess host w).noteLaunch args).startProcess host w).serviceLog _)
    |>.stampAndStartTimer w

theorem Keeps.continueConnecting (h : Keeps c l tun True m) :
    Keeps c l tun True (m.continueConnecting host w) := by
  have hwritten := h.writeConfigFile host w
  have hlogged : ∀ s s', Keeps c l tun True
      (((m.writeConfigFile host w).2.serviceLog s).serviceLog s') :=
    fun s s' => (hwritten.serviceLog s).serviceLog s'
  unfold OpenvpnManager.continueConnecting
  dsimp only
  split
  · exact hwritten
  · refine Keeps.serviceLog _ ?_
    split
    · exact (hlogged _ _).launchProcess host w _
    · exact (hlogged _ _).launchDaemon host w _

theorem Keeps.getTemplateError (reply : TemplateRequest) (h : Keeps c l tun watched m) :
    Keeps c l tun watched (m.getTemplateError host w reply) := (h.emit _).stop host w

theorem Keeps.getTemplateFinished (reply : TemplateRequest) (bytes : QByteArray)
    (h : Keeps c l tun True m) : Keeps c l tun True (m.getTemplateFinished host w reply bytes) := by
  unfold OpenvpnManager.getTemplateFinished
  split_ifs
  · exact (h.serviceLog _).stop host w
  · exact Keeps.continueConnecting host w (m := m.insertTemplate _ _) h

theorem Keeps.gotConnected (s : QString) (h : Keeps c l tun watched m) :
    Keeps c l tun watched (m.gotConnected w s) := by
  unfold OpenvpnManager.gotConnected
  dsimp only
  refine Keeps.setState w _ ?_
  split_ifs <;> exact h

theorem Keeps.gotTunErr (h : Keeps c l tun watched m) :
    Keeps c l tun watched (m.gotTunErr host w) := by
  have hset : Keeps c l True watched { m with mTunError := true, mError := true } :=
    ⟨h.1, h.2.1, fun _ => trivial, h.2.2.2⟩
  unfold OpenvpnManager.gotTunErr
  split_ifs
  · exact (hset.serviceLog _).startConnecting host w
  · exact h

theorem Keeps.parseNewIp (s : QString) (h : Keeps c l tun watched m) :
    Keeps c l tun watched (m.parseNewIp s) := by
  unfold OpenvpnManager.parseNewIp
  dsimp only
  split_ifs <;> exact h

theorem Keeps.bindFailed (h : Keeps c l tun watched m) :
    Keeps c.switchPort l tun watched (m.bindFailed host w) := by
  obtain ⟨rfl, hlog⟩ := h
  exact Keeps.startConnecting host w ⟨rfl, hlog⟩

theorem Keeps.parseLogNotice (s : QString) (h : Keeps c l tun watched m) :
    Keeps c l tun watched (m.parseLogNotice host w s) := by
  unfold OpenvpnManager.parseLogNotice
  split_ifs
  · exact h.parseNewIp s
  · exact h.gotConnected w s
  · exact h.gotTunErr host w
  · exact h

theorem Keeps.parseOpenvpnLogLine (s : QString) (h : Keeps c l tun watched m) :
    Keeps (c.readLine s) l tun watched (m.parseOpenvpnLogLine host w s) := by
  unfold OpenvpnManager.parseOpenvpnLogLine Settings.readLine bindFails
  dsimp only
  cases s.containsFolded "MANAGEMENT: CMD 'state'".toList with
  | true => exact h
  | false =>
    refine Keeps.parseLogNotice host w s ?_
    cases QString.contains s "Socket bind failed on local address".toList with
    | true => exact (h.serviceLog _).bindFailed host w
    | false => exact h.serviceLog _

theorem Keeps.readLog (content : Option QByteArray) (h : Keeps c l tun watched m) :
    Keeps c l tun watched (m.readLog content).2 := by
  unfold OpenvpnManager.readLog
  split
  · exact h
  · dsimp only
    split_ifs <;> exact h

/-- What every line of the log makes of the settings, the lines make together. -/
theorem Keeps.parseOpenvpnLogLines (lines : List QString) (h : Keeps c l tun watched m) :
    Keeps (lines.foldl Settings.readLine c) l tun watched
      (lines.foldl (fun m s => m.parseOpenvpnLogLine host w s) m) := by
  induction lines generalizing c m with
  | nil => exact h
  | cons s lines ih => exact ih (h.parseOpenvpnLogLine host w s)

theorem Keeps.openvpnLogfileChanged (content : Option QByteArray) (h : Keeps c l tun watched m) :
    Keeps ((m.logLines content).foldl Settings.readLine c) l tun watched
      (m.openvpnLogfileChanged host w content) := by
  have hread := Keeps.readLog (m := { m with mProcessing := true }) content h
  unfold OpenvpnManager.openvpnLogfileChanged logLines
  split
  · exact h
  · dsimp only
    rw [readLog_fst]
    exact Keeps.parseOpenvpnLogLines host w _ hread

theorem Keeps.actOnStateWord (isnew : Bool) (word s : QString) (h : Keeps c l tun watched m) :
    Keeps c l tun watched (m.actOnStateWord host w isnew word s) := by
  have hset : ∀ st, Keeps c l tun watched (m.setState w st) := fun st => h.setState w st
  have hreconnects : Keeps c l tun watched (m.startReconnectTimer.setState w .connecting) :=
    Keeps.setState w (m := m.startReconnectTimer) _ h
  have hstopped : ∀ signal, Keeps c l tun watched ((m.emit signal).stop host w) :=
    fun signal => (h.emit signal).stop host w
  unfold OpenvpnManager.actOnStateWord
  refine .ite (.ite (h.gotConnected w s) h) ?_
  refine .ite (hset _) (.ite h (.ite (.ite hreconnects (hset _)) ?_))
  refine .ite (hset _) (.ite (hset _) (.ite h (.ite (hset _) (.ite h ?_))))
  exact .ite (.ite (hstopped _) h) (h.serviceLog _)

theorem Keeps.parseSocketStateWord (word s : QString) (h : Keeps c l tun watched m) :
    Keeps c l tun watched (m.parseSocketStateWord host w word s) := by
  unfold OpenvpnManager.parseSocketStateWord
  dsimp only
  refine Keeps.actOnStateWord host w _ word s ?_
  split_ifs
  · exact (h.serviceLog _).serviceLog _
  · exact h

theorem Keeps.parseSocketPlainWord (word s : QString) (h : Keeps c l tun watched m) :
    Keeps c l tun watched (m.parseSocketPlainWord word s) := by
  have hlogged : ∀ t t', Keeps c l tun watched ((m.serviceLog t).serviceLog t') :=
    fun t t' => (h.serviceLog t).serviceLog t'
  unfold OpenvpnManager.parseSocketPlainWord
  dsimp only
  split_ifs
  · exact h
  · exact hlogged _ _
  · exact ((hlogged _ _).disconnectFromOpenvpnSocket.emit _).emit _
  · exact hlogged _ _

theorem Keeps.parseSocketQueryWord (word s : QString) (h : Keeps c l tun watched m) :
    Keeps c l tun watched (m.parseSocketQueryWord host w word s) := by
  have hlogged : ∀ t t', Keeps c l tun watched ((m.serviceLog t).serviceLog t') :=
    fun t t' => (h.serviceLog t).serviceLog t'
  unfold OpenvpnManager.parseSocketQueryWord
  dsimp only
  split_ifs
  · exact hlogged _ _
  · exact ((((hlogged _ _).serviceLog _).writeSocket _).serviceLog _).writeSocket _
  · exact hlogged _ _
  · exact (((hlogged _ _).serviceLog _).writeSocket _).writeSocket _
  · exact Keeps.showErrorMessageCleanup w _ (hlogged _ _)
  · exact hlogged _ _
  · exact hlogged _ _
  · exact (hlogged _ _).gotTunErr host w
  · exact Keeps.cancel host w _ (hlogged _ _)
  · exact hlogged _ _

theorem Keeps.parseSocketDigitLine (s : QString) (h : Keeps c l tun watched m) :
    Keeps c l tun watched (m.parseSocketDigitLine host w s) := by
  unfold OpenvpnManager.parseSocketDigitLine
  dsimp only
  split_ifs
  · exact h.parseSocketStateWord host w _ s
  · exact h
  · exact h.parseSocketPlainWord s s

theorem Keeps.parseSocketLine (s : QString) (h : Keeps c l tun watched m) :
    Keeps c l tun watched (m.parseSocketLine host w s) := by
  unfold OpenvpnManager.parseSocketLine
  dsimp only
  split_ifs
  · exact h.parseSocketQueryWord host w _ s
  · exact h
  · exact h.parseSocketDigitLine host w s
  · exact h.parseSocketPlainWord _ s
  · exact h.parseSocketPlainWord s s

theorem Keeps.readSocket (socket : QTcpSocket) (h : Keeps c l tun watched m) :
    Keeps c l tun watched (m.readSocket socket) := by
  unfold OpenvpnManager.readSocket
  dsimp only
  split_ifs
  · exact h.serviceLog _
  · exact (h.serviceLog _).serviceLog _

theorem Keeps.socketReadyRead (socket : QTcpSocket) (h : Keeps c l tun watched m) :
    Keeps c l tun watched (m.socketReadyRead host w socket) :=
  Keeps.foldl (fun _ s h => h.parseSocketLine host w s) _ (h.readSocket socket)

theorem Keeps.pollOpenvpn (h : Keeps c l tun watched m) :
    Keeps c l tun watched (m.pollOpenvpn host w) := by
  have hrunning := h.openvpnRunning host w
  unfold OpenvpnManager.pollOpenvpn
  dsimp only
  split
  · split
    · exact hrunning.connectToOpenvpnSocket w
    · split
      · exact hrunning.writeSocket _
      · exact hrunning.serviceLog _
  · split
    · split
      · exact hrunning.startConnecting host w
      · exact hrunning.setState w _
    · exact hrunning

theorem Keeps.checkTimeout (h : Keeps c l tun watched m) :
    Keeps c l tun watched (m.checkTimeout host w) := by
  have hrestarted : Keeps c l tun watched
      ({ m.ask.ask with mStartDateTime := some (w.clock m.ask.asked) } : OpenvpnManager) := h
  unfold OpenvpnManager.checkTimeout
  dsimp only
  split_ifs
  · exact (h.ask.note _).cancel host w _
  · exact h.ask
  · exact ((hrestarted.note _).stop host w).emit _
  · exact h.ask
  · exact h

theorem Keeps.checkState (h : Keeps c l tun watched m) :
    Keeps c l tun watched (m.checkState host w) :=
  (((h.serviceLog _).pollOpenvpn host w).checkTimeout host w).serviceLog _

theorem Keeps.commandStart {any : Prop} (jObj : QJsonObject) (h : Keeps c l tun watched m) :
    Keeps ((c.netDown host w false).start (attemptOf jObj)) l any watched
      (m.commandStart host w jObj) := by
  have hready : Keeps (c.netDown host w false) l tun watched
      (((m.serviceLog "socket_readyRead: Start VPN Command".toList).netDown host w false).serviceLog
        "Got cmdStart command from socket, calling start on vpn manager".toList) :=
    ((h.serviceLog _).netDown host w false).serviceLog _
  exact (Keeps.ite (hready.stop host w) hready).start host w _

theorem Keeps.openConnection (h : Keeps c l tun watched m) :
    Keeps c l tun watched m.openConnection :=
  ⟨h.1, h.2.1.trans (List.suffix_cons _ _), h.2.2⟩

end Keeps

section Step
variable (host : Host) (w : World) (m : OpenvpnManager)

/-- What is logged of a command that is read. -/
def commandRead (line : QByteArray) : QString :=
  "Command read from socket: ".toList ++ QString.ofBytes line

/-- A command is logged, whatever it then does. -/
theorem keeps_command (client : ℕ) (line : QByteArray) (jObj : QJsonObject) :
    Keeps (m.settings.command host w jObj) (commandRead line :: m.log) (m.mTunError = true)
      (m.mFileSystemWatcher = true) (m.command host w client line jObj) := by
  have hread : Keeps m.settings (commandRead line :: m.log) (m.mTunError = true)
      (m.mFileSystemWatcher = true) (m.serviceLog (commandRead line)) :=
    ⟨rfl, List.suffix_rfl, id, id⟩
  have hother : ∀ {cmd : ℤ}, cmd ≠ cmdSetCredentials → cmd ≠ cmdNetdown → cmd ≠ cmdStart →
      (jObj.value "cmd".toList).toInt = cmd → m.settings.command host w jObj = m.settings := by
    intro cmd hset hdown hstart hcmd
    rw [Settings.command, hcmd, if_neg hset, if_neg hdown, if_neg hstart]
  unfold command
  dsimp only
  split_ifs with hkill hstatus hset hdown hstart hstop
  · rw [hother (by decide) (by decide) (by decide) hkill]
    exact hread.killRunningOpenvpn host w
  · rw [hother (by decide) (by decide) (by decide) hstatus]
    exact hread.serviceLog _
  · rw [Settings.command, if_pos hset]
    exact ⟨rfl, hread.2⟩
  · rw [Settings.command, if_neg hset, if_pos hdown]
    exact hread.netDown host w true
  · rw [Settings.command, if_neg hset, if_neg hdown, if_pos hstart]
    exact hread.commandStart host w jObj
  · rw [hother (by decide) (by decide) (by decide) hstop]
    exact (hread.serviceLog _).stop host w
  · rw [hother hset hdown hstart rfl]
    exact hread.serviceLog _

/-- What an event makes of the settings. -/
def settingsAfter (m : OpenvpnManager) (e : Event) : Settings :=
  match e.callback with
  | .command client _ jObj =>
    if m.connections.any (·.id == client) then m.settings.command host e.world jObj
    else m.settings
  | .logFileChanged content =>
    if m.mFileSystemWatcher then (m.logLines content).foldl Settings.readLine m.settings
    else m.settings
  | _ => m.settings

theorem keeps_deliver (callback : Callback) :
    Keeps (m.settingsAfter host ⟨w, callback⟩) m.log (m.mTunError = true)
      (m.mFileSystemWatcher = true ∨ callback.watches = true) (m.deliver host w callback) := by
  have hm : Keeps m.settings m.log (m.mTunError = true)
      (m.mFileSystemWatcher = true ∨ callback.watches = true) m := (Keeps.refl m).weaken .inl
  have hany : Keeps m.settings m.log (m.mTunError = true) True m :=
    (Keeps.refl m).weaken fun _ => trivial
  cases callback with
  | connectionOpened => exact hm.openConnection
  | connectionClosed client => exact hm
  | command client line jObj =>
    have hcommand := keeps_command host w m client line jObj
    rw [deliver, settingsAfter]
    dsimp only
    split_ifs
    · exact Keeps.weaken .inl
        ⟨hcommand.1, (List.suffix_cons _ _).trans hcommand.2.1, hcommand.2.2⟩
    · exact hm
  | templateError request =>
    rw [deliver]
    split
    · exact Keeps.getTemplateError host w (m := m.failRequest request) _ hm
    · exact hm
  | templateFinished request bytes =>
    rw [deliver]
    split
    · exact (Keeps.getTemplateFinished host w (m := m.takeRequest request) _ bytes hany).weaken
        fun _ => .inr rfl
    · exact hm
  | reconnectTimeout =>
    exact .ite (Keeps.reconnectTimeout host w (m := m.takeReconnectTimer) hm) hm
  | stateTimer => exact .ite (hm.checkState host w) hm
  | logFileChanged content =>
    rw [deliver, settingsAfter]
    dsimp only
    split_ifs
    · exact hm.openvpnLogfileChanged host w content
    · exact hm
  | socketReadyRead bytes =>
    rw [deliver]
    split
    · exact Keeps.socketReadyRead host w (m := { m with mSocket := some _ }) _ hm
    · exact hm
  | socketError error => exact .ite (hm.socketError error) hm
  | socketConnected =>
    rw [deliver]
    split
    · exact Keeps.serviceLog (m := { m with mSocket := some _ }) _ hm
    · exact hm
  | socketStatus isOpen isValid connected => exact hm
  | processError error => exact .ite (hm.processError error) hm
  | processDied wasReleased exitCode crashed =>
    have hdied : ∀ m', Keeps m.settings m.log (m.mTunError = true) True m' →
        Keeps m.settings m.log (m.mTunError = true) (m.mFileSystemWatcher = true ∨
          (Callback.processDied wasReleased exitCode crashed).watches = true)
          (m'.processDied host w exitCode crashed) :=
      fun m' h' => (h'.processDied host w exitCode crashed).weaken fun _ => .inr rfl
    refine .ite (.ite ?_ hm) (.ite ?_ hm)
    · exact hdied { m with released := m.released - 1 } hany
    · exact hdied { m with mProcess := some .notRunning } hany

/-- The questions of an event decide nothing about it. -/
theorem settingsAfter_asked (e : Event) (n : ℕ) :
    settingsAfter host { m with asked := n } e = m.settingsAfter host e := by
  obtain ⟨w, callback⟩ := e
  cases callback <;> rfl

theorem step_settings (e : Event) : (m.step host e).settings = m.settingsAfter host e :=
  (keeps_deliver host e.world { m with asked := 0 } e.callback).1.trans
    (settingsAfter_asked host m e 0)

/-- The log grows. -/
theorem step_log (e : Event) : m.log <:+ (m.step host e).log :=
  (keeps_deliver host e.world { m with asked := 0 } e.callback).2.1

/-- An event does not set `mTunError`. -/
theorem step_mTunError (e : Event) (h : m.mTunError = false) :
    (m.step host e).mTunError = false := by
  have hkept := (keeps_deliver host e.world { m with asked := 0 } e.callback).2.2.1
  by_contra hset
  exact absurd (hkept (Bool.eq_true_of_not_eq_false hset)) (by simp [h])

/-- Only few events begin to watch the log file. -/
theorem step_mFileSystemWatcher (e : Event) (h : (m.step host e).mFileSystemWatcher = true) :
    m.mFileSystemWatcher = true ∨ e.callback.watches = true :=
  (keeps_deliver host e.world { m with asked := 0 } e.callback).2.2.2 h

end Step
end OpenvpnManager
end Service
end CeloVpn
