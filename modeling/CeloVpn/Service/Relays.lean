import CeloVpn.Service.Reply

/-!
# What the manager tells its connections and openvpn

A signal of the manager runs a slot of every connection. No handler writes to one
otherwise, besides the answer to a status request. So whatever a handler does, each
connection has been told the signals it emitted, in order. To openvpn a handler says a few
things only, each of them whole.
-/
namespace CeloVpn.Service
open Runs

/-- The signal an act emits. -/
def Act.signal : Act → Option Signal
  | emitted signal => some signal
  | _ => none

/-- The act writes to the management socket. -/
def Act.writes (a : Act) : Bool := a.socketBytes.isSome

/-- What is said to openvpn at a time: the state is asked for, its end is asked for, it is
let go on, or it is given the credentials. -/
inductive Utterance
  | state
  | terminate
  | release
  | login (c : Credentials)

namespace Utterance

/-- The acts that say it, the newest one first. -/
def acts : Utterance → List Act
  | state => [.wroteSocket (QString.toLatin1 "state\n".toList)]
  | terminate => [.wroteSocket (QString.toLatin1 "signal SIGTERM\nexit\n".toList)]
  | release =>
    [.wroteSocket (QString.toLatin1 "hold release\n".toList),
      .wroteSocket (QString.toLatin1 "hold off\n".toList)]
  | login c => OpenvpnManager.answer c

theorem signal_acts (u : Utterance) : u.acts.filterMap Act.signal = [] := by cases u <;> rfl

theorem writes_acts (u : Utterance) : u.acts.filter Act.writes = u.acts := by cases u <;> rfl

end Utterance

namespace QVPNClientConnection

/-- What a connection makes of signals, the newest one first. -/
def receiveAll (signals : List Signal) (c : QVPNClientConnection) : QVPNClientConnection :=
  signals.foldr (fun signal c => c.receive signal) c

@[simp] theorem receive_id (c : QVPNClientConnection) (signal : Signal) :
    (c.receive signal).id = c.id := by
  cases signal <;> rfl

@[simp] theorem receiveAll_id (signals : List Signal) (c : QVPNClientConnection) :
    (c.receiveAll signals).id = c.id := by
  induction signals with
  | nil => rfl
  | cons signal signals ih => exact (receive_id _ signal).trans ih

end QVPNClientConnection

/-- The messages that a signal makes a connection write. -/
def Signal.messages (signal : Signal) : List QJsonObject :=
  ((⟨0, .disconnected, []⟩ : QVPNClientConnection).receive signal).sent

/-- The state that a signal tells. -/
def Signal.state? : Signal → Option VpnState
  | stateChanged state => some state
  | _ => none

namespace QVPNClientConnection

theorem receive_sent (c : QVPNClientConnection) (signal : Signal) :
    (c.receive signal).sent = c.sent ++ signal.messages := by
  cases signal <;> first | rfl | exact (List.append_nil _).symm

theorem receiveAll_sent (signals : List Signal) (c : QVPNClientConnection) :
    (c.receiveAll signals).sent = c.sent ++ signals.reverse.flatMap Signal.messages := by
  induction signals with
  | nil => exact (List.append_nil _).symm
  | cons signal signals ih =>
    rw [List.reverse_cons, List.flatMap_append, List.flatMap_singleton, ← List.append_assoc, ← ih]
    exact receive_sent _ signal

/-- A connection caches the state it was told last. -/
theorem receiveAll_m_state (signals : List Signal) (c : QVPNClientConnection) :
    (c.receiveAll signals).m_state = (signals.findSome? Signal.state?).getD c.m_state := by
  induction signals with
  | nil => rfl
  | cons signal signals ih => cases signal <;> first | rfl | exact ih

end QVPNClientConnection

namespace OpenvpnManager
open QVPNClientConnection (receiveAll)

/-- The signals that were emitted, the newest one first. -/
def spoken (m : OpenvpnManager) : List Signal := m.history.filterMap Act.signal

/-- Since this history was made and these connections open, no connection came that the
number does not count, every one was told what was emitted since, and what was written to
openvpn since was said whole, with these credentials where it took any. -/
def Tells (c : Credentials) (before : List Act) (told : List QVPNClientConnection) (next : ℕ)
    (m : OpenvpnManager) : Prop :=
  m.nextConnection = next ∧ ∃ (acts : List Act) (said : List Utterance),
    m.history = acts ++ before ∧
    m.connections = told.map (receiveAll (acts.filterMap Act.signal)) ∧
    acts.filter Act.writes = said.flatMap Utterance.acts ∧ ∀ c', .login c' ∈ said → c' = c

/-- The credentials are still the same. -/
def Relays (c : Credentials) (before : List Act) (told : List QVPNClientConnection) (next : ℕ)
    (m : OpenvpnManager) : Prop :=
  m.credentials = c ∧ Tells c before told next m

section Relays
variable (host : Host) (w : World) {c : Credentials} {before : List Act}
  {told : List QVPNClientConnection} {next : ℕ} {m : OpenvpnManager}

theorem Relays.refl (m : OpenvpnManager) :
    Relays m.credentials m.history m.connections m.nextConnection m :=
  ⟨rfl, rfl, [], [], rfl, (List.map_id m.connections).symm, rfl, nofun⟩

theorem Relays.serviceLog (s : QString) (h : Relays c before told next m) :
    Relays c before told next (m.serviceLog s) := h

theorem Relays.note {a : Act} (ha : a.signal = none) (hw : a.writes = false)
    (h : Relays c before told next m) : Relays c before told next (m.note a) := by
  obtain ⟨hcredentials, hnext, acts, said, hacts, hconnections, hsaid, hlogin⟩ := h
  refine ⟨hcredentials, hnext, a :: acts, said, congrArg (a :: ·) hacts, ?_, ?_, hlogin⟩
  · rw [List.filterMap_cons_none ha]
    exact hconnections
  · rw [List.filter_cons_of_neg (by rw [hw]; exact Bool.false_ne_true)]
    exact hsaid

theorem Relays.emit (signal : Signal) (h : Relays c before told next m) :
    Relays c before told next (m.emit signal) := by
  obtain ⟨hcredentials, hnext, acts, said, hacts, hconnections, hsaid, hlogin⟩ := h
  refine ⟨hcredentials, hnext, .emitted signal :: acts, said, congrArg (_ :: ·) hacts, ?_, hsaid,
    hlogin⟩
  change m.connections.map _ = _
  rw [hconnections, List.map_map]
  rfl

/-- What is said is said whole. -/
theorem Relays.say (u : Utterance) (hlogin : ∀ c', u = .login c' → c' = c)
    (h : Relays c before told next m) :
    Relays c before told next { m with history := u.acts ++ m.history } := by
  obtain ⟨hcredentials, hnext, acts, said, hacts, hconnections, hsaid, hlogins⟩ := h
  refine ⟨hcredentials, hnext, u.acts ++ acts, u :: said, ?_, ?_, ?_, fun c' hc' => ?_⟩
  · rw [List.append_assoc]
    exact congrArg (u.acts ++ ·) hacts
  · rw [List.filterMap_append, u.signal_acts, List.nil_append]
    exact hconnections
  · rw [List.filter_append, u.writes_acts, hsaid, List.flatMap_cons]
  · rcases List.mem_cons.mp hc' with rfl | hc'
    · exact hlogin c' rfl
    · exact hlogins c' hc'

theorem Relays.writeSocket {text : QString} (u : Utterance)
    (hu : u.acts = [.wroteSocket text.toLatin1]) (hlogin : ∀ c', u = .login c' → c' = c)
    (h : Relays c before told next m) : Relays c before told next (m.writeSocket text) := by
  unfold OpenvpnManager.writeSocket
  split
  · have hsaid := h.say u hlogin
    rw [hu] at hsaid
    exact hsaid
  · exact h.note rfl rfl

theorem Relays.writeSocket_writeSocket {t t' : QString} (u : Utterance)
    (hu : u.acts = [.wroteSocket t'.toLatin1, .wroteSocket t.toLatin1])
    (hlogin : ∀ c', u = .login c' → c' = c) (h : Relays c before told next m) :
    Relays c before told next ((m.writeSocket t).writeSocket t') := by
  cases hsocket : m.mSocket with
  | none =>
    have hnull : (m.writeSocket t).writeSocket t' = (m.note .nullSocket).note .nullSocket := by
      have hnone : (m.note .nullSocket).mSocket = none := hsocket
      rw [OpenvpnManager.writeSocket, OpenvpnManager.writeSocket, hsocket]
      dsimp only
      rw [hnone]
    rw [hnull]
    exact Relays.note (a := .nullSocket) rfl rfl (h.note rfl rfl)
  | some socket =>
    have hsaid := h.say u hlogin
    rw [OpenvpnManager.writeSocket_writeSocket (Option.isSome_iff_exists.mpr ⟨socket, hsocket⟩)]
    rw [hu] at hsaid
    exact hsaid

theorem writeSocket_serviceLog (m : OpenvpnManager) (text s : QString) :
    (m.writeSocket text).serviceLog s = (m.serviceLog s).writeSocket text := by
  unfold OpenvpnManager.writeSocket OpenvpnManager.serviceLog
  dsimp only
  split <;> rfl

theorem Relays.ite {p : Prop} [Decidable p] {m' : OpenvpnManager}
    (h : Relays c before told next m) (h' : Relays c before told next m') :
    Relays c before told next (if p then m else m') := by
  split
  · exact h
  · exact h'

theorem Relays.foldl {α : Type*} {f : OpenvpnManager → α → OpenvpnManager}
    (hf : ∀ m a, Relays c before told next m → Relays c before told next (f m a)) (as : List α)
    (h : Relays c before told next m) : Relays c before told next (as.foldl f m) := by
  induction as generalizing m with
  | nil => exact h
  | cons a as ih => exact ih (hf m a h)

theorem Relays.openvpnRunning (h : Relays c before told next m) :
    Relays c before told next (m.openvpnRunning host w).2 := by
  obtain ⟨pid, asked, log, hrunning⟩ := openvpnRunning_eq host w m
  rw [hrunning]
  exact h.note (a := .observed _) rfl rfl

theorem Relays.disconnectFromOpenvpnSocket (h : Relays c before told next m) :
    Relays c before told next m.disconnectFromOpenvpnSocket := by
  unfold OpenvpnManager.disconnectFromOpenvpnSocket
  split_ifs <;> exact h

theorem Relays.socketError (error : ℤ) (h : Relays c before told next m) :
    Relays c before told next (m.socketError error) := by
  unfold OpenvpnManager.socketError
  split_ifs
  · exact (h.serviceLog _).disconnectFromOpenvpnSocket
  · exact h

theorem Relays.connectToOpenvpnSocket (h : Relays c before told next m) :
    Relays c before told next (m.connectToOpenvpnSocket w) := by
  have hfree : Relays c before told next
      { (m.serviceLog "connecting to openvpn management socket".toList
        |>.disconnectFromOpenvpnSocket) with mSocket := some ⟨true, true, false, []⟩ } :=
    (h.serviceLog _).disconnectFromOpenvpnSocket
  unfold OpenvpnManager.connectToOpenvpnSocket
  refine Relays.serviceLog _ (.ite ?_ hfree)
  exact Relays.socketError (m := ask _) _ hfree

theorem Relays.setupFileWatcher (h : Relays c before told next m) :
    Relays c before told next (m.setupFileWatcher host w) := by
  unfold OpenvpnManager.setupFileWatcher
  split_ifs <;> exact h

theorem Relays.setState (st : VpnState) (h : Relays c before told next m) :
    Relays c before told next (m.setState w st) := by
  have hentered : Relays c before told next
      ((m.enter w st).serviceLog ("Set state ".toList ++ QString.number st.toInt)) :=
    Relays.note (m := { m with mState := st, asked := m.asked + 1 }) rfl rfl h
  unfold OpenvpnManager.setState
  refine .ite ?_ h
  cases st with
  | connected => exact hentered.emit _
  | connecting => exact hentered.emit _
  | disconnected => exact Relays.emit (m := deleteStateTimer _) _ hentered
  | total => exact hentered

theorem Relays.waitForEnd (n : ℕ) (h : Relays c before told next m) :
    Relays c before told next (m.waitForEnd host w n) := by
  induction n generalizing m with
  | zero => exact h
  | succ n ih => exact .ite (ih (h.openvpnRunning host w)) (h.openvpnRunning host w)

theorem Relays.signalTerm (socket : QTcpSocket) (h : Relays c before told next m) :
    Relays c before told next (m.signalTerm socket) :=
  .ite (.ite h ((h.serviceLog _).writeSocket .terminate rfl nofun)) h

theorem Relays.softStop (h : Relays c before told next m) :
    Relays c before told next (m.softStop host w) := by
  have hlast : ∀ {m : OpenvpnManager}, Relays c before told next m →
      Relays c before told next (m.removeProcess.openvpnRunning host w).2 :=
    fun {m} h => Relays.openvpnRunning host w (m := m.removeProcess) h
  unfold OpenvpnManager.softStop
  dsimp only
  cases m.mSocket with
  | none => exact .ite (hlast h) (hlast h)
  | some socket =>
    have hwaited := ((h.signalTerm socket).disconnectFromOpenvpnSocket).waitForEnd host w 8
    exact .ite (hlast hwaited) (hlast hwaited)

theorem Relays.stopObfsproxy (h : Relays c before told next m) :
    Relays c before told next (m.stopObfsproxy host w) := by
  have hrunning : Relays c before told next (m.obfsproxyRunning host w).2 := by
    unfold OpenvpnManager.obfsproxyRunning
    dsimp only
    split
    · split_ifs <;> exact h
    · exact h
  unfold OpenvpnManager.stopObfsproxy
  refine .ite ?_ hrunning
  split <;> exact hrunning

theorem Relays.stop (h : Relays c before told next m) :
    Relays c before told next (m.stop host w) := by
  have hrunning : Relays c before told next ((m.note .stopped).openvpnRunning host w).2 :=
    (h.note rfl rfl).openvpnRunning host w
  have hsoft : Relays c before told next
      (if ((m.note .stopped).openvpnRunning host w).1 then
        ((m.note .stopped).openvpnRunning host w).2.softStop host w
      else ((m.note .stopped).openvpnRunning host w).2) :=
    .ite (hrunning.softStop host w) hrunning
  exact Relays.setState w (m := { OpenvpnManager.stopObfsproxy host w _ with
    mFileSystemWatcher := false }) _ (hsoft.disconnectFromOpenvpnSocket.stopObfsproxy host w)

theorem Relays.cancel (msg : QString) (h : Relays c before told next m) :
    Relays c before told next (m.cancel host w msg) := ((h.stop host w).emit _).emit _

theorem Relays.showErrorMessageCleanup (msg : QString) (h : Relays c before told next m) :
    Relays c before told next (m.showErrorMessageCleanup w msg) :=
  (Relays.setState w (m := removeProcess _) _ h.disconnectFromOpenvpnSocket).emit _

theorem Relays.enableTap (h : Relays c before told next m) :
    Relays c before told next (m.enableTap w) := by
  unfold OpenvpnManager.enableTap
  split
  · exact h
  · exact h
  · refine h.foldl (fun m p h => ?_) _
    unfold OpenvpnManager.enableTapOne
    dsimp only
    split_ifs <;> exact h

theorem Relays.startConnecting (h : Relays c before told next m) :
    Relays c before told next (m.startConnecting host w) := by
  have hrequested : ∀ {m : OpenvpnManager}, Relays c before told next m →
      Relays c before told next (({ m with
        mTunError := false, mError := false, mProcessing := false } :
          OpenvpnManager).getTemplate host) :=
    fun {m} h => Relays.note (a := .requested _) rfl rfl h
  have hset := h.setState w .connecting
  unfold OpenvpnManager.startConnecting
  dsimp only
  split
  · exact hrequested (hset.enableTap w)
  · exact hrequested hset

theorem Relays.start (a : Attempt) (h : Relays c before told next m) :
    Relays c before told next (m.start host w a) :=
  Relays.startConnecting host w (m := takeAttempt a _)
    (Relays.stop host w (m := { m with mReconnectAttempt := 0 }) h)

theorem Relays.reconnectTimeout (h : Relays c before told next m) :
    Relays c before told next (m.reconnectTimeout host w) := by
  have hrunning := Relays.openvpnRunning host w
    (m := { m with mReconnectAttempt := m.mReconnectAttempt + 1 }) h
  exact .ite (.ite hrunning ((hrunning.stop host w).startConnecting host w))
    (hrunning.startConnecting host w)

theorem Relays.killRunningOpenvpn (h : Relays c before told next m) :
    Relays c before told next (m.killRunningOpenvpn host w) := by
  have hrunning := (h.serviceLog "KillRunningOV() enter".toList).openvpnRunning host w
  exact (Relays.ite (((hrunning.connectToOpenvpnSocket w).stop host w).openvpnRunning host w)
    hrunning).serviceLog _

theorem Relays.netDown (down : Bool) (h : Relays c before told next m) :
    Relays c before told next (m.netDown host w down) := by
  obtain ⟨switched, log, hdown⟩ := netDown_eq host w m down
  rw [hdown]
  exact h

theorem Relays.writeConfigFile (h : Relays c before told next m) :
    Relays c before told next (m.writeConfigFile host w).2 := by
  unfold OpenvpnManager.writeConfigFile
  split
  · exact (h.serviceLog _).emit _
  · dsimp only
    split
    · exact Relays.emit (m := OpenvpnManager.serviceLog { m with configFile := [] } _) _ h
    · exact h

theorem Relays.processError (error : ℤ) (h : Relays c before told next m) :
    Relays c before told next (m.processError error) := by
  have hnoted : ∀ s, Relays c before told next
      ((m.serviceLog s).note (.processErrored m.mState m.connections.length)) :=
    fun s => (h.serviceLog s).note rfl rfl
  exact (hnoted _).emit _

theorem Relays.processStateChanged (st : ℤ) (h : Relays c before told next m) :
    Relays c before told next (m.processStateChanged host w st) :=
  (h.serviceLog _).setupFileWatcher host w

theorem Relays.processFinished (exitCode exitStatus : ℤ) (h : Relays c before told next m) :
    Relays c before told next (m.processFinished host w exitCode exitStatus) := by
  have hlogged : ∀ s, Relays c before told next (m.serviceLog s) := fun _ => h
  exact .ite (.ite ((hlogged _).openvpnRunning host w)
    (((hlogged _).openvpnRunning host w).setState w _))
    (((hlogged _).setupFileWatcher host w).connectToOpenvpnSocket w)

theorem Relays.processDied (exitCode : ℤ) (crashed : Bool) (h : Relays c before told next m) :
    Relays c before told next (m.processDied host w exitCode crashed) :=
  ((Relays.ite (h.processError 1) h).processStateChanged host w 0).processFinished host w _ _

theorem Relays.deleteProcess (h : Relays c before told next m) :
    Relays c before told next (m.deleteProcess host w) :=
  .ite (Relays.processDied host w (m := { m with mProcess := some .notRunning }) _ _ h) h

theorem Relays.startProcess (h : Relays c before told next m) :
    Relays c before told next (m.startProcess host w) := by
  have hset : ∀ {m : OpenvpnManager} (state : ProcessState) (st : ℤ), Relays c before told next m →
      Relays c before told next ({ m with mProcess := some state }.processStateChanged host w st) :=
    fun {m} state st h =>
      Relays.processStateChanged host w (m := { m with mProcess := some state }) st h
  have hstarting := hset .starting 1 h
  exact .ite ((hset .running 2 hstarting).serviceLog _)
    ((hset .notRunning 0 hstarting).processError 0)

theorem Relays.stampAndStartTimer (h : Relays c before told next m) :
    Relays c before told next (m.stampAndStartTimer w) := h

theorem Relays.launchDaemon (args : List QString) (h : Relays c before told next m) :
    Relays c before told next (m.launchDaemon host w args) := by
  unfold OpenvpnManager.launchDaemon
  split
  · exact ((h.serviceLog _).emit _).setState w _
  · have hnoted : Relays c before told next
        ((m.serviceLog "######  before exec ####".toList).noteLaunch args) :=
      Relays.note (m := m.serviceLog _) rfl rfl h
    exact ((((hnoted.serviceLog _).serviceLog _).connectToOpenvpnSocket w).setupFileWatcher host w
      |>.serviceLog _).stampAndStartTimer w

theorem Relays.launchProcess (args : List QString) (h : Relays c before told next m) :
    Relays c before told next (m.launchProcess host w args) := by
  have hnoted : Relays c before told next ((m.deleteProcess host w).noteLaunch args) :=
    (h.deleteProcess host w).note rfl rfl
  exact ((hnoted.startProcess host w).serviceLog _).stampAndStartTimer w

theorem Relays.continueConnecting (h : Relays c before told next m) :
    Relays c before told next (m.continueConnecting host w) := by
  have hwritten := h.writeConfigFile host w
  have hlogged : ∀ s s', Relays c before told next
      (((m.writeConfigFile host w).2.serviceLog s).serviceLog s') := fun _ _ => hwritten
  unfold OpenvpnManager.continueConnecting
  refine .ite hwritten (Relays.serviceLog _ ?_)
  split
  · exact (hlogged _ _).launchProcess host w _
  · exact (hlogged _ _).launchDaemon host w _

theorem Relays.getTemplateError (reply : TemplateRequest) (h : Relays c before told next m) :
    Relays c before told next (m.getTemplateError host w reply) := (h.emit _).stop host w

theorem Relays.getTemplateFinished (reply : TemplateRequest) (bytes : QByteArray)
    (h : Relays c before told next m) :
    Relays c before told next (m.getTemplateFinished host w reply bytes) :=
  .ite ((h.serviceLog _).stop host w)
    (Relays.continueConnecting host w (m := m.insertTemplate _ _) h)

theorem Relays.gotConnected (s : QString) (h : Relays c before told next m) :
    Relays c before told next (m.gotConnected w s) :=
  Relays.setState w _ (.ite (h.emit _) h)

theorem Relays.gotTunErr (h : Relays c before told next m) :
    Relays c before told next (m.gotTunErr host w) :=
  .ite (Relays.startConnecting host w
    (m := OpenvpnManager.serviceLog { m with mTunError := true, mError := true } _) h) h

theorem Relays.parseNewIp (s : QString) (h : Relays c before told next m) :
    Relays c before told next (m.parseNewIp s) := .ite (.ite (h.emit _) h) h

theorem Relays.bindFailed (h : Relays c before told next m) :
    Relays c before told next (m.bindFailed host w) := by
  have hswitched : ∀ port, Relays c before told next
      ({ m with mPort := port }.emit (.switchingPort port)) :=
    fun port => Relays.emit (m := { m with mPort := port }) _ h
  exact (hswitched _).startConnecting host w

theorem Relays.parseOpenvpnLogLine (s : QString) (h : Relays c before told next m) :
    Relays c before told next (m.parseOpenvpnLogLine host w s) := by
  have hnotice : ∀ {m : OpenvpnManager}, Relays c before told next m →
      Relays c before told next (m.parseLogNotice host w s) := fun h =>
    .ite (h.parseNewIp s) (.ite (h.gotConnected w s) (.ite (h.gotTunErr host w) h))
  exact .ite h (hnotice (.ite ((h.serviceLog _).bindFailed host w) h))

theorem Relays.readLog (content : Option QByteArray) (h : Relays c before told next m) :
    Relays c before told next (m.readLog content).2 := by
  unfold OpenvpnManager.readLog
  split
  · exact h
  · dsimp only
    split_ifs <;> exact h

theorem Relays.openvpnLogfileChanged (content : Option QByteArray)
    (h : Relays c before told next m) :
    Relays c before told next (m.openvpnLogfileChanged host w content) := by
  have hread := Relays.readLog (m := { m with mProcessing := true }) content h
  have hlines := fun lines => hread.foldl (fun _ s h => h.parseOpenvpnLogLine host w s) lines
  exact .ite h (hlines _)

theorem Relays.actOnStateWord (isnew : Bool) (word s : QString) (h : Relays c before told next m) :
    Relays c before told next (m.actOnStateWord host w isnew word s) := by
  have hset : ∀ st, Relays c before told next (m.setState w st) := fun st => h.setState w st
  have hreconnects : Relays c before told next (m.startReconnectTimer.setState w .connecting) :=
    Relays.setState w (m := m.startReconnectTimer) _ h
  have hstopped : ∀ signal, Relays c before told next ((m.emit signal).stop host w) :=
    fun signal => (h.emit signal).stop host w
  unfold OpenvpnManager.actOnStateWord
  refine .ite (.ite (h.gotConnected w s) h) (.ite ((hset _).emit _) (.ite (h.emit _) ?_))
  refine .ite (.ite hreconnects (hset _)) (.ite ((hset _).emit _) (.ite ((hset _).emit _) ?_))
  refine .ite (h.emit _) (.ite ((hset _).emit _) (.ite (h.emit _) ?_))
  exact .ite (.ite ((hstopped _).emit _) (h.emit _)) ((h.serviceLog _).emit _)

theorem Relays.parseSocketStateWord (word s : QString) (h : Relays c before told next m) :
    Relays c before told next (m.parseSocketStateWord host w word s) := by
  have hacted := fun isnew => Relays.actOnStateWord host w isnew word s
    (Relays.ite (p := isnew = true) ((h.serviceLog s).serviceLog
      ("processing state word '".toList ++ word ++ "'".toList)) h)
  exact Relays.note (a := .stateWord word) rfl rfl (hacted _)

theorem Relays.parseSocketPlainWord (word s : QString) (h : Relays c before told next m) :
    Relays c before told next (m.parseSocketPlainWord word s) := by
  have hlogged : ∀ t t', Relays c before told next ((m.serviceLog t).serviceLog t') := fun _ _ => h
  exact .ite h (.ite (hlogged _ _)
    (.ite (((hlogged _ _).disconnectFromOpenvpnSocket.emit _).emit _) (hlogged _ _)))

theorem Relays.parseSocketQueryWord (word s : QString) (h : Relays c before told next m) :
    Relays c before told next (m.parseSocketQueryWord host w word s) := by
  have hlogged : ∀ t t', Relays c before told next ((m.serviceLog t).serviceLog t') := fun _ _ => h
  have herror : ∀ {m : OpenvpnManager}, Relays c before told next m →
      Relays c before told next { m with mError := true } := id
  have hhold : ∀ t t', Relays c before told next (((((((m.serviceLog t).serviceLog t').serviceLog
      "hold off".toList).writeSocket "hold off\n".toList).serviceLog
        "hold release".toList).writeSocket "hold release\n".toList)) := by
    intro t t'
    rw [writeSocket_serviceLog]
    exact (hlogged t t').writeSocket_writeSocket .release rfl nofun
  have hlogin : ∀ t t', Relays c before told next (((((m.serviceLog t).serviceLog t').serviceLog
      "sending vpn login+password".toList).writeSocket ("username \"Auth\" \"".toList ++
        escapePsw m.mVPNUsername ++ "\"\n".toList)).writeSocket ("password \"Auth\" \"".toList ++
          escapePsw m.mVPNPassword ++ "\"\n".toList)) := by
    intro t t'
    refine (hlogged t t').writeSocket_writeSocket (.login m.credentials) rfl fun c' hc' => ?_
    rw [← Utterance.login.inj hc']
    exact h.1
  unfold OpenvpnManager.parseSocketQueryWord
  refine .ite (hlogged _ _) (.ite (.ite (hhold _ _) (hlogged _ _)) (.ite ?_ ?_))
  · exact .ite (hlogin _ _)
      (.ite (Relays.showErrorMessageCleanup w _ (herror (hlogged _ _))) (hlogged _ _))
  · refine .ite (hlogged _ _) (.ite ?_ (hlogged _ _))
    exact .ite ((hlogged _ _).gotTunErr host w) (Relays.cancel host w _ (herror (hlogged _ _)))

theorem Relays.parseSocketLine (s : QString) (h : Relays c before told next m) :
    Relays c before told next (m.parseSocketLine host w s) :=
  .ite (.ite (h.parseSocketQueryWord host w _ s) h)
    (.ite (.ite (.ite (h.parseSocketStateWord host w _ s) h) (h.parseSocketPlainWord s s))
      (h.parseSocketPlainWord _ s))

theorem Relays.readSocket (socket : QTcpSocket) (h : Relays c before told next m) :
    Relays c before told next (m.readSocket socket) := .ite h h

theorem Relays.socketReadyRead (socket : QTcpSocket) (h : Relays c before told next m) :
    Relays c before told next (m.socketReadyRead host w socket) :=
  Relays.foldl (fun _ s h => h.parseSocketLine host w s) _ (h.readSocket socket)

theorem Relays.pollOpenvpn (h : Relays c before told next m) :
    Relays c before told next (m.pollOpenvpn host w) := by
  have hrunning := h.openvpnRunning host w
  have hcrashed := Relays.ite (p := (m.openvpnRunning host w).2.mState = .connected)
    (.ite (p := (m.openvpnRunning host w).2.mReconnect = true)
      (hrunning.startConnecting host w) (hrunning.setState w .disconnected)) hrunning
  unfold OpenvpnManager.pollOpenvpn
  refine .ite ?_ hcrashed
  split
  · exact hrunning.connectToOpenvpnSocket w
  · exact .ite (hrunning.writeSocket .state rfl nofun) hrunning

theorem Relays.checkTimeout (h : Relays c before told next m) :
    Relays c before told next (m.checkTimeout host w) := by
  have hgaveUp : ∀ {m : OpenvpnManager} now, Relays c before told next m →
      Relays c before told next (m.note (.gaveUp now)) := fun _ h => h.note rfl rfl
  have hrestarted : Relays c before told next
      ({ m.ask.ask with mStartDateTime := some (w.clock m.ask.asked) } : OpenvpnManager) := h
  refine .ite (.ite (.ite ?_ h) (.ite ?_ h)) h
  · exact Relays.cancel host w _ (hgaveUp (m := m.ask) _ h)
  · exact ((hgaveUp _ hrestarted).stop host w).emit _

theorem Relays.checkState (h : Relays c before told next m) :
    Relays c before told next (m.checkState host w) :=
  ((h.serviceLog _).pollOpenvpn host w).checkTimeout host w

theorem Tells.ite {p : Prop} [Decidable p] {m' : OpenvpnManager}
    (h : Tells c before told next m) (h' : Tells c before told next m') :
    Tells c before told next (if p then m else m') := by
  split
  · exact h
  · exact h'

/-- The command may set other credentials. -/
theorem Relays.command (client : ℕ) (line : QByteArray) {jObj : QJsonObject}
    (hcmd : (jObj.value "cmd".toList).toInt ≠ cmdGetStatus) (h : Relays c before told next m) :
    Tells c before told next (m.command host w client line jObj) := by
  have hread : Relays c before told next
      (m.serviceLog ("Command read from socket: ".toList ++ QString.ofBytes line)) := h
  have hstart : ∀ {m : OpenvpnManager}, Relays c before told next m →
      Relays c before told next (m.commandStart host w jObj) := by
    intro m h
    have hready := ((h.serviceLog "socket_readyRead: Start VPN Command".toList).netDown host w
      false).serviceLog "Got cmdStart command from socket, calling start on vpn manager".toList
    exact Relays.start host w _ (.ite (hready.stop host w) hready)
  unfold OpenvpnManager.command
  refine .ite (hread.killRunningOpenvpn host w).2 ?_
  rw [if_neg hcmd]
  refine .ite hread.2 (.ite (hread.netDown host w true).2 (.ite (hstart hread).2 (.ite ?_ hread.2)))
  exact ((hread.serviceLog _).stop host w).2

end Relays
end OpenvpnManager
end CeloVpn.Service
