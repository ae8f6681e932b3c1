import CeloVpn.Client.Gui
import CeloVpn.Client.ServerLists
import CeloVpn.Library.Refinement

/-!
# Whether the windows agree about the session

The account, the log-in window and the tray each keep for themselves whether the user is
logged in. A dialog that is open runs whatever comes meanwhile, a log-in or a logout among
it, and what is left of the function that opened it waits until it is closed, the innermost
one first. All the same the three go through the same sessions, and the log-in window is
never left without its buttons.
-/
namespace CeloVpn.Client
open Runs

/-- Whether the user is logged in, as far as he can tell. -/
inductive Phase
  | out
  | underway
  | inside
  deriving DecidableEq

/-- What is announced of a session, apart from its beginning. -/
inductive Turn
  | login
  | failed
  | completed
  | logout
  deriving DecidableEq

/-- The sessions so far. -/
structure Sessions where
  phase : Phase
  /-- Newest first. -/
  turns : List Turn

namespace Sessions

/-- A logout that finds a log-in underway is announced before the log-in fails. -/
def after : Phase → Turn → Phase
  | _, .login => .underway
  | _, .failed => .out
  | _, .completed => .inside
  | .underway, .logout => .underway
  | _, .logout => .out

def step (t : Sessions) (turn : Turn) : Sessions := ⟨after t.phase turn, turn :: t.turns⟩

/-- A log-in begins when none is underway and nobody is logged in, and only one that is
underway ends. -/
def Allows (t : Sessions) : Turn → Prop
  | .login => t.phase = .out
  | .failed => t.phase = .underway
  | .completed => t.phase = .underway
  | .logout => True

/-- Those of the turns that a signal announces. -/
def announced (t : Sessions) : List Turn := t.turns.filter (· ≠ .login)

end Sessions

/-- What a signal of the account announces. -/
def AuthSignal.turn? : AuthSignal → Option Turn
  | .serverListsLoaded => none
  | .loginCompleted => some .completed
  | .loginError _ => some .failed
  | .logoutCompleted => some .logout

/-- The actions of the tray, and its menu of servers, as far as they are enabled. -/
structure TrayIconManager where
  mConnectAction : Bool
  mConnectToAction : Bool
  mDisconnectAction : Bool
  mJumpAction : Bool
  mSwitchCountryAction : Bool
  mLogoutAction : Bool
  /-- Constructed when it is first needed. -/
  mConnectToMenu : Option Bool
  /-- The menu was used before it was constructed. -/
  nullAccess : Bool

namespace TrayIconManager
variable (tray : TrayIconManager)

def disableActionsOnLogout : TrayIconManager :=
  { tray with mLogoutAction := false, mJumpAction := false, mSwitchCountryAction := false }

def enableButtonsOnLogin : TrayIconManager :=
  { tray with mLogoutAction := true, mJumpAction := true, mSwitchCountryAction := true }

def updateActionsEnabled (connecting loggedIn : Bool) : TrayIconManager :=
  { tray with
    mConnectAction := !connecting
    mJumpAction := !connecting
    mSwitchCountryAction := loggedIn && !connecting
    mDisconnectAction := loggedIn && connecting
    mConnectToAction := loggedIn && !connecting }

def stateChanged (st : ℤ) (loggedIn : Bool) : TrayIconManager :=
  if st = VpnState.disconnected.toInt then tray.updateActionsEnabled false loggedIn
  else if st = VpnState.connecting.toInt then tray.updateActionsEnabled true loggedIn
  else if st = VpnState.connected.toInt then
    { tray with mJumpAction := true, mSwitchCountryAction := true }
  else tray

def constructConnectToMenu (testing loggedIn : Bool) : TrayIconManager :=
  if testing then tray
  else if loggedIn then { tray with mConnectToMenu := some true }
  else tray

theorem constructConnectToMenu_cases (testing loggedIn : Bool) :
    tray.constructConnectToMenu testing loggedIn = tray ∨
      tray.constructConnectToMenu testing loggedIn = { tray with mConnectToMenu := some true } := by
  unfold constructConnectToMenu
  split_ifs
  · exact .inl rfl
  · exact .inr rfl
  · exact .inl rfl

/-- `mConnectToMenu->setEnabled(false)`. -/
def disableConnectToMenu : TrayIconManager :=
  { tray with
    nullAccess := tray.nullAccess || tray.mConnectToMenu.isNone
    mConnectToMenu := tray.mConnectToMenu.map fun _ => false }

/-- The tray after its constructor. -/
def initial : TrayIconManager :=
  (stateChanged ⟨true, false, true, true, false, true, none, false⟩ VpnState.disconnected.toInt
    false).disableActionsOnLogout

end TrayIconManager

namespace AuthManager

/-- `login` as far as it sends the credentials. -/
def enter (name password : QString) (m : AuthManager) : AuthManager :=
  { m with
    mVPNLogin := name
    mVPNPassword := password
    mLoggedIn := true
    mCancellingLogin := false }

/-- What it does then. -/
def requestServers (m : AuthManager) : AuthManager := { m with replyPending := true }

theorem login_eq (name password : QString) (m : AuthManager) :
    m.login name password = (m.enter name password).requestServers := rfl

/-- What the account has announced, newest first. -/
def announced (m : AuthManager) : List Turn := m.signals.filterMap AuthSignal.turn?

/-- What the pings leave alone: whether the user is logged in, and as whom. -/
def standing (m : AuthManager) : Bool × Bool × QString × List Turn :=
  (m.mLoggedIn, m.replyPending, m.mVPNLogin, m.announced)

section Standing
variable (m : AuthManager)

theorem standing_startWorker (id : ℕ) : (m.startWorker id).standing = m.standing := by
  unfold startWorker
  split <;> rfl

theorem standing_pingAllServers : m.pingAllServers.standing = m.standing := by
  unfold pingAllServers
  refine startWorkers_induction _ (fun m' id h => (m'.standing_startWorker id).trans h) ?_
  dsimp only
  split_ifs <;> rfl

theorem standing_pingComplete (id : ℕ) (p : ℤ) :
    (m.pingComplete id p).standing = m.standing := by
  unfold pingComplete
  rw [standing_startWorker]
  rfl

theorem standing_pingError (id : ℕ) (p : ℤ) : (m.pingError id p).standing = m.standing := by
  unfold pingError
  rw [standing_startWorker]
  rfl

theorem standing_pingTerminated (id : ℕ) (p : ℤ) :
    (m.pingTerminated id p).standing = m.standing := by
  unfold pingTerminated
  rw [standing_startWorker]
  rfl

theorem standing_step {e : Event} (h : e.pings = true) :
    (m.step e).standing = m.standing := by
  cases e with
  | pingFinished id p =>
    simp only [step]
    split_ifs
    · rw [standing_pingComplete]
      rfl
    · rfl
  | pingErrorOccurred id ends p =>
    simp only [step]
    split_ifs
    · rw [standing_pingError]
      rfl
    · rw [standing_pingError]
    · rfl
  | timeout id p =>
    simp only [step]
    split_ifs
    · exact timerTerminate_induction (P := fun m' => m'.standing = m.standing) m
        (fun m' p h => (m'.standing_pingTerminated id p).trans h) rfl p
    · rfl
  | _ => cases h

/-- A reply with a message leaves nobody logged in. -/
theorem processServersXml_of_message {reply : ServersReply} (testing : Bool)
    (hmessage : (m.processServersXml reply testing).1.isEmpty = false) :
    (m.processServersXml reply testing).2 = { m.clearServerLists with mLoggedIn := false } := by
  cases reply with
  | document nodes =>
    cases nodes with
    | nil => rfl
    | cons se nodes => cases hmessage
  | _ => rfl

/-- Without a message the user is logged in. -/
theorem standing_of_no_message {reply : ServersReply} (h : reply ≠ .error []) (testing : Bool)
    (hmessage : (m.processServersXml reply testing).1.isEmpty = true) :
    (m.processServersXml reply testing).2.standing =
      (true, m.replyPending, m.mVPNLogin, m.announced) := by
  -- the other replies have one
  obtain ⟨se, nodes, rfl⟩ : ∃ se nodes, reply = .document (se :: nodes) := by
    rw [List.isEmpty_iff] at hmessage
    unfold processServersXml at hmessage
    cases reply with
    | error errorString => exact absurd (congrArg ServersReply.error hmessage) h
    | empty =>
      dsimp only at hmessage
      rw [String.toList_eq_nil_iff] at hmessage
      simp at hmessage
    | malformed message line column =>
      dsimp only at hmessage
      rw [List.append_eq_nil_iff, String.toList_eq_nil_iff] at hmessage
      simp at hmessage
    | document nodes =>
      cases nodes with
      | nil =>
        dsimp only at hmessage
        rw [String.toList_eq_nil_iff] at hmessage
        simp at hmessage
      | cons se nodes => exact ⟨se, nodes, rfl⟩
  obtain ⟨_, _, _, _, hnodes⟩ := foldl_addServer_frame m.clearServerLists (se :: nodes)
  have hloop : (({ (se :: nodes).foldl addServer m.clearServerLists with
      mLoggedIn := true } : AuthManager).emit .serverListsLoaded).standing =
      (true, m.replyPending, m.mVPNLogin, m.announced) := by
    rw [hnodes]
    rfl
  cases testing with
  | true => exact hloop
  | false => exact (standing_pingAllServers _).trans hloop

/-- The message that a reply ends the log-in with is empty where the user is logged in. -/
theorem standing_loginFinished {reply : ServersReply} (h : reply ≠ .error []) (testing : Bool) :
    (m.loginFinished reply testing).standing =
      ((m.processServersXml reply testing).1.isEmpty, false, m.mVPNLogin,
        (if (m.processServersXml reply testing).1.isEmpty then .completed else .failed) ::
          m.announced) := by
  have hsame : (({ m with replyPending := false } : AuthManager).processServersXml reply
      testing).1 = (m.processServersXml reply testing).1 := by
    cases reply with
    | document nodes => cases nodes <;> rfl
    | _ => rfl
  unfold loginFinished
  dsimp only
  cases hmessage : (m.processServersXml reply testing).1.isEmpty with
  | true =>
    have hstanding := standing_of_no_message ({ m with replyPending := false } : AuthManager) h
      testing ((congrArg List.isEmpty hsame).trans hmessage)
    rw [hsame, hmessage, if_pos rfl, if_pos rfl]
    simp only [standing, Prod.mk.injEq] at hstanding ⊢
    exact ⟨hstanding.1, hstanding.2.1, hstanding.2.2.1,
      congrArg (Turn.completed :: ·) hstanding.2.2.2⟩
  | false =>
    rw [hsame, hmessage, processServersXml_of_message _ testing
      ((congrArg List.isEmpty hsame).trans hmessage)]
    rfl

end Standing
end AuthManager

/-- A dialog that is open, by what waits behind it. -/
inductive Dialog
  /-- `login` has yet to request the servers. -/
  | login
  /-- `logoutTriggered` has yet to log out. -/
  | disconnecting
  /-- `loginError` has yet to enable the buttons. -/
  | loginError
  /-- So has it, and the logout that aborted the log-in has to go on. -/
  | aborted
  /-- `loggedIn` has yet to enable the buttons. -/
  | loggedIn
  | other
  deriving DecidableEq

/-- The account with the log-in window and the tray. -/
structure LoginSession where
  testing : Bool
  account : AuthManager
  tray : TrayIconManager
  /-- The innermost one first. -/
  dialogs : List Dialog
  /-- `Timer_Constructed` has run, and the window hears of log-ins. -/
  constructed : Bool
  /-- What `enableButtons` was called with last. -/
  enabled : Bool
  _CancelLogin : Bool
  _ConnectAfterLogin : Bool

/-- What is in the fields of the window, and whether the service is reached. -/
structure Entry where
  eLogin : QString
  ePsw : QString
  reached : Bool

/-- The text of an error is never empty. -/
inductive LoginEvent
  | timerConstructed (autoconnect : Bool) (i : Entry)
  | loginClicked (i : Entry)
  | cancelClicked
  | logoutTriggered (reached : Bool)
  | connectTriggered (i : Entry)
  /-- An entry of the tray's menu. -/
  | connectToTriggered (i : Entry)
  /-- The wifi is insecure, and nothing is connected. -/
  | checkWifi (autoconnect : Bool) (i : Entry)
  | replyFinished (reply : ServersReply) (h : reply ≠ .error []) (reached : Bool)
  | pinged (e : AuthManager.Event) (h : e.pings = true)
  | stateChanged (st : ℤ)
  /-- Another encryption is set, or other nodes are shown. -/
  | nodesChanged
  /-- A dialog behind which nothing of these waits. -/
  | dialogOpened
  | dialogClosed

namespace LoginSession
variable (s : LoginSession)

/-- The end of `loggedIn` and `loginError`. -/
def settled : LoginSession := { s with enabled := true, _ConnectAfterLogin := false }

def constructConnectToMenu : LoginSession :=
  { s with tray := s.tray.constructConnectToMenu s.testing s.account.mLoggedIn }

/-- `on_loginButton_clicked`, and `login`. -/
def loginClicked (i : Entry) : LoginSession :=
  if s.account.mLoggedIn ∨ i.eLogin = [] then s
  else
    let s := { s with
      _CancelLogin := false
      enabled := false
      account := s.account.enter i.eLogin i.ePsw }
    if i.reached then { s with account := s.account.requestServers }
    else { s with dialogs := .login :: s.dialogs }

/-- `LoginWindow::loginError`, and the dialog it opens. -/
def loginError (d : Dialog) : LoginSession :=
  let s := { s with tray := s.tray.disableActionsOnLogout }
  if s._CancelLogin then s.settled else { s with dialogs := d :: s.dialogs }

/-- `LoginWindow::loggedIn`. -/
def loggedIn (reached : Bool) : LoginSession :=
  let s := s.constructConnectToMenu
  if s._ConnectAfterLogin && !reached then { s with dialogs := .loggedIn :: s.dialogs }
  else s.settled

/-- `AuthManager::loginFinished`, and the slots of its signals. -/
def loginFinished (d : Dialog) (reply : ServersReply) (reached : Bool) : LoginSession :=
  let message := (s.account.processServersXml reply s.testing).1
  let s := { s with account := s.account.loginFinished reply s.testing }
  if message.isEmpty then
    -- the tray hears of it in any case
    let s := s.constructConnectToMenu
    let s := { s with tray := s.tray.enableButtonsOnLogin }
    if s.constructed then s.loggedIn reached else s
  else if s.constructed then s.loginError d
  else s

/-- `AuthManager::cancel`. -/
def cancel (d : Dialog) : LoginSession :=
  let s := { s with account := { s.account with mCancellingLogin := true } }
  if s.account.replyPending then s.loginFinished d (.error "Operation canceled".toList) true
  else s

/-- `on_cancelButton_clicked`. -/
def cancelClicked : LoginSession := ({ s with _CancelLogin := true }).cancel .loginError

/-- `AuthManager::logout` once it has cancelled the log-in, with the slots of its signal,
and what `logoutTriggered` does then. -/
def loggedOut : LoginSession :=
  let account : AuthManager :=
    { s.account with mLoggedIn := false, mVPNLogin := [], mVPNPassword := [] }
  let s := { s with
    account := account.emit .logoutCompleted
    tray := s.tray.disableActionsOnLogout }
  let s := s.cancelClicked
  { s with tray := s.tray.disableConnectToMenu.disableActionsOnLogout }

/-- `AuthManager::logout`, and what `logoutTriggered` does then. -/
def logout : LoginSession :=
  let pending := s.account.replyPending
  let t := s.cancel .aborted
  -- an error that is shown holds up the rest
  if pending && s.constructed && !s._CancelLogin then t else t.loggedOut

/-- `TrayIconManager::logoutTriggered`. -/
def logoutTriggered (reached : Bool) : LoginSession :=
  if reached then s.logout else { s with dialogs := .disconnecting :: s.dialogs }

/-- What has waited behind a dialog. -/
def resume : Dialog → LoginSession
  | .login => { s with account := s.account.requestServers }
  | .disconnecting => s.logout
  | .loginError | .loggedIn => s.settled
  | .aborted => s.settled.loggedOut
  | .other => s

/-- The innermost dialog is closed. -/
def dialogClosed : LoginSession :=
  match s.dialogs with
  | [] => s
  | d :: dialogs => ({ s with dialogs := dialogs }).resume d

/-- An action that is disabled is not triggered. -/
def step : LoginEvent → LoginSession
  | .timerConstructed autoconnect i =>
    if s.constructed then s
    else if autoconnect then
      ({ s with constructed := true, _ConnectAfterLogin := true }).loginClicked i
    else { s with constructed := true }
  | .loginClicked i => s.loginClicked i
  | .cancelClicked => s.cancelClicked
  | .logoutTriggered reached => if s.tray.mLogoutAction then s.logoutTriggered reached else s
  | .connectTriggered i =>
    if s.tray.mConnectAction && !s.account.mLoggedIn then s.loginClicked i else s
  | .connectToTriggered i =>
    if s.tray.mConnectToMenu = some true ∧ s.account.mLoggedIn = false then s.loginClicked i
    else s
  | .checkWifi autoconnect i =>
    if !s.account.mLoggedIn && autoconnect then
      ({ s with _ConnectAfterLogin := true }).loginClicked i
    else s
  | .replyFinished reply _ reached =>
    if s.account.replyPending then s.loginFinished .loginError reply reached else s
  | .pinged e _ => { s with account := s.account.step e }
  | .stateChanged st => { s with tray := s.tray.stateChanged st s.account.mLoggedIn }
  | .nodesChanged => s.constructConnectToMenu
  | .dialogOpened => { s with dialogs := .other :: s.dialogs }
  | .dialogClosed => s.dialogClosed

/-- Before anything happens; some members are left as they are found. -/
def initial (testing mPingsLoaded _CancelLogin : Bool) : LoginSession where
  testing := testing
  account := .initial mPingsLoaded
  tray := .initial
  dialogs := []
  constructed := false
  enabled := true
  _CancelLogin := _CancelLogin
  _ConnectAfterLogin := false

end LoginSession

namespace Dialog

/-- Once it is closed the buttons are enabled. -/
def enables : Dialog → Bool
  | .loginError | .aborted | .loggedIn => true
  | _ => false

/-- Once it is closed a logout goes on. -/
def logsOut : Dialog → Bool
  | .disconnecting | .aborted => true
  | _ => false

def turns (d : Dialog) : Bool := d.logsOut || d == .login

end Dialog

/-- The account, the window and the tray agree about the session while dialogs are waiting
to be closed. -/
structure LoginSession.Agrees (waiting : List Dialog) (s : LoginSession) (t : Sessions) :
    Prop where
  constructed : s.constructed = true
  standing : s.account.standing = (decide (t.phase ≠ .out),
    decide (t.phase = .underway ∧ .login ∉ waiting), s.account.mVPNLogin, t.announced)
  named : t.phase ≠ .out → s.account.mVPNLogin ≠ []
  logoutAction : s.tray.mLogoutAction = decide (t.phase = .inside)
  buttons : s.enabled = false → t.phase = .underway ∨ ∃ d ∈ waiting, d.enables = true
  login : .login ∈ waiting → t.phase = .underway
  nested : waiting.Pairwise fun above below => above.turns = true → below ≠ .login
  menu : s.testing = false → t.phase = .inside → s.tray.mConnectToMenu = some true
  held : s.testing = false → (∃ d ∈ waiting, d.logsOut = true) → s.tray.mConnectToMenu ≠ none
  nullAccess : s.testing = false → s.tray.nullAccess = false

namespace LoginSession

/-- What they agree about, apart from the account. -/
def windows (s : LoginSession) : Bool × Bool × Bool × TrayIconManager :=
  (s.testing, s.constructed, s.enabled, s.tray)

variable {waiting : List Dialog} {s s' : LoginSession} {t t' : Sessions} {d : Dialog}

namespace Agrees

theorem kept (h : Agrees waiting s t) (hstanding : s'.account.standing = s.account.standing)
    (hwindows : s'.windows = s.windows) : Agrees waiting s' t := by
  simp only [windows, Prod.mk.injEq] at hwindows
  obtain ⟨htesting, hconstructed, henabled, htray⟩ := hwindows
  have hname : s'.account.mVPNLogin = s.account.mVPNLogin :=
    congrArg (fun standing => standing.2.2.1) hstanding
  refine ⟨hconstructed.trans h.constructed, ?_, ?_, ?_, ?_, h.login, h.nested, ?_, ?_, ?_⟩
  · rw [hstanding, hname, h.standing]
  · rw [hname]; exact h.named
  · rw [htray]; exact h.logoutAction
  · rw [henabled]; exact h.buttons
  · rw [htesting, htray]; exact h.menu
  · rw [htesting, htray]; exact h.held
  · rw [htesting, htray]; exact h.nullAccess

theorem pending_eq (h : Agrees waiting s t) :
    s.account.replyPending = decide (t.phase = .underway ∧ .login ∉ waiting) :=
  congrArg (fun standing => standing.2.1) h.standing

/-- A log-in is underway where a reply is pending, and the request for it has been made. -/
theorem underway (h : Agrees waiting s t) (hpending : s.account.replyPending = true) :
    t.phase = .underway ∧ .login ∉ waiting :=
  of_decide_eq_true (h.pending_eq ▸ hpending)

theorem pending_of_underway (h : Agrees waiting s t) (hphase : t.phase = .underway)
    (hlogin : .login ∉ waiting) : s.account.replyPending = true :=
  h.pending_eq.trans (decide_eq_true ⟨hphase, hlogin⟩)

theorem loggedIn_eq (h : Agrees waiting s t) :
    s.account.mLoggedIn = decide (t.phase ≠ .out) :=
  congrArg Prod.fst h.standing

theorem announced_eq (h : Agrees waiting s t) : s.account.announced = t.announced :=
  congrArg (fun standing => standing.2.2.2) h.standing

theorem pushed (h : Agrees waiting s t) (hd : d ≠ .login)
    (hlogsOut : d.logsOut = true → .login ∉ waiting ∧
      (s.testing = false → s.tray.mConnectToMenu ≠ none)) : Agrees (d :: waiting) s t := by
  have hmem : .login ∉ d :: waiting ↔ .login ∉ waiting := by simp [hd.symm]
  refine ⟨h.constructed, ?_, h.named, h.logoutAction, ?_, ?_, ?_, h.menu, ?_, h.nullAccess⟩
  · simpa only [hmem] using h.standing
  · intro henabled
    exact (h.buttons henabled).imp_right fun ⟨d', hd', henables⟩ =>
      ⟨d', List.mem_cons_of_mem d hd', henables⟩
  · intro hlogin
    exact h.login ((List.mem_cons.mp hlogin).resolve_left hd.symm)
  · refine List.pairwise_cons.mpr ⟨fun below hbelow hturns heq => ?_, h.nested⟩
    have hout : d.logsOut = true := by simpa [Dialog.turns, hd] using hturns
    exact (hlogsOut hout).1 (heq ▸ hbelow)
  · rintro htesting ⟨d', hd', hout⟩
    rcases List.mem_cons.mp hd' with rfl | hd'
    · exact (hlogsOut hout).2 htesting
    · exact h.held htesting ⟨d', hd', hout⟩

theorem popped (h : Agrees (d :: waiting) s t) (hd : d ≠ .login)
    (henables : s.enabled = false → d.enables = false) : Agrees waiting s t := by
  have hmem : .login ∉ d :: waiting ↔ .login ∉ waiting := by simp [hd.symm]
  refine ⟨h.constructed, ?_, h.named, h.logoutAction, ?_, ?_, h.nested.of_cons, h.menu, ?_,
    h.nullAccess⟩
  · simpa only [hmem] using h.standing
  · intro henabled
    refine (h.buttons henabled).imp_right fun ⟨d', hd', hd''⟩ => ⟨d', ?_, hd''⟩
    refine (List.mem_cons.mp hd').resolve_left ?_
    rintro rfl
    exact absurd hd'' (by rw [henables henabled]; exact Bool.false_ne_true)
  · exact fun hlogin => h.login (List.mem_cons_of_mem d hlogin)
  · rintro htesting ⟨d', hd', hout⟩
    exact h.held htesting ⟨d', List.mem_cons_of_mem d hd', hout⟩

/-- The buttons are enabled. -/
theorem settled (h : Agrees (d :: waiting) s t) (hd : d ≠ .login) :
    Agrees waiting s.settled t := by
  have henabled : s.settled.enabled ≠ false := Bool.false_ne_true.symm
  have hall : Agrees (d :: waiting) s.settled t :=
    ⟨h.constructed, h.standing, h.named, h.logoutAction, fun hnot => absurd hnot henabled,
      h.login, h.nested, h.menu, h.held, h.nullAccess⟩
  exact hall.popped hd fun hnot => absurd hnot henabled

theorem not_login_of_turns (h : Agrees (d :: waiting) s t) (hd : d.turns = true) :
    .login ∉ waiting :=
  fun hlogin => (List.pairwise_cons.mp h.nested).1 _ hlogin hd rfl

/-- Nobody is logged in any longer. -/
theorem ended {name : QString} (h : Agrees waiting s t) (hlogin : .login ∉ waiting)
    (hphase : t'.phase = .out)
    (hstanding : s'.account.standing = (false, false, name, t'.announced))
    (hlogout : s'.tray.mLogoutAction = false)
    (hbuttons : s'.enabled = false → ∃ d ∈ waiting, d.enables = true)
    (hmenu : s.tray.mConnectToMenu ≠ none → s'.tray.mConnectToMenu ≠ none)
    (hnull : s.testing = false → s'.tray.nullAccess = false)
    (hconstructed : s'.constructed = s.constructed) (htesting : s'.testing = s.testing) :
    Agrees waiting s' t' := by
  have hname : s'.account.mVPNLogin = name :=
    congrArg (fun standing => standing.2.2.1) hstanding
  refine ⟨hconstructed.trans h.constructed, ?_, ?_, ?_, ?_, ?_, h.nested, ?_, ?_, ?_⟩
  · rw [hstanding, hname, hphase]
    rfl
  · exact fun hnot => absurd hphase hnot
  · rw [hlogout, hphase]
    rfl
  · exact fun henabled => .inr (hbuttons henabled)
  · exact fun hmem => absurd hmem hlogin
  · intro _ hinside
    rw [hphase] at hinside
    cases hinside
  · rw [htesting]
    exact fun hproper hout => hmenu (h.held hproper hout)
  · rw [htesting]
    exact hnull

/-- The log-in ends with an error, and a dialog shows it. -/
theorem failed (h : Agrees waiting s t) (hpending : s.account.replyPending = true)
    {a : AuthManager} {name : QString}
    (hstanding : a.standing = (false, false, name, .failed :: s.account.announced))
    (hd : d ≠ .login) (henables : d.enables = true)
    (hlogsOut : d.logsOut = true → s.testing = false → s.tray.mConnectToMenu ≠ none) :
    Agrees (d :: waiting) { s with account := a, tray := s.tray.disableActionsOnLogout }
      (t.step .failed) := by
  obtain ⟨-, hlogin⟩ := h.underway hpending
  have hpushed : Agrees (d :: waiting) s t := h.pushed hd fun hout => ⟨hlogin, hlogsOut hout⟩
  rw [h.announced_eq] at hstanding
  refine hpushed.ended ?_ rfl hstanding rfl (fun _ => ⟨d, List.mem_cons_self, henables⟩) id
    h.nullAccess rfl rfl
  exact fun hmem => hlogin ((List.mem_cons.mp hmem).resolve_left hd.symm)

/-- It ends well. -/
theorem completed (h : Agrees waiting s t) (hpending : s.account.replyPending = true)
    {a : AuthManager} (hstanding : a.standing =
      (true, false, s.account.mVPNLogin, .completed :: s.account.announced)) :
    Agrees (.loggedIn :: waiting) { s with
      account := a
      tray := (s.tray.constructConnectToMenu s.testing true).enableButtonsOnLogin }
      (t.step .completed) := by
  obtain ⟨hphase, hlogin⟩ := h.underway hpending
  have hname : a.mVPNLogin = s.account.mVPNLogin :=
    congrArg (fun standing => standing.2.2.1) hstanding
  have hmenu : s.testing = false →
      (s.tray.constructConnectToMenu s.testing true).mConnectToMenu = some true := by
    intro htesting
    rw [htesting]
    rfl
  have hnull : (s.tray.constructConnectToMenu s.testing true).nullAccess = s.tray.nullAccess := by
    cases s.testing <;> rfl
  refine ⟨h.constructed, ?_, fun _ => ?_, rfl, fun _ => ?_, fun hmem => ?_, ?_,
    fun htesting _ => ?_, fun htesting _ => ?_, fun htesting => ?_⟩
  · rw [hstanding, h.announced_eq, hname]
    rfl
  · rw [hname]
    refine h.named ?_
    rw [hphase]
    exact Phase.noConfusion
  · exact .inr ⟨.loggedIn, List.mem_cons_self, rfl⟩
  · exact absurd ((List.mem_cons.mp hmem).resolve_left Dialog.noConfusion) hlogin
  · exact List.pairwise_cons.mpr ⟨fun _ _ hturns => Bool.noConfusion hturns, h.nested⟩
  · exact hmenu htesting
  · exact fun hnone => Option.some_ne_none true ((hmenu htesting).symm.trans hnone)
  · exact hnull.trans (h.nullAccess htesting)

end Agrees

/-- After a function the session has taken some turns. -/
def GoesOn (s : LoginSession) (t : Sessions) : Prop :=
  ∃ t', Leads Sessions.step Sessions.Allows t t' ∧ Agrees s.dialogs s t'

theorem Agrees.goesOn (h : Agrees s.dialogs s t) : GoesOn s t := ⟨t, Leads.refl t, h⟩

theorem goesOn_of_kept (h : Agrees s'.dialogs s t)
    (hstanding : s'.account.standing = s.account.standing) (hwindows : s'.windows = s.windows) :
    GoesOn s' t :=
  (h.kept hstanding hwindows).goesOn

/-- The servers are requested. -/
theorem Agrees.requested (h : Agrees (.login :: waiting) s t) :
    Agrees waiting { s with account := s.account.requestServers } t := by
  have hphase : t.phase = .underway := h.login List.mem_cons_self
  have hlogin : .login ∉ waiting := h.not_login_of_turns rfl
  refine ⟨h.constructed, ?_, h.named, h.logoutAction, fun _ => .inl hphase,
    fun hmem => absurd hmem hlogin, h.nested.of_cons, h.menu, ?_, h.nullAccess⟩
  · have hstanding := h.standing
    simp only [AuthManager.standing, Prod.mk.injEq] at hstanding ⊢
    refine ⟨hstanding.1, ?_, trivial, hstanding.2.2.2⟩
    exact (decide_eq_true ⟨hphase, hlogin⟩).symm
  · rintro htesting ⟨d, hd, hout⟩
    exact h.held htesting ⟨d, List.mem_cons_of_mem _ hd, hout⟩

/-- A log-in begins. -/
theorem Agrees.entered (h : Agrees waiting s t) (hphase : t.phase = .out) {i : Entry}
    (hname : i.eLogin ≠ []) : Agrees (.login :: waiting) { s with
      _CancelLogin := false
      enabled := false
      account := s.account.enter i.eLogin i.ePsw } (t.step .login) := by
  have hlogin : .login ∉ waiting := by
    intro hmem
    have hunderway := h.login hmem
    rw [hphase] at hunderway
    cases hunderway
  have hidle : s.account.replyPending = false :=
    Bool.eq_false_iff.mpr fun hpending => by
      have hunderway := (h.underway hpending).1
      rw [hphase] at hunderway
      cases hunderway
  refine ⟨h.constructed, ?_, fun _ => hname, ?_, fun _ => .inl rfl, fun _ => rfl, ?_, ?_, ?_,
    h.nullAccess⟩
  · have hrequested : decide ((t.step .login).phase = .underway ∧
        Dialog.login ∉ Dialog.login :: waiting) = false :=
      decide_eq_false fun hnot => hnot.2 List.mem_cons_self
    rw [hrequested]
    exact congrArg₂ (fun pending announced => (true, pending, i.eLogin, announced)) hidle
      h.announced_eq
  · exact h.logoutAction.trans (by rw [hphase]; rfl)
  · exact List.pairwise_cons.mpr ⟨fun below hbelow _ heq => hlogin (heq ▸ hbelow), h.nested⟩
  · intro _ hinside
    cases hinside
  · rintro htesting ⟨d, hd, hout⟩
    rcases List.mem_cons.mp hd with rfl | hd
    · cases hout
    · exact h.held htesting ⟨d, hd, hout⟩

theorem goesOn_loginClicked (h : Agrees s.dialogs s t) (i : Entry) :
    GoesOn (s.loginClicked i) t := by
  unfold loginClicked
  dsimp only
  split_ifs with hno hreached
  · exact h.goesOn
  all_goals
    obtain ⟨hout, hname⟩ := not_or.mp hno
    have hphase : t.phase = .out := by
      by_contra hphase
      exact hout (h.loggedIn_eq.trans (decide_eq_true hphase))
    have hbegun := h.entered hphase (i := i) hname
    have hleads : Leads Sessions.step Sessions.Allows t (t.step .login) := Leads.single hphase
  · exact ⟨_, hleads, hbegun.requested⟩
  · exact ⟨_, hleads, hbegun.kept rfl rfl⟩

/-- The error is shown, or the buttons are enabled at once. -/
theorem Agrees.loginError
    (h : Agrees (d :: s.dialogs) { s with tray := s.tray.disableActionsOnLogout } t)
    (hd : d ≠ .login) : Agrees (s.loginError d).dialogs (s.loginError d) t := by
  unfold LoginSession.loginError
  dsimp only
  split_ifs
  · exact h.settled hd
  · exact h.kept rfl rfl

theorem Agrees.menuConstructed (h : Agrees waiting s t) :
    Agrees waiting s.constructConnectToMenu t := by
  have hmenu : s.constructConnectToMenu = s ∨
      s.constructConnectToMenu = { s with tray := { s.tray with mConnectToMenu := some true } } :=
    (s.tray.constructConnectToMenu_cases s.testing s.account.mLoggedIn).imp
      (congrArg fun tray => { s with tray := tray }) (congrArg fun tray => { s with tray := tray })
  rcases hmenu with hmenu | hmenu
  · rw [hmenu]
    exact h
  · rw [hmenu]
    exact ⟨h.constructed, h.standing, h.named, h.logoutAction, h.buttons, h.login, h.nested,
      fun _ _ => rfl, fun _ _ => Option.some_ne_none true, h.nullAccess⟩

/-- The client connects after the log-in, or the buttons are enabled at once. -/
theorem Agrees.loginCompleted (h : Agrees (.loggedIn :: s.dialogs) s t) (reached : Bool) :
    Agrees (s.loggedIn reached).dialogs (s.loggedIn reached) t := by
  unfold LoginSession.loggedIn
  dsimp only
  split_ifs
  · exact h.menuConstructed.kept rfl rfl
  · exact h.menuConstructed.settled Dialog.noConfusion

/-- The reply to a log-in is finished. -/
theorem goesOn_loginFinished (h : Agrees s.dialogs s t) (hpending : s.account.replyPending = true)
    {reply : ServersReply} (hreply : reply ≠ .error []) (hd : d ≠ .login)
    (henables : d.enables = true)
    (hlogsOut : d.logsOut = true → s.testing = false → s.tray.mConnectToMenu ≠ none)
    (reached : Bool) : GoesOn (s.loginFinished d reply reached) t := by
  have hphase := (h.underway hpending).1
  have hstanding := s.account.standing_loginFinished hreply s.testing
  unfold LoginSession.loginFinished
  dsimp only
  cases hmessage : (s.account.processServersXml reply s.testing).1.isEmpty with
  | true =>
    rw [hmessage] at hstanding
    have hloggedIn : (s.account.loginFinished reply s.testing).mLoggedIn = true :=
      congrArg Prod.fst hstanding
    have hcompleted := h.completed hpending hstanding
    rw [if_pos rfl, constructConnectToMenu, if_pos h.constructed]
    rw [← hloggedIn] at hcompleted
    have hallowed : t.Allows .completed := hphase
    exact ⟨_, Leads.single hallowed, (hcompleted.kept rfl rfl).loginCompleted reached⟩
  | false =>
    rw [hmessage] at hstanding
    have hallowed : t.Allows .failed := hphase
    rw [if_neg Bool.false_ne_true, if_pos h.constructed]
    exact ⟨_, Leads.single hallowed,
      (h.failed hpending hstanding hd henables hlogsOut).loginError hd⟩

theorem cancel_of_idle (hidle : s.account.replyPending = false) :
    s.cancel d = { s with account := s.account.cancel } := by
  have hnot : ¬s.account.replyPending = true := Bool.eq_false_iff.mp hidle
  unfold cancel AuthManager.cancel AuthManager.abortReply
  dsimp only
  rw [if_neg hnot, if_neg hnot]

/-- The reply is finished before it is aborted. -/
theorem cancel_of_pending (hconstructed : s.constructed = true)
    (hpending : s.account.replyPending = true) :
    s.cancel d = ({ s with account := s.account.cancel } : LoginSession).loginError d := by
  unfold cancel AuthManager.cancel AuthManager.abortReply
  dsimp only
  rw [if_pos hpending, if_pos hpending]
  exact if_pos hconstructed

theorem standing_cancel_of_idle {m : AuthManager} (hidle : m.replyPending = false) :
    m.cancel.standing = m.standing := by
  unfold AuthManager.cancel AuthManager.abortReply
  rw [if_neg (Bool.eq_false_iff.mp hidle)]
  rfl

theorem standing_cancel_of_pending {m : AuthManager} (hpending : m.replyPending = true) :
    m.cancel.standing = (false, false, m.mVPNLogin, .failed :: m.announced) := by
  unfold AuthManager.cancel AuthManager.abortReply
  rw [if_pos hpending]
  rfl

theorem goesOn_cancel (h : Agrees s.dialogs s t) : GoesOn (s.cancel .loginError) t := by
  cases hpending : s.account.replyPending with
  | false =>
    rw [cancel_of_idle hpending]
    exact goesOn_of_kept h (standing_cancel_of_idle hpending) rfl
  | true =>
    rw [cancel_of_pending h.constructed hpending]
    have hallowed : t.Allows .failed := (h.underway hpending).1
    exact ⟨_, Leads.single hallowed, (h.failed hpending (standing_cancel_of_pending hpending)
      Dialog.noConfusion rfl fun hnot => Bool.noConfusion hnot).loginError Dialog.noConfusion⟩

theorem goesOn_cancelClicked (h : Agrees s.dialogs s t) : GoesOn s.cancelClicked t :=
  goesOn_cancel (s := { s with _CancelLogin := true }) (h.kept rfl rfl)

/-- The account once it is logged out, before the log-in that is underway is aborted. -/
def forgotten (s : LoginSession) : AuthManager :=
  ({ s.account with mLoggedIn := false, mVPNLogin := [], mVPNPassword := [] } :
    AuthManager).emit .logoutCompleted

theorem loggedOut_of_idle (hidle : s.account.replyPending = false) : s.loggedOut = { s with
    account := s.forgotten.cancel
    tray := s.tray.disableConnectToMenu.disableActionsOnLogout
    _CancelLogin := true } := by
  unfold loggedOut cancelClicked
  dsimp only
  rw [cancel_of_idle]
  · rfl
  · exact hidle

theorem loggedOut_of_pending (hconstructed : s.constructed = true)
    (hpending : s.account.replyPending = true) : s.loggedOut = { s with
      account := s.forgotten.cancel
      tray := s.tray.disableConnectToMenu.disableActionsOnLogout
      enabled := true
      _CancelLogin := true
      _ConnectAfterLogin := false } := by
  unfold loggedOut cancelClicked
  dsimp only
  rw [cancel_of_pending]
  · rfl
  · exact hconstructed
  · exact hpending

/-- A logout that has waited behind a dialog goes on, whatever has happened meanwhile. -/
theorem goesOn_loggedOut (h : Agrees (.disconnecting :: s.dialogs) s t) :
    GoesOn s.loggedOut t := by
  have hlogin : .login ∉ s.dialogs := h.not_login_of_turns rfl
  have hclosed : Agrees s.dialogs s t := h.popped Dialog.noConfusion fun _ => rfl
  have hmenu : s.tray.mConnectToMenu ≠ none →
      s.tray.disableConnectToMenu.mConnectToMenu ≠ none := by
    unfold TrayIconManager.disableConnectToMenu
    simp
  have hnull : s.testing = false → s.tray.disableConnectToMenu.nullAccess = false := by
    intro htesting
    have hexists : s.tray.mConnectToMenu ≠ none :=
      h.held htesting ⟨.disconnecting, List.mem_cons_self, rfl⟩
    unfold TrayIconManager.disableConnectToMenu
    simpa using ⟨h.nullAccess htesting, Option.isSome_iff_ne_none.mpr hexists⟩
  have hlogout : t.Allows .logout := trivial
  cases hpending : s.account.replyPending with
  | false =>
    have hphase : t.phase ≠ .underway := fun hunderway =>
      absurd (hclosed.pending_of_underway hunderway hlogin) (Bool.eq_false_iff.mp hpending)
    have hstanding : s.forgotten.cancel.standing =
        (false, false, [], (t.step .logout).announced) := by
      refine (standing_cancel_of_idle (m := s.forgotten) hpending).trans ?_
      exact congrArg₂ (fun pending turns => (false, pending, [], Turn.logout :: turns)) hpending
        h.announced_eq
    have hout : (t.step .logout).phase = .out := by
      unfold Sessions.step Sessions.after
      cases hphase' : t.phase with
      | underway => exact absurd hphase' hphase
      | _ => rfl
    rw [loggedOut_of_idle hpending]
    refine ⟨_, Leads.single hlogout, hclosed.ended hlogin hout hstanding rfl ?_ hmenu hnull rfl
      rfl⟩
    exact fun henabled => (hclosed.buttons henabled).resolve_left hphase
  | true =>
    have hunderway : t.phase = .underway := (h.underway hpending).1
    have hstanding : s.forgotten.cancel.standing =
        (false, false, [], ((t.step .logout).step .failed).announced) := by
      refine (standing_cancel_of_pending (m := s.forgotten) hpending).trans ?_
      exact congrArg (fun turns => (false, false, [], Turn.failed :: Turn.logout :: turns))
        h.announced_eq
    have hfailed : (t.step .logout).Allows .failed := by
      change Sessions.after t.phase .logout = .underway
      rw [hunderway]
      rfl
    rw [loggedOut_of_pending h.constructed hpending]
    refine ⟨_, (Leads.single hlogout).trans (Leads.single hfailed),
      hclosed.ended hlogin rfl hstanding rfl ?_ hmenu hnull rfl rfl⟩
    exact fun henabled => absurd henabled Bool.false_ne_true.symm

/-- A logout, whatever has happened while the service could not be told. -/
theorem goesOn_logout (h : Agrees (.disconnecting :: s.dialogs) s t) : GoesOn s.logout t := by
  have hlogin : .login ∉ s.dialogs := h.not_login_of_turns rfl
  have hclosed : Agrees s.dialogs s t := h.popped Dialog.noConfusion fun _ => rfl
  unfold logout
  dsimp only
  cases hpending : s.account.replyPending with
  | false =>
    rw [Bool.false_and, Bool.false_and, if_neg Bool.false_ne_true, cancel_of_idle hpending]
    exact goesOn_loggedOut (s := { s with account := _ })
      (h.kept (standing_cancel_of_idle hpending) rfl)
  | true =>
    have hallowed : t.Allows .failed := (h.underway hpending).1
    have hstanding := standing_cancel_of_pending hpending
    rw [Bool.true_and, h.constructed, Bool.true_and, cancel_of_pending h.constructed hpending]
    split_ifs with hshown
    · have hfailed := hclosed.failed hpending hstanding (d := .aborted) Dialog.noConfusion rfl
        fun _ htesting => h.held htesting ⟨.disconnecting, List.mem_cons_self, rfl⟩
      exact ⟨_, Leads.single hallowed, hfailed.loginError Dialog.noConfusion⟩
    · have hfailed := h.failed hpending hstanding (d := .loginError) Dialog.noConfusion rfl
        fun hnot => Bool.noConfusion hnot
      have hcancel : s._CancelLogin = true := by simpa using hshown
      rw [LoginSession.loginError]
      dsimp only
      rw [if_pos hcancel]
      obtain ⟨t', hleads, hlast⟩ := goesOn_loggedOut (s := settled { s with
        account := s.account.cancel, tray := s.tray.disableActionsOnLogout })
        (hfailed.settled Dialog.noConfusion)
      exact ⟨t', (Leads.single hallowed).trans hleads, hlast⟩

theorem goesOn_logoutTriggered (h : Agrees s.dialogs s t) (henabled : s.tray.mLogoutAction = true)
    (reached : Bool) : GoesOn (s.logoutTriggered reached) t := by
  have hphase : t.phase = .inside := of_decide_eq_true (h.logoutAction ▸ henabled)
  have hdisconnecting : Agrees (.disconnecting :: s.dialogs) s t := by
    refine h.pushed Dialog.noConfusion fun _ => ⟨fun hlogin => ?_, fun htesting => ?_⟩
    · have hunderway := h.login hlogin
      rw [hphase] at hunderway
      cases hunderway
    · rw [h.menu htesting hphase]
      exact Option.some_ne_none true
  unfold logoutTriggered
  split_ifs
  · exact goesOn_logout hdisconnecting
  · exact goesOn_of_kept hdisconnecting rfl rfl

/-- What has waited behind a dialog goes on. -/
theorem goesOn_resume (h : Agrees (d :: s.dialogs) s t) : GoesOn (s.resume d) t := by
  cases d with
  | login => exact h.requested.goesOn
  | disconnecting => exact goesOn_logout h
  | loginError => exact (h.settled Dialog.noConfusion).goesOn
  | loggedIn => exact (h.settled Dialog.noConfusion).goesOn
  | other => exact (h.popped Dialog.noConfusion fun _ => rfl).goesOn
  | aborted =>
    have hsettled : Agrees s.dialogs s.settled t := h.settled Dialog.noConfusion
    refine goesOn_loggedOut (s := s.settled) (hsettled.pushed Dialog.noConfusion fun _ => ?_)
    exact ⟨h.not_login_of_turns rfl, fun htesting =>
      h.held htesting ⟨.aborted, List.mem_cons_self, rfl⟩⟩

theorem goesOn_dialogClosed (h : Agrees s.dialogs s t) : GoesOn s.dialogClosed t := by
  unfold dialogClosed
  cases hdialogs : s.dialogs with
  | nil => exact h.goesOn
  | cons d dialogs =>
    rw [hdialogs] at h
    exact goesOn_resume (s := { s with dialogs := dialogs }) (h.kept rfl rfl)

theorem mLogoutAction_stateChanged (tray : TrayIconManager) (st : ℤ) (loggedIn : Bool) :
    (tray.stateChanged st loggedIn).mLogoutAction = tray.mLogoutAction ∧
      (tray.stateChanged st loggedIn).mConnectToMenu = tray.mConnectToMenu ∧
      (tray.stateChanged st loggedIn).nullAccess = tray.nullAccess := by
  unfold TrayIconManager.stateChanged
  split_ifs <;> exact ⟨rfl, rfl, rfl⟩

theorem goesOn_step (h : Agrees s.dialogs s t) (e : LoginEvent) : GoesOn (s.step e) t := by
  cases e with
  | timerConstructed autoconnect i =>
    rw [step, if_pos h.constructed]
    exact h.goesOn
  | loginClicked i => exact goesOn_loginClicked h i
  | cancelClicked => exact goesOn_cancelClicked h
  | logoutTriggered reached =>
    rw [step]
    split_ifs with henabled
    · exact goesOn_logoutTriggered h henabled reached
    · exact h.goesOn
  | connectTriggered i =>
    rw [step]
    split_ifs
    · exact goesOn_loginClicked h i
    · exact h.goesOn
  | connectToTriggered i =>
    rw [step]
    split_ifs
    · exact goesOn_loginClicked h i
    · exact h.goesOn
  | checkWifi autoconnect i =>
    rw [step]
    split_ifs
    · exact goesOn_loginClicked (s := { s with _ConnectAfterLogin := true }) (h.kept rfl rfl) i
    · exact h.goesOn
  | replyFinished reply hreply reached =>
    rw [step]
    split_ifs with hpending
    · exact goesOn_loginFinished h hpending hreply Dialog.noConfusion rfl
        (fun hnot => Bool.noConfusion hnot) reached
    · exact h.goesOn
  | pinged e he => exact goesOn_of_kept h (s.account.standing_step he) rfl
  | stateChanged st =>
    obtain ⟨hlogout, hmenu, hnull⟩ :=
      mLogoutAction_stateChanged s.tray st s.account.mLoggedIn
    refine Agrees.goesOn ⟨h.constructed, h.standing, h.named, hlogout.trans h.logoutAction,
      h.buttons, h.login, h.nested, ?_, ?_, ?_⟩
    · exact fun htesting hphase => hmenu.trans (h.menu htesting hphase)
    · exact fun htesting hout hnone => h.held htesting hout (hmenu.symm.trans hnone)
    · exact fun htesting => hnull.trans (h.nullAccess htesting)
  | nodesChanged => exact h.menuConstructed.goesOn
  | dialogOpened =>
    have hpushed : Agrees (.other :: s.dialogs) s t :=
      h.pushed Dialog.noConfusion fun hnot => Bool.noConfusion hnot
    exact goesOn_of_kept hpushed rfl rfl
  | dialogClosed => exact goesOn_dialogClosed h

theorem refines : Refines step Sessions.step Sessions.Allows (fun s t => Agrees s.dialogs s t) :=
  fun _ _ e h => goesOn_step h e

/-- The window is constructed before anybody logs in. -/
theorem agrees_constructed (testing mPingsLoaded _CancelLogin : Bool) :
    Agrees [] { initial testing mPingsLoaded _CancelLogin with constructed := true }
      ⟨.out, []⟩ where
  constructed := rfl
  standing := rfl
  named := fun hnot => absurd rfl hnot
  logoutAction := rfl
  buttons := fun hnot => Bool.noConfusion hnot
  login := fun hnot => absurd hnot List.not_mem_nil
  nested := List.Pairwise.nil
  menu := fun _ hinside => Phase.noConfusion hinside
  held := fun _ ⟨_, hd, _⟩ => absurd hd List.not_mem_nil
  nullAccess := fun _ => rfl

/-- Once the window is constructed, the account, the window and the tray agree about the
session, however dialogs open in dialogs, and whatever happens while they are open. What
the account has announced is what the sessions so far have come to. It logs in as `login` does
(`AuthManager.login_eq`). -/
theorem sessions_agree (testing mPingsLoaded _CancelLogin autoconnect : Bool) (i : Entry)
    (es : List LoginEvent) : ∃ t, Leads Sessions.step Sessions.Allows ⟨.out, []⟩ t ∧
      Agrees (run step (initial testing mPingsLoaded _CancelLogin)
        (.timerConstructed autoconnect i :: es)).dialogs
        (run step (initial testing mPingsLoaded _CancelLogin)
          (.timerConstructed autoconnect i :: es)) t := by
  have hconstructed := agrees_constructed testing mPingsLoaded _CancelLogin
  have hfirst : GoesOn ((initial testing mPingsLoaded _CancelLogin).step
      (.timerConstructed autoconnect i)) ⟨.out, []⟩ := by
    cases autoconnect with
    | false => exact hconstructed.goesOn
    | true =>
      exact goesOn_loginClicked (s := { initial testing mPingsLoaded _CancelLogin with
        constructed := true, _ConnectAfterLogin := true }) (hconstructed.kept rfl rfl) i
  obtain ⟨t, hleads, hagrees⟩ := hfirst
  obtain ⟨t', hleads', hagrees'⟩ := refines.run hagrees es
  exact ⟨t', hleads.trans hleads', hagrees'⟩

end LoginSession
end CeloVpn.Client
