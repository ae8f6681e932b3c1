import CeloVpn.Client.Gui
import CeloVpn.Client.WndManager
import CeloVpn.Library.Runs

/-!
# The screens over a run of the client

The client with its screens: what it shows depends on the account and the connection to
the service, and what it does depends on the screens in return. A reply to a login comes
when it comes, and an error in it brings up the login window, whatever screen the user
looks at by then. An action or a button that is disabled is taken as well. A dialog runs
the events that come while it is open, which come after the event that opened it.
-/
namespace CeloVpn.Client
open Runs

structure Windows where
  gui : Gui
  wnd : WndManager
  _CancelLogin : Bool

/-- What happens to the client with its screens. -/
inductive WindowEvent
  | gui (e : GuiEvent)
  /-- The tray, or a button of a screen. -/
  | settingsTriggered
  | logsTriggered
  /-- The user closes a screen that is visible, or minimises the logs. -/
  | closeEvent (scr : Screen)
  /-- `webManagTriggered`, `supportTriggered` and `bugTriggered`. -/
  | urlTriggered
  /-- The user is asked whether to quit. -/
  | quitApplication
  | quitConfirmed
  /-- `processUpdatesXml` finds a later version, and asks. -/
  | updateFound

/-- What the client does with it behind the screens. -/
def WindowEvent.behind : WindowEvent → Option GuiEvent
  | .gui e => some e
  | .quitApplication | .updateFound => some .statusTriggered
  | .quitConfirmed => some .disconnectTriggered
  | _ => none

namespace Windows
variable (o : Outside) (s : Windows)

def loggedIn : Bool := s.gui.account.mLoggedIn

def toPrimary : Windows := { s with wnd := s.wnd.Instance.toPrimary s.loggedIn }

/-- `LoginWindow::loginError`. -/
def loginError : Windows :=
  if s._CancelLogin then s else { s with wnd := s.wnd.Instance.toFront .loginWindow }

/-- What the login ends with, empty where it succeeds. -/
def message (reply : ServersReply) : QString :=
  (s.gui.account.processServersXml reply s.gui.setting.mTesting).1

/-- `AuthManager::loginFinished`; the login window may not listen yet. -/
def loginFinished (reply : ServersReply) : Windows :=
  let account := s.gui.account.loginFinished reply s.gui.setting.mTesting
  if s.gui.constructed then
    if (s.message reply).isEmpty then
      { s with wnd := s.wnd.Instance.toPrimary account.mLoggedIn }
    else s.loginError
  else s

def aborted : ServersReply := .error "Operation canceled".toList

def cancel : Windows := if s.gui.account.replyPending then s.loginFinished aborted else s

/-- `on_loginButton_clicked`; `login` logs in before it sends the credentials. -/
def loginClicked : Windows :=
  if s.loggedIn ∨ o.eLogin = [] then s
  else
    let s := { s with _CancelLogin := false }
    let t := { o.surroundings with vpnName := o.eLogin, vpnPassword := o.ePsw }
    if (s.gui.manager.ensureConnected t).1 then s
    else { s with wnd := s.wnd.showErrorMessage true }

/-- The login window hears of the logout last. -/
def logoutTriggered : Windows :=
  let s := s.cancel
  { s with wnd := s.wnd.Instance.toPrimary false, _CancelLogin := true }

def timerConstructed : Windows :=
  if s.gui.constructed then s
  else
    let s := { s with wnd := s.wnd.construct .scrLogs }
    if s.gui.setting.cb_AutoConnect then s.loginClicked o else s

def checkWifi : Windows :=
  if s.gui._timer_wifi && s.gui.manager.mState == VpnState.disconnected.toInt &&
      o.hasInsecureWifi && s.gui.setting.cb_AutoConnect then s.loginClicked o
  else s

def notified (n : Notification) : Windows :=
  let code := (n.object.value "code".toList).toInt
  if code = notifyStatusChange then
    let state := (n.object.value "state".toList).toInt
    { s with wnd := s.wnd.stateChanged s.loggedIn state }
  else if code = notifyTimeout then
    if s.gui.manager.mInPortLoop || s.gui.manager.mPortDialogShown then s
    else { s with wnd := s.wnd.showPortDialog s.loggedIn }
  else if code = notifyError then { s with wnd := s.wnd.showErrorMessage s.loggedIn }
  else s

/-- What an event of the client does to its screens. -/
def react : GuiEvent → Windows
  | .timerConstructed => s.timerConstructed o
  | .loginClicked => s.loginClicked o
  | .cancelClicked => ({ s with _CancelLogin := true } : Windows).cancel
  | .replyFinished reply => if s.gui.account.replyPending then s.loginFinished reply else s
  | .statusTriggered => s.toPrimary
  | .switchCountryTriggered => { s with wnd := s.wnd.Instance.toMap s.loggedIn }
  | .jumpTriggered => s.toPrimary
  | .connectTriggered => if s.loggedIn then s else s.loginClicked o
  | .connectToTriggered k =>
    if s.loggedIn || s.gui.mConnectToMenu[k]?.isNone then s else s.loginClicked o
  | .logoutTriggered => s.logoutTriggered
  | .notified n => s.notified n
  | .checkWifi => s.checkWifi o
  | _ => s

def handle : WindowEvent → Windows
  | .gui e => s.react o e
  | .settingsTriggered => { s with wnd := s.wnd.Instance.toSettings }
  | .logsTriggered => { s with wnd := s.wnd.Instance.toLogs }
  | .closeEvent scr =>
    if s.wnd.isVisible scr then { s with wnd := s.wnd.Instance.hideThis scr } else s
  | .urlTriggered => { s with wnd := s.wnd.Instance.closeAll }
  | .quitApplication =>
    let s := s.toPrimary
    { s with wnd := s.wnd.confirmation s.loggedIn }
  | .quitConfirmed => { s with wnd := s.wnd.Instance.closeAll }
  | .updateFound => { s with wnd := s.wnd.Instance.confirmation s.loggedIn }

/-- What the client finds outside, and what it finds of its own screens. -/
def outside : Outside :=
  { o with wndManager := s.wnd.constructed, visible := s.wnd.scrVisible.isSome }

def step (s : Windows) (e : Outside × WindowEvent) : Windows :=
  if s.gui.crashed then s
  else
    { s.handle e.1 e.2 with
      gui := e.2.behind.elim s.gui fun g => s.gui.step (s.outside e.1, g) }

/-- `main` shows the login window, whose constructor constructs the manager where a
position is stored. -/
def initial (stored : Setting) (v : System.Unset) (mPingsLoaded pos _CancelLogin : Bool) :
    Windows where
  gui := .initial stored v mPingsLoaded
  wnd := ⟨Function.update (fun _ => none) .loginWindow (some true), pos⟩
  _CancelLogin := _CancelLogin

/-- Behind the screens the run is one of the client. -/
theorem gui_run (s : Windows) (es : List (Outside × WindowEvent)) :
    ∃ gs, (run step s es).gui = run Gui.step s.gui gs := by
  refine exists_run (f := Windows.gui) (fun s e => ?_) s es
  unfold step
  split
  · exact ⟨[], rfl⟩
  · cases e.2.behind with
    | none => exact ⟨[], rfl⟩
    | some g => exact ⟨[(s.outside e.1, g)], rfl⟩

/-- The reply ends a login that was not cancelled with an error, and the login window
listens. -/
def errorComesUp (reply : ServersReply) : Bool :=
  s.gui.account.replyPending && s.gui.constructed && !s._CancelLogin &&
    !(s.message reply).isEmpty

/-- A login error comes up only while no other screen than the login window is visible.
Where it comes of a logout, which brings up the login window afterwards, the screens that
are looked at after the login window are hidden in time. -/
def Clear (s : Windows) (e : Outside × WindowEvent) : Prop :=
  s.gui.crashed = true ∨
    match e.2 with
    | .gui (.replyFinished reply) => s.errorComesUp reply = true →
        ∀ scr, s.wnd.isVisible scr = true → scr = .loginWindow
    | .gui .logoutTriggered => s.errorComesUp aborted = true →
        s.wnd.isVisible .connectionDialog = false
    | _ => True

section Single
variable {o : Outside} {s : Windows} (h : s.wnd.visible < 2)
include h

theorem visible_toPrimary : s.toPrimary.wnd.visible < 2 :=
  WndManager.visible_toPrimary (w := s.wnd.Instance) h s.loggedIn

theorem visible_loginClicked : (s.loginClicked o).wnd.visible < 2 := by
  unfold loginClicked
  dsimp only
  split_ifs
  · exact h
  · exact h
  · exact WndManager.visible_showErrorMessage h true

theorem visible_timerConstructed : (s.timerConstructed o).wnd.visible < 2 := by
  have hlogs : (s.wnd.construct .scrLogs).visible < 2 := WndManager.visible_construct h
  unfold timerConstructed
  dsimp only
  split_ifs
  · exact h
  · exact visible_loginClicked (s := { s with wnd := s.wnd.construct .scrLogs }) hlogs
  · exact hlogs

theorem visible_notified (n : Notification) : (s.notified n).wnd.visible < 2 := by
  unfold notified
  dsimp only
  split_ifs
  · exact WndManager.visible_stateChanged h _ _
  · exact h
  · exact WndManager.visible_showPortDialog h _
  · exact WndManager.visible_showErrorMessage h _
  · exact h

/-- The end of a login. -/
theorem visible_loginFinished (reply : ServersReply)
    (hpending : s.gui.account.replyPending = true) :
    (s.loginFinished reply).wnd.visible < 2 ↔ (s.errorComesUp reply = true →
      ∀ scr, s.wnd.isVisible scr = true → scr = .loginWindow) := by
  unfold loginFinished errorComesUp
  rw [hpending, Bool.true_and]
  dsimp only
  cases hconstructed : s.gui.constructed with
  | false => simpa using h
  | true =>
    cases hmessage : (s.message reply).isEmpty with
    | true =>
      have hprimary := WndManager.visible_toPrimary (w := s.wnd.Instance) h
      simpa using hprimary _
    | false =>
      rw [if_pos rfl, if_neg Bool.false_ne_true, loginError]
      cases hcancel : s._CancelLogin with
      | true => simpa using h
      | false => simpa using WndManager.visible_toFront_iff (w := s.wnd.Instance)

/-- A logout. -/
theorem visible_logoutTriggered : s.logoutTriggered.wnd.visible < 2 ↔
    (s.errorComesUp aborted = true → s.wnd.isVisible .connectionDialog = false) := by
  have hlogin : (s.wnd.Instance.toPrimary false).visible < 2 :=
    WndManager.visible_toPrimary (w := s.wnd.Instance) h false
  have hfront : ((s.wnd.Instance.toFront .loginWindow).Instance.toPrimary false).visible < 2 ↔
      s.wnd.isVisible .connectionDialog = false :=
    WndManager.visible_toLogin_toFront (w := s.wnd.Instance) h
  unfold logoutTriggered cancel loginFinished errorComesUp
  dsimp only
  have hmessage : (s.message aborted).isEmpty = false := rfl
  rw [hmessage]
  cases s.gui.account.replyPending with
  | false => simpa using hlogin
  | true =>
    cases s.gui.constructed with
    | false => simpa using hlogin
    | true =>
      rw [if_pos rfl, if_pos rfl, if_neg Bool.false_ne_true, loginError]
      cases s._CancelLogin with
      | true => simpa using hlogin
      | false => simpa using hfront

/-- What an event of the client does to the screens. -/
theorem visible_react_iff (e : GuiEvent) (hrunning : s.gui.crashed = false) :
    (s.react o e).wnd.visible < 2 ↔ Clear s (o, .gui e) := by
  rw [Clear, hrunning, or_iff_right Bool.false_ne_true]
  cases e with
  | replyFinished reply =>
    rw [react]
    split_ifs with hpending
    · exact visible_loginFinished h reply hpending
    · have hnone : s.errorComesUp reply = false := by
        rw [errorComesUp, Bool.eq_false_of_not_eq_true hpending]
        rfl
      simpa [hnone] using h
  | logoutTriggered => exact visible_logoutTriggered h
  | cancelClicked =>
    rw [react, cancel]
    split_ifs with hpending
    · refine iff_of_true ((visible_loginFinished (s := { s with _CancelLogin := true }) h aborted
        hpending).mpr fun hup => ?_) trivial
      simp [errorComesUp] at hup
    · exact iff_of_true h trivial
  | timerConstructed => exact iff_of_true (visible_timerConstructed h) trivial
  | loginClicked => exact iff_of_true (visible_loginClicked h) trivial
  | statusTriggered => exact iff_of_true (visible_toPrimary h) trivial
  | switchCountryTriggered =>
    exact iff_of_true (WndManager.visible_toMap (w := s.wnd.Instance) h s.loggedIn) trivial
  | jumpTriggered => exact iff_of_true (visible_toPrimary h) trivial
  | connectTriggered =>
    rw [react]
    split_ifs
    · exact iff_of_true h trivial
    · exact iff_of_true (visible_loginClicked h) trivial
  | connectToTriggered k =>
    rw [react]
    split_ifs
    · exact iff_of_true h trivial
    · exact iff_of_true (visible_loginClicked h) trivial
  | notified n => exact iff_of_true (visible_notified h n) trivial
  | checkWifi =>
    rw [react, checkWifi]
    split_ifs
    · exact iff_of_true (visible_loginClicked h) trivial
    · exact iff_of_true h trivial
  | _ => exact iff_of_true h trivial

/-- An event leaves at most one screen visible where it meets the condition. -/
theorem visible_step_iff (e : Outside × WindowEvent) :
    (s.step e).wnd.visible < 2 ↔ Clear s e := by
  unfold step
  split_ifs with hcrashed
  · exact iff_of_true h (.inl hcrashed)
  · have hrunning := Bool.eq_false_of_not_eq_true hcrashed
    obtain ⟨o, e⟩ := e
    cases e with
    | gui e => exact visible_react_iff h e hrunning
    | settingsTriggered =>
      exact iff_of_true (WndManager.visible_trans (w := s.wnd.Instance) h) (.inr trivial)
    | logsTriggered =>
      exact iff_of_true (WndManager.visible_trans (w := s.wnd.Instance) h) (.inr trivial)
    | closeEvent scr =>
      have hclosed : (s.handle o (.closeEvent scr)).wnd.visible < 2 := by
        rw [handle]
        split_ifs
        · exact WndManager.visible_hideThis (w := s.wnd.Instance) h
        · exact h
      exact iff_of_true hclosed (.inr trivial)
    | urlTriggered => exact iff_of_true WndManager.visible_closeAll (.inr trivial)
    | quitApplication =>
      exact iff_of_true (WndManager.visible_construct (visible_toPrimary h)) (.inr trivial)
    | quitConfirmed => exact iff_of_true WndManager.visible_closeAll (.inr trivial)
    | updateFound =>
      exact iff_of_true (WndManager.visible_construct (w := s.wnd.Instance) h) (.inr trivial)

end Single

theorem visible_initial (stored : Setting) (v : System.Unset)
    (mPingsLoaded pos _CancelLogin : Bool) :
    (initial stored v mPingsLoaded pos _CancelLogin).wnd.visible = 1 := rfl

/-- At most one screen is visible in every state of a run exactly where no login error
comes up beside another one. Behind the screens it is a run of the client (`gui_run`). -/
theorem visible_throughout_iff (stored : Setting) (v : System.Unset)
    (mPingsLoaded pos _CancelLogin : Bool) (es : List (Outside × WindowEvent)) :
    Throughout step (fun s => s.wnd.visible < 2)
      (initial stored v mPingsLoaded pos _CancelLogin) es ↔
        Meets step Clear (initial stored v mPingsLoaded pos _CancelLogin) es := by
  refine throughout_iff_meets (I := fun _ => True) (fun _ _ _ => trivial)
    (fun s e _ h => visible_step_iff h e) trivial ?_
  rw [visible_initial]
  exact Nat.one_lt_two

/-- A login fails while the user looks at the settings. -/
theorem settings_beside_loginWindow : ¬∀ (stored : Setting) (v : System.Unset)
    (mPingsLoaded pos _CancelLogin : Bool) (es : List (Outside × WindowEvent)),
    Throughout step (fun s => s.wnd.visible < 2)
      (initial stored v mPingsLoaded pos _CancelLogin) es := by
  intro h
  have hrun := (h .fresh .blocking false true false
    [(.user, .gui .timerConstructed), (.user, .gui .loginClicked), (.user, .settingsTriggered),
      (.user, .gui (.replyFinished (.error "Host not found".toList)))]).last
  have htwo : (run step (initial .fresh .blocking false true false)
      [(.user, .gui .timerConstructed), (.user, .gui .loginClicked), (.user, .settingsTriggered),
        (.user, .gui (.replyFinished (.error "Host not found".toList)))]).wnd.visible = 2 := by
    decide +kernel
  rw [htwo] at hrun
  exact absurd hrun (lt_irrefl 2)

end Windows
end CeloVpn.Client
