import CeloVpn.Client.NodeLoop
import CeloVpn.Library.Runs

/-!
# What the routines of the client keep

Most of what happens in the client leaves most of it alone. A property that the few
functions in question keep is kept by every event that is made of them, and so by a run.
-/
namespace CeloVpn.Client
open Runs

namespace Gui
variable {o : Outside} {s : Gui}

/-- A property that neither the location nor what is shown changes. -/
structure Located (P : Gui → Prop) : Prop where
  congr {s t : Gui} : P s → t.setting = s.setting → t.manager = s.manager →
    t.crashed = s.crashed → t.requests = s.requests → P t
  filled {s : Gui} : P s → P s.currentEncryptionServers.2
  storeServer (ixsrv : ℤ) {s : Gui} : P s → P (s.storeServer ixsrv)

/-- Nor does what is sent. -/
structure Closed (o : Outside) (P : Gui → Prop) : Prop extends Located P where
  constructConnectionDialog {s : Gui} : P s → P (s.constructConnectionDialog o)
  sendConnectToVPNRequest {s : Gui} : P s → P (s.sendConnectToVPNRequest o)
  sendDisconnectFromVPNRequest {s : Gui} : P s → P (s.sendDisconnectFromVPNRequest o)
  sendCredentials {s : Gui} : P s → P { s with
    manager := s.manager.sendCredentials
      { o.surroundings with vpnName := o.eLogin, vpnPassword := o.ePsw } }

namespace Located
variable {P : Gui → Prop} (hP : Located P)
include hP

theorem setCurrentIndex {setServer : ℤ → Gui → Gui} (hset : ∀ i {s}, P s → P (setServer i s))
    (row : ℤ) (h : P s) : P (s.setCurrentIndex setServer row) := by
  unfold Gui.setCurrentIndex
  split
  · exact h
  · dsimp only
    split_ifs
    · exact h
    · exact hset _ (hP.congr h rfl rfl rfl rfl)
    · exact h
    · exact hset _ (hP.congr h rfl rfl rfl rfl)

theorem updateLocation {setServer : ℤ → Gui → Gui} (hset : ∀ i {s}, P s → P (setServer i s))
    (h : P s) : P (s.updateLocation setServer) := by
  unfold Gui.updateLocation
  dsimp only
  split
  · exact hP.filled h
  · exact hP.setCurrentIndex hset _ (hP.filled h)

theorem setServer (depth : ℕ) (ixsrv : ℤ) (h : P s) : P (Gui.setServer depth ixsrv s) := by
  induction depth generalizing ixsrv s with
  | zero => exact hP.storeServer ixsrv h
  | succ depth ih =>
    rw [Gui.setServer]
    split
    · exact hP.updateLocation (fun i _ h => ih i h) (hP.storeServer ixsrv h)
    · exact hP.storeServer ixsrv h

theorem repopulateLocations (h : P s) : P (s.repopulateLocations o) := by
  have hset : ∀ i {s}, P s → P (Gui.setServer o.depth i s) := fun i _ h => hP.setServer o.depth i h
  have hreselect : ∀ {s : Gui} ixoldsrv map, P s → P (s.rowToReselect o ixoldsrv map).2 := by
    intro s ixoldsrv map h
    unfold rowToReselect
    dsimp only
    split
    · exact h
    · exact hP.congr h rfl rfl rfl rfl
  unfold Gui.repopulateLocations
  split
  · exact h
  · dsimp only
    split <;> refine hP.updateLocation hset (hP.setCurrentIndex hset _ ?_)
    · exact hP.congr (hreselect _ _ (hP.filled h)) rfl rfl rfl rfl
    · exact hP.congr (hP.filled h) rfl rfl rfl rfl

end Located

/-- A location that is set asks nothing of the service. -/
theorem located_requests (asked : List Request) : Located fun s => s.requests = asked where
  congr h _ _ _ hrequests := hrequests.trans h
  filled := id
  storeServer _ _ := id

/-- Nor does a protocol. -/
theorem setProtocol_requests (ix : ℤ) (s : Gui) : (s.setProtocol o ix).requests = s.requests := by
  unfold Gui.setProtocol
  dsimp only
  split
  · exact (located_requests s.requests).repopulateLocations rfl
  · rfl

namespace Closed
variable {P : Gui → Prop} (hP : Closed o P)
include hP

theorem toPrimary (h : P s) : P (s.toPrimary o) := by
  unfold Gui.toPrimary
  split
  · exact hP.constructConnectionDialog h
  · exact h

theorem constructConnectToMenu (h : P s) : P s.constructConnectToMenu := by
  unfold Gui.constructConnectToMenu
  split
  · exact hP.congr (hP.filled h) rfl rfl rfl rfl
  · exact h

theorem jump (h : P s) : P (s.jump o) := by
  unfold Gui.jump
  dsimp only
  split
  · exact hP.sendConnectToVPNRequest (hP.toLocated.setServer _ _ h)
  · exact h

theorem loadServer (h : P s) : P (s.loadServer o) := by
  unfold Gui.loadServer
  dsimp only
  split
  · exact hP.filled h
  · exact hP.setServer _ _ (hP.congr (hP.filled h) rfl rfl rfl rfl)

theorem loggedIn (h : P s) : P (s.loggedIn o) := by
  have hready := hP.constructConnectToMenu (hP.toPrimary (hP.loadServer h))
  unfold Gui.loggedIn
  dsimp only
  split
  · exact hP.congr (hP.sendConnectToVPNRequest hready) rfl rfl rfl rfl
  · exact hP.congr hready rfl rfl rfl rfl

theorem loginFinished (reply : ServersReply) (h : P s) : P (s.loginFinished o reply) := by
  have hreceived : ∀ account, P { s with account := account, selected := false } :=
    fun account => hP.congr h rfl rfl rfl rfl
  unfold Gui.loginFinished
  dsimp only
  by_cases hmessage : (s.account.processServersXml reply s.setting.mTesting).1.isEmpty = true
  · simp only [if_pos hmessage]
    have hmenu := hP.constructConnectToMenu (hreceived (s.account.loginFinished reply
      s.setting.mTesting))
    split
    · exact hP.loggedIn hmenu
    · exact hP.congr hmenu rfl rfl rfl rfl
  · simp only [if_neg hmessage]
    split
    · exact hP.congr h rfl rfl rfl rfl
    · exact hP.congr h rfl rfl rfl rfl

theorem cancel (h : P s) : P (s.cancel o) := by
  have hcancelling : P { s with account := { s.account with mCancellingLogin := true } } :=
    hP.congr h rfl rfl rfl rfl
  unfold Gui.cancel
  dsimp only
  split
  · exact hP.loginFinished _ hcancelling
  · exact hcancelling

theorem loginClicked (h : P s) : P (s.loginClicked o) := by
  unfold Gui.loginClicked
  dsimp only
  split
  · exact h
  · have hlogin : P { s with account := s.account.login o.eLogin o.ePsw } :=
      hP.congr h rfl rfl rfl rfl
    have hsent := hP.sendCredentials hlogin
    split
    · exact hsent
    · exact hP.toPrimary hsent

theorem logoutTriggered (h : P s) : P (s.logoutTriggered o) :=
  hP.congr (hP.cancel (hP.sendDisconnectFromVPNRequest h)) rfl rfl rfl rfl

theorem timerConstructed (h : P s) : P (s.timerConstructed o) := by
  unfold Gui.timerConstructed
  split
  · exact h
  · dsimp only
    split
    · exact hP.congr (hP.loginClicked (hP.congr (t := { s with
        constructed := true, _ConnectAfterLogin := true }) h rfl rfl rfl rfl)) rfl rfl rfl rfl
    · exact hP.congr h rfl rfl rfl rfl

theorem checkWifi (h : P s) : P (s.checkWifi o) := by
  unfold Gui.checkWifi
  split_ifs
  · exact hP.sendConnectToVPNRequest h
  · exact hP.loginClicked (hP.congr h rfl rfl rfl rfl)
  · exact h
  · exact h

end Closed
end Gui

/-- The event neither selects a protocol nor brings something of the service, and leaves the
preferences alone. -/
def GuiEvent.plain : GuiEvent → Bool
  | .protocolChosen _ => false
  | .switchCountryTriggered => false
  | .portDialogFinished _ _ => false
  | .notified _ => false
  | .socketDisconnected => false
  | .setAutoconnect _ => false
  | .setDetectInsecureWifi _ => false
  | _ => true

namespace Gui
variable {o : Outside} {s : Gui}

theorem Closed.react {P : Gui → Prop} (hP : Closed o P) {e : GuiEvent} (he : e.plain = true)
    (h : P s) : P (s.react o e) := by
  have hset : ∀ i {s}, P s → P (Gui.setServer o.depth i s) := fun i _ h => hP.setServer o.depth i h
  cases e with
  | timerConstructed => exact hP.timerConstructed h
  | loginClicked => exact hP.loginClicked h
  | cancelClicked => exact hP.cancel h
  | replyFinished reply =>
    dsimp only [Gui.react]
    split
    · exact hP.loginFinished reply h
    · exact h
  | pinged e hpings => exact hP.congr h rfl rfl rfl rfl
  | statusTriggered => exact hP.toPrimary h
  | connectClicked => exact hP.sendConnectToVPNRequest h
  | cancelConnectionClicked => exact hP.sendDisconnectFromVPNRequest h
  | jumpClicked => exact hP.jump h
  | jumpTriggered => exact hP.jump (hP.toPrimary h)
  | connectTriggered =>
    dsimp only [Gui.react, Gui.connectTriggered]
    split
    · exact hP.sendConnectToVPNRequest h
    · exact hP.loginClicked h
  | connectToTriggered k =>
    dsimp only [Gui.react, Gui.connectToTriggered]
    split
    · split
      · exact hP.sendConnectToVPNRequest (hset _ h)
      · exact hP.loginClicked h
    · exact h
  | disconnectTriggered => exact hP.sendDisconnectFromVPNRequest h
  | logoutTriggered => exact hP.logoutTriggered h
  | locationChosen row =>
    dsimp only [Gui.react]
    split
    · exact hP.setCurrentIndex hset row h
    · exact h
  | checkWifi => exact hP.checkWifi h
  | _ => cases he

/-- A property of what is sent and asked for, and of whether a protocol is being loaded. -/
structure Steady (o : Outside) (P : Gui → Prop) : Prop extends Closed o P where
  kept {s t : Gui} : P s → t.setting.loadingProtocol = s.setting.loadingProtocol →
    t.manager.history = s.manager.history → t.requests = s.requests → P t
  storeProtocol (ix : ℤ) {s : Gui} : P s → P { s with setting := (s.setting.setProtocol ix).1 }
  handle (object : QJsonObject) {s : Gui} : P s →
    P { s with manager := s.manager.notified o.surroundings object }

namespace Steady
variable {P : Gui → Prop} (hP : Steady o P)
include hP

theorem setProtocol (ix : ℤ) (h : P s) : P (s.setProtocol o ix) := by
  unfold Gui.setProtocol
  dsimp only
  split
  · exact hP.repopulateLocations (hP.storeProtocol ix h)
  · exact hP.storeProtocol ix h

theorem setProtocolIndex (row : ℤ) (h : P s) : P (s.setProtocolIndex o row) := by
  unfold Gui.setProtocolIndex
  split
  · exact h
  · dsimp only
    split_ifs
    · exact h
    · exact hP.setProtocol _ (hP.kept h rfl rfl rfl)
    · exact h
    · exact hP.setProtocol _ (hP.kept h rfl rfl rfl)

theorem tryNextPort (h : P s) : P (s.tryNextPort o) := by
  rw [tryNextPort_eq]
  refine hP.sendConnectToVPNRequest ?_
  split
  · exact hP.setProtocol _ h
  · unfold switchToNextNode
    dsimp only
    split
    · exact hP.setServer _ _ (hP.filled h)
    · exact hP.filled h

theorem toMap (h : P s) : P (s.toMap o) := by
  have hfilled : P { s with setting := s.setting.currentEncryptionProtocols.2 } :=
    hP.kept h rfl rfl rfl
  unfold Gui.toMap Gui.constructMapScreen
  split
  · refine hP.kept (hP.repopulateLocations (hP.setProtocolIndex _ ?_)) rfl rfl rfl
    exact hP.kept hfilled rfl rfl rfl
  · exact h

theorem notified (n : Notification) (h : P s) : P (s.notified o n) := by
  have hhandled := hP.handle n.object h
  unfold Gui.notified
  dsimp only
  split
  · exact hP.tryNextPort h
  · split_ifs
    · exact hhandled
    · exact hP.constructConnectionDialog hhandled
    · exact hP.toPrimary hhandled
    · exact hhandled

theorem react (e : GuiEvent) (h : P s) : P (s.react o e) := by
  cases e with
  | protocolChosen row =>
    dsimp only [Gui.react]
    split
    · exact hP.setProtocolIndex row h
    · exact h
  | switchCountryTriggered => exact hP.toMap h
  | portDialogFinished accepted isCyclePort =>
    dsimp only [Gui.react, Gui.portDialogResult]
    split
    · split
      · exact hP.tryNextPort (hP.kept h rfl rfl rfl)
      · exact hP.kept h rfl rfl rfl
    · exact h
  | notified n => exact hP.notified n h
  | socketDisconnected => exact hP.kept h rfl rfl rfl
  | setAutoconnect v => exact hP.kept h rfl rfl rfl
  | setDetectInsecureWifi v => exact hP.kept h rfl rfl rfl
  | _ => exact hP.toClosed.react rfl h

theorem step (e : GuiEvent) (h : P s) : P (s.step (o, e)) := by
  unfold Gui.step
  split
  · exact h
  · exact hP.react e h

end Steady

theorem run_steady {P : Gui → Prop} (hP : ∀ o, Steady o P) (es : List (Outside × GuiEvent))
    (h : P s) : P (run step s es) := by
  refine run_invariant (fun s e h => ?_) h es
  exact (hP e.1).step e.2 h

end Gui
end CeloVpn.Client
