import CeloVpn.Client.Closure
import CeloVpn.Client.Orders
import CeloVpn.Client.Requests
import Mathlib.Data.Set.List

/-!
# What the service attempts for a user

A request is the last thing that an event leads to, so it describes what is selected after
the event. All that is written to the service are orders, and the only starts among them
are the requests. Once they have arrived the service attempts what was selected when the
user asked last.
-/
namespace CeloVpn.Client
open Framing Runs
open Service (Held Host OpenvpnManager Receiving World)

/-- The object that was given to `sendCommand`. -/
def Act.object? : Act → Option QJsonObject
  | .sent object => some object
  | _ => none

/-- The property holds of what the manager does on its own, and of a log-in with these
credentials. -/
structure Act.Covers (eLogin ePsw : QString) (P : Act → Prop) : Prop where
  quiet (a : Act) : a.object? = none → P a
  start (t : Surroundings) : P (.sent (VPNServiceManager.startObject t))
  stop : P (.sent [("cmd".toList, .ofInt cmdStop)])
  credentials : P (.sent (VPNServiceManager.credentialsObject eLogin ePsw))

namespace VPNServiceManager
variable (t : Surroundings) {m : VPNServiceManager}

/-- What was given to `sendCommand`, the oldest first. -/
def sent (m : VPNServiceManager) : List QJsonObject := (m.history.filterMap Act.object?).reverse

end VPNServiceManager

namespace Act.Covers
variable {t : Surroundings} {eLogin ePsw : QString} {P : Act → Prop} {base : List Act}
  {m : VPNServiceManager} (hP : Covers eLogin ePsw P)
include hP

theorem note {a : Act} (ha : a.object? = none) (h : Adds P base m.history) :
    Adds P base (m.note a).history :=
  h.cons (hP.quiet a ha)

theorem emit (signal : Signal) (h : Adds P base m.history) :
    Adds P base (m.emit t signal).history :=
  VPNServiceManager.adds_emit t m (hP.quiet _ rfl) h

theorem sendConnectToVPNRequest (h : Adds P base m.history) :
    Adds P base (m.sendConnectToVPNRequest t).history :=
  VPNServiceManager.adds_send t _ (hP.start t) (hP.note (a := .requested false) rfl h)

theorem sendDisconnectFromVPNRequest (h : Adds P base m.history) :
    Adds P base (m.sendDisconnectFromVPNRequest t).history :=
  VPNServiceManager.adds_send t _ hP.stop (hP.note (a := .requested true) rfl h)

theorem sendCredentials (h : Adds P base m.history) : Adds P base (m.sendCredentials
    { t with vpnName := eLogin, vpnPassword := ePsw }).history := by
  have hreached : Adds P base (m.ensureConnected
      { t with vpnName := eLogin, vpnPassword := ePsw }).2.history := by
    rwa [VPNServiceManager.ensureConnected_history]
  unfold VPNServiceManager.sendCredentials
  dsimp only
  split_ifs
  · exact hreached.cons hP.credentials
  · exact hP.emit _ hreached

theorem notified (object : QJsonObject) (h : Adds P base m.history) :
    Adds P base (m.notified t object).history := by
  unfold VPNServiceManager.notified VPNServiceManager.statusChanged VPNServiceManager.timedOut
  dsimp only
  split_ifs
  · exact h
  · exact hP.emit _ h
  · exact hP.emit _ (hP.emit _ h)
  · exact hP.emit _ h
  · exact hP.emit _ h
  · exact hP.emit _ h
  · exact hP.sendConnectToVPNRequest h
  · exact h
  · exact hP.emit _ h
  · exact hP.emit _ h
  · exact h

end Act.Covers

namespace VPNServiceManager

/-- The starts are those among what was sent. -/
theorem starts_eq (m : VPNServiceManager) : m.starts =
    (m.sent.filter fun object => (object.value "cmd".toList).toInt = cmdStart).reverse := by
  rw [sent, List.filter_reverse, List.reverse_reverse, List.filter_filterMap, starts]
  refine congrArg (List.filterMap · m.history) (funext fun a => ?_)
  cases a with
  | sent object =>
    rw [Act.start?, Act.object?, Option.filter_some]
    simp only [decide_eq_true_eq]
  | _ => rfl

end VPNServiceManager

namespace Gui
variable {o : Outside} {s : Gui} {asked : List Request}

theorem steady_adds {P : Act → Prop} {base : List Act} (hP : Act.Covers o.eLogin o.ePsw P) :
    Steady o fun s => Adds P base s.manager.history where
  congr h _ hmanager _ _ := hmanager ▸ h
  filled := id
  storeServer _ _ := id
  constructConnectionDialog h := by
    unfold constructConnectionDialog
    split <;> exact h
  sendConnectToVPNRequest {s} h := by
    unfold Gui.sendConnectToVPNRequest
    dsimp only
    split
    · exact hP.sendConnectToVPNRequest h
    · have hnoted : Adds P base (s.manager.note (.requested false)).history := hP.note rfl h
      dsimp only
      rwa [VPNServiceManager.ensureConnected_history]
  sendDisconnectFromVPNRequest := hP.sendDisconnectFromVPNRequest
  sendCredentials := hP.sendCredentials
  kept h _ hhistory _ := by rwa [hhistory]
  storeProtocol _ _ := id
  handle object _ := hP.notified object

/-- All that is sent are orders. -/
theorem sent_orders (stored : Setting) (v : System.Unset) (mPingsLoaded : Bool)
    (es : List (Outside × GuiEvent)) :
    ∀ object ∈ (run step (initial stored v mPingsLoaded) es).manager.sent,
      ∃ order : Order, order.object = object := by
  have hcovers : ∀ o : Outside, Act.Covers o.eLogin o.ePsw fun a =>
      ∀ object ∈ a.object?, ∃ order : Order, order.object = object := by
    intro o
    refine ⟨fun a ha => ?_, fun t object hobject => ?_, fun object hobject => ?_,
      fun object hobject => ?_⟩
    · rw [ha]
      nofun
    · exact ⟨.connect t, Option.some.inj hobject⟩
    · exact ⟨.disconnect, Option.some.inj hobject⟩
    · exact ⟨.credentials { o.surroundings with vpnName := o.eLogin, vpnPassword := o.ePsw },
        Option.some.inj hobject⟩
  have hrun := run_steady (fun o => steady_adds (hcovers o)) es
    (Adds.refl _ (initial stored v mPingsLoaded).manager.history)
  obtain ⟨acts, hacts, hall⟩ := hrun
  intro object hobject
  obtain ⟨a, ha, hsent⟩ := List.mem_filterMap.mp (List.mem_reverse.mp hobject)
  rw [hacts] at ha
  exact hall a ((List.append_nil acts) ▸ ha) object hsent

/-- The last request is for what is selected. -/
def Asks (o : Outside) (asked : List Request) (s : Gui) : Prop :=
  ∃ port, s.setting.port = some port ∧
    s.requests = ⟨VPNServiceManager.startObject (s.surroundings o port), s.account.mServers,
      s.selected⟩ :: asked

/-- If there was a request at all, nothing was done behind it. -/
def AsksLast (o : Outside) (asked : List Request) (s : Gui) : Prop :=
  s.requests = asked ∨ s.Asks o asked

theorem asksLast_sendConnectToVPNRequest (h : s.requests = asked) :
    (s.sendConnectToVPNRequest o).AsksLast o asked := by
  unfold Gui.sendConnectToVPNRequest
  dsimp only
  split
  · rename_i port hport
    cases hreached : (s.manager.ensureConnected o.surroundings).1 with
    | false => exact .inl h
    | true => exact .inr ⟨port, hport, congrArg (_ :: ·) h⟩
  · exact .inl h

theorem requests_toPrimary : (s.toPrimary o).requests = s.requests :=
  congrArg Core.requests (core_toPrimary o s)

theorem requests_constructConnectToMenu : s.constructConnectToMenu.requests = s.requests :=
  congrArg Core.requests (core_constructConnectToMenu s)

theorem requests_setServer (depth : ℕ) (ixsrv : ℤ) :
    (Gui.setServer depth ixsrv s).requests = s.requests :=
  (located_requests s.requests).setServer depth ixsrv rfl

theorem requests_loginClicked : (s.loginClicked o).requests = s.requests := by
  unfold Gui.loginClicked
  dsimp only
  split
  · rfl
  · split
    · rfl
    · exact requests_toPrimary

theorem requests_setProtocolIndex (row : ℤ) : (s.setProtocolIndex o row).requests = s.requests := by
  unfold Gui.setProtocolIndex
  split
  · rfl
  · dsimp only
    split_ifs
    · rfl
    · exact setProtocol_requests _ _
    · rfl
    · exact setProtocol_requests _ _

theorem requests_toMap : (s.toMap o).requests = s.requests := by
  unfold Gui.toMap Gui.constructMapScreen
  split
  · exact (located_requests s.requests).repopulateLocations (requests_setProtocolIndex _)
  · rfl

theorem requests_loadServer : (s.loadServer o).requests = s.requests := by
  unfold Gui.loadServer
  dsimp only
  split
  · rfl
  · exact requests_setServer _ _

theorem asksLast_loggedIn (h : s.requests = asked) : (s.loggedIn o).AsksLast o asked := by
  have hready : ((s.loadServer o).toPrimary o).constructConnectToMenu.requests = asked :=
    requests_constructConnectToMenu.trans
      (requests_toPrimary.trans (requests_loadServer.trans h))
  unfold Gui.loggedIn
  dsimp only
  split
  · exact asksLast_sendConnectToVPNRequest hready
  · exact .inl hready

theorem asksLast_loginFinished (reply : ServersReply) :
    (s.loginFinished o reply).AsksLast o s.requests := by
  have hmenu : ({ s with
      account := s.account.loginFinished reply s.setting.mTesting
      selected := false } : Gui).constructConnectToMenu.requests = s.requests :=
    requests_constructConnectToMenu
  unfold Gui.loginFinished
  dsimp only
  by_cases hmessage : (s.account.processServersXml reply s.setting.mTesting).1.isEmpty = true
  · simp only [if_pos hmessage]
    split
    · exact asksLast_loggedIn hmenu
    · exact .inl hmenu
  · simp only [if_neg hmessage]
    split
    · exact .inl rfl
    · exact .inl rfl

/-- A log-in that is given up asks for nothing. -/
theorem requests_cancel : (s.cancel o).requests = s.requests := by
  have hmessage : ∀ (account : AuthManager) testing, ¬(account.processServersXml
      (.error "Operation canceled".toList) testing).1.isEmpty = true :=
    fun _ _ => Bool.false_ne_true
  unfold Gui.cancel Gui.loginFinished
  dsimp only
  split
  · simp only [if_neg (hmessage _ _)]
    split
    · rfl
    · rfl
  · rfl

theorem asksLast_jump (h : s.requests = asked) : (s.jump o).AsksLast o asked := by
  unfold Gui.jump
  dsimp only
  split
  · exact asksLast_sendConnectToVPNRequest ((requests_setServer _ _).trans h)
  · exact .inl h

theorem asksLast_tryNextPort (h : s.requests = asked) : (s.tryNextPort o).AsksLast o asked := by
  rw [tryNextPort_eq]
  refine asksLast_sendConnectToVPNRequest ?_
  split
  · exact (setProtocol_requests _ _).trans h
  · unfold switchToNextNode
    dsimp only
    split
    · exact (requests_setServer _ _).trans h
    · exact h

theorem asksLast_react (e : GuiEvent) : (s.react o e).AsksLast o s.requests := by
  cases e with
  | timerConstructed =>
    dsimp only [Gui.react, Gui.timerConstructed]
    split
    · exact .inl rfl
    · split
      · exact .inl requests_loginClicked
      · exact .inl rfl
  | loginClicked => exact .inl requests_loginClicked
  | cancelClicked => exact .inl requests_cancel
  | replyFinished reply =>
    dsimp only [Gui.react]
    split
    · exact asksLast_loginFinished reply
    · exact .inl rfl
  | pinged e hpings => exact .inl rfl
  | statusTriggered => exact .inl requests_toPrimary
  | switchCountryTriggered => exact .inl requests_toMap
  | connectClicked => exact asksLast_sendConnectToVPNRequest rfl
  | cancelConnectionClicked => exact .inl rfl
  | jumpClicked => exact asksLast_jump rfl
  | jumpTriggered => exact asksLast_jump requests_toPrimary
  | connectTriggered =>
    dsimp only [Gui.react, Gui.connectTriggered]
    split
    · exact asksLast_sendConnectToVPNRequest rfl
    · exact .inl requests_loginClicked
  | connectToTriggered k =>
    dsimp only [Gui.react, Gui.connectToTriggered]
    split
    · split
      · exact asksLast_sendConnectToVPNRequest (requests_setServer _ _)
      · exact .inl requests_loginClicked
    · exact .inl rfl
  | disconnectTriggered => exact .inl rfl
  | logoutTriggered => exact .inl (requests_cancel (o := o) (s := s.sendDisconnectFromVPNRequest o))
  | protocolChosen row =>
    dsimp only [Gui.react]
    split
    · exact .inl (requests_setProtocolIndex _)
    · exact .inl rfl
  | locationChosen row =>
    dsimp only [Gui.react]
    split
    · exact .inl ((located_requests s.requests).setCurrentIndex
        (fun i _ h => (requests_setServer _ i).trans h) _ rfl)
    · exact .inl rfl
  | portDialogFinished accepted isCyclePort =>
    dsimp only [Gui.react, Gui.portDialogResult]
    split
    · split
      · exact asksLast_tryNextPort rfl
      · exact .inl rfl
    · exact .inl rfl
  | notified n =>
    dsimp only [Gui.react, Gui.notified]
    split
    · exact asksLast_tryNextPort rfl
    · split_ifs
      · exact .inl rfl
      · exact .inl (congrArg Core.requests (core_constructConnectionDialog o _))
      · exact .inl requests_toPrimary
      · exact .inl rfl
  | socketDisconnected => exact .inl rfl
  | checkWifi =>
    dsimp only [Gui.react]
    unfold Gui.checkWifi
    split_ifs
    · exact asksLast_sendConnectToVPNRequest rfl
    · exact .inl requests_loginClicked
    · exact .inl rfl
    · exact .inl rfl
  | setAutoconnect v => exact .inl rfl
  | setDetectInsecureWifi v => exact .inl rfl

theorem asksLast_step (e : Outside × GuiEvent) : (s.step e).AsksLast e.1 s.requests := by
  unfold step
  split
  · exact .inl rfl
  · exact asksLast_react e.2

/-- What is sent of an object. -/
def bytesOf (object : QJsonObject) : QByteArray := Wire.sendCommand Json.decimal object.toMembers

/-- Commands that have arrived leave what they were meant to. -/
theorem held_arrived {stored : Setting} {v : System.Unset} {mPingsLoaded : Bool}
    {es : List (Outside × GuiEvent)} {later : List QJsonObject} {α : Type*} {host : Host}
    {C : Receiving → (World × QByteArray) ⊕ Service.Event → Prop} {f : Held → α}
    (hf : Receiving.Told host C f)
    (hlater : later <:+ (run step (initial stored v mPingsLoaded) es).manager.sent)
    (hascii : ∀ object ∈ later, object.IsAscii) (client : ℕ) (m : OpenvpnManager)
    {arrivals : List ((World × QByteArray) ⊕ Service.Event)} {cut : QByteArray}
    (hcut : 10 ∉ cut)
    (harrived : (Receiving.portions arrivals).flatten = later.flatMap bytesOf ++ cut)
    (hmeets : Meets (Receiving.next host client) C (.fresh m) arrivals) :
    f (run (Receiving.next host client) (.fresh m) arrivals).manager.held =
      f (later.foldl Held.take m.held) := by
  have horders : later ∈ Set.range (List.map Order.object) := by
    rw [Set.range_list_map]
    exact fun object hobject =>
      sent_orders stored v mPingsLoaded es object (hlater.mem hobject)
  obtain ⟨orders, rfl⟩ := horders
  have hlines : lines 10 (Receiving.portions arrivals).flatten =
      orders.map fun a => Wire.command a.object := by
    rw [harrived, ← Order.lines_flatten_bytes orders hcut, List.flatMap_map, List.flatMap_def]
    rfl
  rw [Order.held_of_lines hf client m (fun a ha => hascii _ (List.mem_map_of_mem ha)) hlines
    hmeets, List.foldl_map]

/-- Whatever is stored and whatever happens to the client: when the last commands that it
has written have arrived on a connection, a start among them, in any portions and with
anything in between that the service does without commands of other clients, then the
service attempts what was selected in the client when it made its last request: each text
without its line breaks, and the port unless a bind has failed. -/
theorem choice_attempted (stored : Setting) (v : System.Unset) (mPingsLoaded : Bool)
    (es : List (Outside × GuiEvent)) {later : List QJsonObject}
    (hlater : later <:+ (run step (initial stored v mPingsLoaded) es).manager.sent)
    (hstart : ∃ object ∈ later, (object.value "cmd".toList).toInt = cmdStart)
    (hascii : ∀ object ∈ later, object.IsAscii) (host : Host) (client : ℕ) (m : OpenvpnManager)
    {arrivals : List ((World × QByteArray) ⊕ Service.Event)} {cut : QByteArray}
    (hcut : 10 ∉ cut)
    (harrived : (Receiving.portions arrivals).flatten = later.flatMap bytesOf ++ cut)
    (halone : ∀ arrival ∈ arrivals, Receiving.Alone arrival) :
    ∃ before e port, LastChange step requests (initial stored v mPingsLoaded) es before e ∧
      (run step (initial stored v mPingsLoaded) (before ++ [e])).setting.port = some port ∧
      (-2147483648 ≤ (run step (initial stored v mPingsLoaded) (before ++ [e])).setting.serverID →
        (run step (initial stored v mPingsLoaded) (before ++ [e])).setting.serverID ≤ 2147483647 →
        (run (Receiving.next host client) (.fresh m) arrivals).manager.held.attempt.withoutPort =
            (Order.attempt ((run step (initial stored v mPingsLoaded)
              (before ++ [e])).surroundings e.1 port)).withoutPort ∧
          (Meets (Receiving.next host client) Receiving.Bound (.fresh m) arrivals →
            (run (Receiving.next host client) (.fresh m) arrivals).manager.held.attempt =
              Order.attempt ((run step (initial stored v mPingsLoaded)
                (before ++ [e])).surroundings e.1 port))) := by
  have hinitial : (initial stored v mPingsLoaded).Sound := ⟨⟨nofun, rfl⟩, (fits_nil _).symm⟩
  have hsound : (run step (initial stored v mPingsLoaded) es).Sound :=
    sound_preserved.run (fun _ _ => trivial) hinitial
  have halone' : Meets (Receiving.next host client) (fun _ => Receiving.Alone) (.fresh m)
      arrivals := meets_iff_forall.mpr halone
  have hmoved := held_arrived (Receiving.told_withoutPort host) hlater hascii client m hcut
    harrived halone'
  have hheld : Meets (Receiving.next host client) Receiving.Bound (.fresh m) arrivals →
      (run (Receiving.next host client) (.fresh m) arrivals).manager.held =
        later.foldl Held.take m.held := fun hbound =>
    held_arrived (Receiving.told_held host) hlater hascii client m hcut harrived
      (halone'.and hbound)
  generalize hs : run step (initial stored v mPingsLoaded) es = s at *
  have hsome : later.filter (fun o => (o.value "cmd".toList).toInt = cmdStart) ≠ [] := by
    obtain ⟨object, hobject, hcmd⟩ := hstart
    exact List.ne_nil_of_mem (List.mem_filter.mpr ⟨hobject, decide_eq_true hcmd⟩)
  -- the last start of all that was written is among these commands, and is a request
  have hlast : (later.filter fun o => (o.value "cmd".toList).toInt = cmdStart).getLast? =
      (s.requests.map (·.object)).head? := by
    obtain ⟨earlier, hsent⟩ := hlater
    rw [← hsound.1.2, s.manager.starts_eq, List.head?_reverse, ← hsent, List.filter_append,
      List.getLast?_append_of_ne_nil _ hsome]
  have hattempt : (later.foldl Held.take m.held).attempt =
      ((s.requests.map (·.object)).head?.map OpenvpnManager.attemptOf).getD m.held.attempt := by
    rw [← hlast, ← Held.attempt_foldl]
  rcases exists_lastChange requests (initial stored v mPingsLoaded) es with hnone | ⟨before, e, hat⟩
  · rw [← hs, hnone] at hlast
    exact absurd (List.getLast?_eq_none_iff.mp hlast) hsome
  · have hmoment := hat
    obtain ⟨-, hchange, hsame⟩ := hmoment
    have hstep : run step (initial stored v mPingsLoaded) (before ++ [e]) =
        (run step (initial stored v mPingsLoaded) before).step e := run_append ..
    have hasks := (asksLast_step (s := run step (initial stored v mPingsLoaded) before) e)
    rw [← hstep] at hasks
    obtain ⟨port, hport, hasked⟩ := hasks.resolve_left hchange
    refine ⟨before, e, port, hat, hport, fun hlower hupper => ?_⟩
    rw [hs] at hsame
    have hencryption : -2147483648 ≤ Setting.encryption ∧ Setting.encryption ≤ 2147483647 := by
      decide
    rw [hsame, hasked] at hattempt
    replace hattempt := hattempt.trans (Order.attemptOf_object fun n hn => by
      rcases List.mem_cons.mp hn with rfl | hn
      · exact hencryption
      · obtain rfl := List.mem_singleton.mp hn
        exact ⟨hlower, hupper⟩)
    refine ⟨?_, fun hbound => (congrArg Held.attempt (hheld hbound)).trans hattempt⟩
    rw [← hattempt]
    exact congrArg Held.attempt hmoved

/-- The user picks the second server in the menu of the tray. -/
def picksSecond : List (Outside × GuiEvent) :=
  [.timerConstructed, .loginClicked, .replyFinished .two, .connectToTriggered 1].map
    (Prod.mk .nested)

/-- What has been written by then. -/
def picked : List QJsonObject :=
  (run step (initial .fresh .blocking false) picksSecond).manager.sent

theorem isAscii_picked : ∀ object ∈ picked, object.IsAscii := by
  have hall : (picked.all fun object => object.all fun m =>
      m.1.all QString.isAscii && m.2.toString.all QString.isAscii) = true := by decide +kernel
  intro object hobject m hm
  have hmember := List.all_eq_true.mp (List.all_eq_true.mp hall object hobject) m hm
  rwa [Bool.and_eq_true, List.all_eq_true, List.all_eq_true] at hmember

/-- It arrives in two portions, with the first byte of another command behind it, and the
state timer ticks in between. -/
def pickArriving : List ((World × QByteArray) ⊕ Service.Event) :=
  [.inl (.quiet 0, (picked.flatMap bytesOf).take 30), .inr ⟨.quiet 0, .stateTimer⟩,
    .inl (.quiet 0, (picked.flatMap bytesOf).drop 30 ++ [123])]

/-- The service attempts it. -/
theorem second_server_attempted :
    (run (Receiving.next (.on .linux) 0) (.fresh (.initial .zero))
      pickArriving).manager.held.attempt.serverId = 1 ∧
    ∃ before e port,
      LastChange step requests (initial .fresh .blocking false) picksSecond before e ∧
      (run step (initial .fresh .blocking false) (before ++ [e])).setting.port = some port ∧
      (-2147483648 ≤ (run step (initial .fresh .blocking false) (before ++ [e])).setting.serverID →
        (run step (initial .fresh .blocking false) (before ++ [e])).setting.serverID ≤ 2147483647 →
        (run (Receiving.next (.on .linux) 0) (.fresh (.initial .zero))
          pickArriving).manager.held.attempt =
          Order.attempt ((run step (initial .fresh .blocking false) (before ++ [e])).surroundings
            e.1 port)) := by
  have hstart : ∃ object ∈ picked, (object.value "cmd".toList).toInt = cmdStart := by
    decide +kernel
  have hcut : (10 : UInt8) ∉ [(123 : UInt8)] := by decide
  have harrived : (Receiving.portions pickArriving).flatten =
      picked.flatMap bytesOf ++ [123] := by decide +kernel
  have halone : ∀ arrival ∈ pickArriving, Receiving.Alone arrival := by
    intro arrival harrival
    simp only [pickArriving, List.mem_cons, List.not_mem_nil, or_false] at harrival
    rcases harrival with rfl | rfl | rfl
    · trivial
    · exact nofun
    · trivial
  obtain ⟨before, e, port, hat, hport, hattempt⟩ := choice_attempted .fresh .blocking false
    picksSecond (List.suffix_refl _) hstart isAscii_picked (.on .linux) 0 (.initial .zero) hcut
    harrived halone
  refine ⟨by decide +kernel, before, e, port, hat, hport, fun hlower hupper => ?_⟩
  exact (hattempt hlower hupper).2 ⟨trivial, nofun, trivial, trivial⟩

end Gui
end CeloVpn.Client
