import CeloVpn.Client.Notifications
import CeloVpn.Service.Broadcasts

/-!
# The state the client shows

A client learns of the service's state from the notifications on its connection, in the
order in which the service wrote them. Once it has handled what is on its way, it shows
the state the service told it last, which is the one the service holds as told.
-/
namespace CeloVpn.Client
open Runs
open Service (OpenvpnManager QVPNClientConnection Host World)

namespace VPNServiceManager
variable (s : Surroundings) (m : VPNServiceManager)

/-- The state an object reports. -/
def status? (object : QJsonObject) : Option ℤ :=
  if object.isEmpty then none
  else if (object.value "code".toList).toInt = notifyStatusChange then
    some (object.value "state".toList).toInt
  else none

/-- The state that is reported last. -/
def lastStatus (objects : List QJsonObject) : Option ℤ := objects.reverse.findSome? status?

theorem lastStatus_append (objects objects' : List QJsonObject) :
    lastStatus (objects ++ objects') = (lastStatus objects').or (lastStatus objects) := by
  rw [lastStatus, List.reverse_append, List.findSome?_append]
  rfl

theorem mState_notified (object : QJsonObject) :
    (m.notified s object).mState = (status? object).getD m.mState := by
  unfold notified status?
  dsimp only
  split_ifs
  · rfl
  · exact mState_statusChanged s m _
  · exact mState_emit s m _
  · exact mState_emit s m _
  · exact mState_timedOut s m
  · exact mState_emit s m _
  · rfl

/-- The service's number of the client's connection. -/
def peer : Option ℕ := m.link.bind (·.client)

/-- A part of the client shows the same state over the same connection. -/
structure SameView (m m' : VPNServiceManager) : Prop where
  state : m'.mState = m.mState
  peer : m'.peer = m.peer

theorem SameView.trans {m m' m'' : VPNServiceManager} (h : SameView m m') (h' : SameView m' m'') :
    SameView m m'' := ⟨h'.state.trans h.state, h'.peer.trans h.peer⟩

theorem sameView_connectToCore (reaches : Bool) : SameView m (m.connectToCore reaches).2 := by
  unfold connectToCore
  split_ifs with hlink
  · exact ⟨rfl, rfl⟩
  · have hnone : m.link = none := Option.not_isSome_iff_eq_none.mp hlink
    exact ⟨rfl, by rw [peer, peer, hnone]; rfl⟩
  · exact ⟨rfl, rfl⟩

theorem sameView_ensureConnected : SameView m (m.ensureConnected s).2 := by
  have hreach : ∀ (m : VPNServiceManager) reaches (b : Bool),
      SameView m { (m.connectToCore reaches).2 with mConnected := b } := by
    intro m reaches b
    have hsame := sameView_connectToCore m reaches
    exact ⟨hsame.state, hsame.peer⟩
  unfold ensureConnected
  dsimp only
  split_ifs
  · exact ⟨rfl, rfl⟩
  · exact hreach m _ _
  · exact (hreach m _ _).trans (hreach _ _ _)

theorem sameView_sendCommand (object : QJsonObject) : SameView m (m.sendCommand object) := by
  refine ⟨rfl, ?_⟩
  unfold peer sendCommand
  cases m.link <;> rfl

theorem sameView_send (object : QJsonObject) : SameView m (m.send s object) := by
  have hreached := sameView_ensureConnected s m
  unfold send
  dsimp only
  split_ifs
  · exact hreached.trans (sameView_sendCommand _ object)
  · exact hreached

theorem sameView_sendConnectToVPNRequest : SameView m (m.sendConnectToVPNRequest s) := by
  have hsent := sameView_send s { m.note (.requested false) with mUserRequestedDisconnect := false }
    (startObject s)
  exact ⟨hsent.state, hsent.peer⟩

theorem sameView_sendDisconnectFromVPNRequest : SameView m (m.sendDisconnectFromVPNRequest s) := by
  have hsent := sameView_send s { m.note (.requested true) with mUserRequestedDisconnect := true }
    [("cmd".toList, .ofInt cmdStop)]
  exact ⟨hsent.state, hsent.peer⟩

theorem sameView_emit (signal : Signal) : SameView m (m.emit s signal) := by
  refine ⟨mState_emit s m signal, ?_⟩
  cases signal with
  | stateChanged state =>
    change (runSlot s (.stateChanged state) (m.note (.emitted (.stateChanged state)))
      .wndManagerStateChanged).peer = _
    unfold runSlot
    split_ifs <;> rfl
  | _ => rfl

theorem sameView_sendCredentials : SameView m (m.sendCredentials s) := by
  have hreached := sameView_ensureConnected s m
  unfold sendCredentials
  dsimp only
  split_ifs
  · exact hreached.trans (sameView_sendCommand _ _)
  · exact hreached.trans (sameView_emit s _ _)

theorem sameView_portDialogResult (accepted isCyclePort : Bool) :
    SameView m (m.portDialogResult s accepted isCyclePort) := by
  unfold portDialogResult
  dsimp only
  split_ifs
  · unfold startPortLoop tryNextPort
    have hsent := sameView_sendConnectToVPNRequest s { m with
      portDialog := false
      mChangingPorts := isCyclePort
      mPortDialogShown := false
      mInPortLoop := true }
    exact ⟨hsent.state, hsent.peer⟩
  · exact ⟨rfl, rfl⟩

/-- A notification is handled over the same connection. -/
theorem peer_notified (object : QJsonObject) : (m.notified s object).peer = m.peer := by
  have hemit : ∀ (m : VPNServiceManager) signal, (m.emit s signal).peer = m.peer :=
    fun m signal => (sameView_emit s m signal).peer
  unfold notified
  dsimp only
  split_ifs
  · rfl
  · unfold statusChanged
    dsimp only
    rw [hemit]
    split_ifs
    · rfl
    · exact hemit _ _
    · rfl
  · exact hemit _ _
  · exact hemit _ _
  · unfold timedOut
    split_ifs
    · exact (sameView_sendConnectToVPNRequest s m).peer
    · rfl
    · exact hemit _ _
  · exact hemit _ _
  · rfl

end VPNServiceManager

namespace System
open VPNServiceManager (status? lastStatus)
variable (host : Host)

/-- The state the client shows once it has handled what is on its way. -/
def viewed (s : System) : ℤ := (lastStatus (s.incoming.map (·.object))).getD s.manager.mState

/-- The service has told the client's connection no state yet, or the client shows the one
that was told last, and the service holds it. -/
def Informed (c : QVPNClientConnection) (s : System) : Prop :=
  ∀ state, lastStatus c.sent = some state → s.viewed = state ∧ c.m_state.toInt = state

/-- The service numbers its connections, the client's is one of them, and it is informed. -/
structure Follows (s : System) : Prop where
  numbered : s.service.Numbered
  linked : ∀ client, s.manager.peer = some client → ∃ c,
    s.service.connection client = some c ∧ s.Informed c

/-- A signal reports the state it tells. -/
theorem lastStatus_messages (signal : Service.Signal) :
    lastStatus signal.messages = signal.state?.map VpnState.toInt := by
  cases signal with
  | stateChanged state => cases state <;> rfl
  | stateWordChanged word => cases word <;> rfl
  | _ => rfl

theorem lastStatus_flatMap (signals : List Service.Signal) :
    lastStatus (signals.reverse.flatMap Service.Signal.messages) =
      (signals.findSome? Service.Signal.state?).map VpnState.toInt := by
  induction signals with
  | nil => rfl
  | cons signal signals ih =>
    rw [List.reverse_cons, List.flatMap_append, VPNServiceManager.lastStatus_append, ih,
      List.flatMap_singleton, List.findSome?_cons, lastStatus_messages]
    cases signal.state? <;> rfl

/-- The notifications on their way are more by what was written. -/
def arriving (m : OpenvpnManager) (new : List QJsonObject) (own : Bool) (s : System) : System :=
  { s with service := m, incoming := s.incoming ++ new.map fun object => ⟨object, own⟩ }

theorem viewed_arriving (m : OpenvpnManager) (new : List QJsonObject) (own : Bool) (s : System) :
    (s.arriving m new own).viewed = (lastStatus new).getD s.viewed := by
  have hobjects : (s.arriving m new own).incoming.map (·.object) =
      s.incoming.map (·.object) ++ new := by
    simp [arriving, Function.comp_def]
  unfold viewed
  rw [hobjects, VPNServiceManager.lastStatus_append]
  cases lastStatus new <;> rfl

/-- What a connection is told next, the client will see. -/
theorem Informed.receiveAll {c : QVPNClientConnection} {s : System} (h : s.Informed c)
    (signals : List Service.Signal) (own : Bool) (m : OpenvpnManager) :
    (s.arriving m (signals.reverse.flatMap Service.Signal.messages) own).Informed
      (c.receiveAll signals) := by
  intro state hstate
  rw [QVPNClientConnection.receiveAll_sent, VPNServiceManager.lastStatus_append,
    lastStatus_flatMap] at hstate
  rw [viewed_arriving, lastStatus_flatMap, QVPNClientConnection.receiveAll_m_state]
  cases htold : signals.findSome? Service.Signal.state? with
  | none =>
    rw [htold] at hstate
    exact h state hstate
  | some st =>
    rw [htold] at hstate
    exact ⟨Option.some.inj hstate, Option.some.inj hstate⟩

/-- An event of the service that leaves the client's connection open. -/
theorem Follows.serve {s : System} (h : s.Follows) (own : Bool) {e : Service.Event}
    (hstays : ∀ client, s.manager.peer = some client → e.callback.closes client = false) :
    (s.serve host own e).Follows := by
  refine ⟨h.numbered.step host e, fun client hclient => ?_⟩
  have hpeer : s.manager.peer = some client := hclient
  obtain ⟨c, hc, hinformed⟩ := h.linked client hpeer
  have hafter := OpenvpnManager.connection_step host h.numbered hc (hstays client hpeer)
  refine ⟨_, hafter, ?_⟩
  have hsent : ∀ {m : OpenvpnManager} {d : QVPNClientConnection}, m.connection client = some d →
      sentTo client m = d.sent := by
    intro m d hd
    rw [sentTo]
    exact congrArg (fun found => (Option.map (·.sent) found).getD []) hd
  have hwritten : (sentTo client (s.service.step host e)).drop (sentTo client s.service).length =
      (s.service.hearsOf host client e).reverse.flatMap Service.Signal.messages := by
    rw [hsent hafter, hsent hc, QVPNClientConnection.receiveAll_sent, List.drop_left]
  have hserved : s.serve host own e = s.arriving (s.service.step host e)
      ((s.service.hearsOf host client e).reverse.flatMap Service.Signal.messages) own := by
    have hs : s.client = some client := hpeer
    rw [System.serve, hs]
    dsimp only
    rw [hwritten]
    rfl
  rw [hserved]
  exact hinformed.receiveAll _ own _

/-- What the client does between two notifications changes nothing about it. -/
theorem Follows.manager {s : System} (h : s.Follows) {m : VPNServiceManager}
    (hsame : VPNServiceManager.SameView s.manager m) : Follows { s with manager := m } := by
  refine ⟨h.numbered, fun client hclient => ?_⟩
  obtain ⟨c, hc, hinformed⟩ := h.linked client (hsame.peer.symm.trans hclient)
  refine ⟨c, hc, fun state hstate => ?_⟩
  obtain ⟨hviewed, hheld⟩ := hinformed state hstate
  refine ⟨?_, hheld⟩
  rw [← hviewed, viewed, viewed, hsame.state]

/-- Without a connection there is nothing to follow. -/
theorem follows_of_unlinked {s : System} (h : s.service.Numbered) (hnone : s.manager.peer = none) :
    s.Follows :=
  ⟨h, fun client hclient => by rw [hnone] at hclient; cases hclient⟩

/-- A notification is lost. -/
def garbles : Action → Bool
  | .garble => true
  | _ => false

theorem Follows.handle {s : System} (h : s.Follows) (t : Surroundings) {n : Notification}
    {rest : List Notification} (hincoming : s.incoming = n :: rest) :
    Follows { s with manager := s.manager.notified t n.object, incoming := rest } := by
  refine ⟨h.numbered, fun client hclient => ?_⟩
  obtain ⟨c, hc, hinformed⟩ := h.linked client
    ((VPNServiceManager.peer_notified t s.manager n.object).symm.trans hclient)
  refine ⟨c, hc, fun state hstate => ?_⟩
  obtain ⟨hviewed, hheld⟩ := hinformed state hstate
  refine ⟨?_, hheld⟩
  have hlast : lastStatus (s.incoming.map (·.object)) =
      (lastStatus (rest.map (·.object))).or (status? n.object) := by
    rw [hincoming, List.map_cons, ← List.singleton_append, VPNServiceManager.lastStatus_append]
    simp [lastStatus]
  rw [← hviewed, viewed, viewed, hlast, VPNServiceManager.mState_notified]
  cases lastStatus (rest.map (·.object)) <;> rfl

/-- The service accepts the client, and tells it nothing yet. -/
theorem Follows.accept {s : System} (h : s.Follows) (w : World) {outgoing : List QJsonObject}
    (hlink : s.manager.link = some ⟨none, outgoing⟩) : (s.step host (.accept w)).Follows := by
  have hnone : ∀ client, s.manager.peer = some client →
      (Service.Callback.connectionOpened).closes client = false := fun _ _ => rfl
  have hserved := h.serve host false (e := ⟨w, .connectionOpened⟩) hnone
  rw [step, hlink]
  refine ⟨hserved.numbered, fun client hclient => ?_⟩
  obtain rfl := Option.some.inj hclient
  have hopened : (⟨s.service.nextConnection, .disconnected, []⟩ : QVPNClientConnection) ∈
      (s.service.step host ⟨w, .connectionOpened⟩).connections :=
    List.mem_append_right _ (List.mem_singleton_self _)
  exact ⟨_, hserved.numbered.connection_eq hopened, nofun⟩

/-- Every action but the loss of a notification keeps the client informed. -/
theorem Follows.step {s : System} (h : s.Follows) {a : Action} (ha : garbles a = false) :
    (s.step host a).Follows := by
  cases a with
  | connect t => exact h.manager (VPNServiceManager.sameView_sendConnectToVPNRequest t _)
  | disconnect t => exact h.manager (VPNServiceManager.sameView_sendDisconnectFromVPNRequest t _)
  | credentials t => exact h.manager (VPNServiceManager.sameView_sendCredentials t _)
  | portDialog t accepted isCyclePort =>
    rw [System.step]
    split_ifs
    · exact h.manager (VPNServiceManager.sameView_portDialogResult t _ accepted isCyclePort)
    · exact h
  | setBlockOnDisconnect v => exact h.manager ⟨rfl, rfl⟩
  | setLoggedIn v => exact h.manager ⟨rfl, rfl⟩
  | handle t =>
    rw [System.step]
    split
    · exact h.handle t ‹_›
    · exact h
  | garble => cases ha
  | accept w =>
    cases hlink : s.manager.link with
    | none =>
      rw [System.step, hlink]
      exact h
    | some link =>
      obtain ⟨client, outgoing⟩ := link
      cases client with
      | none => exact h.accept host w hlink
      | some client =>
        rw [System.step, hlink]
        exact h
  | execute w line parses =>
    rw [System.step]
    split
    · rename_i client object outgoing hlink
      have hserved := h.serve host (isStartOrStop (if parses then object else []))
        (e := ⟨w, .command client line (if parses then object else [])⟩) fun _ _ => rfl
      refine Follows.manager hserved ⟨rfl, ?_⟩
      change some client = s.manager.link.bind (·.client)
      rw [hlink]
      rfl
    · exact h
  | service e =>
    rw [System.step]
    split_ifs with hconcerns
    · exact h
    · refine h.serve host false fun client hpeer => ?_
      have hs : s.client = some client := hpeer
      rw [hs] at hconcerns
      by_contra hcloses
      refine hconcerns ?_
      cases hcallback : e.callback with
      | connectionClosed client' =>
        rw [hcallback] at hcloses
        simpa [Service.Callback.closes, concerns] using hcloses
      | _ =>
        rw [hcallback] at hcloses
        exact absurd rfl hcloses
  | broken w arrives =>
    refine follows_of_unlinked ?_ rfl
    rw [System.step, cut]
    dsimp only
    split
    · exact h.numbered.step host _
    · exact h.numbered
  | restart u arrives => exact follows_of_unlinked ⟨List.nodup_nil, fun _ h => absurd h List.not_mem_nil⟩ rfl
  | socketDisconnected arrives =>
    rw [System.step]
    split_ifs with hlink
    · refine follows_of_unlinked h.numbered ?_
      have hnone : s.manager.link = none := Option.isNone_iff_eq_none.mp hlink
      change s.manager.link.bind _ = none
      rw [hnone]
      rfl
    · exact h

/-- Whatever the users, the two programs and openvpn do, and however often the connection
breaks and is made anew: once the service has told a connected client a state over its
connection, the client shows the one told last as soon as it has handled what is on its
way, and the service would answer a status request with the same one. -/
theorem shows_what_was_told (u : Service.Indeterminate) (v : Unset) {as : List Action}
    (hwhole : ∀ a ∈ as, garbles a = false) {client : ℕ}
    (hclient : (run (step host) (initial u v) as).client = some client) {state : ℤ}
    (htold : lastStatus (sentTo client (run (step host) (initial u v) as).service) = some state) :
    (run (step host) (initial u v) as).viewed = state ∧
      ((run (step host) (initial u v) as).service.clientState client).toInt = state := by
  have hfollows : (run (step host) (initial u v) as).Follows := by
    refine run_of_meets (C := fun _ a => garbles a = false) (P := Follows)
      (fun s a ha h => h.step host ha) ?_ (meets_iff_forall.mpr hwhole)
    exact follows_of_unlinked ⟨List.nodup_nil, fun _ h => absurd h List.not_mem_nil⟩ rfl
  obtain ⟨c, hc, hinformed⟩ := hfollows.linked client hclient
  have hfound : (run (step host) (initial u v) as).service.connections.find? (·.id == client) =
      some c := hc
  rw [sentTo, hfound] at htold
  rw [OpenvpnManager.clientState, hfound]
  exact hinformed state htold

/-- Two of the three notifications of a connection that is made are still on their way. -/
theorem connection_in_view :
    (run (step (Host.on .linux)) (initial .zero .blocking)
      (connecting ++ [.handle (.server 7 "template 7")])).viewed = 2 := by
  have hwhole : ∀ a ∈ connecting ++ [.handle (.server 7 "template 7")],
      garbles a = false := by
    simp [connecting, garbles]
  exact (shows_what_was_told (Host.on .linux) .zero .blocking hwhole
    (show _ = some 0 by decide +kernel) (show _ = some 2 by decide +kernel)).1

end System
end CeloVpn.Client
