import CeloVpn.Client.Desktop
import CeloVpn.Library.Noninterference
import CeloVpn.Service.Credentials

/-!
# The password and the logs

The text of every command is logged: by the client when it is sent, if it logs at all,
and by the service when it is read. The command that carries the credentials is no
exception. Where neither happens to it, nothing in the logs depends on the password.
-/
namespace CeloVpn.Client
open Runs
open Service (Host World OpenvpnManager)
open Service.OpenvpnManager (credentialsOf)
open VPNServiceManager (credentialsObject)

/-- Two commands that may differ in a password, which is `q` in the second. -/
inductive Same (q : QString) : QJsonObject → QJsonObject → Prop
  | other (object : QJsonObject) (h : credentialsOf object = none) : Same q object object
  | credentials (vpnName vpnPassword : QString) :
    Same q (credentialsObject vpnName vpnPassword) (credentialsObject vpnName q)

def Link.Alike (q : QString) (a b : Link) : Prop :=
  b.client = a.client ∧ List.Forall₂ (Same q) a.outgoing b.outgoing

theorem Same.other_of_cmd {q : QString} {cmd : ℤ} {rest : QJsonObject}
    (h : (QJsonValue.ofInt cmd).toInt ≠ cmdSetCredentials) :
    Same q (("cmd".toList, .ofInt cmd) :: rest) (("cmd".toList, .ofInt cmd) :: rest) := by
  have hvalue : QJsonObject.value (("cmd".toList, .ofInt cmd) :: rest) "cmd".toList =
      .ofInt cmd := by
    simp [QJsonObject.value]
  refine .other _ ?_
  rw [credentialsOf, hvalue, if_neg h]

/-- Commands with credentials differ in the password only. -/
theorem Same.exists_credentials {q : QString} {object object' : QJsonObject}
    (h : Same q object object') (hobject : (credentialsOf object).isSome = true) :
    ∃ vpnName vpnPassword, object = credentialsObject vpnName vpnPassword ∧
      object' = credentialsObject vpnName q := by
  cases h with
  | other _ hnone =>
    rw [hnone] at hobject
    cases hobject
  | credentials vpnName vpnPassword => exact ⟨vpnName, vpnPassword, rfl, rfl⟩

namespace VPNServiceManager

/-- Two managers that may differ in the passwords they have sent. -/
def Alike (q : QString) (m m' : VPNServiceManager) : Prop :=
  ∃ link history, m' = { m with link := link, history := history } ∧
    Option.Rel (Link.Alike q) m.link link

section Alike
variable (s : Surroundings) {q : QString} {m m' : VPNServiceManager}

theorem rel_isSome {a b : Option Link} (h : Option.Rel (Link.Alike q) a b) :
    b.isSome = a.isSome := by
  cases h <;> rfl

theorem rel_client {a b : Option Link} (h : Option.Rel (Link.Alike q) a b) :
    b.bind (·.client) = a.bind (·.client) := by
  cases h with
  | none => rfl
  | some h => exact h.1

/-- Two sockets have a command the service can read, or neither has. -/
theorem rel_cases {a b : Option Link} (h : Option.Rel (Link.Alike q) a b) :
    (∃ client object object' outgoing outgoing', a = some ⟨some client, object :: outgoing⟩ ∧
      b = some ⟨some client, object' :: outgoing'⟩ ∧ Same q object object') ∨
    (∀ client object outgoing, a ≠ some ⟨some client, object :: outgoing⟩) ∧
      ∀ client object outgoing, b ≠ some ⟨some client, object :: outgoing⟩ := by
  cases h with
  | none => exact .inr ⟨nofun, nofun⟩
  | @some a b hab =>
    obtain ⟨client, outgoing⟩ := a
    obtain ⟨client', outgoing'⟩ := b
    obtain ⟨rfl, hout⟩ : client' = client ∧ List.Forall₂ (Same q) outgoing outgoing' := hab
    cases hout with
    | nil => exact .inr ⟨by simp, by simp⟩
    | cons hsame hout =>
      cases client' with
      | none => exact .inr ⟨by simp, by simp⟩
      | some client => exact .inl ⟨_, _, _, _, _, rfl, rfl, hsame⟩

theorem Alike.connectToCore (reaches : Bool) (h : Alike q m m') :
    (m'.connectToCore reaches).1 = (m.connectToCore reaches).1 ∧
      Alike q (m.connectToCore reaches).2 (m'.connectToCore reaches).2 := by
  obtain ⟨link, history, rfl, hlink⟩ := h
  unfold VPNServiceManager.connectToCore
  simp only [rel_isSome hlink]
  split_ifs
  · exact ⟨rfl, link, history, rfl, hlink⟩
  · exact ⟨rfl, some ⟨none, []⟩, history, rfl, .some ⟨rfl, .nil⟩⟩
  · exact ⟨rfl, link, history, rfl, hlink⟩

theorem Alike.connectToCoreLog (reaches : Bool) (h : Alike q m m') :
    m'.connectToCoreLog reaches = m.connectToCoreLog reaches := by
  obtain ⟨link, history, rfl, hlink⟩ := h
  simp only [VPNServiceManager.connectToCoreLog, rel_isSome hlink]

/-- Members besides the socket may be set alike. -/
theorem Alike.mConnected (v : Bool) (h : Alike q m m') :
    Alike q { m with mConnected := v } { m' with mConnected := v } := by
  obtain ⟨link, history, rfl, hlink⟩ := h
  exact ⟨link, history, rfl, hlink⟩

theorem Alike.ensureConnected (h : Alike q m m') :
    (m'.ensureConnected s).1 = (m.ensureConnected s).1 ∧
      Alike q (m.ensureConnected s).2 (m'.ensureConnected s).2 := by
  have hconnected : m'.mConnected = m.mConnected := by
    obtain ⟨link, history, rfl, -⟩ := h
    rfl
  obtain ⟨hfirst, hm⟩ := h.connectToCore s.reachesAtOnce
  obtain ⟨hsecond, hm'⟩ := (hm.mConnected (m.connectToCore s.reachesAtOnce).1).connectToCore
    s.reachesLater
  unfold VPNServiceManager.ensureConnected
  dsimp only
  rw [hconnected, hfirst]
  split_ifs
  · exact ⟨rfl, h⟩
  · exact ⟨rfl, hm.mConnected _⟩
  · rw [hsecond]
    exact ⟨rfl, hm'.mConnected _⟩

theorem Alike.ensureConnectedLog (h : Alike q m m') :
    m'.ensureConnectedLog s = m.ensureConnectedLog s := by
  have hconnected : m'.mConnected = m.mConnected := by
    obtain ⟨link, history, rfl, -⟩ := h
    rfl
  obtain ⟨hfirst, hm⟩ := h.connectToCore s.reachesAtOnce
  unfold VPNServiceManager.ensureConnectedLog
  dsimp only
  rw [hconnected, hfirst, h.connectToCoreLog, hm.connectToCoreLog]

theorem rel_append {object object' : QJsonObject} (hobject : Same q object object')
    {a b : Option Link} (h : Option.Rel (Link.Alike q) a b) : Option.Rel (Link.Alike q)
      (a.map fun link => { link with outgoing := link.outgoing ++ [object] })
      (b.map fun link => { link with outgoing := link.outgoing ++ [object'] }) := by
  cases h with
  | none => exact .none
  | some h => exact .some ⟨h.1, List.rel_append h.2 (.cons hobject .nil)⟩

theorem Alike.sendCommand {object object' : QJsonObject} (hobject : Same q object object')
    (h : Alike q m m') : Alike q (m.sendCommand object) (m'.sendCommand object') := by
  obtain ⟨link, history, rfl, hlink⟩ := h
  exact ⟨_, _, rfl, rel_append hobject hlink⟩

theorem Alike.send {object : QJsonObject} (hobject : Same q object object) (h : Alike q m m') :
    Alike q (m.send s object) (m'.send s object) := by
  obtain ⟨hreached, hm⟩ := h.ensureConnected s
  unfold VPNServiceManager.send
  dsimp only
  rw [hreached]
  split_ifs
  · exact hm.sendCommand hobject
  · exact hm

theorem Alike.sendConnectToVPNRequest (h : Alike q m m') :
    Alike q (m.sendConnectToVPNRequest s) (m'.sendConnectToVPNRequest s) := by
  obtain ⟨link, history, rfl, hlink⟩ := h
  exact Alike.send s (.other_of_cmd (by decide)) ⟨link, _, rfl, hlink⟩

theorem Alike.sendDisconnectFromVPNRequest (h : Alike q m m') :
    Alike q (m.sendDisconnectFromVPNRequest s) (m'.sendDisconnectFromVPNRequest s) := by
  obtain ⟨link, history, rfl, hlink⟩ := h
  exact Alike.send s (.other_of_cmd (by decide)) ⟨link, _, rfl, hlink⟩

theorem Alike.runSlot (signal : Signal) (slot : Slot) (h : Alike q m m') :
    Alike q (runSlot s signal m slot) (runSlot s signal m' slot) := by
  obtain ⟨link, history, rfl, hlink⟩ := h
  have hm : Alike q m { m with link := link, history := history } := ⟨link, history, rfl, hlink⟩
  cases slot with
  | wndManagerStateChanged =>
    unfold VPNServiceManager.runSlot
    split_ifs
    · exact ⟨link, history, rfl, hlink⟩
    · exact hm
  | wndManagerShowPortDialog => exact ⟨link, history, rfl, hlink⟩
  | loginWindowBlockOnDisconnect =>
    change Alike q (if _ then _ else _) (if _ then _ else _)
    split_ifs
    · exact Alike.send s (.other_of_cmd (by decide)) hm
    · exact hm
  | _ => exact hm

theorem Alike.emit (signal : Signal) (h : Alike q m m') :
    Alike q (m.emit s signal) (m'.emit s signal) := by
  have hslots : ∀ (slots : List Slot) {m m' : VPNServiceManager}, Alike q m m' →
      Alike q (slots.foldl (VPNServiceManager.runSlot s signal) m)
        (slots.foldl (VPNServiceManager.runSlot s signal) m') := by
    intro slots
    induction slots with
    | nil => exact fun h => h
    | cons slot slots ih => exact fun h => ih (h.runSlot s signal slot)
  obtain ⟨link, history, rfl, hlink⟩ := h
  exact hslots _ ⟨link, _, rfl, hlink⟩

theorem Alike.sendCredentials {t : Surroundings} (vpnPassword : QString) (h : Alike q m m')
    (hs : s = { t with vpnPassword := vpnPassword }) :
    Alike q (m.sendCredentials s) (m'.sendCredentials { t with vpnPassword := q }) := by
  obtain ⟨hreached, hm⟩ := h.ensureConnected t
  subst hs
  change Alike q (if (m.ensureConnected t).1 then _ else _) (if (m'.ensureConnected t).1 then _ else _)
  rw [hreached]
  split_ifs
  · exact hm.sendCommand (.credentials t.vpnName vpnPassword)
  · exact hm.emit t _

theorem Alike.portDialogResult (accepted isCyclePort : Bool) (h : Alike q m m') :
    Alike q (m.portDialogResult s accepted isCyclePort)
      (m'.portDialogResult s accepted isCyclePort) := by
  obtain ⟨link, history, rfl, hlink⟩ := h
  unfold VPNServiceManager.portDialogResult
  dsimp only
  split_ifs
  · exact Alike.sendConnectToVPNRequest s ⟨link, history, rfl, hlink⟩
  · exact ⟨link, history, rfl, hlink⟩

theorem Alike.statusChanged (state : ℤ) (h : Alike q m m') :
    Alike q (m.statusChanged s state) (m'.statusChanged s state) := by
  obtain ⟨link, history, rfl, hlink⟩ := h
  unfold VPNServiceManager.statusChanged
  dsimp only
  refine Alike.emit s _ ?_
  split_ifs
  · exact ⟨link, history, rfl, hlink⟩
  · exact Alike.emit s _ ⟨link, history, rfl, hlink⟩
  · exact ⟨link, history, rfl, hlink⟩

theorem Alike.timedOut (h : Alike q m m') : Alike q (m.timedOut s) (m'.timedOut s) := by
  obtain ⟨link, history, rfl, hlink⟩ := h
  unfold VPNServiceManager.timedOut
  split_ifs
  · exact Alike.sendConnectToVPNRequest s ⟨link, history, rfl, hlink⟩
  · exact ⟨link, history, rfl, hlink⟩
  · exact Alike.emit s _ ⟨link, history, rfl, hlink⟩

theorem Alike.notified (object : QJsonObject) (h : Alike q m m') :
    Alike q (m.notified s object) (m'.notified s object) := by
  unfold VPNServiceManager.notified
  dsimp only
  split_ifs
  · exact h
  · exact h.statusChanged s _
  · exact h.emit s _
  · exact h.emit s _
  · exact h.timedOut s
  · exact h.emit s _
  · exact h

theorem Alike.requestLog (pending : Bool) (called sending : String) (unreachable : List QString)
    (object : QJsonObject) (h : Alike q m m') :
    m'.requestLog s pending called sending unreachable object =
      m.requestLog s pending called sending unreachable object := by
  rw [VPNServiceManager.requestLog, VPNServiceManager.requestLog, h.ensureConnectedLog,
    (h.ensureConnected s).1]

theorem Alike.notifiedLog (pending : Bool) (object : QJsonObject) (h : Alike q m m') :
    m'.notifiedLog s pending object = m.notifiedLog s pending object := by
  have hlog := h.requestLog s pending
  obtain ⟨link, history, rfl, -⟩ := h
  simp only [VPNServiceManager.notifiedLog, sendConnectToVPNRequestLog, hlog]

end Alike
end VPNServiceManager

namespace System
variable (host : Host)

/-- Two systems that may differ in the passwords on their way. -/
structure Alike (q : QString) (s s' : System) : Prop where
  manager : s.manager.Alike q s'.manager
  incoming : s'.incoming = s.incoming
  service : s'.service = s.service

section Alike
variable {q : QString} {s s' : System}

theorem Alike.client (h : Alike q s s') : s'.client = s.client := by
  obtain ⟨link, history, hm, hlink⟩ := h.manager
  rw [System.client, System.client, hm]
  exact VPNServiceManager.rel_client hlink

theorem Alike.serve (own : Bool) (e : Service.Event) (h : Alike q s s') :
    Alike q (s.serve host own e) (s'.serve host own e) where
  manager := h.manager
  incoming := by simp only [System.serve, h.client, h.incoming, h.service]
  service := by simp only [System.serve, h.service]

theorem Alike.cut (w : World) (arrives : ℕ) (h : Alike q s s') :
    Alike q (s.cut host w arrives) (s'.cut host w arrives) where
  manager := by
    obtain ⟨link, history, hm, -⟩ := h.manager
    exact ⟨none, history, by simp only [System.cut, hm], .none⟩
  incoming := by simp only [System.cut, h.incoming]
  service := by simp only [System.cut, h.client, h.service]

theorem Alike.accept (w : World) (h : Alike q s s') :
    Alike q (s.step host (.accept w)) (s'.step host (.accept w)) := by
  have hserve := h.serve host false ⟨w, .connectionOpened⟩
  obtain ⟨link, history, hm, hlink⟩ := h.manager
  have hlink' : s'.manager.link = link := by rw [hm]
  rw [← hlink'] at hlink
  rcases hs : s.manager.link with _ | ⟨_ | client, outgoing⟩ <;>
    rcases hs' : s'.manager.link with _ | ⟨_ | client', outgoing'⟩ <;>
      simp only [System.step, hs, hs'] <;> rw [hs, hs'] at hlink
  · exact h
  · cases hlink
  · cases hlink
  · cases hlink
  · refine ⟨⟨_, history, by rw [hm], ?_⟩, hserve.incoming, hserve.service⟩
    cases hlink with
    | some hlink => exact .some ⟨by rw [h.service], hlink.2⟩
  · cases hlink with
    | some hlink => cases hlink.1
  · cases hlink
  · cases hlink with
    | some hlink => cases hlink.1
  · exact h

/-- A command that is no secret is executed alike. -/
theorem Alike.execute {client : ℕ} {object object' : QJsonObject}
    {outgoing outgoing' : List QJsonObject} (h : Alike q s s') (own : Bool) (e : Service.Event)
    (hs : s.manager.link = some ⟨some client, object :: outgoing⟩)
    (hs' : s'.manager.link = some ⟨some client, object' :: outgoing'⟩) :
    Alike q
      { s.serve host own e with
        manager := { s.manager with link := some ⟨some client, outgoing⟩ } }
      { s'.serve host own e with
        manager := { s'.manager with link := some ⟨some client, outgoing'⟩ } } := by
  have hserve := h.serve host own e
  obtain ⟨link, history, hm, hlink⟩ := h.manager
  refine ⟨⟨some ⟨some client, outgoing'⟩, history, by rw [hm], ?_⟩, hserve.incoming, hserve.service⟩
  have hlink' : s'.manager.link = link := by rw [hm]
  rw [← hlink', hs, hs'] at hlink
  cases hlink with
  | some hlink =>
    cases hlink.2 with
    | cons _ hrest => exact .some ⟨rfl, hrest⟩

theorem Alike.step {a : Action} (ha : a.stands = true) (h : Alike q s s') :
    Alike q (s.step host a) (s'.step host a) := by
  cases a with
  | connect t => exact ⟨h.manager.sendConnectToVPNRequest t, h.incoming, h.service⟩
  | disconnect t => exact ⟨h.manager.sendDisconnectFromVPNRequest t, h.incoming, h.service⟩
  | credentials t => cases ha
  | portDialog t accepted isCyclePort =>
    have hdialog : s'.manager.portDialog = s.manager.portDialog := by
      obtain ⟨link, history, hm, -⟩ := h.manager
      rw [hm]
    simp only [System.step, hdialog]
    split_ifs
    · exact ⟨h.manager.portDialogResult t accepted isCyclePort, h.incoming, h.service⟩
    · exact h
  | setBlockOnDisconnect v =>
    obtain ⟨link, history, hm, hlink⟩ := h.manager
    exact ⟨⟨link, history, by simp only [System.step, hm], hlink⟩, h.incoming, h.service⟩
  | setLoggedIn v =>
    obtain ⟨link, history, hm, hlink⟩ := h.manager
    exact ⟨⟨link, history, by simp only [System.step, hm], hlink⟩, h.incoming, h.service⟩
  | handle t =>
    simp only [System.step, h.incoming]
    split
    · exact ⟨h.manager.notified t _, rfl, h.service⟩
    · exact h
  | garble => exact ⟨h.manager, congrArg List.tail h.incoming, h.service⟩
  | accept w => exact h.accept host w
  | execute w line parses => cases ha
  | service e =>
    simp only [System.step, h.client]
    split_ifs
    · exact h
    · exact h.serve host false e
  | broken w arrives => exact h.cut host w arrives
  | restart u arrives =>
    obtain ⟨link, history, hm, -⟩ := h.manager
    exact ⟨⟨none, history, by simp only [System.step, hm], .none⟩,
      congrArg (List.take arrives) h.incoming, rfl⟩
  | socketDisconnected arrives =>
    obtain ⟨link, history, hm, hlink⟩ := h.manager
    have hsome : s'.manager.link.isNone = s.manager.link.isNone := by
      rw [← Option.not_isSome, ← Option.not_isSome, hm]
      exact congrArg _ (VPNServiceManager.rel_isSome hlink)
    simp only [System.step, hsome]
    split_ifs
    · exact ⟨⟨link, history, by simp only [VPNServiceManager.socketDisconnected, hm], hlink⟩,
        congrArg (List.take arrives) h.incoming, h.service⟩
    · exact h

theorem Alike.log (pending : Bool) (a : Action) (h : Alike q s s') :
    s'.log pending a = s.log pending a := by
  have hrequest : ∀ t called sending unreachable object,
      s'.manager.requestLog t pending called sending unreachable object =
        s.manager.requestLog t pending called sending unreachable object :=
    fun t called sending unreachable object =>
      h.manager.requestLog t pending called sending unreachable object
  have hdialog : s'.manager.portDialog = s.manager.portDialog := by
    obtain ⟨link, history, hm, -⟩ := h.manager
    rw [hm]
  cases a with
  | connect t => exact hrequest t _ _ _ _
  | disconnect t => exact hrequest t _ _ _ _
  | portDialog t accepted isCyclePort =>
    simp only [System.log, hdialog]
    split_ifs
    · exact hrequest t _ _ _ _
    · rfl
  | handle t =>
    simp only [System.log, h.incoming]
    split
    · exact h.manager.notifiedLog t pending _
    · rfl
  | _ => rfl

/-- A command of a connection that is gone is executed by nobody. -/
theorem serve_closed {own : Bool} {w : World} {client : ℕ} {line : QByteArray}
    {jObj : QJsonObject} (s : System)
    (h : ¬s.service.connections.any (·.id == client) = true) :
    s.serve host own ⟨w, .command client line jObj⟩ =
      { s with service := { s.service with asked := 0 } } := by
  have hstep : s.service.step host ⟨w, .command client line jObj⟩ = { s.service with asked := 0 } := by
    rw [OpenvpnManager.step, OpenvpnManager.deliver, if_neg h]
  have hsent : ∀ c, (sentTo c { s.service with asked := 0 }).drop (sentTo c s.service).length = [] :=
    fun c => List.drop_length
  unfold System.serve
  rw [hstep]
  cases hc : s.client with
  | none => simp
  | some c => simp [hsent]

end Alike
end System

/-- Some password makes a difference to a text that changes with the password. -/
theorem exists_password_ne {f : QString → QString} (h : f [] ≠ f ['a']) (vpnPassword : QString) :
    ∃ q, f q ≠ f vpnPassword := by
  by_contra hnone
  simp only [not_exists, not_not] at hnone
  exact h ((hnone []).trans (hnone ['a']).symm)

/-- The text of the command with the credentials, around the password. -/
theorem render_credentialsObject (vpnName : QString) : ∃ before after : QString,
    ∀ vpnPassword, Json.render Json.decimal
      (.object (credentialsObject vpnName vpnPassword).toMembers) =
        before ++ '"' :: (Json.escape vpnPassword ++ '"' :: after) := by
  have hmembers : ∀ vpnPassword, (credentialsObject vpnName vpnPassword).toMembers =
      [("cmd".toList, .number cmdSetCredentials), ("vpnpassword".toList, .string vpnPassword),
        ("vpnusername".toList, .string vpnName)] := fun _ => rfl
  refine ⟨'{' :: "\"cmd\":4,\"vpnpassword\":".toList,
    ",\"vpnusername\":".toList ++ (Json.quoted vpnName ++ ['}']), fun vpnPassword => ?_⟩
  rw [hmembers]
  simp only [Json.render, Json.renderMembers, Json.quoted, List.append_assoc, List.cons_append,
    List.nil_append, List.drop_succ_cons, List.drop_zero]
  rfl

theorem strJson_ne (vpnName vpnPassword : QString) : ∃ q,
    Wire.strJson (credentialsObject vpnName vpnPassword) ≠
      Wire.strJson (credentialsObject vpnName q) := by
  obtain ⟨before, after, hrender⟩ := render_credentialsObject vpnName
  have htext : ∀ q, Wire.strJson (credentialsObject vpnName q) =
      before ++ '"' :: (Json.escape q ++ '"' :: after) :=
    fun q => (Wire.ofBytes_render _ _).trans (hrender q)
  have hdiffer : Wire.strJson (credentialsObject vpnName []) ≠
      Wire.strJson (credentialsObject vpnName ['a']) := by
    intro h
    have hlength := congrArg List.length ((htext []).symm.trans (h.trans (htext ['a'])))
    simp [Json.escape, Json.escapeChar] at hlength
  obtain ⟨q, hq⟩ := exists_password_ne (f := fun q => Wire.strJson (credentialsObject vpnName q))
    hdiffer vpnPassword
  exact ⟨q, hq.symm⟩

theorem commandRead_ne (vpnName vpnPassword : QString) : ∃ q,
    OpenvpnManager.commandRead (Wire.command (credentialsObject vpnName vpnPassword)) ≠
      OpenvpnManager.commandRead (Wire.command (credentialsObject vpnName q)) := by
  obtain ⟨before, after, hrender⟩ := render_credentialsObject vpnName
  have hquote : QString.isAscii '"' = true := by decide
  have htext : ∀ q, QString.ofBytes (Wire.command (credentialsObject vpnName q)) =
      QString.garbled before ++ '"' :: (QString.garbled (Json.escape q) ++
        '"' :: QString.garbled after) := by
    intro q
    rw [Wire.ofBytes_command, hrender, QString.garbled_append hquote, QString.garbled_append hquote]
  have hnil : QString.garbled (Json.escape []) = [] := by decide
  have hletter : QString.garbled (Json.escape ['a']) = ['a'] := by decide
  have hdiffer : QString.ofBytes (Wire.command (credentialsObject vpnName [])) ≠
      QString.ofBytes (Wire.command (credentialsObject vpnName ['a'])) := by
    intro h
    have hlength := congrArg List.length ((htext []).symm.trans (h.trans (htext ['a'])))
    simp [hnil, hletter] at hlength
  obtain ⟨q, hq⟩ := exists_password_ne (f := fun q =>
    QString.ofBytes (Wire.command (credentialsObject vpnName q))) hdiffer vpnPassword
  exact ⟨q, fun h => hq (List.append_cancel_left h).symm⟩

namespace DesktopAction

/-- The action with another password. -/
def withPassword (q : QString) : DesktopAction → DesktopAction
  | .account (.login name _) s pending => .account (.login name q) s pending
  | a => a

theorem withPassword_withPassword (q q' : QString) (a : DesktopAction) :
    (a.withPassword q').withPassword q = a.withPassword q := by
  cases a with
  | account e s pending => cases e <;> rfl
  | _ => rfl

end DesktopAction

namespace Desktop
variable (host : Host)

/-- The command of this client that the service reads next. -/
def reads (d : Desktop) : Option QJsonObject :=
  match d.system.manager.link with
  | some ⟨some client, object :: _⟩ =>
    if d.system.service.connections.any (·.id == client) then some object else none
  | _ => none

/-- The credentials are sent while the client logs, or read by the service. -/
def Leaks (d : Desktop) : DesktopAction → Prop
  | .account (.login _ _) s _ => d.mEnabled = true ∧ (d.system.manager.ensureConnected s).1 = true
  | .execute _ => (d.reads.bind credentialsOf).isSome = true
  | _ => False

/-- Two desktops that may differ in the passwords they hold and have sent. -/
structure Alike (q : QString) (d d' : Desktop) : Prop where
  system : d.system.Alike q d'.system
  mEnabled : d'.mEnabled = d.mEnabled
  log : d'.log = d.log
  formerLog : d'.formerLog = d.formerLog

section Alike
variable {q : QString} {d d' : Desktop}

/-- Lines that are not written need not be the same. -/
theorem Alike.write {lines lines' : List QString} (h : Alike q d d')
    (hlines : d.mEnabled = true → lines' = lines) :
    Alike q (d.write lines) (d'.write lines') := by
  unfold Desktop.write
  rw [h.mEnabled]
  split_ifs with henabled
  · rw [hlines henabled]
    exact ⟨h.system, rfl, congrArg (lines.reverse ++ ·) h.log, h.formerLog⟩
  · exact h

theorem Alike.logs_eq (h : Alike q d d') (k : LogFile) : d'.logs k = d.logs k := by
  cases k with
  | client => exact h.log
  | service => simp only [logs, h.system.service, h.formerLog]

theorem Alike.link (h : Alike q d d') :
    Option.Rel (Link.Alike q) d.system.manager.link d'.system.manager.link := by
  obtain ⟨link, history, hm, hlink⟩ := h.system.manager
  rw [hm]
  exact hlink

/-- What the two services read next. -/
theorem Alike.reads (h : Alike q d d') : Option.Rel (Same q) d.reads d'.reads := by
  unfold Desktop.reads
  rw [h.system.service]
  rcases VPNServiceManager.rel_cases h.link with
    ⟨client, object, object', outgoing, outgoing', hs, hs', hsame⟩ | ⟨hs, hs'⟩
  · rw [hs, hs']
    dsimp only
    split_ifs
    · exact .some hsame
    · exact .none
  · split
    · exact absurd ‹_› (hs _ _ _)
    · exact .none

theorem isSome_bind_credentialsOf {a b : Option QJsonObject} (h : Option.Rel (Same q) a b) :
    (b.bind credentialsOf).isSome = (a.bind credentialsOf).isSome := by
  cases h with
  | none => rfl
  | some hsame => cases hsame <;> rfl

theorem Alike.leaks_iff (h : Alike q d d') (a : DesktopAction) :
    d'.Leaks (a.withPassword q) ↔ d.Leaks a := by
  cases a with
  | account e s pending =>
    cases e with
    | login name password =>
      change d'.mEnabled = true ∧ _ ↔ d.mEnabled = true ∧ _
      rw [h.mEnabled, (h.system.manager.ensureConnected s).1]
    | _ => exact Iff.rfl
  | execute w => exact iff_of_eq (congrArg (· = true) (isSome_bind_credentialsOf h.reads))
  | _ => exact Iff.rfl

/-- A login that cannot be told by the logs. -/
theorem Alike.login (name vpnPassword : QString) (s : Surroundings) (pending : Bool)
    (h : Alike q d d') (hleaks : ¬d.Leaks (.account (.login name vpnPassword) s pending)) :
    Alike q (d.step host (.account (.login name vpnPassword) s pending))
      (d'.step host (.account (.login name q) s pending)) := by
  refine Alike.write ⟨?_, h.mEnabled, h.log, h.formerLog⟩ fun henabled => ?_
  · exact ⟨h.system.manager.sendCredentials (t := { s with vpnName := name }) _ vpnPassword rfl,
      h.system.incoming, h.system.service⟩
  · have hunreached : (d.system.manager.ensureConnected s).1 = false :=
      Bool.eq_false_of_not_eq_true fun hreached => hleaks ⟨henabled, hreached⟩
    have hlog : ∀ (m : VPNServiceManager) (p : QString), (m.ensureConnected s).1 = false →
        m.sendCredentialsLog { s with vpnName := name, vpnPassword := p } pending =
          "sendCredentials called".toList :: m.ensureConnectedLog s ++ [] := by
      intro m p hm
      change _ ++ (if (m.ensureConnected s).1 = true then _ else _) = _
      rw [hm]
      rfl
    have hunreached' := (h.system.manager.ensureConnected s).1.trans hunreached
    refine congrArg (· ++ _) ?_
    refine (hlog _ q hunreached').trans (Eq.trans ?_ (hlog _ vpnPassword hunreached).symm)
    rw [h.system.manager.ensureConnectedLog]

theorem step_execute_of_ne (w : World)
    (h : ∀ client object outgoing, d.system.manager.link ≠ some ⟨some client, object :: outgoing⟩) :
    d.step host (.execute w) = d := by
  rw [Desktop.step]
  split
  · exact absurd ‹_› (h _ _ _)
  · rfl

/-- A command that is no secret, or that nobody reads. -/
theorem Alike.execute (w : World) (h : Alike q d d') (hleaks : ¬d.Leaks (.execute w)) :
    Alike q (d.step host (.execute w)) (d'.step host (.execute w)) := by
  rcases VPNServiceManager.rel_cases h.link with
    ⟨client, object, object', outgoing, outgoing', hs, hs', hsame⟩ | ⟨hs, hs'⟩
  · rw [step_execute host d w hs, step_execute host d' w hs']
    refine ⟨?_, h.mEnabled, h.log, h.formerLog⟩
    cases hsame with
    | other => exact h.system.execute host _ _ hs hs'
    | credentials vpnName vpnPassword =>
      have hclosed : ¬d.system.service.connections.any (·.id == client) = true := by
        intro hopen
        refine hleaks ?_
        rw [Leaks, Desktop.reads, hs]
        dsimp only
        rw [if_pos hopen]
        rfl
      have hclosed' : ¬d'.system.service.connections.any (·.id == client) = true := by
        rwa [h.system.service]
      have hexecuted := h.system.execute host false ⟨w, .command client [] []⟩ hs hs'
      rw [System.serve_closed host _ hclosed, System.serve_closed host _ hclosed'] at hexecuted ⊢
      exact hexecuted
  · rw [step_execute_of_ne host w hs, step_execute_of_ne host w hs']
    exact h

theorem Alike.step {a : DesktopAction} (h : Alike q d d') (hleaks : ¬d.Leaks a) :
    Alike q (d.step host a) (d'.step host (a.withPassword q)) := by
  cases a with
  | account e s pending =>
    cases e with
    | login name password => exact h.login host name password s pending hleaks
    | _ => exact ⟨h.system, h.mEnabled, h.log, h.formerLog⟩
  | system b pending hb =>
    refine Alike.write ⟨h.system.step host hb, h.mEnabled, h.log, ?_⟩
      fun _ => h.system.log pending b
    cases b with
    | restart u arrives => simp only [ended, h.system.service, h.formerLog]
    | _ => exact h.formerLog
  | execute w => exact h.execute host w hleaks
  | readyRead =>
    refine ⟨⟨h.system.manager, h.system.incoming, ?_⟩, h.mEnabled, h.log, h.formerLog⟩
    exact congrArg (OpenvpnManager.serviceLog · _) h.system.service
  | setLogging value => exact ⟨h.system, rfl, h.log, h.formerLog⟩
  | logt line => exact h.write fun _ => rfl

end Alike

theorem suffix_append {ο : Type*} {x y : List ο} (h : x <:+ y) (z : List ο) : x ++ z <:+ y ++ z := by
  obtain ⟨t, rfl⟩ := h
  exact ⟨t, by rw [List.append_assoc]⟩

theorem write_log (lines : List QString) {d : Desktop} {older : List QString}
    (h : older <:+ d.log) : older <:+ (d.write lines).log := by
  unfold write
  split_ifs
  · exact h.trans (List.suffix_append _ _)
  · exact h

theorem step_log (d : Desktop) (a : DesktopAction) : d.log <:+ (d.step host a).log := by
  cases a with
  | account e s pending =>
    cases e with
    | login name password => exact write_log _ List.suffix_rfl
    | _ => exact List.suffix_rfl
  | system b pending hb => exact write_log _ List.suffix_rfl
  | execute w =>
    rw [step]
    split <;> exact List.suffix_rfl
  | readyRead => exact List.suffix_rfl
  | setLogging value => exact List.suffix_rfl
  | logt line => exact write_log _ List.suffix_rfl

theorem step_formerLog {d : Desktop} {a : DesktopAction} (h : a.restarts = false) :
    (d.step host a).formerLog = d.formerLog := by
  cases a with
  | account e s pending =>
    cases e with
    | login name password => exact write_formerLog _ _
    | _ => rfl
  | system b pending hb =>
    rw [step, write_formerLog]
    cases b with
    | restart u arrives => cases h
    | _ => rfl
  | execute w =>
    rw [step]
    split <;> rfl
  | readyRead => rfl
  | setLogging value => rfl
  | logt line => exact write_formerLog _ _

theorem step_serviceLog (d : Desktop) (a : DesktopAction) :
    d.logs .service <:+ (d.step host a).logs .service := by
  by_cases hrestarts : a.restarts = true
  · cases a with
    | system b pending hb =>
      cases b with
      | restart u arrives =>
        simp only [logs, step, write_system, write_formerLog]
        exact List.suffix_rfl
      | _ => cases hrestarts
    | _ => cases hrestarts
  · have hkept := Bool.eq_false_of_not_eq_true hrestarts
    rw [logs, logs, step_formerLog host hkept]
    refine suffix_append ?_ _
    by_cases hread : a = .readyRead
    · subst hread
      exact List.suffix_cons _ _
    · rw [d.step_service host hkept hread]
      cases d.event a with
      | none => exact List.suffix_rfl
      | some e => exact OpenvpnManager.step_log host _ e

/-- A login that reaches the service puts the text of the command into the log. -/
theorem login_log {d : Desktop} {s : Surroundings} (henabled : d.mEnabled = true)
    (hreached : (d.system.manager.ensureConnected s).1 = true) (name vpnPassword : QString)
    (pending : Bool) :
    ((if pending then "Pending sending command ".toList else "Sent command ".toList) ++
        Wire.strJson (credentialsObject name vpnPassword)) ::
      "Sending command 'cmdSetCredentials'".toList ::
        (("sendCredentials called".toList :: d.system.manager.ensureConnectedLog s).reverse ++ d.log)
      <:+ (d.step host (.account (.login name vpnPassword) s pending)).log := by
  have hlog : d.system.manager.sendCredentialsLog
      { s with vpnName := name, vpnPassword := vpnPassword } pending =
        ("sendCredentials called".toList :: d.system.manager.ensureConnectedLog s) ++
          ["Sending command 'cmdSetCredentials'".toList,
            (if pending then "Pending sending command ".toList else "Sent command ".toList) ++
              Wire.strJson (credentialsObject name vpnPassword)] := by
    change _ ++ (if (d.system.manager.ensureConnected s).1 = true then _ else _) = _
    rw [hreached]
    rfl
  have hstep : (d.step host (.account (.login name vpnPassword) s pending)).log =
      (d.system.manager.sendCredentialsLog
        { s with vpnName := name, vpnPassword := vpnPassword } pending ++
          ["request url is https://celo.net/celo-ovpn-servers.xml".toList]).reverse ++ d.log := by
    simp only [step, sendCredentials, write, henabled, if_true]
    rfl
  rw [hstep, hlog]
  simp only [List.reverse_append, List.reverse_cons, List.reverse_nil, List.nil_append,
    List.append_assoc, List.cons_append]
  exact List.suffix_cons _ _

/-- A command that is executed is in the log of the service. -/
theorem execute_log {d : Desktop} {client : ℕ} {object : QJsonObject}
    {outgoing : List QJsonObject} (w : World)
    (hlink : d.system.manager.link = some ⟨some client, object :: outgoing⟩)
    (hopen : d.system.service.connections.any (·.id == client) = true) :
    OpenvpnManager.commandRead (Wire.command object) :: d.logs .service <:+
      (d.step host (.execute w)).logs .service := by
  rw [step_execute host d w hlink]
  exact suffix_append (OpenvpnManager.step_command_log host w _ hopen _ _) _

theorem exists_of_leaks {d : Desktop} {w : World} (hleaks : d.Leaks (.execute w)) :
    ∃ client object outgoing, d.system.manager.link = some ⟨some client, object :: outgoing⟩ ∧
      d.system.service.connections.any (·.id == client) = true ∧
        (credentialsOf object).isSome = true := by
  change (d.reads.bind credentialsOf).isSome = true at hleaks
  unfold reads at hleaks
  split at hleaks
  · rename_i client object outgoing hlink
    by_cases hopen : d.system.service.connections.any (·.id == client) = true
    · rw [if_pos hopen] at hleaks
      exact ⟨client, object, outgoing, hlink, hopen, hleaks⟩
    · rw [if_neg hopen] at hleaks
      cases hleaks
  · cases hleaks

/-- The other desktop is about to execute the same credentials with its password. -/
theorem Alike.exists_credentials {q : QString} {d d' : Desktop} (h : Alike q d d') {client : ℕ}
    {object : QJsonObject} {outgoing : List QJsonObject}
    (hlink : d.system.manager.link = some ⟨some client, object :: outgoing⟩)
    (hobject : (credentialsOf object).isSome = true) :
    ∃ vpnName vpnPassword outgoing', object = credentialsObject vpnName vpnPassword ∧
      d'.system.manager.link = some ⟨some client, credentialsObject vpnName q :: outgoing'⟩ := by
  rcases VPNServiceManager.rel_cases h.link with
    ⟨client', object', object'', outgoing', outgoing'', hs, hs', hsame⟩ | ⟨hs, -⟩
  · rw [hlink] at hs
    simp only [Option.some.injEq, Link.mk.injEq, List.cons.injEq] at hs
    obtain ⟨rfl, rfl, rfl⟩ := hs
    obtain ⟨vpnName, vpnPassword, rfl, rfl⟩ := hsame.exists_credentials hobject
    exact ⟨vpnName, vpnPassword, outgoing'', rfl, hs'⟩
  · exact absurd hlink (hs _ _ _)

/-- What leaks makes a difference for some password. -/
theorem differ_of_leaks {d : Desktop} {a : DesktopAction} (hleaks : d.Leaks a)
    (halike : ∀ q, ∃ d', Alike q d d') : ∃ q k, ∀ d', Alike q d d' →
      Differ ((d.step host a).logs k) ((d'.step host (a.withPassword q)).logs k) := by
  cases a with
  | account e s pending =>
    cases e with
    | login name password =>
      obtain ⟨henabled, hreached⟩ := hleaks
      obtain ⟨q, hq⟩ := strJson_ne name password
      refine ⟨q, .client, fun d' h => ?_⟩
      have hline := login_log host henabled hreached name password pending
      have hline' := login_log host (h.mEnabled.trans henabled)
        ((h.system.manager.ensureConnected s).1.trans hreached) name q pending
      rw [h.system.manager.ensureConnectedLog, h.log] at hline'
      exact (differ_cons (fun heq => hq (List.append_cancel_left heq)) _).grow hline hline'
    | _ => exact absurd hleaks id
  | execute w =>
    obtain ⟨client, object, outgoing, hlink, hopen, hobject⟩ := exists_of_leaks hleaks
    obtain ⟨d₀, h₀⟩ := halike []
    obtain ⟨vpnName, vpnPassword, -, rfl, -⟩ := h₀.exists_credentials hlink hobject
    obtain ⟨q, hq⟩ := commandRead_ne vpnName vpnPassword
    refine ⟨q, .service, fun d' h => ?_⟩
    obtain ⟨vpnName', vpnPassword', outgoing', hsame, hlink'⟩ := h.exists_credentials hlink hobject
    have hname : vpnName = vpnName' := by
      simp only [credentialsObject, List.cons.injEq, Prod.mk.injEq, QJsonValue.string.injEq] at hsame
      exact hsame.2.1.2
    subst hname
    have hline := execute_log host w hlink hopen
    have hline' := execute_log host w hlink' (by rw [h.system.service]; exact hopen)
    rw [h.logs_eq .service] at hline'
    exact (differ_cons hq _).grow hline hline'
  | _ => exact absurd hleaks id

/-- Two runs that differ in passwords, step by step. -/
def unwinding : Unwinding (step host) (fun k d => d.logs k) DesktopAction.withPassword Leaks where
  Alike := Alike
  mask_mask := DesktopAction.withPassword_withPassword
  log_eq := Alike.logs_eq
  leaks_iff := Alike.leaks_iff
  alike_step := Alike.step host
  log_step k d a := match k with
    | .client => step_log host d a
    | .service => step_serviceLog host d a
  leaks := differ_of_leaks host

/-- Runs that differ in passwords only write the same lines to both logs exactly when
the client sends no credentials while it logs and the service reads none. -/
theorem logs_independent_iff (u : Service.Indeterminate) (v : System.Unset)
    (mPingsLoaded mEnabled : Bool) (as : List DesktopAction) :
    (∀ as', List.Forall₂ (fun a a' => ∃ q, a' = a.withPassword q) as as' → ∀ k,
      (run (step host) (initial u v mPingsLoaded mEnabled) as').logs k =
        (run (step host) (initial u v mPingsLoaded mEnabled) as).logs k) ↔
    Meets (step host) (fun d a => ¬d.Leaks a) (initial u v mPingsLoaded mEnabled) as := by
  have : Nonempty QString := ⟨[]⟩
  refine (unwinding host).logs_eq_iff (fun q => ?_) as
  exact ⟨⟨⟨none, [], rfl, .none⟩, rfl, rfl⟩, rfl, rfl, rfl⟩

/-- A login whose credentials reach the service. -/
def loggingIn (vpnPassword : QString) : List DesktopAction :=
  [.account (.login "user".toList vpnPassword)
      (.server 7 "template 7") false,
    .system (.accept (World.quiet 500)) false, .execute (World.quiet 1000)]

/-- The service writes the password into its log. -/
theorem password_logged : ¬ ∀ (host : Host) (u : Service.Indeterminate) (v : System.Unset)
    (mPingsLoaded mEnabled : Bool) (as as' : List DesktopAction),
    List.Forall₂ (fun a a' => ∃ q, a' = a.withPassword q) as as' → ∀ k,
      (run (step host) (initial u v mPingsLoaded mEnabled) as').logs k =
        (run (step host) (initial u v mPingsLoaded mEnabled) as).logs k := by
  intro h
  have hsame := h (.on .linux) .zero .blocking false false (loggingIn "secret".toList)
    (loggingIn "other".toList)
    (.cons ⟨"other".toList, rfl⟩ (.cons ⟨[], rfl⟩ (.cons ⟨[], rfl⟩ .nil))) .service
  exact absurd hsame (by decide +kernel)

end Desktop
end CeloVpn.Client
