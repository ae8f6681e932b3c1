import CeloVpn.Service.Relays
import Mathlib.Data.List.Nodup

/-!
# Broadcasts

Each client reads every signal the manager emits while its connection is open, each once
and in order, whatever the other clients do, and the state told last whenever it asks.
-/
namespace CeloVpn.Service
open Runs

namespace Callback

/-- The callback treats all connections alike. -/
def broadcasts : Callback → Bool
  | .connectionOpened => false
  | .connectionClosed _ => false
  | .command _ _ jObj => (jObj.value "cmd".toList).toInt != cmdGetStatus
  | _ => true

/-- The client asks for the state. -/
def asksStatus (client : ℕ) : Callback → Bool
  | .command client' _ jObj =>
    client' == client && (jObj.value "cmd".toList).toInt == cmdGetStatus
  | _ => false

/-- The client's connection goes. -/
def closes (client : ℕ) : Callback → Bool
  | .connectionClosed client' => client' == client
  | _ => false

/-- The connections that a callback opens, the number of the next one given. -/
def opened (next : ℕ) : Callback → List QVPNClientConnection
  | .connectionOpened => [⟨next, .disconnected, []⟩]
  | _ => []

end Callback

namespace OpenvpnManager
open QVPNClientConnection (receiveAll)
variable (host : Host) (w : World) (m : OpenvpnManager)

theorem tells_deliver {callback : Callback} (h : callback.broadcasts = true) :
    Tells m.credentials m.history m.connections m.nextConnection (m.deliver host w callback) := by
  have hm := Relays.refl m
  cases callback with
  | connectionOpened => cases h
  | connectionClosed client => cases h
  | command client line jObj =>
    exact .ite (hm.command host w client line (by simpa [Callback.broadcasts] using h)) hm.2
  | templateError request =>
    rw [deliver]
    split
    · exact (Relays.getTemplateError host w (m := m.failRequest request) _ hm).2
    · exact hm.2
  | templateFinished request bytes =>
    rw [deliver]
    split
    · exact (Relays.getTemplateFinished host w (m := m.takeRequest request) _ bytes hm).2
    · exact hm.2
  | reconnectTimeout =>
    exact .ite (Relays.reconnectTimeout host w (m := m.takeReconnectTimer) hm).2 hm.2
  | stateTimer => exact .ite (hm.checkState host w).2 hm.2
  | logFileChanged content => exact .ite (hm.openvpnLogfileChanged host w content).2 hm.2
  | socketReadyRead bytes =>
    rw [deliver]
    split
    · exact (Relays.socketReadyRead host w (m := { m with mSocket := some _ }) _ hm).2
    · exact hm.2
  | socketError error => exact .ite (hm.socketError error).2 hm.2
  | socketConnected =>
    rw [deliver]
    split <;> exact hm.2
  | socketStatus isOpen isValid connected => exact hm.2
  | processError error => exact .ite (hm.processError error).2 hm.2
  | processDied wasReleased exitCode crashed =>
    refine .ite (.ite ?_ hm.2) (.ite ?_ hm.2)
    · exact (Relays.processDied host w (m := { m with released := m.released - 1 }) _ _ hm).2
    · exact (Relays.processDied host w (m := { m with mProcess := some .notRunning }) _ _ hm).2

/-- What was emitted, and what the connections were told. -/
theorem Tells.relayed {c : Credentials} {next : ℕ} {m' : OpenvpnManager}
    (h : Tells c m.history m.connections next m') : ∃ signals, m'.spoken = signals ++ m.spoken ∧
      m'.connections = m.connections.map (receiveAll signals) := by
  obtain ⟨-, acts, -, hacts, hconnections, -⟩ := h
  refine ⟨acts.filterMap Act.signal, ?_, hconnections⟩
  rw [spoken, hacts, List.filterMap_append]
  rfl

/-- The signals an event emits, the newest one first. -/
def said (e : Event) : List Signal :=
  (m.step host e).spoken.take ((m.step host e).spoken.length - m.spoken.length)

/-- What an event makes a connection write: every signal, or the state its client asks for. -/
def hears (e : Event) (c : QVPNClientConnection) : List Signal :=
  if e.callback.asksStatus c.id then [.stateChanged c.m_state] else m.said host e

theorem said_of_spoken {signals : List Signal} {e : Event}
    (h : (m.step host e).spoken = signals ++ m.spoken) : m.said host e = signals := by
  rw [said, h, List.length_append, Nat.add_sub_cancel, List.take_left]

/-- A callback that is no broadcast emits nothing. -/
theorem spoken_deliver {callback : Callback} (h : callback.broadcasts = false) :
    (m.deliver host w callback).spoken = m.spoken := by
  cases callback with
  | connectionOpened => rfl
  | connectionClosed client => rfl
  | command client line jObj =>
    have hcmd : (jObj.value "cmd".toList).toInt = cmdGetStatus := by
      simpa [Callback.broadcasts] using h
    rw [deliver, command, hcmd]
    split <;> rfl
  | _ => cases h

/-- A status request is answered on the connection that made it. -/
theorem command_connections (client : ℕ) (line : QByteArray) {jObj : QJsonObject}
    (hcmd : (jObj.value "cmd".toList).toInt = cmdGetStatus) :
    (m.command host w client line jObj).connections = m.connections.map fun c =>
      if c.id = client then c.vpnStateChanged c.m_state else c := by
  rw [command, hcmd]
  rfl

/-- Whatever an event is, a connection that stays is told what it makes it write. -/
theorem step_connections (e : Event) : (m.step host e).connections =
    ((m.connections.filter fun c => !e.callback.closes c.id).map fun c =>
      c.receiveAll (m.hears host e c)) ++ e.callback.opened m.nextConnection := by
  obtain ⟨w, callback⟩ := e
  have hstay : (∀ client, callback.closes client = false) →
      m.connections.filter (fun c => !callback.closes c.id) = m.connections := fun hcloses =>
    List.filter_eq_self.mpr fun c _ => by rw [hcloses c.id]; rfl
  by_cases hb : callback.broadcasts = true
  · obtain ⟨signals, hspoken, hconnections⟩ :=
      (tells_deliver host w { m with asked := 0 } hb).relayed
    have hsaid : m.said host ⟨w, callback⟩ = signals := said_of_spoken host m hspoken
    have hsilent : ∀ client, callback.closes client = false ∧ callback.asksStatus client = false ∧
        callback.opened m.nextConnection = [] := by
      intro client
      cases callback with
      | connectionOpened => cases hb
      | connectionClosed client => cases hb
      | command client' line jObj =>
        have hcmd : ((jObj.value "cmd".toList).toInt == cmdGetStatus) = false := by
          simpa only [Callback.broadcasts, bne, Bool.not_eq_true'] using hb
        exact ⟨rfl, by rw [Callback.asksStatus, hcmd, Bool.and_false], rfl⟩
      | _ => exact ⟨rfl, rfl, rfl⟩
    rw [hstay fun client => (hsilent client).1, (hsilent 0).2.2, List.append_nil]
    refine hconnections.trans (List.map_congr_left fun c _ => ?_)
    rw [hears, (hsilent c.id).2.1, hsaid]
    rfl
  · have hsaid : m.said host ⟨w, callback⟩ = [] :=
      said_of_spoken host m (spoken_deliver host w { m with asked := 0 }
        (Bool.eq_false_of_not_eq_true hb))
    have hsilent : ∀ cs : List QVPNClientConnection,
        (∀ c ∈ cs, callback.asksStatus c.id = false) →
        cs.map (fun c => c.receiveAll (m.hears host ⟨w, callback⟩ c)) = cs := by
      intro cs hcs
      refine (List.map_congr_left fun c hc => ?_).trans (List.map_id cs)
      rw [hears, hcs c hc, hsaid]
      rfl
    cases callback with
    | connectionOpened =>
      rw [hstay fun _ => rfl, hsilent _ fun _ _ => rfl]
      rfl
    | connectionClosed client =>
      rw [hsilent _ fun _ _ => rfl]
      refine (List.filter_congr fun c _ => ?_).trans (List.append_nil _).symm
      rw [Callback.closes, BEq.comm]
      rfl
    | command client line jObj =>
      have hcmd : (jObj.value "cmd".toList).toInt = cmdGetStatus := by
        simpa [Callback.broadcasts] using hb
      have hanswered : m.connections.map (fun c =>
          c.receiveAll (m.hears host ⟨w, .command client line jObj⟩ c)) =
            m.connections.map fun c =>
              if c.id = client then c.vpnStateChanged c.m_state else c := by
        refine List.map_congr_left fun c _ => ?_
        rw [hears, Callback.asksStatus, hcmd, hsaid, beq_self_eq_true, Bool.and_true]
        by_cases hid : c.id = client
        · rw [if_pos (beq_iff_eq.mpr hid.symm), if_pos hid]
          rfl
        · rw [if_neg (by simpa using Ne.symm hid), if_neg hid]
          rfl
      rw [hstay fun _ => rfl]
      refine Eq.trans ?_ (List.append_nil _).symm
      rw [hanswered]
      change (if _ then command host w client line jObj _ else _).connections = _
      split
      · exact command_connections host w _ client line hcmd
      · rename_i hnone
        refine (List.map_id _).symm.trans (List.map_congr_left fun c hc => ?_)
        have hid : ¬c.id = client := fun hid =>
          hnone (List.any_eq_true.mpr ⟨c, hc, beq_iff_eq.mpr hid⟩)
        rw [if_neg hid]
        rfl
    | _ => exact absurd rfl hb

theorem nextConnection_deliver (callback : Callback) :
    (m.deliver host w callback).nextConnection =
      m.nextConnection + (callback.opened m.nextConnection).length := by
  by_cases hb : callback.broadcasts = true
  · have hnext := (tells_deliver host w m hb).1
    cases callback with
    | connectionOpened => cases hb
    | _ => exact hnext
  · cases callback with
    | command client line jObj =>
      have hcmd : (jObj.value "cmd".toList).toInt = cmdGetStatus := by
        simpa [Callback.broadcasts] using hb
      rw [deliver, command, hcmd]
      split <;> rfl
    | connectionOpened => rfl
    | connectionClosed client => rfl
    | _ => exact absurd rfl hb

/-- No two connections have one number, and the next one is new. -/
structure Numbered : Prop where
  nodup : (m.connections.map (·.id)).Nodup
  lt : ∀ c ∈ m.connections, c.id < m.nextConnection

variable {m}

theorem Numbered.step (h : m.Numbered) (e : Event) : (m.step host e).Numbered := by
  have hnext : (m.step host e).nextConnection =
      m.nextConnection + (e.callback.opened m.nextConnection).length :=
    nextConnection_deliver host e.world { m with asked := 0 } e.callback
  have hids : (m.step host e).connections.map (·.id) =
      ((m.connections.filter fun c => !e.callback.closes c.id).map (·.id)) ++
        (e.callback.opened m.nextConnection).map (·.id) := by
    rw [step_connections, List.map_append, List.map_map]
    exact congrArg (· ++ _) (List.map_congr_left fun c _ => QVPNClientConnection.receiveAll_id _ c)
  have hold : ∀ id ∈ (m.connections.filter fun c => !e.callback.closes c.id).map (·.id),
      id < m.nextConnection := by
    intro id hid
    obtain ⟨c, hc, rfl⟩ := List.mem_map.mp hid
    exact h.lt c (List.mem_of_mem_filter hc)
  have hnodup : ((m.connections.filter fun c => !e.callback.closes c.id).map (·.id)).Nodup :=
    h.nodup.sublist (List.filter_sublist.map _)
  have hlt : ∀ c ∈ (m.step host e).connections, c.id < (m.step host e).nextConnection := by
    intro c hc
    have hid := List.mem_map_of_mem (f := (·.id)) hc
    rw [hids, List.mem_append] at hid
    rcases hid with hid | hid
    · have hbelow := hold c.id hid
      omega
    · have hself : c.id = m.nextConnection ∧ 0 < (e.callback.opened m.nextConnection).length := by
        unfold Callback.opened at hid ⊢
        split at hid
        · exact ⟨List.mem_singleton.mp hid, by simp⟩
        · cases hid
      omega
  refine ⟨?_, hlt⟩
  rw [hids]
  refine hnodup.append ?_ fun id hid hid' => ?_
  · unfold Callback.opened
    split <;> simp
  · have hbelow := hold id hid
    unfold Callback.opened at hid'
    split at hid'
    · obtain rfl := List.mem_singleton.mp hid'
      exact absurd hbelow (lt_irrefl _)
    · cases hid'

/-- It holds of every reachable state. -/
theorem numbered_of_reachable (h : ReachableBy host m) : m.Numbered := by
  refine Reachable.invariant (fun m hm => ?_) (fun _ e hm => hm.step host e) h
  obtain ⟨u, rfl⟩ := hm
  exact ⟨List.nodup_nil, nofun⟩

/-- The connection with a client's number. -/
def connection (client : ℕ) (m : OpenvpnManager) : Option QVPNClientConnection :=
  m.connections.find? (·.id == client)

theorem connection_spec {client : ℕ} {c : QVPNClientConnection}
    (hc : m.connection client = some c) : c ∈ m.connections ∧ c.id = client := by
  have hid := List.find?_some (p := fun d : QVPNClientConnection => d.id == client) hc
  exact ⟨List.mem_of_find?_eq_some hc, beq_iff_eq.mp hid⟩

theorem Numbered.connection_eq (h : m.Numbered) {c : QVPNClientConnection}
    (hc : c ∈ m.connections) : m.connection c.id = some c := by
  cases hfound : m.connection c.id with
  | none => exact absurd (beq_self_eq_true c.id) (List.find?_eq_none.mp hfound c hc)
  | some d =>
    obtain ⟨hd, hid⟩ := connection_spec hfound
    rw [List.inj_on_of_nodup_map h.nodup hd hc hid]

variable (m)

/-- What an event makes a client's connection write. -/
def hearsOf (client : ℕ) (e : Event) : List Signal :=
  if e.callback.asksStatus client then [.stateChanged (m.clientState client)] else m.said host e

variable {m}

/-- What a client is told in a run, the oldest signal first. -/
def told (client : ℕ) : OpenvpnManager → List Event → List Signal
  | _, [] => []
  | m, e :: es => (m.hearsOf host client e).reverse ++ told client (m.step host e) es

theorem connection_step (h : m.Numbered) {client : ℕ} {c : QVPNClientConnection}
    (hc : m.connection client = some c) {e : Event} (hstays : e.callback.closes client = false) :
    (m.step host e).connection client = some (c.receiveAll (m.hearsOf host client e)) := by
  obtain ⟨hmem, hid⟩ := connection_spec hc
  have hstate : m.clientState client = c.m_state := by
    have hfound : m.connections.find? (·.id == client) = some c := hc
    rw [clientState, hfound]
    rfl
  have hheard : m.hears host e c = m.hearsOf host client e := by
    rw [hears, hearsOf, hid, hstate]
  have hafter : c.receiveAll (m.hears host e c) ∈ (m.step host e).connections := by
    rw [step_connections]
    refine List.mem_append_left _ (List.mem_map_of_mem ?_)
    exact List.mem_filter.mpr ⟨hmem, by rw [hid, hstays]; rfl⟩
  have hfound := (h.step host e).connection_eq hafter
  rw [QVPNClientConnection.receiveAll_id, hid, hheard] at hfound
  exact hfound

/-- A client whose connection stays open has written to it what it is told. -/
theorem connection_run (h : m.Numbered) {client : ℕ} {c : QVPNClientConnection}
    (hc : m.connection client = some c) {es : List Event}
    (hstays : ∀ e ∈ es, e.callback.closes client = false) :
    (run (step host) m es).connection client =
      some (c.receiveAll (told host client m es).reverse) := by
  induction es generalizing m c with
  | nil => exact hc
  | cons e es ih =>
    obtain ⟨he, hes⟩ := List.forall_mem_cons.mp hstays
    have hrest := ih (h.step host e) (connection_step host h hc he) hes
    rw [told, List.reverse_append, List.reverse_reverse]
    refine hrest.trans (congrArg some ?_)
    exact (List.foldr_append ..).symm

/-- What the events of a run emit adds to what was emitted before. -/
theorem spoken_step (m : OpenvpnManager) (e : Event) :
    (m.step host e).spoken = m.said host e ++ m.spoken := by
  have hadds : ∃ signals, (m.step host e).spoken = signals ++ m.spoken := by
    obtain ⟨w, callback⟩ := e
    by_cases hb : callback.broadcasts = true
    · obtain ⟨signals, hspoken, -⟩ := (tells_deliver host w { m with asked := 0 } hb).relayed
      exact ⟨signals, hspoken⟩
    · exact ⟨[], spoken_deliver host w { m with asked := 0 } (Bool.eq_false_of_not_eq_true hb)⟩
  obtain ⟨signals, hspoken⟩ := hadds
  rw [said_of_spoken host m hspoken, hspoken]

theorem spoken_run {client : ℕ} {m : OpenvpnManager} {es : List Event}
    (hquiet : ∀ e ∈ es, e.callback.asksStatus client = false) :
    (run (step host) m es).spoken = (told host client m es).reverse ++ m.spoken := by
  induction es generalizing m with
  | nil => rfl
  | cons e es ih =>
    obtain ⟨he, hes⟩ := List.forall_mem_cons.mp hquiet
    have hheard : m.hearsOf host client e = m.said host e := by
      rw [hearsOf, he]
      rfl
    rw [told, List.reverse_append, List.reverse_reverse, hheard, List.append_assoc, ← spoken_step]
    exact ih hes

/-- From the moment a connection is opened, and as long as it is, there is written to it a
message for every signal the manager emits, in order and once, and the state told last to
its client whenever that client asks for it. If it does not ask, these are all signals. -/
theorem broadcasts_complete (hr : ReachableBy host m) (w : World) {es : List Event}
    (hstays : ∀ e ∈ es, e.callback.closes m.nextConnection = false) :
    ∃ c, (run (step host) (m.step host ⟨w, .connectionOpened⟩) es).connection
        m.nextConnection = some c ∧
      c.sent = (told host m.nextConnection (m.step host ⟨w, .connectionOpened⟩) es).flatMap
        Signal.messages ∧
      c.m_state = ((told host m.nextConnection (m.step host ⟨w, .connectionOpened⟩)
        es).reverse.findSome? Signal.state?).getD .disconnected ∧
      ((∀ e ∈ es, e.callback.asksStatus m.nextConnection = false) →
        (run (step host) (m.step host ⟨w, .connectionOpened⟩) es).spoken =
          (told host m.nextConnection (m.step host ⟨w, .connectionOpened⟩) es).reverse ++
            m.spoken) := by
  have hnumbered := (numbered_of_reachable host hr).step host ⟨w, .connectionOpened⟩
  have hopened : (m.step host ⟨w, .connectionOpened⟩).connection m.nextConnection =
      some ⟨m.nextConnection, .disconnected, []⟩ :=
    hnumbered.connection_eq (c := ⟨m.nextConnection, .disconnected, []⟩)
      (List.mem_append_right _ (List.mem_singleton_self _))
  refine ⟨_, connection_run host hnumbered hopened hstays, ?_, ?_, spoken_run host⟩
  · rw [QVPNClientConnection.receiveAll_sent, List.reverse_reverse]
    rfl
  · exact QVPNClientConnection.receiveAll_m_state _ _

/-- A client begins an attempt. -/
def attemptBegun : OpenvpnManager :=
  run (step (Host.on .linux)) (initial .zero)
    [⟨.quiet 0, .connectionOpened⟩, ⟨.quiet 0, .send 0 (startObject 7 "1194" "template 7")⟩]

/-- It begins another one, and a second client asks for the state. -/
def attemptRenewed : List Event :=
  [⟨.quiet 0, .send 0 (startObject 8 "53" "template 8")⟩,
    ⟨.quiet 0, .send 1 [("cmd".toList, .ofInt cmdGetStatus)]⟩]

/-- A client that comes between two attempts of another one is told what becomes of them. -/
theorem second_client_told : ∃ c,
    (run (step (Host.on .linux))
      (attemptBegun.step (Host.on .linux) ⟨.quiet 0, .connectionOpened⟩)
      attemptRenewed).connection 1 = some c ∧
      c.sent = [.disconnected, .connecting, .connecting].flatMap
        fun state => Signal.messages (.stateChanged state) := by
  have hstays : ∀ e ∈ attemptRenewed, e.callback.closes attemptBegun.nextConnection = false := by
    decide
  obtain ⟨c, hc, hsent, -⟩ := broadcasts_complete (Host.on .linux)
    ⟨_, ⟨.zero, rfl⟩, _, rfl⟩ (.quiet 0) hstays
  exact ⟨c, hc, hsent⟩

end OpenvpnManager
end CeloVpn.Service
