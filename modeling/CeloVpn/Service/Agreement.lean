import CeloVpn.Service.Simulation

/-!
# What the clients hold as the state of the service

Every connection caches the state it was told last. The cache follows `mState`
through every change of it; two acts write it without one: a connection begins
as disconnected, and `processError` reports a disconnect. What an event leaves
behind is decided by the last act of it that touched either side.
-/
namespace CeloVpn.Service
open Runs

/-- Every cached state is the state. -/
def Control.Agrees (c : Control) : Prop := ∀ st ∈ c.reported, st = c.mState

/-- The acts of one event, newest first, leave no connection behind: after the last
change of state each connection was opened while disconnected, and so did
`processError` report, unless there was no connection to report to. -/
def Settled : List Act → Prop
  | [] => True
  | .entered _ _ :: _ => True
  | .opened state :: older => state = .disconnected ∧ Settled older
  | .processErrored state connections :: _ => state = .disconnected ∨ connections = 0
  | _ :: older => Settled older

theorem settled_plain {a : Act} (h : a.Plain) (older : List Act) :
    Settled (a :: older) ↔ Settled older := by
  cases a <;> first | exact Iff.rfl | exact absurd h id

namespace Control

/-- Since the history `base`, the connections agree exactly when the acts since
then are settled. -/
def Tracks (base : List Act) (c : Control) : Prop :=
  ∃ acts, c.history = acts ++ base ∧ (c.Agrees ↔ Settled acts)

variable {base : List Act} {c : Control}

/-- An act that neither touches a cached state nor the history of changes. -/
theorem Tracks.note (a : Act) (h : ∀ older, Settled (a :: older) ↔ Settled older) {c' : Control}
    (hhistory : c'.history = a :: c.history) (hagrees : c'.Agrees ↔ c.Agrees)
    (ht : Tracks base c) : Tracks base c' := by
  obtain ⟨acts, hacts, hsettled⟩ := ht
  refine ⟨a :: acts, ?_, ?_⟩
  · rw [hhistory, hacts, List.cons_append]
  · rw [hagrees, hsettled, h]

/-- A change of state tells every connection. -/
theorem Tracks.setState (st : VpnState) (now : ℤ) (ht : Tracks base c) :
    Tracks base (c.setState st now) := by
  unfold Control.setState
  split
  · obtain ⟨acts, hacts, -⟩ := ht
    refine ⟨.emitted (.stateChanged st) :: .entered st now :: acts, ?_, ?_⟩
    · simp [report, hacts]
    · refine ⟨fun _ => trivial, fun _ => ?_⟩
      intro told htold
      obtain ⟨_, -, rfl⟩ := List.mem_map.mp htold
      rfl
  · exact ht

/-- `processError` tells every connection and changes nothing. -/
theorem Tracks.processError (ht : Tracks base c) :
    Tracks base ((c.note (.processErrored c.mState c.reported.length)).report .disconnected) := by
  obtain ⟨acts, hacts, -⟩ := ht
  refine ⟨.emitted (.stateChanged .disconnected) ::
    .processErrored c.mState c.reported.length :: acts, ?_, ?_⟩
  · simp [report, Control.note, hacts]
  · change (∀ st ∈ c.reported.map (fun _ => VpnState.disconnected), st = c.mState) ↔
      c.mState = .disconnected ∨ c.reported.length = 0
    rw [List.length_eq_zero_iff]
    cases hreported : c.reported with
    | nil => simp
    | cons told rest =>
      simp only [List.map_cons, List.forall_mem_cons, List.forall_mem_map, reduceCtorEq, or_false]
      exact ⟨fun h => h.1.symm, fun h => ⟨h.symm, fun _ _ => h.symm⟩⟩

/-- A connection that is opened holds `disconnected`. -/
theorem Tracks.opened (ht : Tracks base c) : Tracks base
    ({ c with reported := c.reported ++ [VpnState.disconnected] }.note (.opened c.mState)) := by
  obtain ⟨acts, hacts, hsettled⟩ := ht
  refine ⟨.opened c.mState :: acts, ?_, ?_⟩
  · simp [Control.note, hacts]
  · change (∀ st ∈ c.reported ++ [VpnState.disconnected], st = c.mState) ↔
      c.mState = .disconnected ∧ Settled acts
    rw [← hsettled, List.forall_mem_append, List.forall_mem_singleton, and_comm]
    exact and_congr_left fun _ => eq_comm

/-- Every move of an event in which no client goes keeps the track. -/
theorem Tracks.move {A : Allowed} (hclose : ¬A.close) {c' : Control} (hm : Move A c c')
    (ht : Tracks base c) : Tracks base c' := by
  cases hm with
  | plain a h => exact ht.note a (settled_plain h) rfl Iff.rfl
  | leave st now _ => exact ht.setState st now
  | promote now _ => exact ht.setState .connecting now
  | connect now r _ =>
    exact (ht.setState .connecting now).note (.requested _) (fun _ => Iff.rfl) rfl Iff.rfl
  | attempt url => exact ht
  | exiting now => exact Tracks.setState (c := c.arm) .connecting now ht
  | arm => exact ht
  | timer => exact ht
  | word word => exact ht.note (.stateWord word) (fun _ => Iff.rfl) rfl Iff.rfl
  | processError => exact ht.processError
  | opened => exact ht.opened
  | closed _ _ h => exact absurd h hclose
  | gaveUp now _ => exact ht.note (.gaveUp now) (fun _ => Iff.rfl) rfl Iff.rfl
  | launched args config template _ =>
    exact ht.note (.launched args config template) (fun _ => Iff.rfl) rfl Iff.rfl

end Control

namespace OpenvpnManager
variable (host : Host)

/-- Every open connection would answer a status request with the manager's state. -/
def Agrees (m : OpenvpnManager) : Prop := ∀ c ∈ m.connections, c.m_state = m.mState

instance (m : OpenvpnManager) : Decidable m.Agrees :=
  inferInstanceAs (Decidable (∀ c ∈ m.connections, c.m_state = m.mState))

theorem agrees_iff_control (m : OpenvpnManager) : m.Agrees ↔ m.control.Agrees := by
  simp [Agrees, Control.Agrees, control]

/-- The end of a connection settles nothing and unsettles nothing. -/
theorem step_agrees_of_closed {m : OpenvpnManager} (w : World) (client : ℕ) (h : m.Agrees) :
    (step host m ⟨w, .connectionClosed client⟩).Agrees ∧
      acts host m ⟨w, .connectionClosed client⟩ = [] := by
  refine ⟨fun c hc => h c (List.mem_of_mem_filter hc), acts_eq host rfl⟩

/-- From agreement, an event ends in agreement exactly when its acts are settled. -/
theorem step_agrees_iff (m : OpenvpnManager) (e : Event) (h : m.Agrees) :
    (step host m e).Agrees ↔ Settled (acts host m e) := by
  by_cases hclosed : ∃ client, e.callback = .connectionClosed client
  · obtain ⟨w, callback⟩ := e
    obtain ⟨client, rfl⟩ := hclosed
    obtain ⟨hagrees, hacts⟩ := step_agrees_of_closed host w client h
    rw [hacts]
    exact iff_of_true hagrees trivial
  · have hpermits : Permits host { Allowed.any with close := False } m e :=
      permits_any host m fun client hclient => hclosed ⟨client, hclient⟩
    have hmoves := step_moves host m hpermits
    have hstart : Control.Tracks m.history (m.taken e.callback) := by
      refine ⟨[], taken_history m _, iff_of_true ?_ trivial⟩
      rw [Control.Agrees, taken_reported, taken_mState]
      exact (agrees_iff_control m).mp h
    obtain ⟨new, hnew, hsettled⟩ := Moves.invariant
      (fun _ _ hm ht => Control.Tracks.move (A := { Allowed.any with close := False }) id hm ht)
      hmoves hstart
    rw [agrees_iff_control, acts_eq host hnew]
    exact hsettled

/-- In every run, every connection agrees with the manager between events exactly
when the acts of each event are settled. -/
theorem agrees_throughout_iff (u : Indeterminate) (es : List Event) :
    Throughout (step host) Agrees (initial u) es ↔
      Meets (step host) (fun m e => Settled (acts host m e)) (initial u) es := by
  refine throughout_iff_meets (I := fun _ => True) (fun _ _ _ => trivial)
    (fun m e _ h => step_agrees_iff host m e h) trivial ?_
  intro c hc
  cases hc

/-- A client that connects while the manager is connecting holds disconnected. -/
theorem agrees_fails_of_late_client : ¬ Throughout (step (.on .linux)) Agrees (initial .zero)
    [⟨.quiet 0, .connectionOpened⟩,
      ⟨.quiet 0, .send 0 (startObject 7 "443" "celo.example/7.ovpn")⟩,
      ⟨.quiet 0, .connectionOpened⟩] := by
  intro h
  have hlast : Agrees _ := h.2.2.2
  exact absurd hlast (by decide +kernel)

end OpenvpnManager
end CeloVpn.Service
