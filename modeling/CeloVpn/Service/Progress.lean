import CeloVpn.Service.Simulation

/-!
# Connecting is never a dead end

A connecting manager is moved on by a template reply, by its state timer or by a
reconnect single shot. Two events can leave it connecting with none of them: a
reply whose config file cannot be written, and a state word that turns it to
connecting when nothing is pending.
-/
namespace CeloVpn.Service
open Runs

namespace Control

/-- A connecting manager has something pending. -/
def Alive (c : Control) : Prop := c.mState = .connecting → c.Pending

theorem pending_setState {c : Control} {st : VpnState} (h : st ≠ .disconnected) (now : ℤ) :
    (c.setState st now).Pending ↔ c.Pending := by
  unfold Control.setState
  split
  · simp only [Pending, report]
  · exact Iff.rfl

theorem pending_request {c : Control} (r : TemplateRequest) : (c.request r).Pending :=
  .inl (List.append_ne_nil_of_right_ne_nil _ (List.cons_ne_nil r []))

/-- Leaving for another state than connecting asks nothing of what is pending. -/
theorem Alive.leave {c : Control} {st : VpnState}
    (h : st = VpnState.disconnected ∨ st = VpnState.connected) (now : ℤ) (ha : c.Alive) :
    (c.setState st now).Alive := by
  unfold Control.setState
  split
  · intro hconnecting
    change st = .connecting at hconnecting
    rcases h with rfl | rfl <;> cases hconnecting
  · exact ha

/-- A state word may begin an attempt only where something is pending. -/
def allowedAlive : Allowed := { Allowed.any with promote := Pending }

theorem Alive.move {c c' : Control} (hm : Move allowedAlive c c') (ha : c.Alive) : c'.Alive := by
  cases hm with
  | plain a h => exact ha
  | leave st now h => exact ha.leave h now
  | promote now h => exact fun _ => (pending_setState (by decide) now).mpr h
  | connect now r _ => exact fun _ => pending_request r
  | attempt url => exact ha
  | exiting now =>
    exact fun _ => (pending_setState (by decide) now).mpr (.inr (.inr (Nat.succ_pos _)))
  | arm => exact fun _ => .inr (.inr (Nat.succ_pos _))
  | timer => exact fun _ => .inr (.inl rfl)
  | word word => exact ha
  | processError => exact ha
  | opened => exact ha
  | closed _ _ _ => exact ha
  | gaveUp now _ => exact ha
  | launched args config template _ => exact ha

end Control

namespace OpenvpnManager
variable (host : Host) (w : World) (m : OpenvpnManager)

theorem insertTemplate_isSome (key : ℤ) (template : Template)
    (h : key = m.currentKey ∨ (m.mOvpnTemplate m.currentKey).isSome = true) :
    ((m.insertTemplate key template).mOvpnTemplate m.currentKey).isSome = true := by
  change (if m.currentKey = key then some template
    else m.mOvpnTemplate m.currentKey).isSome = true
  split_ifs with hkey
  · rfl
  · exact h.resolve_left (Ne.symm hkey)

/-- Once the config file is written, either the state timer runs or the attempt is
over. -/
theorem continueConnecting_ends (h : (m.writeConfigFile host w).1 = true) :
    (m.continueConnecting host w).mStateTimer = true ∨
      (m.continueConnecting host w).mState = .disconnected := by
  unfold continueConnecting
  dsimp only
  rw [h]
  split
  · rename_i hcontra
    cases hcontra
  · split
    · exact .inl rfl
    · unfold launchDaemon
      cases w.launchFailure with
      | some what => exact .inr (setState_mState w _ _)
      | none => exact .inl rfl

theorem startConnecting_pending : (m.startConnecting host w).control.Pending := by
  obtain ⟨r, -, hcontrol⟩ := control_startConnecting host w m
  rw [hcontrol]
  exact Control.pending_request r

theorem reconnectTimeout_pending : (m.reconnectTimeout host w).control.Pending := by
  unfold reconnectTimeout
  dsimp only
  split_ifs
  · exact .inr (.inr (Nat.succ_pos _))
  · exact startConnecting_pending host w _
  · exact startConnecting_pending host w _

/-- Between events, a connecting manager has a template request in flight, its
state timer running or a reconnect single shot armed. -/
def Alive (m : OpenvpnManager) : Prop :=
  m.mState = .connecting →
    m.requests ≠ [] ∨ m.mStateTimer = true ∨ 0 < m.reconnectTimers

instance (m : OpenvpnManager) : Decidable m.Alive :=
  inferInstanceAs (Decidable (_ → m.requests ≠ [] ∨ m.mStateTimer = true ∨ 0 < m.reconnectTimers))

theorem alive_iff_control : m.Alive ↔ m.control.Alive := Iff.rfl

/-- A successful reply finds its config file writable, or something else pending
once it is taken. -/
def ReplyMeets (m : OpenvpnManager) (e : Event) : Prop :=
  ∀ reply ∈ m.finishing e.callback, reply.failed = false →
    e.world.configOpens = true ∧
      (reply.serverKey = m.currentKey ∨ (m.mOvpnTemplate m.currentKey).isSome = true) ∨
    (m.takeRequest reply.id).Alive

instance (m : OpenvpnManager) (e : Event) : Decidable (ReplyMeets m e) :=
  inferInstanceAs (Decidable (∀ reply ∈ m.finishing e.callback, reply.failed = false →
    _ ∧ (_ ∨ _) ∨ (m.takeRequest reply.id).Alive))

/-- A word that turns the manager to connecting finds something pending. -/
def WordMeets (m : OpenvpnManager) (s : QString) : Prop :=
  ∀ word ∈ stateWordOf s, promotes word = true →
    m.requests ≠ [] ∨ m.mStateTimer = true ∨ 0 < m.reconnectTimers

instance (m : OpenvpnManager) (s : QString) : Decidable (WordMeets m s) :=
  inferInstanceAs (Decidable (∀ word ∈ stateWordOf s, promotes word = true → _ ∨ _ ∨ _))

/-- The two ways into a dead end are not taken. -/
def KeepsGoing (m : OpenvpnManager) (e : Event) : Prop :=
  ReplyMeets m e ∧ LinesMeet host WordMeets m e

instance (m : OpenvpnManager) (e : Event) : Decidable (KeepsGoing host m e) :=
  inferInstanceAs (Decidable (ReplyMeets m e ∧ LinesMeet host WordMeets m e))

/-- Both ends of a taken reply: the launch, or what else is pending. -/
theorem getTemplateFinished_alive (reply : TemplateRequest) (bytes : QByteArray)
    (h : reply.failed = false → w.configOpens = true ∧
      (reply.serverKey = m.currentKey ∨ (m.mOvpnTemplate m.currentKey).isSome = true)) :
    (m.getTemplateFinished host w reply bytes).Alive := by
  unfold getTemplateFinished
  split
  · intro hconnecting
    rw [getTemplateFailed, stop_mState] at hconnecting
    cases hconnecting
  · rename_i hfailed
    obtain ⟨hopens, hkey⟩ := h (Bool.not_eq_true _ ▸ hfailed)
    have hwritten : ((m.insertTemplate reply.serverKey
        ⟨bytes, reply⟩).writeConfigFile host w).1 = true := by
      rw [writeConfigFile_fst, hopens, Bool.true_and]
      exact insertTemplate_isSome m _ _ hkey
    intro hconnecting
    rcases continueConnecting_ends host w _ hwritten with htimer | hleft
    · exact .inr (.inl htimer)
    · rw [hleft] at hconnecting
      cases hconnecting

/-- Where something is pending once the callback has taken its own, something is
pending at the end of the event. -/
theorem step_alive_of_taken {m : OpenvpnManager} {e : Event}
    (hlines : LinesMeet host WordMeets m e) (h : (m.taken e.callback).Alive) :
    (step host m e).Alive := by
  have hpermits : Permits host Control.allowedAlive m e :=
    { connect := fun _ _ _ => trivial
      lines := fun bytes hbytes socket hsocket =>
        (hlines bytes hbytes socket hsocket).imp fun _ _ hword word hs hpromotes =>
          hword word hs hpromotes
      tick := fun _ _ _ _ => trivial
      launch := fun _ _ _ => trivial
      close := fun _ _ => trivial }
  rw [alive_iff_control]
  exact Moves.invariant (fun _ _ hm ha => Control.Alive.move hm ha)
    (step_moves host m hpermits) h

/-- An event that is not on a way into a dead end leads into none. -/
theorem step_alive (m : OpenvpnManager) (e : Event) (hgoing : KeepsGoing host m e)
    (ha : m.Alive) : (step host m e).Alive := by
  obtain ⟨hreply, hlines⟩ := hgoing
  obtain ⟨w, callback⟩ := e
  have hkept : m.control.Alive := (alive_iff_control m).mp ha
  cases callback with
  | templateError request =>
    refine step_alive_of_taken host hlines ?_
    have hnil : (m.failRequest request).control.requests = [] ↔ m.control.requests = [] :=
      List.map_eq_nil_iff
    simp only [Control.Alive, Control.Pending, taken, ne_eq, hnil]
    exact hkept
  | templateFinished request bytes =>
    by_cases htaken : (m.taken (.templateFinished request bytes)).Alive
    · exact step_alive_of_taken host hlines htaken
    · cases hfind : m.requests.find? (·.id == request) with
      | none =>
        refine step_alive_of_taken host hlines ?_
        rw [taken, control_takeRequest_of_none m hfind]
        exact hkept
      | some reply =>
        have hid : reply.id = request := by simpa using List.find?_some hfind
        have hwritable := fun hfailed => (hreply reply hfind hfailed).resolve_right
          (by rwa [hid, alive_iff_control])
        have hstep : step host m ⟨w, .templateFinished request bytes⟩ =
            (takeRequest request { m with asked := 0 }).getTemplateFinished host w reply bytes := by
          simp only [step, deliver, hfind]
        rw [hstep]
        exact getTemplateFinished_alive host w (takeRequest request { m with asked := 0 }) reply
          bytes hwritable
  | reconnectTimeout =>
    by_cases harmed : 0 < m.reconnectTimers
    · rw [alive_iff_control]
      intro _
      change Control.Pending (if 0 < m.reconnectTimers then
        (takeReconnectTimer { m with asked := 0 }).reconnectTimeout host w
        else { m with asked := 0 }).control
      rw [if_pos harmed]
      exact reconnectTimeout_pending host w _
    · refine step_alive_of_taken host hlines ?_
      rw [taken, control_takeReconnectTimer_of_zero m (Nat.eq_zero_of_not_pos harmed)]
      exact hkept
  | _ => exact step_alive_of_taken host hlines hkept

/-- In every run that takes neither way into a dead end, a connecting manager
always has something pending. -/
theorem run_alive (u : Indeterminate) (es : List Event)
    (h : Meets (step host) (KeepsGoing host) (initial u) es) :
    Throughout (step host) Alive (initial u) es :=
  throughout_of_meets (step_alive host) nofun h

/-- An attempt is launched, and the words of its connection arrive. -/
theorem run_alive_attempt : ∃ es,
    (run (step (.on .linux)) (initial .zero) es).mState = .connecting ∧
      Throughout (step (.on .linux)) Alive (initial .zero) es :=
  ⟨[⟨.quiet 0, .connectionOpened⟩,
      ⟨.quiet 0, .send 0 (startObject 7 "443" "celo.example/7.ovpn")⟩,
      ⟨.quiet 0, .templateFinished 0 []⟩, ⟨.busy 1000, .stateTimer⟩,
      ⟨.busy 1000, .line "1,AUTH,,,"⟩, ⟨.busy 2000, .line "2,ASSIGN_IP,,10.8.0.2,"⟩],
    by decide +kernel, run_alive (.on .linux) .zero _ (by decide +kernel)⟩

/-- A config file that cannot be opened leaves the manager connecting for good. -/
theorem alive_fails_of_config_file : ¬ Throughout (step (.on .linux)) Alive (initial .zero)
    [⟨.quiet 0, .connectionOpened⟩,
      ⟨.quiet 0, .send 0 (startObject 7 "443" "celo.example/7.ovpn")⟩,
      ⟨{ World.quiet 0 with configOpens := false }, .templateFinished 0 []⟩] := by
  intro h
  have hlast : Alive _ := h.2.2.2
  exact absurd hlast (by decide +kernel)

end OpenvpnManager
end CeloVpn.Service
