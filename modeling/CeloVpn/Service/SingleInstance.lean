import CeloVpn.Service.Simulation

/-!
# One openvpn at a time

A launched openvpn is accounted for once `stop()` is called or a look at the
processes finds none. `continueConnecting` launches without asking; that it never
launches a second one beside the first depends on when templates are requested,
since each request in flight is one launch to come.
-/
namespace CeloVpn.Service
open Runs

/-- An openvpn was launched that was neither stopped nor found gone since. -/
def live : List Act → Bool
  | [] => false
  | .launched _ _ _ :: _ => true
  | .stopped :: _ => false
  | .observed false :: _ => false
  | _ :: older => live older

/-- How many requests could still succeed when another one was made. -/
def Act.outstanding : Act → Option ℕ
  | .requested n => some n
  | _ => none

/-- No launch of the history comes while an earlier openvpn is live. -/
def Single : List Act → Prop := AtEach fun a older => a.isLaunch = true → live older = false

/-- Every template is requested while no earlier request can still succeed and no
launched openvpn is live. -/
def Spaced : List Act → Prop :=
  AtEach fun a older => ∀ n ∈ a.outstanding, n = 0 ∧ live older = false

instance : DecidablePred Single := fun h => decidableAtEach h

instance : DecidablePred Spaced := fun h => decidableAtEach h

namespace Control

/-- As long as requests are spaced, requests that can succeed and live instances
together number `k` at most. -/
def Bounded (k : ℕ) (c : Control) : Prop :=
  Spaced c.history → Single c.history ∧ c.openRequests + (live c.history).toNat ≤ k

variable {k : ℕ} {c : Control}

/-- A plain act revives nothing. -/
theorem live_plain {a : Act} (h : a.Plain) (older : List Act)
    (hlive : live (a :: older) = true) : live older = true := by
  cases a with
  | observed running =>
    cases running with
    | true => exact hlive
    | false => cases hlive
  | stopped => cases hlive
  | _ => first | exact hlive | exact absurd h id

/-- An act that launches nothing and revives nothing. -/
theorem Bounded.note {c' : Control} (a : Act) (ha : a.isLaunch = false)
    (hlive : live (a :: c.history) = true → live c.history = true)
    (hhistory : c'.history = a :: c.history) (hopen : c'.openRequests = c.openRequests)
    (hb : Bounded k c) : Bounded k c' := by
  intro hspaced
  rw [hhistory] at hspaced ⊢
  obtain ⟨hsingle, hle⟩ := hb hspaced.2
  refine ⟨⟨fun hlaunch => ?_, hsingle⟩, ?_⟩
  · rw [ha] at hlaunch
    cases hlaunch
  · rw [hopen]
    have hmono := Bool.toNat_le_toNat hlive
    omega

theorem Bounded.setState (st : VpnState) (now : ℤ) (hb : Bounded k c) :
    Bounded k (c.setState st now) := by
  unfold Control.setState
  split
  · have hentered : Bounded k { c with
        mState := st
        mStateTimer := if st = VpnState.disconnected then false else c.mStateTimer
        history := .entered st now :: c.history } :=
      Bounded.note (.entered st now) rfl id rfl rfl hb
    exact Bounded.note (.emitted (.stateChanged st)) rfl id rfl rfl hentered
  · exact hb

theorem openRequests_request_le (r : TemplateRequest) :
    (c.request r).openRequests ≤ c.openRequests + 1 := by
  unfold openRequests Control.request
  rw [List.filter_append, List.length_append]
  exact Nat.add_le_add_left (List.length_filter_le _ [r]) _

/-- A request that is spaced is the only thing to come. -/
theorem Bounded.request (r : TemplateRequest) (hk : 1 ≤ k) (hb : Bounded k c) :
    Bounded k (c.request r) := by
  intro hspaced
  obtain ⟨hzero, hdead⟩ := hspaced.1 c.openRequests rfl
  refine ⟨⟨nofun, (hb hspaced.2).1⟩, ?_⟩
  have hlive : live (c.request r).history = false := hdead
  have hle := openRequests_request_le (c := c) r
  rw [hlive, Bool.toNat_false]
  omega

/-- Where nothing can be launched, every move keeps the bound. -/
theorem Bounded.move {A : Allowed} (hlaunch : ¬A.launch) (hconnect : ∀ c r, A.connect c r → 1 ≤ k)
    {c' : Control} (hm : Move A c c') (hb : Bounded k c) : Bounded k c' := by
  cases hm with
  | plain a h =>
    refine hb.note a ?_ (live_plain h c.history) rfl rfl
    cases a <;> first | rfl | exact absurd h id
  | leave st now _ => exact hb.setState st now
  | promote now _ => exact hb.setState .connecting now
  | connect now r h => exact (hb.setState .connecting now).request r (hconnect _ r h)
  | attempt url => exact hb
  | exiting now => exact Bounded.setState (c := c.arm) .connecting now hb
  | arm => exact hb
  | timer => exact hb
  | word word => exact hb.note (.stateWord word) rfl id rfl rfl
  | processError =>
    have hnoted : Bounded k (c.note (.processErrored c.mState c.reported.length)) :=
      hb.note (.processErrored c.mState c.reported.length) rfl id rfl rfl
    exact hnoted.note (.emitted (.stateChanged .disconnected)) rfl id rfl rfl
  | opened => exact hb.note (.opened c.mState) rfl id rfl rfl
  | closed _ _ _ => exact hb
  | gaveUp now _ => exact hb.note (.gaveUp now) rfl id rfl rfl
  | launched _ _ _ h => exact absurd h hlaunch

/-- A launch takes the place of what it was bounded with. -/
theorem Bounded.launched (args : List QString) (config : QByteArray) (template : Option Template)
    (hb : Bounded 0 c) : Bounded 1 (c.note (.launched args config template)) := by
  intro hspaced
  obtain ⟨hsingle, hle⟩ := hb hspaced.2
  have hdead : live c.history = false := by
    cases hlive : live c.history with
    | false => rfl
    | true => simp [hlive] at hle
  refine ⟨⟨fun _ => hdead, hsingle⟩, ?_⟩
  have hlive : live (c.note (.launched args config template)).history = true := rfl
  have hopen : (c.note (.launched args config template)).openRequests = c.openRequests := rfl
  rw [hlive, hopen, Bool.toNat_true]
  omega

end Control

namespace OpenvpnManager
variable (host : Host) {m : OpenvpnManager} {e : Event}

theorem openRequests_failRequest_le (request : ℕ) :
    (m.failRequest request).control.openRequests ≤ m.control.openRequests := by
  simp only [Control.openRequests, control, failRequest, ← List.countP_eq_length_filter,
    List.countP_map]
  refine List.countP_mono_left fun r _ hr => ?_
  dsimp only [Function.comp_apply] at hr
  split_ifs at hr
  · cases hr
  · exact hr

theorem openRequests_takeRequest_le (request : ℕ) :
    (m.takeRequest request).control.openRequests ≤ m.control.openRequests :=
  (List.eraseP_sublist.filter _).length_le

/-- A request that can still succeed is one fewer once it is taken. -/
theorem openRequests_takeRequest_lt {request : ℕ} {reply : TemplateRequest}
    (hfind : m.requests.find? (·.id == request) = some reply) (hsuccess : reply.failed = false) :
    (m.takeRequest request).control.openRequests < m.control.openRequests := by
  change ((m.requests.eraseP (·.id == request)).filter (!·.failed)).length <
    (m.requests.filter (!·.failed)).length
  generalize m.requests = requests at hfind ⊢
  induction requests with
  | nil => cases hfind
  | cons r rest ih =>
    rw [List.find?_cons] at hfind
    cases hr : r.id == request with
    | true =>
      rw [hr] at hfind
      obtain rfl : r = reply := Option.some.inj hfind
      simp [hr, hsuccess]
    | false =>
      rw [hr] at hfind
      have hrest := ih hfind
      rw [List.eraseP_cons_of_neg (by simp [hr])]
      cases hfailed : r.failed <;> simpa [hfailed] using hrest

/-- What a callback takes off leaves no more to come. -/
theorem taken_bounded {k : ℕ} (hb : m.control.Bounded k) : (m.taken e.callback).Bounded k := by
  have hle : (m.taken e.callback).openRequests ≤ m.control.openRequests := by
    cases e.callback with
    | templateError request => exact openRequests_failRequest_le request
    | templateFinished request bytes => exact openRequests_takeRequest_le request
    | _ => exact le_rfl
  intro hspaced
  rw [taken_history] at hspaced ⊢
  obtain ⟨hsingle, hsum⟩ := hb hspaced
  exact ⟨hsingle, le_trans (Nat.add_le_add_right hle _) hsum⟩

/-- A reply that succeeds leaves nothing else to come. -/
theorem taken_bounded_of_success {reply : TemplateRequest}
    (hreply : reply ∈ m.finishing e.callback) (hsuccess : reply.failed = false)
    (hb : m.control.Bounded 1) : (m.taken e.callback).Bounded 0 := by
  obtain ⟨w, callback⟩ := e
  cases callback with
  | templateFinished request bytes =>
    have hlt := openRequests_takeRequest_lt (m := m) hreply hsuccess
    intro hspaced
    obtain ⟨hsingle, hsum⟩ := hb hspaced
    refine ⟨hsingle, ?_⟩
    change (m.takeRequest request).control.openRequests + (live m.history).toNat ≤ 0
    change m.control.openRequests + (live m.history).toNat ≤ 1 at hsum
    omega
  | _ => cases hreply

/-- A step keeps one instance, live or to come, as the bound. -/
theorem step_bounded (m : OpenvpnManager) (e : Event) (hb : m.control.Bounded 1) :
    (step host m e).control.Bounded 1 := by
  by_cases hsuccess : ∃ reply ∈ m.finishing e.callback, reply.failed = false
  · obtain ⟨reply, hreply, hfailed⟩ := hsuccess
    let A : Allowed := { Allowed.any with connect := fun _ _ => False, launch := False }
    have hquiet : ∀ {k c c'}, Moves A c c' → Control.Bounded k c → Control.Bounded k c' :=
      fun hm hc => Moves.invariant (fun _ _ hmove hc => hc.move id (fun _ _ => False.elim) hmove) hm hc
    have htaken := taken_bounded_of_success hreply hfailed hb
    rcases step_launchesOnce (A := A) host m hreply hfailed with
      hnone | ⟨config, template, args, c₁, hbefore, hafter⟩
    · intro hspaced
      obtain ⟨hsingle, hsum⟩ := hquiet hnone htaken hspaced
      exact ⟨hsingle, le_trans hsum (Nat.zero_le 1)⟩
    · exact hquiet hafter ((hquiet hbefore htaken).launched args config template)
  · have hpermits : Permits host { Allowed.any with launch := False } m e :=
      { connect := fun _ _ _ => trivial
        lines := fun _ _ _ _ => meets_of_forall (fun _ _ _ _ _ => trivial) _ _
        tick := fun _ _ _ _ => trivial
        launch := fun reply hreply hfailed => hsuccess ⟨reply, hreply, hfailed⟩
        close := fun _ _ => trivial }
    exact Moves.invariant (fun _ _ hm hc => hc.move id (fun _ _ _ => le_rfl) hm)
      (step_moves host m hpermits) (taken_bounded hb)

/-- In every run that requests each template while no earlier request can succeed
and no launched openvpn is live, none is launched while another is live. -/
theorem run_single (u : Indeterminate) (es : List Event)
    (h : Spaced (run (step host) (initial u) es).history) :
    Single (run (step host) (initial u) es).history :=
  (run_invariant (P := fun m : OpenvpnManager => m.control.Bounded 1) (step_bounded host)
    (s := initial u) (fun _ => ⟨trivial, Nat.zero_le 1⟩) es h).1

/-- A second attempt is launched after the first one was stopped. -/
theorem run_single_restarted : ∃ es,
    ((run (step (.on .linux)) (initial .zero) es).history.filter Act.isLaunch).length = 2 ∧
      Single (run (step (.on .linux)) (initial .zero) es).history :=
  ⟨[⟨.quiet 0, .connectionOpened⟩,
      ⟨.quiet 0, .send 0 (startObject 7 "443" "celo.example/7.ovpn")⟩,
      ⟨.quiet 0, .templateFinished 0 []⟩,
      ⟨.busy 9000, .send 0 (startObject 8 "443" "celo.example/8.ovpn")⟩,
      ⟨.quiet 9000, .templateFinished 1 []⟩],
    by decide +kernel, run_single (.on .linux) .zero _ (by decide +kernel)⟩

/-- Two starts before the first reply launch two openvpn beside each other. -/
theorem single_fails_of_two_starts : ¬ Single (run (step (.on .linux)) (initial .zero)
    [⟨.quiet 0, .connectionOpened⟩,
      ⟨.quiet 0, .send 0 (startObject 7 "443" "celo.example/7.ovpn")⟩,
      ⟨.quiet 0, .send 0 (startObject 8 "443" "celo.example/8.ovpn")⟩,
      ⟨.quiet 0, .templateFinished 1 []⟩, ⟨.quiet 1000, .templateFinished 0 []⟩]).history := by
  decide +kernel

end OpenvpnManager
end CeloVpn.Service
