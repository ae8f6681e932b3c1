import CeloVpn.Service.Simulation

/-!
# Which template an attempt is launched with

Template replies are matched with the present attempt through a cache whose key
is computed anew at each use, and nothing takes an old request back. A reply to a
request from before the last `start()` stays without effect only if it succeeds
and finds nothing to launch with; any other reply is answered on behalf of the
present attempt.
-/
namespace CeloVpn.Service
open Runs

/-- A launch uses a template fetched for this many `start()` calls from this
address, and the config file ends with it. -/
def Act.Fetched (starts : ℕ) (url : QString) (a : Act) : Prop :=
  ∀ launch ∈ a.launch, ∃ template ∈ launch.2, template.request.issue = starts ∧
    template.request.url = url ∧
    QString.toLatin1 (OpenvpnManager.filteredLines template.bytes) <:+ launch.1

/-- No launch and no `stop()`. -/
def Act.Quiet (a : Act) : Prop := a.launch = none ∧ a ≠ .stopped

theorem Act.Quiet.fetched {a : Act} (h : a.Quiet) (starts : ℕ) (url : QString) :
    a.Fetched starts url := by
  intro launch hlaunch
  rw [h.1] at hlaunch
  cases hlaunch

namespace Control

/-- Every request was made for one of the `start()` calls, and one for the last of
them is for its address. -/
def Timely (host : Host) (c : Control) : Prop :=
  ∀ r ∈ c.requests, r.issue ≤ c.starts ∧
    (r.issue = c.starts → r.url = host.urlFromUserInput c.mTemplateUrl)

variable {host : Host} {c : Control}

theorem Timely.setState (st : VpnState) (now : ℤ) (ht : c.Timely host) :
    (c.setState st now).Timely host := by
  unfold Control.setState
  split
  · exact ht
  · exact ht

/-- Where `startConnecting` asks for the address of the last `start()`, requests
stay timely. -/
theorem Timely.move {A : Allowed} (hasks : ∀ c r, A.connect c r → c.Asks host r) {c' : Control}
    (hm : Move A c c') (ht : c.Timely host) : c'.Timely host := by
  cases hm with
  | plain a h => exact ht
  | leave st now _ => exact ht.setState st now
  | promote now _ => exact ht.setState .connecting now
  | connect now r h =>
    intro r' hr'
    rcases List.mem_append.mp hr' with hold | hnew
    · exact ht.setState .connecting now r' hold
    · obtain rfl := List.mem_singleton.mp hnew
      obtain ⟨-, hissue, hurl⟩ := hasks _ _ h
      exact ⟨hissue.le, fun _ => hurl⟩
  | attempt url =>
    intro r hr
    have hle := (ht r hr).1
    exact ⟨Nat.le_succ_of_le hle, fun hissue => absurd hissue (Nat.ne_of_lt (Nat.lt_succ_of_le hle))⟩
  | exiting now => exact Timely.setState (c := c.arm) .connecting now ht
  | arm => exact ht
  | timer => exact ht
  | word word => exact ht
  | processError => exact ht
  | opened => exact ht
  | closed _ _ _ => exact ht
  | gaveUp now _ => exact ht
  | launched args config template _ => exact ht

section
variable {P : Act → Prop} {base : List Act}

theorem adds_setState (st : VpnState) (now : ℤ) (hentered : P (.entered st now))
    (hemitted : P (.emitted (.stateChanged st))) (h : Adds P base c.history) :
    Adds P base (c.setState st now).history := by
  unfold Control.setState
  split
  · exact (h.cons hentered).cons hemitted
  · exact h

/-- Moves only add to the history, and only a launch adds one. -/
theorem adds_move {A : Allowed} (hother : ∀ a : Act, a.launch = none → P a)
    (hlaunch : A.launch → ∀ args config template, P (.launched args config template))
    {c' : Control} (hm : Move A c c') (h : Adds P base c.history) : Adds P base c'.history := by
  have hset : ∀ {d : Control} st now, Adds P base d.history →
      Adds P base (d.setState st now).history :=
    fun st now h => adds_setState st now (hother _ rfl) (hother _ rfl) h
  cases hm with
  | plain a ha =>
    refine h.cons (hother a ?_)
    cases a <;> first | rfl | exact absurd ha id
  | leave st now _ => exact hset st now h
  | promote now _ => exact hset .connecting now h
  | connect now r _ => exact (hset .connecting now h).cons (hother _ rfl)
  | attempt url => exact h
  | exiting now => exact hset (d := c.arm) .connecting now h
  | arm => exact h
  | timer => exact h
  | word word => exact h.cons (hother _ rfl)
  | processError => exact (h.cons (hother _ rfl)).cons (hother _ rfl)
  | opened => exact h.cons (hother _ rfl)
  | closed _ _ _ => exact h
  | gaveUp now _ => exact h.cons (hother _ rfl)
  | launched args config template hl => exact h.cons (hlaunch hl args config template)

end

/-- Any number of moves adds to the history. -/
theorem adds_of_moves {A : Allowed} {c' : Control} (hm : Moves A c c') :
    Adds (fun _ => True) c.history c'.history :=
  Moves.invariant (P := fun c' => Adds (fun _ => True) c.history c'.history)
    (fun _ _ => adds_move (fun _ _ => trivial) fun _ _ _ _ => trivial) hm (.refl _ _)

/-- Moves that may not launch add no launch. -/
theorem adds_none_of_moves {A : Allowed} (hl : ¬A.launch) {c' : Control} (hm : Moves A c c') :
    Adds (fun a => a.launch = none) c.history c'.history :=
  Moves.invariant (P := fun c' => Adds (fun a => a.launch = none) c.history c'.history)
    (fun _ _ => adds_move (fun _ h => h) fun h => absurd h hl) hm (.refl _ _)

end Control

namespace OpenvpnManager
variable (host : Host) {m : OpenvpnManager} {e : Event}

/-- The request whose reply reports an error. -/
def erring (m : OpenvpnManager) : Callback → Option TemplateRequest
  | .templateError request => m.requests.find? fun r => r.id == request && !r.failed
  | _ => none

/-- A reply to a request from before the last `start()` launches nothing and stops
nothing, and every launch uses a template the last `start()` asked for. -/
def Honoured (m : OpenvpnManager) (e : Event) : Prop :=
  (∀ r, r ∈ m.erring e.callback ∨ r ∈ m.finishing e.callback → r.issue < m.starts →
    ∀ a ∈ acts host m e, a.Quiet) ∧
  ∀ a ∈ acts host m e, a.Fetched m.starts (host.urlFromUserInput m.mTemplateUrl)

/-- A reply that errs or comes back failed is one to the last `start()`; so is one
that launches, and the template found under the key of the moment was asked for by
the last `start()`, too. -/
def ReplyTimely (m : OpenvpnManager) (e : Event) : Prop :=
  (∀ r ∈ m.erring e.callback, r.issue = m.starts) ∧
  ∀ r ∈ m.finishing e.callback,
    if r.failed then r.issue = m.starts
    else e.world.configOpens = true →
      (r.serverKey = m.currentKey ∨ (m.mOvpnTemplate m.currentKey).isSome = true) →
      (host.platform = .windows ∨ e.world.launchFailure = none) →
      r.issue = m.starts ∧ (r.serverKey = m.currentKey ∨
        ∃ template ∈ m.mOvpnTemplate m.currentKey, template.request.issue = m.starts ∧
          template.request.url = host.urlFromUserInput m.mTemplateUrl)

/-- What a callback takes off leaves the requests timely. -/
theorem taken_timely (ht : m.control.Timely host) : (m.taken e.callback).Timely host := by
  cases e.callback with
  | templateError request =>
    intro r hr
    obtain ⟨r', hr', rfl⟩ := List.mem_map.mp hr
    split_ifs
    · exact ht r' hr'
    · exact ht r' hr'
  | templateFinished request bytes => exact fun r hr => ht r (List.mem_of_mem_eraseP hr)
  | _ => exact ht

theorem step_timely (m : OpenvpnManager) (e : Event) (ht : m.control.Timely host) :
    (step host m e).control.Timely host := by
  exact Moves.invariant (fun _ _ hm ht => ht.move (fun _ _ hasks => hasks) hm)
    (step_moves host m (permits_asks host m)) (taken_timely host ht)

theorem erring_mem {r : TemplateRequest} (hr : r ∈ m.erring e.callback) : r ∈ m.requests := by
  obtain ⟨w, callback⟩ := e
  cases callback with
  | templateError request => exact List.mem_of_find?_eq_some hr
  | _ => cases hr

theorem finishing_mem {r : TemplateRequest} (hr : r ∈ m.finishing e.callback) :
    r ∈ m.requests := by
  obtain ⟨w, callback⟩ := e
  cases callback with
  | templateFinished request bytes => exact List.mem_of_find?_eq_some hr
  | _ => cases hr

theorem step_of_erring {r : TemplateRequest} (hr : r ∈ m.erring e.callback) :
    m.finishing e.callback = none ∧ ∃ request, step host m e =
      (failRequest request { m with asked := 0 }).getTemplateError host e.world r := by
  obtain ⟨w, callback⟩ := e
  cases callback with
  | templateError request =>
    have hfind : m.requests.find? (fun r => r.id == request && !r.failed) = some r := hr
    refine ⟨rfl, request, ?_⟩
    simp only [step, deliver, hfind]
  | _ => cases hr

theorem step_of_finishing {r : TemplateRequest} (hr : r ∈ m.finishing e.callback) :
    m.erring e.callback = none ∧ ∃ request bytes, step host m e =
      (takeRequest request { m with asked := 0 }).getTemplateFinished host e.world r bytes := by
  obtain ⟨w, callback⟩ := e
  cases callback with
  | templateFinished request bytes =>
    have hfind : m.requests.find? (·.id == request) = some r := hr
    refine ⟨rfl, request, bytes, ?_⟩
    simp only [step, deliver, hfind]
  | _ => cases hr

/-- An event that ends in `stop()` stops. -/
theorem stopped_mem_acts {m' : OpenvpnManager} {w : World}
    (hstep : step host m e = m'.stop host w) (hbefore : ∃ acts, m'.history = acts ++ m.history) :
    Act.stopped ∈ acts host m e := by
  obtain ⟨before, hbefore⟩ := hbefore
  obtain ⟨after, hafter, -⟩ :=
    Control.adds_of_moves (moves_stop_noted (A := Allowed.any) host w m')
  have hhistory : (step host m e).history = (after ++ .stopped :: before) ++ m.history := by
    rw [hstep]
    change (m'.stop host w).history = after ++ .stopped :: m'.history at hafter
    rw [hafter, hbefore, List.append_assoc, List.cons_append]
  rw [acts_eq host hhistory]
  exact List.mem_append_right _ List.mem_cons_self

theorem stopped_of_erring {r : TemplateRequest} (hr : r ∈ m.erring e.callback) :
    Act.stopped ∈ acts host m e := by
  obtain ⟨-, request, hstep⟩ := step_of_erring host hr
  exact stopped_mem_acts host hstep ⟨[.emitted _], rfl⟩

theorem stopped_of_failed {r : TemplateRequest} (hr : r ∈ m.finishing e.callback)
    (hfailed : r.failed = true) : Act.stopped ∈ acts host m e := by
  obtain ⟨-, request, bytes, hstep⟩ := step_of_finishing host hr
  rw [getTemplateFinished, hfailed, if_pos rfl] at hstep
  exact stopped_mem_acts host hstep ⟨[], rfl⟩

/-- Without a reply that succeeds nothing is launched. -/
theorem acts_of_no_success (h : ∀ r ∈ m.finishing e.callback, r.failed = true) :
    ∀ a ∈ acts host m e, a.launch = none := by
  have hpermits : Permits host { Allowed.any with launch := False } m e :=
    { connect := fun _ _ _ => trivial
      lines := fun _ _ _ _ => meets_of_forall (fun _ _ _ _ _ => trivial) _ _
      tick := fun _ _ _ _ => trivial
      launch := fun r hr hsuccess => absurd (h r hr) (by rw [hsuccess]; decide)
      close := fun _ _ => trivial }
  obtain ⟨new, hnew, hall⟩ := Control.adds_none_of_moves (A := { Allowed.any with launch := False })
    id (step_moves host m hpermits)
  rw [taken_history] at hnew
  rw [acts_eq host hnew]
  exact hall

/-- The manager with the template of a successful reply in the cache, as
`continueConnecting` finds it. -/
def supplied (m : OpenvpnManager) (r : TemplateRequest) (request : ℕ) (bytes : QByteArray) :
    OpenvpnManager :=
  (takeRequest request { m with asked := 0 }).insertTemplate r.serverKey ⟨bytes, r⟩

theorem step_of_success {r : TemplateRequest} (hr : r ∈ m.finishing e.callback)
    (hsuccess : r.failed = false) : ∃ request bytes,
      step host m e = (m.supplied r request bytes).continueConnecting host e.world := by
  obtain ⟨-, request, bytes, hstep⟩ := step_of_finishing host hr
  rw [getTemplateFinished, hsuccess, if_neg Bool.false_ne_true] at hstep
  exact ⟨request, bytes, hstep⟩

/-- The template under the key of the moment, the reply's own where the keys agree. -/
theorem supplied_template (m : OpenvpnManager) (r : TemplateRequest) (request : ℕ)
    (bytes : QByteArray) :
    (m.supplied r request bytes).mOvpnTemplate (m.supplied r request bytes).currentKey =
      if m.currentKey = r.serverKey then some ⟨bytes, r⟩ else m.mOvpnTemplate m.currentKey := rfl

theorem canLaunch_supplied (m : OpenvpnManager) (w : World) (r : TemplateRequest) (request : ℕ)
    (bytes : QByteArray) : (m.supplied r request bytes).CanLaunch host w ↔
      w.configOpens = true ∧
        (r.serverKey = m.currentKey ∨ (m.mOvpnTemplate m.currentKey).isSome = true) ∧
        (host.platform = .windows ∨ w.launchFailure = none) := by
  rw [CanLaunch, writeConfigFile_fst, Bool.and_eq_true, supplied_template, and_assoc]
  refine and_congr_right fun _ => and_congr_left fun _ => ?_
  by_cases hkey : m.currentKey = r.serverKey
  · simp [hkey]
  · simp [hkey, Ne.symm hkey]

/-- A reply that finds nothing to launch with only reports an error. -/
theorem quiet_of_fails {m' : OpenvpnManager} {w : World}
    (hstep : step host m e = m'.continueConnecting host w) (hhistory : m'.history = m.history)
    (hfails : ¬m'.CanLaunch host w) : ∀ a ∈ acts host m e, a.Quiet := by
  have herror : ∀ text, Adds Act.Quiet m.history
      (m'.control.note (.emitted (.sendError text))).history := by
    intro text
    rw [← hhistory]
    exact (Adds.refl Act.Quiet m'.history).cons ⟨rfl, nofun⟩
  have hadds : Adds Act.Quiet m.history (step host m e).control.history := by
    rw [hstep]
    obtain ⟨text, now, hkept | hleft⟩ := continueConnecting_fails host w m' hfails
    · rw [hkept]
      exact herror text
    · rw [hleft]
      exact Control.adds_setState .disconnected now ⟨rfl, nofun⟩ ⟨rfl, nofun⟩ (herror text)
  obtain ⟨new, hnew, hquiet⟩ := hadds
  rw [acts_eq host hnew]
  exact hquiet

/-- A reply that launches does so once, with the template of the moment. -/
theorem launch_of_launches {m' : OpenvpnManager} {w : World}
    (hstep : step host m e = m'.continueConnecting host w) (hhistory : m'.history = m.history)
    (hlaunches : m'.CanLaunch host w) : ∃ dns template,
      m'.mOvpnTemplate m'.currentKey = some template ∧
      (∃ a ∈ acts host m e, a.launch =
        some (dns ++ QString.toLatin1 (filteredLines template.bytes), some template)) ∧
      ∀ a ∈ acts host m e, ∀ launch ∈ a.launch,
        launch = (dns ++ QString.toLatin1 (filteredLines template.bytes), some template) := by
  obtain ⟨-, template, htemplate, dns, hdata⟩ := writeConfigFile_written host w m' hlaunches.1
  have hlaunch := continueConnecting_launches (A := { Allowed.any with launch := False })
    host w m' hlaunches
  rw [hdata, ← hstep] at hlaunch
  obtain ⟨args, c₁, hbefore, hafter⟩ := hlaunch
  obtain ⟨before, hbefore, hnone⟩ := Control.adds_none_of_moves id hbefore
  obtain ⟨after, hafter, hnone'⟩ := Control.adds_none_of_moves id hafter
  set a₀ : Act := .launched args (dns ++ QString.toLatin1 (filteredLines template.bytes))
    (some template) with ha₀
  have hacts : acts host m e = after ++ a₀ :: before := by
    refine acts_eq host ?_
    have hnew : (step host m e).history = after ++ (a₀ :: c₁.history) := hafter
    have hold : c₁.history = before ++ m.history := hbefore.trans (by rw [← hhistory]; rfl)
    rw [hnew, hold, List.append_assoc, List.cons_append]
  refine ⟨dns, template, htemplate, ⟨a₀, ?_, rfl⟩, fun a ha launch hlaunch => ?_⟩
  · rw [hacts]
    exact List.mem_append_right _ List.mem_cons_self
  · rw [hacts] at ha
    rcases List.mem_append.mp ha with hlater | hearlier
    · rw [hnone' a hlater] at hlaunch
      cases hlaunch
    · rcases List.mem_cons.mp hearlier with rfl | hearlier
      · exact (Option.some.inj hlaunch).symm
      · rw [hnone a hearlier] at hlaunch
        cases hlaunch

/-- A reply that ends in `stop()` is honoured exactly when it is one to the last
`start()`. -/
theorem honoured_iff_of_stopped {r : TemplateRequest} (hle : r.issue ≤ m.starts)
    (hreply : ∀ r', r' ∈ m.erring e.callback ∨ r' ∈ m.finishing e.callback ↔ r' = r)
    (hstopped : Act.stopped ∈ acts host m e) (hnone : ∀ a ∈ acts host m e, a.launch = none) :
    Honoured host m e ↔ r.issue = m.starts := by
  constructor
  · rintro ⟨hinert, -⟩
    by_contra hne
    exact (hinert r ((hreply r).mpr rfl) (Nat.lt_of_le_of_ne hle hne) _ hstopped).2 rfl
  · intro hissue
    refine ⟨fun r' hr' hlt => ?_, fun a ha launch hlaunch => ?_⟩
    · obtain rfl := (hreply r').mp hr'
      exact absurd hissue (Nat.ne_of_lt hlt)
    · rw [hnone a ha] at hlaunch
      cases hlaunch

/-- A reply that launches is honoured exactly when it and the template of the
moment were asked for by the last `start()`. -/
theorem honoured_iff_of_launch {r : TemplateRequest} {dns : QByteArray} {template : Template}
    (hle : r.issue ≤ m.starts) (herring : m.erring e.callback = none)
    (hreply : m.finishing e.callback = some r)
    (hsome : ∃ a ∈ acts host m e, a.launch =
      some (dns ++ QString.toLatin1 (filteredLines template.bytes), some template))
    (hall : ∀ a ∈ acts host m e, ∀ launch ∈ a.launch,
      launch = (dns ++ QString.toLatin1 (filteredLines template.bytes), some template)) :
    Honoured host m e ↔ r.issue = m.starts ∧ template.request.issue = m.starts ∧
      template.request.url = host.urlFromUserInput m.mTemplateUrl := by
  obtain ⟨a₀, ha₀, hlaunch₀⟩ := hsome
  constructor
  · rintro ⟨hinert, hfetched⟩
    obtain ⟨t, ht, hissue, hurl, -⟩ := hfetched a₀ ha₀ _ hlaunch₀
    obtain rfl := Option.some.inj ht
    refine ⟨?_, hissue, hurl⟩
    by_contra hne
    have hquiet := hinert r (.inr hreply) (Nat.lt_of_le_of_ne hle hne) a₀ ha₀
    rw [hquiet.1] at hlaunch₀
    cases hlaunch₀
  · rintro ⟨hissue, hmade, hurl⟩
    refine ⟨fun r' hr' hlt => ?_, fun a ha launch hlaunch => ?_⟩
    · rw [herring, hreply] at hr'
      obtain rfl := Option.some.inj (hr'.resolve_left nofun)
      exact absurd hissue (Nat.ne_of_lt hlt)
    · rw [hall a ha launch hlaunch]
      exact ⟨template, rfl, hmade, hurl, List.suffix_append _ _⟩

theorem honoured_iff_of_success (ht : m.control.Timely host) {r : TemplateRequest}
    (herring : m.erring e.callback = none) (hreply : m.finishing e.callback = some r)
    (hsuccess : r.failed = false) : Honoured host m e ↔ ReplyTimely host m e := by
  obtain ⟨hle, hurl⟩ := ht r (finishing_mem hreply)
  obtain ⟨request, bytes, hstep⟩ := step_of_success host hreply hsuccess
  have hcan := canLaunch_supplied host m e.world r request bytes
  have htimely : ReplyTimely host m e ↔ (e.world.configOpens = true →
      (r.serverKey = m.currentKey ∨ (m.mOvpnTemplate m.currentKey).isSome = true) →
      (host.platform = .windows ∨ e.world.launchFailure = none) →
      r.issue = m.starts ∧ (r.serverKey = m.currentKey ∨
        ∃ template ∈ m.mOvpnTemplate m.currentKey, template.request.issue = m.starts ∧
          template.request.url = host.urlFromUserInput m.mTemplateUrl)) := by
    simp [ReplyTimely, herring, hreply, hsuccess]
  rw [htimely]
  by_cases hlaunches : (m.supplied r request bytes).CanLaunch host e.world
  · obtain ⟨dns, template, htemplate, hsome, hall⟩ := launch_of_launches host hstep rfl hlaunches
    obtain ⟨hopens, hfound, hexception⟩ := hcan.mp hlaunches
    rw [honoured_iff_of_launch host hle herring hreply hsome hall]
    rw [supplied_template] at htemplate
    simp only [hopens, hfound, hexception, true_imp_iff]
    refine and_congr_right fun hissue => ?_
    by_cases hkey : m.currentKey = r.serverKey
    · rw [if_pos hkey] at htemplate
      obtain rfl := Option.some.inj htemplate
      exact iff_of_true ⟨hissue, hurl hissue⟩ (.inl hkey.symm)
    · rw [if_neg hkey] at htemplate
      simp [htemplate, Ne.symm hkey]
  · have hquiet := quiet_of_fails host hstep rfl hlaunches
    exact iff_of_true ⟨fun _ _ _ => hquiet, fun a ha => (hquiet a ha).fetched _ _⟩
      fun hopens hfound hexception => absurd (hcan.mpr ⟨hopens, hfound, hexception⟩) hlaunches

theorem honoured_iff_replyTimely (m : OpenvpnManager) (e : Event) (ht : m.control.Timely host) :
    Honoured host m e ↔ ReplyTimely host m e := by
  cases herring : m.erring e.callback with
  | some r =>
    have hfinishing := (step_of_erring host herring).1
    rw [honoured_iff_of_stopped host (ht r (erring_mem herring)).1 ?_
      (stopped_of_erring host herring) (acts_of_no_success host (by rw [hfinishing]; exact nofun))]
    · simp [ReplyTimely, herring, hfinishing]
    · simp [herring, hfinishing, eq_comm]
  | none =>
    cases hfinishing : m.finishing e.callback with
    | none =>
      have hnone := acts_of_no_success host (by rw [hfinishing]; exact nofun)
      refine iff_of_true ⟨?_, fun a ha launch hlaunch => ?_⟩ ?_
      · simp [herring, hfinishing]
      · rw [hnone a ha] at hlaunch
        cases hlaunch
      · simp [ReplyTimely, herring, hfinishing]
    | some r =>
      cases hfailed : r.failed with
      | true =>
        rw [honoured_iff_of_stopped host (ht r (finishing_mem hfinishing)).1 ?_
          (stopped_of_failed host hfinishing hfailed)
          (acts_of_no_success host (by simpa [hfinishing] using hfailed))]
        · simp [ReplyTimely, herring, hfinishing, hfailed]
        · simp [herring, hfinishing, eq_comm]
      | false => exact honoured_iff_of_success host ht herring hfinishing hfailed

/-- Superseded replies stay inert along a run exactly when every reply with an
effect is timely. -/
theorem replies_inert_iff (u : Indeterminate) (es : List Event) :
    Meets (step host) (Honoured host) (initial u) es ↔
      Meets (step host) (ReplyTimely host) (initial u) es :=
  meets_congr (I := fun m => m.control.Timely host) (step_timely host)
    (honoured_iff_replyTimely host) nofun

/-- The error of a request the user has moved on from stops the newer attempt. -/
theorem inert_fails_of_superseded_error :
    ¬∀ (host : Host) (u : Indeterminate) (es : List Event),
      Meets (step host) (Honoured host) (initial u) es := by
  intro h
  have herror : Honoured (.on .linux) _ _ := (h (.on .linux) .zero
    [⟨.quiet 0, .connectionOpened⟩,
      ⟨.quiet 1000, .send 0 (startObject 7 "1194" "template 7")⟩,
      ⟨.quiet 2000, .send 0 (startObject 8 "1194" "template 8")⟩,
      ⟨.quiet 3000, .templateError 0⟩]).2.2.2.1
  exact (herror.1 ⟨0, 71, "template 7".toList, 1, false⟩
    (.inl (by decide +kernel)) (by decide +kernel) .stopped (by decide +kernel)).2 rfl

end OpenvpnManager
end CeloVpn.Service
