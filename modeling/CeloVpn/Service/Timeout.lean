import CeloVpn.Service.Simulation

/-!
# How long an attempt may last

`checkState` compares the clock with a stamp that `continueConnecting` wrote,
not with the moment the manager became connecting. An attempt gets its full
period as long as that stamp is no older than the attempt, and the clock has not
been set back behind it.
-/
namespace CeloVpn.Service
open Runs

/-- The clock reading at which the manager last became connecting. -/
def becameConnecting : List Act → Option ℤ
  | [] => none
  | .entered .connecting now :: _ => some now
  | _ :: older => becameConnecting older

/-- The clock reading of an attempt given up. -/
def Act.gaveUpAt : Act → Option ℤ
  | .gaveUp now => some now
  | _ => none

namespace OpenvpnManager

/-- Giving up at a reading comes more than the period, in milliseconds, after the
manager became connecting. -/
def FullPeriod (older : List Act) (now : ℤ) : Prop :=
  ∃ became ∈ becameConnecting older, kTryNextPortSeconds * 1000 < now - became

instance (older : List Act) (now : ℤ) : Decidable (FullPeriod older now) :=
  inferInstanceAs (Decidable (∃ became ∈ becameConnecting older, _ < now - became))

/-- No attempt of the history was given up early. -/
def Patient : List Act → Prop :=
  AtEach fun a older => ∀ now ∈ a.gaveUpAt, FullPeriod older now

instance : DecidablePred Patient := fun h => decidableAtEach h

/-- The stamp belongs to the attempt, and the clock stands after it. Both count
in whole seconds. -/
def Stamped (m : OpenvpnManager) (now : ℤ) : Prop :=
  ∀ stamp ∈ m.mStartDateTime, ∀ became ∈ becameConnecting m.history,
    became < stamp + 1000 ∧ stamp < now + 1000

instance (m : OpenvpnManager) (now : ℤ) : Decidable (Stamped m now) :=
  inferInstanceAs (Decidable (∀ stamp ∈ m.mStartDateTime, ∀ became ∈ becameConnecting m.history,
    became < stamp + 1000 ∧ stamp < now + 1000))

/-- Where the clock stands after the stamp, more than the period in whole seconds
is more than the period. -/
theorem secondsSince_gt_iff {stamp now : ℤ} (hback : stamp < now + 1000)
    (hwrap : now - stamp < 4294967296000) :
    secondsSince (some stamp) now > kTryNextPortSeconds ↔
      (kTryNextPortSeconds + 1) * 1000 ≤ now - stamp := by
  unfold secondsSince kTryNextPortSeconds
  dsimp only
  rcases le_or_gt 0 (now - stamp) with hpos | hneg
  · rw [Int.tdiv_eq_ediv_of_nonneg hpos]
    omega
  · have hflip : Int.tdiv (now - stamp) 1000 = -((stamp - now) / 1000) := by
      rw [← Int.tdiv_eq_ediv_of_nonneg (by omega), ← Int.neg_tdiv, Int.neg_sub]
    rw [hflip]
    omega

/-- A reading further ahead than 32 bits of seconds counts less, never more. -/
theorem secondsSince_gt {stamp now : ℤ} (hback : stamp < now + 1000)
    (hlong : secondsSince (some stamp) now > kTryNextPortSeconds) :
    (kTryNextPortSeconds + 1) * 1000 ≤ now - stamp := by
  rcases lt_or_ge (now - stamp) 4294967296000 with hnear | hfar
  · exact (secondsSince_gt_iff hback hnear).mp hlong
  · exact le_trans (by decide) hfar

/-- A stamp lets every later reading have its full period exactly when it is not
a second or more older than the attempt. -/
theorem fullPeriod_of_every_reading_iff (stamp became : ℤ) :
    (∀ now, stamp < now + 1000 → secondsSince (some stamp) now > kTryNextPortSeconds →
      kTryNextPortSeconds * 1000 < now - became) ↔ became < stamp + 1000 := by
  constructor
  · intro h
    have hfirst := h (stamp + 61000) (by omega)
      ((secondsSince_gt_iff (by omega) (by omega)).mpr (by simp [kTryNextPortSeconds]))
    simp only [kTryNextPortSeconds] at hfirst
    omega
  · intro hfresh now hback hlong
    have hreached := secondsSince_gt hback hlong
    simp only [kTryNextPortSeconds] at hreached ⊢
    omega

end OpenvpnManager

namespace Control

/-- A connecting manager remembers when it became so. -/
def Dated (c : Control) : Prop :=
  c.mState = .connecting → ∃ became, becameConnecting c.history = some became

theorem becameConnecting_plain {a : Act} (h : a.Plain) (older : List Act) :
    becameConnecting (a :: older) = becameConnecting older := by
  cases a <;> first | rfl | exact absurd h id

theorem Dated.setState {c : Control} (st : VpnState) (now : ℤ) (hd : c.Dated) :
    (c.setState st now).Dated := by
  unfold Control.setState
  split
  · intro hst
    refine ⟨now, ?_⟩
    change st = .connecting at hst
    rw [hst]
    rfl
  · exact hd

theorem Dated.move {A : Allowed} {c c' : Control} (hm : Move A c c') (hd : c.Dated) :
    c'.Dated := by
  cases hm with
  | plain a h =>
    intro hst
    change ∃ became, becameConnecting (a :: c.history) = some became
    rw [becameConnecting_plain h]
    exact hd hst
  | leave st now _ => exact hd.setState st now
  | promote now _ => exact hd.setState .connecting now
  | connect now r _ => exact hd.setState .connecting now
  | attempt url => exact hd
  | exiting now => exact Dated.setState (c := c.arm) .connecting now hd
  | arm => exact hd
  | timer => exact hd
  | word word => exact hd
  | processError => exact hd
  | opened => exact hd
  | closed _ _ _ => exact hd
  | gaveUp now _ => exact hd
  | launched args config template _ => exact hd

/-- Any act but giving up keeps a history patient. -/
theorem patient_cons {a : Act} (h : a.gaveUpAt = none) {older : List Act}
    (hp : OpenvpnManager.Patient older) : OpenvpnManager.Patient (a :: older) := by
  refine ⟨fun now hnow => ?_, hp⟩
  rw [h] at hnow
  cases hnow

theorem patient_setState {c : Control} (st : VpnState) (now : ℤ)
    (hp : OpenvpnManager.Patient c.history) :
    OpenvpnManager.Patient (c.setState st now).history := by
  unfold Control.setState
  split
  · exact patient_cons rfl (patient_cons rfl hp)
  · exact hp

/-- What may be given up when only full periods are. -/
def allowedPatient : Allowed :=
  { Allowed.any with gaveUp := fun c now => OpenvpnManager.FullPeriod c.history now }

theorem patient_move {c c' : Control} (hm : Move allowedPatient c c')
    (hp : OpenvpnManager.Patient c.history) : OpenvpnManager.Patient c'.history := by
  cases hm with
  | plain a h =>
    refine patient_cons ?_ hp
    cases a <;> first | rfl | exact absurd h id
  | leave st now _ => exact patient_setState st now hp
  | promote now _ => exact patient_setState .connecting now hp
  | connect now r _ => exact patient_cons rfl (patient_setState .connecting now hp)
  | attempt url => exact hp
  | exiting now => exact patient_setState (c := c.arm) .connecting now hp
  | arm => exact hp
  | timer => exact hp
  | word word => exact patient_cons rfl hp
  | processError => exact patient_cons rfl (patient_cons rfl hp)
  | opened => exact patient_cons rfl hp
  | closed _ _ _ => exact hp
  | gaveUp now h =>
    refine ⟨fun now' hnow => ?_, hp⟩
    obtain rfl : now = now' := Option.some.inj hnow
    exact h
  | launched args config template _ => exact patient_cons rfl hp

end Control

namespace OpenvpnManager
variable (host : Host)

theorem step_dated (m : OpenvpnManager) (e : Event) (hd : m.control.Dated) :
    (step host m e).control.Dated := by
  have hstart : (m.taken e.callback).Dated := by
    rw [Control.Dated, taken_mState, taken_history]
    exact hd
  exact Moves.invariant (fun _ _ hm hc => hc.move hm)
    (step_moves host m (permits_any host m fun _ _ => trivial)) hstart

/-- A tick that compares the clock with a stamp of the attempt gives up full
periods only. -/
theorem tickMeets_fullPeriod {m : OpenvpnManager} {e : Event} (hd : m.control.Dated)
    (hstamped : TickMeets host Stamped m e) :
    TickMeets host (fun m now => secondsSince m.mStartDateTime now > kTryNextPortSeconds →
      FullPeriod m.history now) m e := by
  intro htick htimer hconnecting hlong
  set m' := polled host e.world { m with asked := 0 }
  have hdated : m'.control.Dated :=
    Moves.invariant (fun _ _ hm hc => Control.Dated.move hm hc)
      (moves_pollOpenvpn (A := Allowed.any) host e.world (serviceLog _ _) fun _ _ _ => trivial) hd
  obtain ⟨became, hbecame⟩ := hdated hconnecting
  cases hstart : m'.mStartDateTime with
  | none =>
    rw [hstart] at hlong
    exact absurd hlong (by simp [secondsSince, kTryNextPortSeconds])
  | some stamp =>
    obtain ⟨hfresh, hback⟩ :=
      hstamped htick htimer hconnecting stamp hstart became hbecame
    rw [hstart] at hlong
    exact ⟨became, hbecame, (fullPeriod_of_every_reading_iff stamp became).mpr hfresh _ hback hlong⟩

theorem step_patient {m : OpenvpnManager} {e : Event} (hstamped : TickMeets host Stamped m e)
    (hd : m.control.Dated) (hp : Patient m.history) : Patient (step host m e).history := by
  have hpermits : Permits host Control.allowedPatient m e :=
    { connect := fun _ _ _ => trivial
      lines := fun _ _ _ _ => meets_of_forall (fun _ _ _ _ _ => trivial) _ _
      tick := tickMeets_fullPeriod host hd hstamped
      launch := fun _ _ _ => trivial
      close := fun _ _ => trivial }
  refine Moves.invariant (P := fun c => Patient c.history) (fun _ _ hm hc =>
    Control.patient_move hm hc) (step_moves host m hpermits) ?_
  rw [taken_history]
  exact hp

/-- In every run whose ticks find their stamp to be one of the attempt, whatever
the clock reads, no attempt is given up before its period is over. -/
theorem run_patient (u : Indeterminate) (es : List Event)
    (h : Meets (step host) (TickMeets host Stamped) (initial u) es) :
    Patient (run (step host) (initial u) es).history := by
  have hinv : ∀ m e, TickMeets host Stamped m e → m.control.Dated ∧ Patient m.history →
      (step host m e).control.Dated ∧ Patient (step host m e).history :=
    fun m e hstamped hm => ⟨step_dated host m e hm.1, step_patient host hstamped hm.1 hm.2⟩
  have hinitial : (initial u).control.Dated ∧ Patient (initial u).history :=
    ⟨nofun, trivial⟩
  exact (run_of_meets hinv hinitial h).2

/-- An attempt nobody answers is given up after 61 seconds. -/
theorem run_patient_unanswered : ∃ es,
    Act.gaveUp 61000 ∈ (run (step (.on .linux)) (initial .zero) es).history ∧
      Patient (run (step (.on .linux)) (initial .zero) es).history :=
  ⟨[⟨.quiet 0, .connectionOpened⟩,
      ⟨.quiet 0, .send 0 (startObject 7 "443" "celo.example/7.ovpn")⟩,
      ⟨.quiet 0, .templateFinished 0 []⟩, ⟨.quiet 60000, .stateTimer⟩,
      ⟨.quiet 61000, .stateTimer⟩],
    by decide +kernel, run_patient (.on .linux) .zero _ (by decide +kernel)⟩

/-- After an hour of a session, an attempt of openvpn's own is given up within a
second: the stamp is still that of the first attempt. -/
theorem patient_fails_of_reconnecting : ¬ Patient (run (step (.on .linux)) (initial .zero)
    [⟨.quiet 0, .connectionOpened⟩,
      ⟨.quiet 0, .send 0 (startObject 7 "443" "celo.example/7.ovpn")⟩,
      ⟨.quiet 0, .templateFinished 0 []⟩,
      ⟨.busy 1000, .line "1,CONNECTED,SUCCESS,10.8.0.2,192.0.2.1"⟩,
      ⟨.busy 3600000, .line "3600,RECONNECTING,ping-restart,,"⟩,
      ⟨.busy 3601000, .stateTimer⟩]).history := by
  decide +kernel

end OpenvpnManager
end CeloVpn.Service
