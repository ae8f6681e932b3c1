import CeloVpn.Service.Settings

/-!
# Whether the network is down

`mNetDown` is set where `netDown` switches an interface, up or down, and is cleared
nowhere. What it is asked for is another matter: whether the interfaces were switched
down last.
-/
namespace CeloVpn.Service
open Runs

/-- The manager, with the argument of the last `netDown` and whether any `netDown` so
far has switched an interface. -/
structure NetSession where
  manager : OpenvpnManager
  lastDown : Option Bool
  switched : Bool

namespace OpenvpnManager

/-- The argument with which an event calls `netDown`. -/
def netDownCall (m : OpenvpnManager) : Callback → Option Bool
  | .command client _ jObj =>
    if m.connections.any (·.id == client) then
      if (jObj.value "cmd".toList).toInt = cmdNetdown then some true
      else if (jObj.value "cmd".toList).toInt = cmdStart then some false
      else none
    else none
  | _ => none

/-- The flag after an event: a call may set it, and nothing clears it. -/
theorem step_mNetDown (host : Host) (m : OpenvpnManager) (e : Event) :
    (m.step host e).mNetDown =
      (m.mNetDown || (m.netDownCall e.callback).any (switchesNetwork host e.world)) := by
  obtain ⟨w, callback⟩ := e
  refine (congrArg Settings.mNetDown (step_settings host m ⟨w, callback⟩)).trans ?_
  cases callback with
  | command client line jObj =>
    simp only [settingsAfter, netDownCall, Settings.command]
    split_ifs with hopen hset hdown hstart
    · rw [hset] at hdown
      exact absurd hdown (by decide)
    · rw [hset] at hstart
      exact absurd hstart (by decide)
    · exact (Bool.or_false _).symm
    · rfl
    · rfl
    · exact (Bool.or_false _).symm
    · exact (Bool.or_false _).symm
  | logFileChanged content =>
    simp only [settingsAfter, netDownCall, Option.any_none, Bool.or_false]
    split_ifs
    · obtain ⟨port, hport⟩ := Settings.foldl_readLine (m.logLines content) m.settings
      rw [hport]
      rfl
    · rfl
  | _ => exact (Bool.or_false _).symm

/-- A RESOLVE line with which `stop()` is called. -/
def AbortsAt (host : Host) (w : World) (m : OpenvpnManager) (s : QString) : Prop :=
  (∃ word, stateWordOf s = some word ∧ word.equalsFolded "RESOLVE".toList = true) ∧
    ∃ new, (m.parseSocketLine host w s).history = new ++ m.history ∧ .stopped ∈ new

/-- What a RESOLVE line does while the flag is clear. -/
theorem resolve_history (host : Host) (w : World) {m : OpenvpnManager} {s word : QString}
    (hs : stateWordOf s = some word) (hword : word.equalsFolded "RESOLVE".toList = true)
    (h : m.mNetDown = false) : (m.parseSocketLine host w s).history =
      [.stateWord word, .emitted (.stateWordChanged .resolve)] ++ m.history := by
  have hother : ∀ known : QString, QString.equalsFolded "RESOLVE".toList known = false →
      word.equalsFolded known = false := by
    intro known hknown
    rw [QString.equalsFolded_congr hword, hknown]
  have hact : ∀ (m' : OpenvpnManager) (isnew : Bool), m'.mNetDown = false →
      m'.actOnStateWord host w isnew word s = m'.emit (.stateWordChanged .resolve) := by
    intro m' isnew hm'
    unfold actOnStateWord
    simp only [hword, hother "CONNECTED".toList (by decide), hother "CONNECTING".toList (by decide),
      hother "TCP_CONNECT".toList (by decide), hother "WAIT".toList (by decide),
      hother "EXITING".toList (by decide), hother "RECONNECTING".toList (by decide),
      hother "AUTH".toList (by decide), hother "GET_CONFIG".toList (by decide),
      hother "ASSIGN_IP".toList (by decide), hother "TCP_CONNECT'".toList (by decide),
      Bool.or_false, Bool.false_eq_true, if_false, if_true]
    exact if_neg (by rw [show (m'.emit _).mNetDown = m'.mNetDown from rfl, hm']; decide)
  have hremembered : ∀ (m' : OpenvpnManager) (isnew : Bool), m'.mNetDown = false →
      (note { m'.actOnStateWord host w isnew word s with mPreviousStateWord := word }
        (.stateWord word)).history =
          [.stateWord word, .emitted (.stateWordChanged .resolve)] ++ m'.history := by
    intro m' isnew hm'
    rw [hact m' isnew hm']
    rfl
  rw [parseSocketLine_of_stateWord host w m hs, parseSocketStateWord]
  split_ifs
  · exact hremembered ((m.serviceLog _).serviceLog _) _ h
  · exact hremembered m _ h

theorem mNetDown_of_abortsAt {host : Host} {w : World} {m : OpenvpnManager} {s : QString}
    (h : AbortsAt host w m s) : m.mNetDown = true := by
  obtain ⟨⟨word, hs, hword⟩, new, hnew, hstopped⟩ := h
  cases hdown : m.mNetDown with
  | true => rfl
  | false =>
    rw [resolve_history host w hs hword hdown] at hnew
    rw [← List.append_cancel_right hnew] at hstopped
    simp at hstopped

end OpenvpnManager

namespace NetSession
variable (host : Host)

def step (t : NetSession) (e : Event) : NetSession where
  manager := t.manager.step host e
  lastDown := (t.manager.netDownCall e.callback).or t.lastDown
  switched := t.switched ||
    (t.manager.netDownCall e.callback).any (switchesNetwork host e.world)

def initial (u : Indeterminate) : NetSession := ⟨.initial u, none, false⟩

/-- The flag is set only while the interfaces were last switched down. -/
def Honest (t : NetSession) : Prop := t.manager.mNetDown = true → t.lastDown = some true

/-- A RESOLVE line aborts an attempt only then. -/
def AbortsDown (t : NetSession) (e : Event) : Prop :=
  OpenvpnManager.LinesMeet host
    (fun m s => OpenvpnManager.AbortsAt host e.world m s → t.lastDown = some true) t.manager e

/-- A start finds that no `netDown` has switched an interface, and switches none. -/
def StartsUp (t : NetSession) (e : Event) : Prop :=
  t.manager.netDownCall e.callback = some false →
    t.switched = false ∧ switchesNetwork host e.world false = false

theorem step_flag (t : NetSession) (e : Event) (h : t.manager.mNetDown = t.switched) :
    (t.step host e).manager.mNetDown = (t.step host e).switched := by
  rw [step, OpenvpnManager.step_mNetDown, h]

theorem step_honest_iff (t : NetSession) (e : Event) (h : t.manager.mNetDown = t.switched)
    (hhonest : t.Honest) : (t.step host e).Honest ↔ t.StartsUp host e := by
  rw [Honest, step_flag host t e h, StartsUp]
  unfold step
  dsimp only
  cases hcall : t.manager.netDownCall e.callback with
  | none =>
    rw [Honest, h] at hhonest
    simpa using hhonest
  | some down =>
    cases down with
    | true => simp
    | false => simp

/-- The flag is clear or was rightly set at every line of an event that finds it so. -/
theorem Honest.abortsDown {t : NetSession} (e : Event) (h : t.Honest) : t.AbortsDown host e := by
  intro bytes hbytes socket hsocket
  refine Throughout.meets (P := fun m => OpenvpnManager.mNetDown m = t.manager.mNetDown) ?_ ?_
  · intro m s hm habort
    exact h (hm ▸ OpenvpnManager.mNetDown_of_abortsAt habort)
  · refine throughout_of_forall (C := fun _ => True) (fun m s _ hm => ?_) ?_ fun _ _ => trivial
    · exact (congrArg Settings.mNetDown
        ((OpenvpnManager.Keeps.refl m).parseSocketLine host e.world s).1).trans hm
    · exact congrArg Settings.mNetDown ((OpenvpnManager.Keeps.refl _).readSocket _).1

/-- In every run, the flag means that the network was last switched down, and a RESOLVE
line aborts only then, exactly when every start finds that no `netDown` has switched an
interface and switches none itself. -/
theorem netDown_honest_iff (u : Indeterminate) (es : List Event) :
    (Throughout (step host) Honest (initial u) es ∧
      Meets (step host) (AbortsDown host) (initial u) es) ↔
        Meets (step host) (StartsUp host) (initial u) es := by
  have hiff : Throughout (step host) Honest (initial u) es ↔
      Meets (step host) (StartsUp host) (initial u) es :=
    throughout_iff_meets (step_flag host) (step_honest_iff host) rfl nofun
  rw [← hiff]
  exact and_iff_left_of_imp fun h => h.meets fun t e ht => ht.abortsDown host e

/-- The network is switched off, and a start does not clear the flag. -/
theorem netDown_stale_after_start : ¬ ∀ (host : Host) (u : Indeterminate) (es : List Event),
    Throughout (step host) Honest (initial u) es ∧
      Meets (step host) (AbortsDown host) (initial u) es := by
  intro h
  have hlast := (h (.on .linux) .zero
    [⟨.quiet 0, .connectionOpened⟩, ⟨.quiet 0, .send 0 [("cmd".toList, .ofInt cmdNetdown)]⟩,
      ⟨.quiet 0, .send 0 (startObject 7 "443" "celo.example/7.ovpn")⟩]).1.last
  exact absurd (hlast (by decide +kernel)) (by decide +kernel)

end NetSession
end CeloVpn.Service
