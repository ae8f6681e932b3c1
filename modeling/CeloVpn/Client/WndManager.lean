import CeloVpn.Common
import Mathlib.Data.Finset.Card
import Mathlib.Logic.Function.Basic

/-!
# The screens of the desktop client

`WndManager` brings up one of the five screens and hides the one it finds visible, the
last one where there are several. Of a screen the model keeps whether it is constructed
and visible. Where it is drawn is left out, and so are the dialogs in front of it.
-/
namespace CeloVpn.Client

inductive Screen
  | connectionDialog
  | loginWindow
  | scrLogs
  | mapScreen
  | settingsScreen
  deriving DecidableEq

/-- The screens in the order in which they are looked at. -/
def Screen.all : List Screen := [connectionDialog, loginWindow, scrLogs, mapScreen, settingsScreen]

theorem Screen.mem_all (scr : Screen) : scr ∈ all := by cases scr <;> decide

structure WndManager where
  /-- Whether a screen is visible, where it is constructed. -/
  screens : Screen → Option Bool
  /-- The manager is constructed, and its slots are connected. -/
  constructed : Bool

namespace WndManager
variable (w : WndManager)

def isVisible (scr : Screen) : Bool := w.screens scr == some true

/-- The number of which the assertions say that it is less than two. -/
def visible : ℕ := Screen.all.countP w.isVisible

/-- `Instance()`, which constructs the manager. -/
def Instance : WndManager := { w with constructed := true }

/-- `instance()` of a screen. -/
def construct (scr : Screen) (w : WndManager) : WndManager :=
  { w with screens := Function.update w.screens scr (some (w.isVisible scr)) }

def toFront (scr : Screen) (w : WndManager) : WndManager :=
  { w with screens := Function.update w.screens scr (some true) }

def saveAndHide (scr : Screen) (w : WndManager) : WndManager :=
  { w with screens := Function.update w.screens scr ((w.screens scr).map fun _ => false) }

def hideThis (scr : Screen) (w : WndManager) : WndManager := w.saveAndHide scr

def closeAll : WndManager :=
  Screen.all.foldl (fun w scr => if w.isVisible scr then w.saveAndHide scr else w) w

/-- The last screen that is visible. -/
def scrVisible : Option Screen :=
  Screen.all.foldl (fun found scr => if w.isVisible scr then some scr else found) none

def trans (old : Option Screen) (scr : Screen) (w : WndManager) : WndManager :=
  let w := match old with
    | some old => if old ≠ scr then w.saveAndHide old else w
    | none => w.closeAll
  w.toFront scr

/-- What `ToLogin` and `ToConnect` have in common. -/
def activate (scr : Screen) (w : WndManager) : WndManager :=
  if some scr ≠ w.scrVisible then w.trans w.scrVisible scr else w.toFront scr

def toLogin : WndManager := w.activate .loginWindow

def toConnect : WndManager := w.activate .connectionDialog

def toPrimary (loggedIn : Bool) (w : WndManager) : WndManager :=
  if loggedIn then w.toConnect else w.toLogin

def toSettings : WndManager := w.trans w.scrVisible .settingsScreen

def toLogs : WndManager := w.trans w.scrVisible .scrLogs

def toMap (loggedIn : Bool) (w : WndManager) : WndManager :=
  if loggedIn then w.trans w.scrVisible .mapScreen else w.toLogin

def primary (loggedIn : Bool) : Screen := if loggedIn then .connectionDialog else .loginWindow

/-- `Confirmation`, whose dialog has the primary screen as its parent. -/
def confirmation (loggedIn : Bool) (w : WndManager) : WndManager := w.construct (primary loggedIn)

-- The slots, which are connected once the manager is constructed.

def showErrorMessage (loggedIn : Bool) (w : WndManager) : WndManager :=
  if w.constructed then w.toPrimary loggedIn else w

/-- The port dialog's result goes to the connection dialog. -/
def showPortDialog (loggedIn : Bool) (w : WndManager) : WndManager :=
  if w.constructed then
    ((w.toPrimary loggedIn).construct (primary loggedIn)).construct .connectionDialog
  else w

def stateChanged (loggedIn : Bool) (state : ℤ) (w : WndManager) : WndManager :=
  if w.constructed ∧ state = VpnState.connecting.toInt ∧ w.scrVisible.isSome then
    w.toPrimary loggedIn
  else w

variable {w : WndManager} {scr : Screen}

/-- At most one screen is visible. -/
theorem visible_lt_two_iff : w.visible < 2 ↔
    ∀ v v', w.isVisible v = true → w.isVisible v' = true → v = v' := by
  have hnodup : (Screen.all.filter w.isVisible).Nodup := List.Nodup.filter _ (by decide)
  rw [visible, List.countP_eq_length_filter, ← List.toFinset_card_of_nodup hnodup,
    Nat.lt_succ_iff, Finset.card_le_one]
  simp only [List.mem_toFinset, List.mem_filter, Screen.mem_all, true_and]
  exact ⟨fun h v v' hv hv' => h v hv v' hv', fun h v hv v' hv' => h v v' hv hv'⟩

theorem visible_congr {w' : WndManager} (h : ∀ v, w'.isVisible v = w.isVisible v) :
    w'.visible = w.visible := by
  have hsame : w'.isVisible = w.isVisible := funext h
  rw [visible, hsame, visible]

theorem visible_lt_two_of_only (scr : Screen) (h : ∀ v, w.isVisible v = true → v = scr) :
    w.visible < 2 :=
  visible_lt_two_iff.mpr fun v v' hv hv' => (h v hv).trans (h v' hv').symm

@[simp] theorem isVisible_Instance (v : Screen) : w.Instance.isVisible v = w.isVisible v := rfl

@[simp] theorem isVisible_construct (v : Screen) :
    (w.construct scr).isVisible v = w.isVisible v := by
  rw [isVisible, construct]
  dsimp only
  by_cases hv : v = scr
  · rw [hv, Function.update_self]
    cases w.isVisible scr <;> rfl
  · rw [Function.update_of_ne hv, isVisible]

@[simp] theorem isVisible_toFront (v : Screen) :
    (w.toFront scr).isVisible v = (decide (v = scr) || w.isVisible v) := by
  rw [isVisible, toFront]
  dsimp only
  by_cases hv : v = scr
  · rw [hv, Function.update_self]
    simp
  · rw [Function.update_of_ne hv, decide_eq_false hv]
    rfl

@[simp] theorem isVisible_saveAndHide (v : Screen) :
    (w.saveAndHide scr).isVisible v = (!decide (v = scr) && w.isVisible v) := by
  rw [isVisible, saveAndHide]
  dsimp only
  by_cases hv : v = scr
  · rw [hv, Function.update_self]
    cases w.screens scr <;> simp
  · rw [Function.update_of_ne hv, decide_eq_false hv]
    rfl

/-- One round of the loop of `CloseAll`. -/
theorem isVisible_hideVisible (v : Screen) :
    (if w.isVisible scr then w.saveAndHide scr else w).isVisible v =
      (!decide (v = scr) && w.isVisible v) := by
  split_ifs with hvisible
  · exact isVisible_saveAndHide v
  · by_cases hv : v = scr
    · rw [hv, Bool.eq_false_of_not_eq_true hvisible, Bool.and_false]
    · rw [decide_eq_false hv]
      rfl

theorem isVisible_closeAll (v : Screen) : w.closeAll.isVisible v = false := by
  have hfold : ∀ (l : List Screen) (w : WndManager),
      (l.foldl (fun w scr => if w.isVisible scr then w.saveAndHide scr else w) w).isVisible v =
        (!decide (v ∈ l) && w.isVisible v) := by
    intro l
    induction l with
    | nil => intro w; simp
    | cons scr l ih =>
      intro w
      rw [List.foldl_cons, ih, isVisible_hideVisible]
      by_cases hv : v = scr <;> simp [hv]
  rw [closeAll, hfold, decide_eq_true (Screen.mem_all v)]
  rfl

theorem visible_closeAll : w.closeAll.visible < 2 :=
  visible_lt_two_of_only .loginWindow fun v hv =>
    absurd (hv.symm.trans (isVisible_closeAll v)) (by decide)

/-- The screens are looked at in turn. -/
theorem scrVisible_eq : w.scrVisible =
    if w.isVisible .settingsScreen then some .settingsScreen
    else if w.isVisible .mapScreen then some .mapScreen
    else if w.isVisible .scrLogs then some .scrLogs
    else if w.isVisible .loginWindow then some .loginWindow
    else if w.isVisible .connectionDialog then some .connectionDialog
    else none := rfl

theorem isVisible_of_scrVisible (h : w.scrVisible = some scr) : w.isVisible scr = true := by
  rw [scrVisible_eq] at h
  split_ifs at h with h₁ h₂ h₃ h₄ h₅ <;> cases h <;> assumption

/-- A screen that is brought up without a look at the others is the only one where no
other one is visible. -/
theorem visible_toFront_iff :
    (w.toFront scr).visible < 2 ↔ ∀ v, w.isVisible v = true → v = scr := by
  constructor
  · intro hfront v hv
    refine visible_lt_two_iff.mp hfront v scr ?_ ?_
    · rw [isVisible_toFront, hv, Bool.or_true]
    · rw [isVisible_toFront, decide_eq_true rfl, Bool.true_or]
  · intro hnone
    refine visible_lt_two_of_only scr fun v hv => ?_
    rw [isVisible_toFront, Bool.or_eq_true, decide_eq_true_iff] at hv
    exact hv.elim id (hnone v)

section Single
variable (h : w.visible < 2)
include h

/-- The one that was visible is hidden. -/
theorem isVisible_trans (v : Screen) :
    (w.trans w.scrVisible scr).isVisible v = decide (v = scr) := by
  cases hfound : w.scrVisible with
  | none => rw [trans, isVisible_toFront, isVisible_closeAll, Bool.or_false]
  | some old =>
    have hold := isVisible_of_scrVisible hfound
    have hone : w.isVisible v = decide (v = old) := by
      rw [Bool.eq_iff_iff, decide_eq_true_iff]
      exact ⟨fun hv => visible_lt_two_iff.mp h v old hv hold, fun hv => hv ▸ hold⟩
    rw [trans, isVisible_toFront]
    split_ifs with hne
    · rw [isVisible_saveAndHide, hone]
      cases decide (v = old) <;> simp
    · rw [hone, not_not.mp hne, Bool.or_self]

/-- The screen that is brought up is the only one. -/
theorem isVisible_activate (v : Screen) : (w.activate scr).isVisible v = decide (v = scr) := by
  unfold activate
  split_ifs with hfound
  · exact isVisible_trans h v
  · have hscr := isVisible_of_scrVisible (not_not.mp hfound).symm
    rw [isVisible_toFront, Bool.or_eq_left_iff_imp, decide_eq_true_iff]
    exact fun hv => visible_lt_two_iff.mp h v scr hv hscr

theorem visible_trans : (w.trans w.scrVisible scr).visible < 2 :=
  visible_lt_two_of_only scr fun v hv => of_decide_eq_true ((isVisible_trans h v).symm.trans hv)

theorem visible_activate : (w.activate scr).visible < 2 :=
  visible_lt_two_of_only scr fun v hv => of_decide_eq_true ((isVisible_activate h v).symm.trans hv)

theorem visible_toPrimary (loggedIn : Bool) : (w.toPrimary loggedIn).visible < 2 := by
  cases loggedIn
  · exact visible_activate h
  · exact visible_activate h

theorem visible_toMap (loggedIn : Bool) : (w.toMap loggedIn).visible < 2 := by
  cases loggedIn
  · exact visible_activate h
  · exact visible_trans h

theorem visible_hideThis : (w.hideThis scr).visible < 2 := by
  refine visible_lt_two_iff.mpr fun v v' hv hv' => ?_
  rw [hideThis, isVisible_saveAndHide, Bool.and_eq_true] at hv hv'
  exact visible_lt_two_iff.mp h v v' hv.2 hv'.2

theorem visible_construct : (w.construct scr).visible < 2 := by
  rwa [visible_congr isVisible_construct]

theorem visible_showErrorMessage (loggedIn : Bool) :
    (w.showErrorMessage loggedIn).visible < 2 := by
  unfold showErrorMessage
  split_ifs
  · exact visible_toPrimary h loggedIn
  · exact h

theorem visible_showPortDialog (loggedIn : Bool) : (w.showPortDialog loggedIn).visible < 2 := by
  unfold showPortDialog
  split_ifs
  · exact visible_construct (visible_construct (visible_toPrimary h loggedIn))
  · exact h

theorem visible_stateChanged (loggedIn : Bool) (state : ℤ) :
    (w.stateChanged loggedIn state).visible < 2 := by
  unfold stateChanged
  split_ifs
  · exact visible_toPrimary h loggedIn
  · exact h

/-- With the login window in front of it the connection dialog alone is not found. -/
theorem visible_toLogin_toFront : (w.toFront .loginWindow).toLogin.visible < 2 ↔
    w.isVisible .connectionDialog = false := by
  have hone := visible_lt_two_iff.mp h
  constructor
  · intro hlogin
    by_contra hconn
    rw [Bool.not_eq_false] at hconn
    have hothers : ∀ v, v ≠ .connectionDialog → w.isVisible v = false := fun v hv =>
      Bool.eq_false_of_not_eq_true fun hvisible => hv (hone v _ hvisible hconn)
    have hfound : (w.toFront .loginWindow).scrVisible = some .loginWindow := by
      rw [scrVisible_eq]
      simp [hothers]
    rw [toLogin, activate, if_neg (not_not.mpr hfound.symm)] at hlogin
    have hsame := visible_lt_two_iff.mp hlogin .connectionDialog .loginWindow
    simp [hconn] at hsame
  · intro hconn
    by_cases hlogin : ∀ v, w.isVisible v = true → v = .loginWindow
    · exact visible_activate (visible_toFront_iff.mpr hlogin)
    · -- another screen is looked at later than the login window, and is hidden
      push Not at hlogin
      obtain ⟨old, hold, hne⟩ := hlogin
      have honly : ∀ v, w.isVisible v = decide (v = old) := by
        intro v
        rw [Bool.eq_iff_iff, decide_eq_true_iff]
        exact ⟨fun hv => hone v old hv hold, fun hv => hv ▸ hold⟩
      have hfound : (w.toFront .loginWindow).scrVisible = some old := by
        rw [scrVisible_eq]
        cases old with
        | connectionDialog => rw [hold] at hconn; cases hconn
        | loginWindow => exact absurd rfl hne
        | scrLogs => simp [honly]
        | mapScreen => simp [honly]
        | settingsScreen => simp [honly]
      refine visible_lt_two_of_only .loginWindow fun v hv => ?_
      rw [toLogin, activate, hfound, if_pos (by simpa using hne.symm), trans, if_pos hne,
        isVisible_toFront, isVisible_saveAndHide, isVisible_toFront, honly] at hv
      cases hv' : decide (v = old) with
      | true => simpa [hv'] using hv
      | false => simpa [hv'] using hv

end Single

end WndManager
end CeloVpn.Client
