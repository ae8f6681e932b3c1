import CeloVpn.Service.Events
import Mathlib.Logic.Relation

/-!
# The abstract manager: what decides when it connects

Of the many members of the manager a handful decide about connecting: the state,
what is pending, the remembered state word, and what the clients were told. The
abstract manager keeps these and the history, and knows a few moves. Which of
them a handler may take is a parameter, so that one simulation serves every
invariant: a move that would break an invariant carries a permission.
-/
namespace CeloVpn.Service

/-- The abstract state. -/
structure Control where
  mState : VpnState
  mStateTimer : Bool
  requests : List TemplateRequest
  nextRequest : ℕ
  starts : ℕ
  mTemplateUrl : QString
  reconnectTimers : ℕ
  mPreviousStateWord : QString
  /-- The cached state of every open connection. -/
  reported : List VpnState
  history : List Act

/-- A change of state tells no client anything on its own. -/
def Signal.isState : Signal → Bool
  | .stateChanged _ => true
  | _ => false

/-- The acts that only the history remembers. -/
def Act.Plain : Act → Prop
  | .observed _ => True
  | .emitted signal => signal.isState = false
  | .stopped => True
  | .wroteSocket _ => True
  | .nullSocket => True
  | _ => False

namespace Control

def note (c : Control) (a : Act) : Control := { c with history := a :: c.history }

/-- Everybody is told a state. -/
def report (c : Control) (st : VpnState) : Control :=
  { c with
    reported := c.reported.map fun _ => st
    history := .emitted (.stateChanged st) :: c.history }

/-- A change of state at a clock reading; leaving for disconnected deletes the
state timer. -/
def setState (st : VpnState) (now : ℤ) (c : Control) : Control :=
  if st ≠ c.mState then
    ({ c with
      mState := st
      mStateTimer := if st = VpnState.disconnected then false else c.mStateTimer
      history := .entered st now :: c.history }).report st
  else c

/-- How many requests can still succeed. -/
def openRequests (c : Control) : ℕ := (c.requests.filter (!·.failed)).length

/-- One more template request is in flight. -/
def request (r : TemplateRequest) (c : Control) : Control :=
  { c with
    requests := c.requests ++ [r]
    nextRequest := c.nextRequest + 1
    history := .requested c.openRequests :: c.history }

/-- The request is a new one, for the address given to the last `start()`. -/
def Asks (host : Host) (c : Control) (r : TemplateRequest) : Prop :=
  r.id = c.nextRequest ∧ r.issue = c.starts ∧ r.url = host.urlFromUserInput c.mTemplateUrl

/-- One more reconnect single shot is armed. -/
def arm (c : Control) : Control := { c with reconnectTimers := c.reconnectTimers + 1 }

/-- Something that can still move a connecting manager is pending. -/
def Pending (c : Control) : Prop :=
  c.requests ≠ [] ∨ c.mStateTimer = true ∨ 0 < c.reconnectTimers

end Control

/-- The moves that need a permission. -/
structure Allowed where
  /-- `startConnecting` makes a request. -/
  connect : Control → TemplateRequest → Prop
  /-- A management line turns the manager to connecting. -/
  promote : Control → Prop
  /-- The attempt is given up at a clock reading. -/
  gaveUp : Control → ℤ → Prop
  /-- openvpn is launched. -/
  launch : Prop
  /-- A client goes. -/
  close : Prop

/-- Every move is permitted. -/
def Allowed.any : Allowed := ⟨fun _ _ => True, fun _ => True, fun _ _ => True, True, True⟩

open Control in
/-- The moves of the abstract manager. -/
inductive Move (A : Allowed) : Control → Control → Prop
  | plain {c : Control} (a : Act) (h : a.Plain) : Move A c (c.note a)
  | leave {c : Control} (st : VpnState) (now : ℤ)
      (h : st = VpnState.disconnected ∨ st = VpnState.connected) : Move A c (c.setState st now)
  /-- A state word alone begins an attempt of openvpn's own. -/
  | promote {c : Control} (now : ℤ) (h : A.promote c) : Move A c (c.setState .connecting now)
  /-- `startConnecting`. -/
  | connect {c : Control} (now : ℤ) (r : TemplateRequest)
      (h : A.connect (c.setState .connecting now) r) :
      Move A c ((c.setState .connecting now).request r)
  /-- What `start()` takes over. -/
  | attempt {c : Control} (url : QString) :
      Move A c { c with starts := c.starts + 1, mTemplateUrl := url }
  /-- The word EXITING with reconnecting switched on. -/
  | exiting {c : Control} (now : ℤ) : Move A c (c.arm.setState .connecting now)
  | arm {c : Control} : Move A c c.arm
  | timer {c : Control} : Move A c { c with mStateTimer := true }
  | word {c : Control} (word : QString) :
      Move A c ({ c with mPreviousStateWord := word }.note (.stateWord word))
  | processError {c : Control} :
      Move A c ((c.note (.processErrored c.mState c.reported.length)).report .disconnected)
  | opened {c : Control} :
      Move A c ({ c with reported := c.reported ++ [VpnState.disconnected] }.note (.opened c.mState))
  | closed {c : Control} (reported : List VpnState) (h : reported.Sublist c.reported)
      (hclose : A.close) : Move A c { c with reported := reported }
  | gaveUp {c : Control} (now : ℤ) (h : A.gaveUp c now) : Move A c (c.note (.gaveUp now))
  | launched {c : Control} (args : List QString) (config : QByteArray)
      (template : Option Template) (h : A.launch) :
      Move A c (c.note (.launched args config template))

/-- Any number of moves. -/
abbrev Moves (A : Allowed) : Control → Control → Prop := Relation.ReflTransGen (Move A)

/-- One launch of openvpn with a config file and a template, among other moves. -/
def LaunchesWith (A : Allowed) (config : QByteArray) (template : Option Template)
    (c c' : Control) : Prop :=
  ∃ args c₁, Moves A c c₁ ∧ Moves A (c₁.note (.launched args config template)) c'

/-- At most one launch of openvpn among any number of other moves. -/
def LaunchesOnce (A : Allowed) (c c' : Control) : Prop :=
  Moves A c c' ∨ ∃ config template, LaunchesWith A config template c c'

theorem LaunchesOnce.moves {A : Allowed} {c c' : Control} (h : LaunchesOnce A c c')
    (hl : A.launch) : Moves A c c' := by
  rcases h with hnone | ⟨config, template, args, c₁, hbefore, hafter⟩
  · exact hnone
  · exact (hbefore.tail (.launched args config template hl)).trans hafter

namespace Moves
variable {A : Allowed} {c : Control}

theorem plain {a : Act} (h : a.Plain) : Moves A c (c.note a) := .single (.plain a h)

/-- An invariant of every move is an invariant of any number of them. -/
theorem invariant {P : Control → Prop} (h : ∀ c c', Move A c c' → P c → P c') {c c' : Control}
    (hm : Moves A c c') (hc : P c) : P c' := by
  induction hm with
  | refl => exact hc
  | tail _ hmove ih => exact h _ _ hmove ih

end Moves
end CeloVpn.Service
