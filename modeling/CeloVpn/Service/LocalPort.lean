import CeloVpn.Library.Numerals
import CeloVpn.Service.LogLines

/-!
# A bind that fails

`mLocalPort` is where openvpn opens its management socket, `mPort` the port of the
server. When the bind of the management socket fails, the retry is to use another
local port and the same server port; the code moves on to another server port.
-/
namespace CeloVpn.Service
open Runs OpenvpnManager

/-- The manager, with the arguments of the last `start()` and the local ports a bind to
which has failed since. -/
structure PortSession where
  manager : OpenvpnManager
  attempt : Option Attempt
  failed : List QString

/-- The arguments of a launch. -/
def Act.arguments : Act → Option (List QString)
  | launched args _ _ => some args
  | _ => none

namespace OpenvpnManager

/-- The port of the management socket in the arguments of openvpn. -/
def managementPort (args : List QString) : Option QString :=
  ((args.dropWhile (· != "--management".toList)).drop 2).head?

/-- What an event adds to the history. -/
def newActs (host : Host) (m : OpenvpnManager) (e : Event) : List Act :=
  (m.step host e).history.take ((m.step host e).history.length - m.history.length)

/-- A line changes the port exactly where it reports a bind that failed. -/
theorem readLine_port_iff (c : Settings) (s : QString) :
    (c.readLine s).attempt.port = c.attempt.port ↔ bindFails s = false := by
  unfold Settings.readLine
  split_ifs with h
  · exact iff_of_false (QString.number_succ_ne c.attempt.port) (by simp [h])
  · exact iff_of_true rfl (Bool.eq_false_of_not_eq_true h)

end OpenvpnManager

namespace PortSession
variable (host : Host)

def step (t : PortSession) (e : Event) : PortSession where
  manager := t.manager.step host e
  attempt := (t.manager.startCall e.callback).or t.attempt
  failed := match t.manager.startCall e.callback, t.attempt with
    | none, some _ => t.failed ++
      ((t.manager.parses e.callback).filter bindFails).map fun _ => t.manager.mLocalPort
    | _, _ => []

def initial (u : Indeterminate) : PortSession := ⟨.initial u, none, []⟩

/-- The server port is the one the client asked for, and so is the key of its template. -/
def ServerPort (a : Attempt) (m : OpenvpnManager) : Prop :=
  m.mPort = a.port ∧ m.currentKey = serverKey a.serverId a.port.toInt

theorem serverPort_iff {a : Attempt} {m : OpenvpnManager} : ServerPort a m ↔
    m.settings.attempt.port = a.port ∧
      serverKey m.settings.attempt.serverId m.settings.attempt.port.toInt =
        serverKey a.serverId a.port.toInt := Iff.rfl

theorem serverPort_of_attempt {a : Attempt} {m : OpenvpnManager} (h : m.settings.attempt = a) :
    ServerPort a m := by
  rw [serverPort_iff, h]
  exact ⟨rfl, rfl⟩

/-- No line of the log moves the server port. -/
def KeepsServerPort (t : PortSession) (e : Event) : Prop :=
  ∀ a ∈ t.attempt, LogLinesKeep host (ServerPort a) t.manager e

/-- Nothing is launched with a management port a bind to which has failed. -/
def RetriesElsewhere (t : PortSession) (e : Event) : Prop :=
  ∀ a ∈ newActs host t.manager e, ∀ args ∈ a.arguments, ∀ port ∈ t.failed,
    managementPort args ≠ some port

instance (t : PortSession) (e : Event) : Decidable (t.RetriesElsewhere host e) :=
  inferInstanceAs (Decidable (∀ a ∈ newActs host t.manager e, ∀ args ∈ a.arguments,
    ∀ port ∈ t.failed, managementPort args ≠ some port))

/-- After a start, no line of the log reports a bind that failed. -/
def Binds (t : PortSession) (e : Event) : Prop :=
  t.attempt.isSome = true → ∀ s ∈ t.manager.parses e.callback, bindFails s = false

/-- So far nothing has been retried: the manager still has the arguments of the start. -/
def Untried (t : PortSession) : Prop :=
  t.failed = [] ∧ ∀ a ∈ t.attempt, t.manager.settings.attempt = a

/-- Line by line, the port moves exactly where a bind has failed. -/
theorem logLinesKeep_iff {a : Attempt} {m : OpenvpnManager} (h : m.settings.attempt = a)
    (e : Event) : LogLinesKeep host (ServerPort a) m e ↔
      ∀ s ∈ m.parses e.callback, bindFails s = false := by
  have hline : ∀ (m : OpenvpnManager) (s : QString),
      (m.parseOpenvpnLogLine host e.world s).settings = m.settings.readLine s :=
    fun m s => ((Keeps.refl m).parseOpenvpnLogLine host e.world s).1
  have hport : ∀ (m : OpenvpnManager) (s : QString), ServerPort a m →
      (ServerPort a (m.parseOpenvpnLogLine host e.world s) ↔ bindFails s = false) := by
    intro m s hm
    constructor
    · intro hkept
      rw [← readLine_port_iff m.settings s, ← hline]
      exact (serverPort_iff.mp hkept).1.trans (serverPort_iff.mp hm).1.symm
    · intro hbinds
      rw [serverPort_iff, hline, Settings.readLine_of_binds hbinds]
      exact serverPort_iff.mp hm
  have hread : ServerPort a (m.logRead e.callback) :=
    serverPort_of_attempt ((congrArg Settings.attempt (m.logRead_settings e.callback)).trans h)
  rw [LogLinesKeep, throughout_iff_meets (I := fun _ => True) (C := fun _ s => bindFails s = false)
    (fun _ _ _ => trivial) (fun m s _ hm => hport m s hm) trivial hread, meets_iff_forall]

theorem step_untried {t : PortSession} {e : Event} (h : t.Untried) (hbinds : t.Binds e) :
    (t.step host e).Untried := by
  obtain ⟨hfailed, hattempt⟩ := h
  unfold step Untried
  dsimp only
  cases hstart : t.manager.startCall e.callback with
  | some a =>
    refine ⟨rfl, ?_⟩
    rintro _ ⟨⟩
    rw [settings_of_start host t.manager hstart]
    rfl
  | none =>
    cases hlast : t.attempt with
    | none => exact ⟨rfl, nofun⟩
    | some a =>
      have hnone := hbinds (by rw [hlast]; rfl)
      refine ⟨?_, ?_⟩
      · dsimp only
        rw [hfailed, List.filter_eq_nil_iff.mpr fun s hs => by simp [hnone s hs]]
        rfl
      · rw [(settings_of_no_start host t.manager hstart).1, Settings.foldl_readLine_of_binds hnone]
        rwa [hlast] at hattempt

theorem step_kept_iff {t : PortSession} (h : t.Untried) (e : Event) :
    (t.KeepsServerPort host e ∧ t.RetriesElsewhere host e) ↔ t.Binds e := by
  obtain ⟨hfailed, hattempt⟩ := h
  have helsewhere : t.RetriesElsewhere host e := by
    intro a _ args _ port hport
    rw [hfailed] at hport
    cases hport
  rw [and_iff_left helsewhere, KeepsServerPort, Binds]
  cases hlast : t.attempt with
  | none => simp
  | some a =>
    have hiff := logLinesKeep_iff host (hattempt a hlast) e
    simpa using hiff

/-- In every run the server port stays what the client asked for and every retry is
launched with another management port than the one that failed, exactly when after a
start no bind fails. -/
theorem bind_retry_iff (u : Indeterminate) (es : List Event) :
    (Throughout (step host) (fun t => ∀ a ∈ t.attempt, ServerPort a t.manager) (initial u) es ∧
      Meets (step host) (fun t e => t.KeepsServerPort host e ∧ t.RetriesElsewhere host e)
        (initial u) es) ↔
      Meets (step host) Binds (initial u) es := by
  have hstart : (initial u).Untried := ⟨rfl, nofun⟩
  have hstep : ∀ t e, Untried t → Binds t e → (step host t e).Untried :=
    fun t e ht hbinds => step_untried host ht hbinds
  rw [meets_iff_meets hstep (fun t e ht => step_kept_iff host ht e) hstart]
  refine and_iff_right_of_imp fun hbinds => ?_
  refine (throughout_of_meets (fun t e hC ht => hstep t e ht hC) hstart hbinds).imp ?_
  exact fun t ht a ha => serverPort_of_attempt (ht.2 a ha)

/-- The management port is taken; the retry is launched with the same one, and for the
next port of the server. -/
theorem bind_retry_same_port : ¬ ∀ (host : Host) (u : Indeterminate) (es : List Event),
    Throughout (step host) (fun t => ∀ a ∈ t.attempt, ServerPort a t.manager) (initial u) es ∧
      Meets (step host) (fun t e => t.KeepsServerPort host e ∧ t.RetriesElsewhere host e)
        (initial u) es := by
  intro h
  have hrun := (h (.on .linux) .zero
    [⟨.quiet 0, .connectionOpened⟩,
      ⟨.quiet 0, .send 0 (("localport".toList, .string "7505".toList) ::
        startObject 7 "443" "celo.example/7.ovpn")⟩,
      ⟨.quiet 0, .templateFinished 0 []⟩,
      ⟨.quiet 1000, .logFileChanged (QString.toLatin1
        "Socket bind failed on local address [AF_INET]127.0.0.1:7505\n".toList)⟩,
      ⟨.quiet 2000, .templateFinished 1 []⟩]).2
  exact absurd hrun.2.2.2.2.1.2 (by decide +kernel)

end PortSession
end CeloVpn.Service
