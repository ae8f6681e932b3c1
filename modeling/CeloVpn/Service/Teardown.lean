import CeloVpn.Service.StopFinal
import CeloVpn.Service.StateLines

/-!
# Batches that release the management socket

`socketReadyRead` goes on with the lines of a batch whatever became of `mSocket`. Behind
a line that released it, a line that asks for an answer is answered through the null
pointer, and every line that turns the state still does so.
-/
namespace CeloVpn.Service
open Runs

namespace OpenvpnManager
variable (host : Host) (w : World)

/-- The word of a line, if `parseSocketLine` hands it to `parseSocketQueryWord`. -/
def queryWordOf (s : QString) : Option QString :=
  if s.head? = some '>' ∧ s.indexOf ':' 0 > -1 then some (s.mid 1 (s.indexOf ':' 0 - 1)) else none

/-- The state in which a state word leaves the manager, if it sets one. -/
def wordState (m : OpenvpnManager) (isnew : Bool) (word : QString) : Option VpnState :=
  if word.equalsFolded "CONNECTED".toList then if isnew then some .connected else none
  else if promotes word then some .connecting
  else if word.equalsFolded "EXITING".toList then
    some (if m.mReconnect then .connecting else .disconnected)
  else if word.equalsFolded "RESOLVE".toList && m.mNetDown then some .disconnected
  else none

/-- The query asks for the release from hold. -/
def asksRelease (word s : QString) : Bool :=
  word.equalsFolded "HOLD".toList && decide (s.indexOfText "hold release".toList 0 > -1)

/-- The query asks for the credentials. -/
def asksPassword (word s : QString) : Bool :=
  word.equalsFolded "PASSWORD".toList &&
    decide (s.indexOfText "Need 'Auth' username/password".toList 0 > -1)

/-- The query refuses the credentials. -/
def refuses (word s : QString) : Bool :=
  word.equalsFolded "PASSWORD".toList &&
    !decide (s.indexOfText "Need 'Auth' username/password".toList 0 > -1) &&
    decide (QString.indexOfText (s.map QString.foldCase)
      ("Verification Failed".toList.map QString.foldCase) (s.indexOf ':' 0) > -1)

/-- The state in which a query leaves the manager, if it sets one. -/
def queryState (m : OpenvpnManager) (word s : QString) : Option VpnState :=
  if refuses word s then some .disconnected
  else if word.equalsFolded "FATAL".toList then
    if (s.mid (s.indexOf ':' 0 + 1) (-1)).equalsFolded fatalMessage then
      if !m.mTunError && !m.mError then some .connecting else none
    else some .disconnected
  else none

/-- The state in which a line of the management socket leaves the manager, if it sets
one. -/
def leadsTo (m : OpenvpnManager) (s : QString) : Option VpnState :=
  match stateWordOf s, queryWordOf s with
  | some word, _ => m.wordState (word != m.mPreviousStateWord) word
  | none, some word => m.queryState word s
  | none, none => none

/-- The line is answered through `mSocket`. -/
def isAnswered (s : QString) : Bool :=
  (queryWordOf s).any fun word => asksRelease word s || asksPassword word s

variable (m : OpenvpnManager)

/-- A line is one of a state word, a query, or neither. -/
theorem parseSocketLine_kinds (s : QString) :
    (∃ word, stateWordOf s = some word ∧ queryWordOf s = none ∧
      m.parseSocketLine host w s = m.parseSocketStateWord host w word s) ∨
    (stateWordOf s = none ∧ ∃ word, queryWordOf s = some word ∧
      m.parseSocketLine host w s = m.parseSocketQueryWord host w word s) ∨
    (stateWordOf s = none ∧ queryWordOf s = none ∧ (m.parseSocketLine host w s = m ∨
      ∃ word, m.parseSocketLine host w s = m.parseSocketPlainWord word s)) := by
  cases hword : stateWordOf s with
  | some word =>
    refine .inl ⟨word, rfl, ?_, parseSocketLine_of_stateWord host w m hword⟩
    unfold stateWordOf at hword
    dsimp only at hword
    split_ifs at hword with hdigits
    exact if_neg fun h => hdigits.1 h.1
  | none =>
    refine .inr ?_
    unfold stateWordOf at hword
    dsimp only at hword
    split_ifs at hword with hno
    unfold queryWordOf parseSocketLine parseSocketDigitLine
    dsimp only
    by_cases hhead : s.head? = some '>'
    · by_cases hcolon : s.indexOf ':' 0 > -1
      · refine .inl ⟨rfl, _, if_pos ⟨hhead, hcolon⟩, ?_⟩
        rw [if_pos hhead, if_pos hcolon]
      · refine .inr ⟨rfl, if_neg fun h => hcolon h.2, .inl ?_⟩
        rw [if_pos hhead, if_neg hcolon]
    · refine .inr ⟨rfl, if_neg fun h => hhead h.1, ?_⟩
      rw [if_neg hhead]
      split_ifs with h3 h4 h5
      · exact absurd ⟨hhead, h3, h4, (Bool.not_eq_true' _).mp h5⟩ hno
      · exact .inl rfl
      · exact .inr ⟨s, rfl⟩
      · exact .inr ⟨_, rfl⟩
      · exact .inr ⟨s, rfl⟩

/-- Both branches of a test end in one state. -/
theorem mState_ite {p : Prop} [Decidable p] {x y : OpenvpnManager} {st : VpnState}
    (hx : p → x.mState = st) (hy : ¬p → y.mState = st) : (if p then x else y).mState = st := by
  by_cases h : p
  · rw [if_pos h]
    exact hx h
  · rw [if_neg h]
    exact hy h

theorem wordState_congr (isnew : Bool) {word known : QString} (h : word.equalsFolded known = true) :
    m.wordState isnew word = m.wordState isnew known := by
  have hfold : QString.equalsFolded word = QString.equalsFolded known :=
    funext (QString.equalsFolded_congr h)
  rw [wordState, wordState, promotes, promotes, hfold]

theorem actOnStateWord_mState (isnew : Bool) (word s : QString) :
    (m.actOnStateWord host w isnew word s).mState = (m.wordState isnew word).getD m.mState := by
  have hknown : ∀ {known : QString}, word.equalsFolded known = true → ∀ {st : VpnState},
      (m.wordState isnew known).getD m.mState = st → ∀ {x : OpenvpnManager}, x.mState = st →
        x.mState = (m.wordState isnew word).getD m.mState := by
    intro known hword st hst x hx
    rw [wordState_congr m isnew hword, hst, hx]
  have hconnecting : ∀ st, ((m.setState w .connecting).emit st).mState = .connecting :=
    fun st => setState_mState w _ _
  unfold actOnStateWord
  refine mState_ite (fun h => ?connected) fun h1 => ?_
  case connected =>
    cases isnew with
    | true => exact hknown h rfl (gotConnected_mState w m s)
    | false => exact hknown h rfl rfl
  refine mState_ite (fun h => ?connecting) fun h2 => ?_
  case connecting =>
    rcases Bool.or_eq_true_iff.mp h with hword | hword
    · exact hknown hword rfl (hconnecting _)
    · exact hknown hword rfl (hconnecting _)
  refine mState_ite (fun h => hknown h rfl rfl) fun h3 => ?_
  refine mState_ite (fun h => ?exiting) fun h4 => ?_
  case exiting =>
    have hexiting : (m.wordState isnew "EXITING".toList).getD m.mState =
        if m.mReconnect then .connecting else .disconnected := rfl
    refine mState_ite (fun hreconnect => ?_) fun hstays => ?_
    · exact hknown h (hexiting.trans (if_pos hreconnect)) (setState_mState w _ _)
    · exact hknown h (hexiting.trans (if_neg hstays)) (setState_mState w _ _)
  refine mState_ite (fun h => hknown h rfl (hconnecting _)) fun h5 => ?_
  refine mState_ite (fun h => hknown h rfl (hconnecting _)) fun h6 => ?_
  refine mState_ite (fun h => hknown h rfl rfl) fun h7 => ?_
  refine mState_ite (fun h => hknown h rfl (hconnecting _)) fun h8 => ?_
  refine mState_ite (fun h => hknown h rfl rfl) fun h9 => ?_
  refine mState_ite (fun h => ?resolve) fun h10 => ?unknown
  case resolve =>
    have hresolve : m.wordState isnew "RESOLVE".toList =
        if m.mNetDown then some .disconnected else none := rfl
    refine mState_ite (fun hdown => ?_) fun hup => ?_
    · refine hknown h ?_ (stop_mState host w (m.emit (.stateWordChanged .resolve)))
      exact congrArg (Option.getD · m.mState) (hresolve.trans (if_pos hdown))
    · refine hknown h ?_ rfl
      exact congrArg (Option.getD · m.mState) (hresolve.trans (if_neg hup))
  case unknown =>
    simp only [Bool.or_eq_true, not_or, Bool.not_eq_true] at h1 h2 h4 h5 h6 h8 h10
    have hnone : m.wordState isnew word = none := by
      simp only [wordState, promotes, h1, h2, h4, h5, h6, h8, h10, Bool.or_false, Bool.false_and,
        Bool.false_eq_true, if_false]
    rw [hnone]
    rfl

theorem parseSocketStateWord_mState (word s : QString) :
    (m.parseSocketStateWord host w word s).mState =
      (m.wordState (word != m.mPreviousStateWord) word).getD m.mState := by
  have hlogged : ∀ m' : OpenvpnManager, m'.mState = m.mState → m'.mReconnect = m.mReconnect →
      m'.mNetDown = m.mNetDown → ∀ isnew, (m'.actOnStateWord host w isnew word s).mState =
        (m.wordState isnew word).getD m.mState := by
    intro m' hstate hreconnect hdown isnew
    rw [actOnStateWord_mState, hstate, wordState, wordState, hreconnect, hdown]
  unfold parseSocketStateWord
  dsimp only
  refine hlogged _ ?_ ?_ ?_ _ <;> split_ifs <;> rfl

theorem showErrorMessageCleanup_mState (msg : QString) :
    (m.showErrorMessageCleanup w msg).mState = .disconnected := setState_mState w _ _

theorem cancel_mState (msg : QString) : (m.cancel host w msg).mState = .disconnected := by
  rw [cancel, emit_mState, emit_mState]
  exact stop_mState host w m

theorem writeSocket_mState (text : QString) : (m.writeSocket text).mState = m.mState := by
  unfold writeSocket
  split <;> rfl

theorem disconnectFromOpenvpnSocket_mState : m.disconnectFromOpenvpnSocket.mState = m.mState := by
  unfold disconnectFromOpenvpnSocket
  split_ifs <;> rfl

theorem gotTunErr_mState : (m.gotTunErr host w).mState =
    (if !m.mTunError && !m.mError then some .connecting else none).getD m.mState := by
  unfold gotTunErr
  cases hfirst : !m.mTunError && !m.mError with
  | true => exact startConnecting_mState host w _
  | false => rfl

theorem queryState_congr {word known : QString} (h : word.equalsFolded known = true) (s : QString) :
    m.queryState word s = m.queryState known s := by
  have hfold : QString.equalsFolded word = QString.equalsFolded known :=
    funext (QString.equalsFolded_congr h)
  rw [queryState, queryState, refuses, refuses, hfold]

theorem parseSocketQueryWord_mState (word s : QString) :
    (m.parseSocketQueryWord host w word s).mState = (m.queryState word s).getD m.mState := by
  have hknown : ∀ {known : QString}, word.equalsFolded known = true → ∀ {st : Option VpnState},
      m.queryState known s = st → ∀ {x : OpenvpnManager}, x.mState = st.getD m.mState →
        x.mState = (m.queryState word s).getD m.mState := by
    intro known hword st hst x hx
    rw [queryState_congr m hword, hst, hx]
  unfold parseSocketQueryWord
  dsimp only
  refine mState_ite (fun h => hknown h rfl rfl) fun h1 => ?_
  refine mState_ite (fun h => ?hold) fun h2 => ?_
  case hold =>
    refine mState_ite (fun _ => hknown h rfl ?_) fun _ => hknown h rfl rfl
    rw [writeSocket_mState]
    exact writeSocket_mState _ _
  refine mState_ite (fun h => ?password) fun h3 => ?_
  case password =>
    have hpassword : m.queryState "PASSWORD".toList s =
        if !decide (s.indexOfText "Need 'Auth' username/password".toList 0 > -1) &&
          decide (QString.indexOfText (s.map QString.foldCase)
            ("Verification Failed".toList.map QString.foldCase) (s.indexOf ':' 0) > -1)
        then some .disconnected else none := rfl
    refine mState_ite (fun hneed => hknown h (hpassword.trans (if_neg ?_)) ?_) fun hno => ?_
    · rw [decide_eq_true hneed, Bool.not_true, Bool.false_and]
      exact Bool.false_ne_true
    · rw [writeSocket_mState]
      exact writeSocket_mState _ _
    · refine mState_ite (fun hfailed => hknown h (hpassword.trans (if_pos ?_))
        (showErrorMessageCleanup_mState w _ _)) fun hkept =>
          hknown h (hpassword.trans (if_neg ?_)) rfl
      · rw [decide_eq_false hno, decide_eq_true hfailed]
        rfl
      · rw [decide_eq_false hkept, Bool.and_false]
        exact Bool.false_ne_true
  refine mState_ite (fun h => hknown h rfl rfl) fun h4 => ?_
  refine mState_ite (fun h => ?fatal) fun h5 => ?unknown
  case fatal =>
    have hfatal : m.queryState "FATAL".toList s =
        if (s.mid (s.indexOf ':' 0 + 1) (-1)).equalsFolded fatalMessage then
          if !m.mTunError && !m.mError then some .connecting else none
        else some .disconnected := rfl
    refine mState_ite (fun htun => ?_) fun hother => ?_
    · exact hknown h (hfatal.trans (if_pos htun)) (gotTunErr_mState host w _)
    · exact hknown h (hfatal.trans (if_neg hother)) (cancel_mState host w _ _)
  case unknown =>
    simp only [Bool.not_eq_true] at h3 h5
    have hnone : m.queryState word s = none := by
      simp only [queryState, refuses, h3, h5, Bool.false_and, Bool.false_eq_true, if_false]
    rw [hnone]
    rfl

theorem parseSocketPlainWord_mState (word s : QString) :
    (m.parseSocketPlainWord word s).mState = m.mState := by
  unfold parseSocketPlainWord
  dsimp only
  refine mState_ite (fun _ => rfl) fun _ => ?_
  refine mState_ite (fun _ => rfl) fun _ => ?_
  exact mState_ite (fun _ => disconnectFromOpenvpnSocket_mState _) fun _ => rfl

/-- The state after a line. -/
theorem parseSocketLine_mState (s : QString) :
    (m.parseSocketLine host w s).mState = (m.leadsTo s).getD m.mState := by
  unfold leadsTo
  rcases parseSocketLine_kinds host w m s with
    ⟨word, hword, -, hline⟩ | ⟨hnone, word, hword, hline⟩ | ⟨hnone, hno, hline | ⟨word, hline⟩⟩
  · rw [hline, hword]
    exact parseSocketStateWord_mState host w m word s
  · rw [hline, hnone, hword]
    exact parseSocketQueryWord_mState host w m word s
  · rw [hline, hnone, hno]
    rfl
  · rw [hline, hnone, hno]
    exact parseSocketPlainWord_mState m word s

/-- The socket is gone, and since the history `base` no null pointer was dereferenced. -/
def Detached (base : List Act) (m : OpenvpnManager) : Prop :=
  m.mSocket = none ∧ Adds (· ≠ .nullSocket) base m.history

section Detached
variable {m} {base : List Act}

theorem Detached.note {a : Act} (ha : a ≠ .nullSocket) (h : m.Detached base) :
    (m.note a).Detached base := ⟨h.1, h.2.cons ha⟩

theorem Detached.emit (signal : Signal) (h : m.Detached base) : (m.emit signal).Detached base :=
  ⟨h.1, h.2.cons nofun⟩

theorem Detached.setState (st : VpnState) (h : m.Detached base) :
    (m.setState w st).Detached base := by
  have hentered : ((m.enter w st).serviceLog
      ("Set state ".toList ++ QString.number st.toInt)).Detached base := ⟨h.1, h.2.cons nofun⟩
  unfold OpenvpnManager.setState
  split_ifs
  · cases st with
    | connected => exact hentered.emit _
    | connecting => exact hentered.emit _
    | disconnected => exact Detached.emit (m := deleteStateTimer _) _ hentered
    | total => exact hentered
  · exact h

theorem Detached.openvpnRunning (h : m.Detached base) :
    (m.openvpnRunning host w).2.Detached base := by
  obtain ⟨pid, asked, log, hlooked⟩ := openvpnRunning_eq host w m
  rw [hlooked]
  exact ⟨h.1, h.2.cons nofun⟩

theorem Detached.disconnectFromOpenvpnSocket (h : m.Detached base) :
    m.disconnectFromOpenvpnSocket.Detached base := by
  unfold OpenvpnManager.disconnectFromOpenvpnSocket
  rw [h.1]
  exact h

theorem Detached.softStop (h : m.Detached base) : (m.softStop host w).Detached base := by
  have hremoved : (m.removeProcess.openvpnRunning host w).2.Detached base :=
    Detached.openvpnRunning host w (m := m.removeProcess) h
  unfold OpenvpnManager.softStop
  rw [h.1]
  dsimp only
  split_ifs <;> exact hremoved

theorem Detached.stopObfsproxy (h : m.Detached base) : (m.stopObfsproxy host w).Detached base := by
  have hrunning : (m.obfsproxyRunning host w).2.Detached base := by
    unfold OpenvpnManager.obfsproxyRunning
    dsimp only
    split
    · split_ifs <;> exact h
    · exact h
  unfold OpenvpnManager.stopObfsproxy
  dsimp only
  split_ifs
  · split <;> exact hrunning
  · exact hrunning

theorem Detached.stop (h : m.Detached base) : (m.stop host w).Detached base := by
  have hlooked : ((m.note .stopped).openvpnRunning host w).2.Detached base :=
    Detached.openvpnRunning host w (h.note nofun)
  have hended : ∀ m' : OpenvpnManager, m'.Detached base →
      (OpenvpnManager.setState w .disconnected
        { m'.disconnectFromOpenvpnSocket.stopObfsproxy host w with
          mFileSystemWatcher := false }).Detached base := by
    intro m' h'
    have hstopped : Detached base { m'.disconnectFromOpenvpnSocket.stopObfsproxy host w with
        mFileSystemWatcher := false } :=
      Detached.stopObfsproxy host w h'.disconnectFromOpenvpnSocket
    exact hstopped.setState w .disconnected
  unfold OpenvpnManager.stop
  dsimp only
  split_ifs
  · exact hended _ (Detached.softStop host w hlooked)
  · exact hended _ hlooked

theorem Detached.enableTap (h : m.Detached base) : (m.enableTap w).Detached base := by
  have hone : ∀ (m : OpenvpnManager) q, m.Detached base → (m.enableTapOne q).Detached base := by
    intro m q h
    unfold enableTapOne
    dsimp only
    split_ifs <;> exact h
  unfold OpenvpnManager.enableTap
  split
  · exact h
  · exact h
  · exact run_invariant (P := Detached base) hone h _

theorem Detached.startConnecting (h : m.Detached base) :
    (m.startConnecting host w).Detached base := by
  have hset := h.setState w .connecting
  unfold OpenvpnManager.startConnecting
  cases host.platform with
  | windows =>
    obtain ⟨hsocket, hadds⟩ := Detached.enableTap w hset
    exact ⟨hsocket, hadds.cons nofun⟩
  | linux => exact ⟨hset.1, hset.2.cons nofun⟩
  | darwin => exact ⟨hset.1, hset.2.cons nofun⟩

theorem Detached.gotConnected (s : QString) (h : m.Detached base) :
    (m.gotConnected w s).Detached base := by
  unfold OpenvpnManager.gotConnected
  dsimp only
  split_ifs
  · exact Detached.setState w _ (h.emit _)
  · exact Detached.setState w _ (h.emit _)
  · exact Detached.setState w _ h

theorem Detached.gotTunErr (h : m.Detached base) : (m.gotTunErr host w).Detached base := by
  unfold OpenvpnManager.gotTunErr
  split_ifs
  · exact Detached.startConnecting host w h
  · exact h

/-- Both branches of a test keep off the socket. -/
theorem Detached.ite {p : Prop} [Decidable p] {x y : OpenvpnManager} (hx : p → x.Detached base)
    (hy : ¬p → y.Detached base) : (if p then x else y).Detached base := by
  by_cases h : p
  · rw [if_pos h]
    exact hx h
  · rw [if_neg h]
    exact hy h

theorem Detached.actOnStateWord (isnew : Bool) (word s : QString) (h : m.Detached base) :
    (m.actOnStateWord host w isnew word s).Detached base := by
  have hconnecting : ∀ st, ((m.setState w .connecting).emit st).Detached base :=
    fun st => Detached.emit st (h.setState w .connecting)
  unfold OpenvpnManager.actOnStateWord
  refine .ite (fun _ => .ite (fun _ => h.gotConnected w s) fun _ => h) fun _ => ?_
  refine .ite (fun _ => hconnecting _) fun _ => ?_
  refine .ite (fun _ => h.emit _) fun _ => ?_
  refine .ite (fun _ => ?exiting) fun _ => ?_
  case exiting =>
    refine .ite (fun _ => ?_) fun _ => h.setState w .disconnected
    exact Detached.setState w .connecting (m := m.startReconnectTimer) h
  refine .ite (fun _ => hconnecting _) fun _ => ?_
  refine .ite (fun _ => hconnecting _) fun _ => ?_
  refine .ite (fun _ => h.emit _) fun _ => ?_
  refine .ite (fun _ => hconnecting _) fun _ => ?_
  refine .ite (fun _ => h.emit _) fun _ => ?_
  refine .ite (fun _ => ?resolve) fun _ => Detached.emit _ (m := m.serviceLog _) h
  case resolve =>
    exact .ite (fun _ => Detached.emit _ (Detached.stop host w (h.emit _))) fun _ => h.emit _

theorem Detached.parseSocketStateWord (word s : QString) (h : m.Detached base) :
    (m.parseSocketStateWord host w word s).Detached base := by
  have hacted : ∀ (m' : OpenvpnManager) isnew, m'.Detached base →
      (OpenvpnManager.note { m'.actOnStateWord host w isnew word s with mPreviousStateWord := word }
        (.stateWord word)).Detached base := by
    intro m' isnew h'
    obtain ⟨hsocket, hadds⟩ := Detached.actOnStateWord host w isnew word s h'
    exact ⟨hsocket, hadds.cons nofun⟩
  unfold OpenvpnManager.parseSocketStateWord
  exact hacted _ _ (.ite (fun _ => h) fun _ => h)

theorem Detached.parseSocketPlainWord (word s : QString) (h : m.Detached base) :
    (m.parseSocketPlainWord word s).Detached base := by
  unfold OpenvpnManager.parseSocketPlainWord
  refine .ite (fun _ => h) fun _ => .ite (fun _ => h) fun _ => .ite (fun _ => ?_) fun _ => h
  have hlogged : ((m.serviceLog s).serviceLog
      ("processing plain word '".toList ++ word ++ "'".toList)).Detached base := h
  exact Detached.emit _ (Detached.emit _ hlogged.disconnectFromOpenvpnSocket)

theorem Detached.showErrorMessageCleanup (msg : QString) (h : m.Detached base) :
    (m.showErrorMessageCleanup w msg).Detached base := by
  have hremoved : (m.disconnectFromOpenvpnSocket.removeProcess).Detached base :=
    h.disconnectFromOpenvpnSocket
  exact Detached.emit _ (hremoved.setState w .disconnected)

/-- Without a socket a write dereferences the null pointer. -/
theorem writeSocket_of_none (h : m.mSocket = none) (text : QString) :
    (m.writeSocket text).mSocket = none ∧
      (m.writeSocket text).history = .nullSocket :: m.history := by
  rw [writeSocket, h]
  exact ⟨h, rfl⟩

/-- A query that is answered dereferences the null pointer, for each line of the answer. -/
theorem parseSocketQueryWord_answered {word s : QString} (h : m.mSocket = none)
    (ha : (asksRelease word s || asksPassword word s) = true) :
    (m.parseSocketQueryWord host w word s).history = [.nullSocket, .nullSocket] ++ m.history := by
  have htwice : ∀ (m' m₁ : OpenvpnManager) t u, m'.mSocket = none →
      m₁.mSocket = (m'.writeSocket t).mSocket → m₁.history = (m'.writeSocket t).history →
      (m₁.writeSocket u).history = [.nullSocket, .nullSocket] ++ m'.history := by
    intro m' m₁ t u h' hsocket hhistory
    obtain ⟨hnone, hfirst⟩ := writeSocket_of_none h' t
    exact (writeSocket_of_none (hsocket.trans hnone) u).2.trans
      (congrArg (Act.nullSocket :: ·) (hhistory.trans hfirst))
  have hother : ∀ {known : QString}, word.equalsFolded known = true → ∀ other : QString,
      known.equalsFolded other = false → ¬word.equalsFolded other = true := by
    intro known hword other hknown
    rw [QString.equalsFolded_congr hword, hknown]
    exact Bool.false_ne_true
  unfold parseSocketQueryWord
  dsimp only
  rcases Bool.or_eq_true_iff.mp ha with hrelease | hpassword
  · obtain ⟨hword, hhold⟩ := Bool.and_eq_true_iff.mp hrelease
    rw [if_neg (hother hword _ (by decide)), if_pos hword, if_pos (of_decide_eq_true hhold)]
    exact htwice (((m.serviceLog _).serviceLog _).serviceLog _) _ _ _ h rfl rfl
  · obtain ⟨hword, hneed⟩ := Bool.and_eq_true_iff.mp hpassword
    rw [if_neg (hother hword _ (by decide)), if_neg (hother hword _ (by decide)), if_pos hword,
      if_pos (of_decide_eq_true hneed)]
    exact htwice (((m.serviceLog _).serviceLog _).serviceLog _) _ _ _ h rfl rfl

theorem Detached.parseSocketQueryWord {word s : QString} (h : m.Detached base)
    (ha : (asksRelease word s || asksPassword word s) = false) :
    (m.parseSocketQueryWord host w word s).Detached base := by
  obtain ⟨hrelease, hpassword⟩ := Bool.or_eq_false_iff.mp ha
  unfold OpenvpnManager.parseSocketQueryWord
  refine .ite (fun _ => h) fun _ => .ite (fun hword => ?hold) fun _ =>
    .ite (fun hword => ?password) fun _ => .ite (fun _ => h) fun _ => .ite (fun _ => ?fatal) fun _ => h
  case hold =>
    refine .ite (fun hasks => ?_) fun _ => h
    rw [asksRelease, hword, decide_eq_true hasks] at hrelease
    exact absurd hrelease (by decide)
  case password =>
    refine .ite (fun hasks => ?_) fun _ => .ite (fun _ => ?_) fun _ => h
    · rw [asksPassword, hword, decide_eq_true hasks] at hpassword
      exact absurd hpassword (by decide)
    · exact Detached.showErrorMessageCleanup w _ h
  case fatal =>
    refine .ite (fun _ => Detached.gotTunErr host w h) fun _ => ?_
    exact Detached.emit _ (Detached.emit _ (Detached.stop host w h))

theorem parseSocketLine_answered {s : QString} (h : m.mSocket = none) (ha : isAnswered s = true) :
    (m.parseSocketLine host w s).history = [.nullSocket, .nullSocket] ++ m.history := by
  obtain ⟨word, hword, hasked⟩ := (Option.any_eq_true _ _).mp ha
  rcases parseSocketLine_kinds host w m s with
    ⟨-, -, hno, -⟩ | ⟨-, word', hword', hline⟩ | ⟨-, hno, -⟩
  · exact absurd (hno.symm.trans hword) nofun
  · obtain rfl := Option.some.inj (hword.symm.trans hword')
    rw [hline]
    exact parseSocketQueryWord_answered host w h hasked
  · exact absurd (hno.symm.trans hword) nofun

/-- A line that is not answered keeps off the socket. -/
theorem Detached.parseSocketLine {s : QString} (h : m.Detached base) (ha : isAnswered s = false) :
    (m.parseSocketLine host w s).Detached base := by
  rcases parseSocketLine_kinds host w m s with
    ⟨word, -, -, hline⟩ | ⟨-, word, hword, hline⟩ | ⟨-, -, hline | ⟨word, hline⟩⟩
  · rw [hline]
    exact h.parseSocketStateWord host w word s
  · rw [isAnswered, hword, Option.any_some] at ha
    rw [hline]
    exact h.parseSocketQueryWord host w ha
  · rw [hline]
    exact h
  · rw [hline]
    exact h.parseSocketPlainWord word s

end Detached

/-- A line dereferences no null pointer and does not change the state. -/
def Untouched (m : OpenvpnManager) (s : QString) : Prop :=
  (m.parseSocketLine host w s).mState = m.mState ∧
    Adds (· ≠ .nullSocket) m.history (m.parseSocketLine host w s).history

/-- A line is not answered, and leads to no other state than the present one. -/
def Inert (m : OpenvpnManager) (s : QString) : Prop :=
  isAnswered s = false ∧ ∀ st ∈ m.leadsTo s, st = m.mState

theorem untouched_iff_inert {m : OpenvpnManager} (h : m.mSocket = none) (s : QString) :
    Untouched host w m s ↔ Inert m s := by
  have hdetached : m.Detached m.history := ⟨h, .refl _ _⟩
  have hkept : (m.parseSocketLine host w s).mState = m.mState ↔ ∀ st ∈ m.leadsTo s, st = m.mState := by
    rw [parseSocketLine_mState]
    cases m.leadsTo s <;> simp
  have hclear : Adds (· ≠ .nullSocket) m.history (m.parseSocketLine host w s).history ↔
      isAnswered s = false := by
    cases ha : isAnswered s with
    | true =>
      refine iff_of_false ?_ nofun
      rintro ⟨new, hnew, hall⟩
      rw [parseSocketLine_answered host w h ha] at hnew
      rw [← List.append_cancel_right hnew] at hall
      exact hall .nullSocket List.mem_cons_self rfl
    | false => exact iff_of_true (hdetached.parseSocketLine host w ha).2 rfl
  rw [Untouched, Inert, hkept, hclear, and_comm]

/-- Behind a line of an event that releases the management socket, the other lines of
it each satisfy `C` of the state they are parsed in. -/
def AfterRelease (C : OpenvpnManager → QString → Prop) (m : OpenvpnManager) (e : Event) : Prop :=
  ∀ bytes ∈ e.callback.socketBytes, ∀ socket ∈ m.mSocket, ∀ before s after,
    socketLines (socket.buffer ++ bytes) = before ++ s :: after →
    ∀ m₁, m₁ = run (fun m s => parseSocketLine host e.world s m)
      (readSocket { socket with buffer := socket.buffer ++ bytes }
        { m with asked := 0, mSocket := some { socket with buffer := socket.buffer ++ bytes } })
      before →
    m₁.mSocket.isSome = true → (m₁.parseSocketLine host e.world s).mSocket = none →
      Meets (fun m s => parseSocketLine host e.world s m) C (m₁.parseSocketLine host e.world s) after

/-- The lines of a batch behind the one that releases the socket leave the null pointer
and the state alone exactly when none of them is answered or leads to another state. -/
theorem teardown_final_iff (m : OpenvpnManager) (e : Event) :
    AfterRelease host (Untouched host e.world) m e ↔ AfterRelease host Inert m e := by
  have hmeets : ∀ {m : OpenvpnManager} {after : List QString}, m.mSocket = none →
      (Meets (fun m s => parseSocketLine host e.world s m) (Untouched host e.world) m after ↔
        Meets (fun m s => parseSocketLine host e.world s m) Inert m after) := by
    intro m after h
    refine meets_iff_meets (I := fun m => m.mSocket = none) (fun m s hm hinert => ?_)
      (fun m s hm => untouched_iff_inert host e.world hm s) h
    have hdetached : m.Detached m.history := ⟨hm, .refl _ _⟩
    exact (hdetached.parseSocketLine host e.world hinert.1).1
  refine forall₂_congr fun bytes _ => forall₂_congr fun socket _ => forall₃_congr fun before s after =>
    forall₃_congr fun _ m₁ _ => forall₂_congr fun _ hreleased => hmeets hreleased

/-- openvpn reports an error and, behind it, a connection. -/
theorem connected_after_release : ¬ ∀ (host : Host) (m : OpenvpnManager) (e : Event),
    AfterRelease host (Untouched host e.world) m e := by
  intro h
  have hrest := h (.on .linux)
    (run (step (.on .linux)) (initial .zero)
      [⟨.quiet 0, .connectionOpened⟩,
        ⟨.quiet 0, .send 0 (startObject 7 "443" "celo.example/7.ovpn")⟩,
        ⟨.quiet 0, .templateFinished 0 []⟩])
    ⟨.busy 1000, .line "ERROR: command failed\n1,CONNECTED,SUCCESS,10.8.0.2,192.0.2.1"⟩ _ rfl
    ⟨true, true, false, []⟩ (by decide +kernel) [] "ERROR: command failed".toList
    ["1,CONNECTED,SUCCESS,10.8.0.2,192.0.2.1".toList] (by decide +kernel) _ rfl (by decide +kernel)
    (by decide +kernel)
  exact absurd hrest.1.1 (by decide +kernel)

end OpenvpnManager
end CeloVpn.Service
