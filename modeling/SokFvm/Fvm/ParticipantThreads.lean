import SokFvm.Fvm.Lineage

/-!
# The participant with two threads

The main thread calls `MainFunction`, the signal thread runs the two call-backs of
the freshness value distribution.  The call-backs hold their locks from their first
access to the last, so a call-back is one step.  The main thread takes three steps
before it ticks: `enter` reads the state and picks the action of that state, the
action runs up to its lock, and then the locked section runs.  Call-backs can come
between any two of these steps.

The state that `enter` read may be out of date when the locked section runs.  That
does no harm to `processAnAuthenticFv` and `processAnUnauthenticFv`, because no
call-back leaves the states that they were picked in.  A call-back does leave
`FVInProgress`, when it completes the response, and the locked section of
`waitForAnAuthenticFv` does not look again: after a timeout it goes to `RequestFV`
whatever the state is.

* `threadStep` is the machine, and `uninterrupted_mainFunction` says that its steps
  without an interruption are the main function of the sequential model.
* `MainThread.Fits` is the invariant: what the state can be, given where the main
  thread stands.
* `documentedEdge` is the documented state diagram, and `follows_diagram` the
  result.
-/

namespace Sok.Fvm

open Sok.Common StateMachine FreshnessValueManagerImplParticipant

/-! ## The locked section of `waitForAnAuthenticFv` -/

namespace FreshnessValueManagerImplParticipant

variable (self : FreshnessValueManagerImplParticipant)

/-- `waitForAnAuthenticFv` up to its lock: whether the request has timed out. -/
def waitUpToLock : Bool × FreshnessValueManagerImplParticipant :=
  let self := { self with
    mTimeSinceAuthFvReq := self.mTimeSinceAuthFvReq + sokFmMainFunctionPeriodMs.toUInt32 }
  (decide (sokFmTimeRequestTimeoutMs.toUInt32 < self.mTimeSinceAuthFvReq), self)

/-- The two parts of `waitForAnAuthenticFv` without an interruption. -/
theorem waitForAnAuthenticFv_eq :
    self.waitForAnAuthenticFv =
      if self.waitUpToLock.1 then (.kSuccess, self.waitUpToLock.2.transiteTo .requestFV, [])
      else (.kSuccess, self.waitUpToLock.2, []) := by
  unfold waitForAnAuthenticFv waitUpToLock
  dsimp only
  split
  · rename_i hlt
    rw [if_pos (decide_eq_true hlt)]
  · rename_i hle
    rw [if_neg (by simpa using hle)]

end FreshnessValueManagerImplParticipant

/-! ## The two threads -/

/-- Where the main thread stands. -/
inductive MainThread
  /-- Between two calls of `MainFunction`. -/
  | outside
  /-- `enter` has read the state and picked this action. -/
  | picked (action : StateAction)
  /-- The action waits for its lock. -/
  | atLock (action : StateAction)
  /-- The action has returned, and the timers are left to increment. -/
  | acted
  deriving DecidableEq, Repr

structure ThreadedParticipant where
  participant : FreshnessValueManagerImplParticipant
  main : MainThread

/-- The next step of one of the threads. -/
inductive ThreadOp
  | main (csm : ICsmAccessor) (signals : ISignalManager)
  | incomingAuthFvSignal (signal : String) (value : ByteVector)
  | incomingUnAuthFvSignal (signal : String) (value : ByteVector)

/-- A change of `mCurrentFvState`, and the action that made it. There is no action
when the signal thread made it. -/
structure StateChange where
  mover : Option StateAction
  old : FreshnessValueState
  new : FreshnessValueState
  deriving DecidableEq, Repr

/-- The current state. -/
def ThreadedParticipant.state (s : ThreadedParticipant) : Option FreshnessValueState :=
  s.participant.mFvStateManager.mCurrentFvState

variable (csm : ICsmAccessor) (signals : ISignalManager)

/-- `MainFunction` up to the call of the action. -/
def beginMainFunction (p : FreshnessValueManagerImplParticipant) : MainThread :=
  if !p.mInitialized then .outside
  else match p.mFvStateManager.enter with
    | none => .acted
    | some action => .picked action

/-- An action up to its lock. Two of the actions take no lock. -/
def runUpToLock (p : FreshnessValueManagerImplParticipant) : StateAction → ThreadedParticipant
  | .requestAnAuthenticFv => ⟨(p.requestAnAuthenticFv csm signals).2.1, .acted⟩
  | .waitForAnAuthenticFv =>
    ⟨p.waitUpToLock.2, if p.waitUpToLock.1 then .atLock .waitForAnAuthenticFv else .acted⟩
  | .processAnAuthenticFv => ⟨p, .atLock .processAnAuthenticFv⟩
  | .processAnUnauthenticFv => ⟨p, .atLock .processAnUnauthenticFv⟩
  | .idleAction => ⟨p, .acted⟩

/-- The locked section of an action. -/
def runLocked (p : FreshnessValueManagerImplParticipant) :
    StateAction → Except Fault FreshnessValueManagerImplParticipant
  | .waitForAnAuthenticFv => .ok (p.transiteTo .requestFV)
  | .processAnAuthenticFv => (p.processAnAuthenticFv csm).map (·.2.1)
  | .processAnUnauthenticFv => p.processAnUnauthenticFv.map (·.2.1)
  | .requestAnAuthenticFv | .idleAction => .ok p

/-- The next step of the main thread, and the action that takes it. -/
def mainThreadNext (s : ThreadedParticipant) :
    Except Fault (Option StateAction × ThreadedParticipant) :=
  match s.main with
  | .outside => .ok (none, { s with main := beginMainFunction s.participant })
  | .picked action => .ok (some action, runUpToLock csm signals s.participant action)
  | .atLock action => (runLocked csm s.participant action).map fun p => (some action, ⟨p, .acted⟩)
  | .acted => .ok (none, ⟨s.participant.incTimers, .outside⟩)

/-- The next step, and the action that takes it. -/
def threadNext (s : ThreadedParticipant) :
    ThreadOp → Except Fault (Option StateAction × ThreadedParticipant)
  | .main csm signals => mainThreadNext csm signals s
  | .incomingAuthFvSignal signal value =>
    .ok (none, { s with participant := (s.participant.incomingAuthFvSignalsCb signal value).1 })
  | .incomingUnAuthFvSignal signal value =>
    .ok (none, { s with participant := s.participant.incomingUnAuthFvSignalsCb signal value })

/-- The change of the state in a step. -/
def stateChange (mover : Option StateAction) :
    Option FreshnessValueState → Option FreshnessValueState → List StateChange
  | some old, some new => if old = new then [] else [⟨mover, old, new⟩]
  | _, _ => []

/-- The participant with its two threads as a machine. -/
def threadStep : Machine ThreadedParticipant ThreadOp StateChange Fault := fun s op =>
  (threadNext s op).map fun next => (next.2, stateChange next.1 s.state next.2.state)

/-! ## Without an interruption -/

variable {csm signals}
variable {s s' s₀ : ThreadedParticipant} {op : ThreadOp} {es h : List StateChange}
variable {p : FreshnessValueManagerImplParticipant}

theorem run_mainThread {mover : Option StateAction} (s : ThreadedParticipant)
    (hnext : mainThreadNext csm signals s = .ok (mover, s')) (h : List StateChange) :
    ∃ h', Run threadStep Anything s h s' h' := by
  have hstep : threadStep s (.main csm signals) =
      .ok (s', stateChange mover s.state s'.state) := by
    show (mainThreadNext csm signals s).map _ = _
    rw [hnext]
    rfl
  exact ⟨_, .single trivial hstep⟩

/-- The locked section of an action that waits for its lock. -/
theorem run_locked {p' : FreshnessValueManagerImplParticipant} (action : StateAction)
    (hlocked : runLocked csm p action = .ok p') (signals : ISignalManager)
    (h : List StateChange) :
    ∃ h', Run threadStep Anything ⟨p, .atLock action⟩ h ⟨p', .acted⟩ h' := by
  have hnext : mainThreadNext csm signals ⟨p, .atLock action⟩ =
      .ok (some action, ⟨p', .acted⟩) := by
    show (runLocked csm p action).map _ = _
    rw [hlocked]
    rfl
  exact run_mainThread _ hnext h

/-- An action, from the moment it was picked. -/
theorem run_action {action : StateAction} {result : ActionResult}
    (hresult : p.stateAction csm signals action = .ok result) (h : List StateChange) :
    ∃ h', Run threadStep Anything ⟨p, .picked action⟩ h ⟨result.2.1, .acted⟩ h' := by
  have hnext : mainThreadNext csm signals ⟨p, .picked action⟩ =
      .ok (some action, runUpToLock csm signals p action) := rfl
  obtain ⟨h₁, hpicked⟩ := run_mainThread _ hnext h
  cases action with
  | requestAnAuthenticFv =>
    cases Except.ok.inj hresult
    exact ⟨h₁, hpicked⟩
  | waitForAnAuthenticFv =>
    have hwait : p.waitForAnAuthenticFv = result := Except.ok.inj hresult
    rw [waitForAnAuthenticFv_eq] at hwait
    unfold runUpToLock at hpicked
    dsimp only at hpicked
    split at hwait
    · rename_i htimeout
      rw [htimeout, if_pos rfl] at hpicked
      have hrequest : runLocked csm p.waitUpToLock.2 .waitForAnAuthenticFv =
          .ok (p.waitUpToLock.2.transiteTo .requestFV) := rfl
      obtain ⟨h₂, hlocked⟩ := run_locked _ hrequest signals h₁
      rw [← hwait]
      exact ⟨h₂, hpicked.trans hlocked⟩
    · rename_i htimeout
      rw [if_neg htimeout] at hpicked
      rw [← hwait]
      exact ⟨h₁, hpicked⟩
  | processAnAuthenticFv =>
    have hprocess : p.processAnAuthenticFv csm = .ok result := hresult
    have hlocked : runLocked csm p .processAnAuthenticFv = .ok result.2.1 := by
      rw [runLocked, hprocess]
      rfl
    obtain ⟨h₂, hlocked⟩ := run_locked _ hlocked signals h₁
    exact ⟨h₂, hpicked.trans hlocked⟩
  | processAnUnauthenticFv =>
    have hprocess : p.processAnUnauthenticFv = .ok result := hresult
    have hlocked : runLocked csm p .processAnUnauthenticFv = .ok result.2.1 := by
      rw [runLocked, hprocess]
      rfl
    obtain ⟨h₂, hlocked⟩ := run_locked _ hlocked signals h₁
    exact ⟨h₂, hpicked.trans hlocked⟩
  | idleAction =>
    cases Except.ok.inj hresult
    exact ⟨h₁, hpicked⟩

/-- The three steps of a call and the tick, without an interruption, are the main
function of the sequential model. -/
theorem uninterrupted_mainFunction (hready : Ready p) {result : ActionResult}
    (hresult : p.mainFunction csm signals = .ok result) (h : List StateChange) :
    ∃ h', Run threadStep Anything ⟨p, .outside⟩ h ⟨result.2.1, .outside⟩ h' := by
  obtain ⟨state, result', hstate, haction, hresult'⟩ := mainFunction_cases hready hresult
  have hbegin : beginMainFunction p = .picked (StateAction.ofState state) := by
    unfold beginMainFunction
    rw [hready.mInitialized, hready.registered.enter hstate]
    rfl
  have hfirst : mainThreadNext csm signals ⟨p, .outside⟩ =
      .ok (none, ⟨p, .picked (StateAction.ofState state)⟩) := by
    rw [← hbegin]
    rfl
  have hlast : mainThreadNext csm signals ⟨result'.2.1, .acted⟩ =
      .ok (none, ⟨result'.2.1.incTimers, .outside⟩) := rfl
  obtain ⟨h₁, hpick⟩ := run_mainThread _ hfirst h
  obtain ⟨h₂, hact⟩ := run_action haction h₁
  obtain ⟨h₃, htick⟩ := run_mainThread _ hlast h₂
  rw [hresult']
  exact ⟨h₃, (hpick.trans hact).trans htick⟩

/-! ## The state diagram -/

/-- The edges of the documented state diagram. -/
def documentedEdge : FreshnessValueState → FreshnessValueState → Bool
  | .requestFV, .fvInProgress => true
  | .fvInProgress, .requestFV => true
  | .fvInProgress, .processFV => true
  | .processFV, .fvInProgress => true
  | .processFV, .idle => true
  | .idle, .processAnauthFV => true
  | .processAnauthFV, .idle => true
  | .processAnauthFV, .requestFV => true
  | _, _ => false

/-- When a timed-out `waitForAnAuthenticFv` has its lock, no call-back has completed
a response since `enter` read the state. -/
def NotOvertaken : Guard ThreadedParticipant ThreadOp StateChange := fun s _ op =>
  match op with
  | .main _ _ => s.main = .atLock .waitForAnAuthenticFv → s.state = some .fvInProgress
  | _ => True

instance (s : ThreadedParticipant) (h : List StateChange) : DecidablePred (NotOvertaken s h)
  | .main _ _ => inferInstanceAs (Decidable (_ → _))
  | .incomingAuthFvSignal _ _ | .incomingUnAuthFvSignal _ _ => .isTrue trivial

/-! ### What the state can be -/

/-- Where call-backs can have led from `old`. -/
def SignalsLead (old new : FreshnessValueState) : Prop :=
  new = old ∨ new = FreshnessValueStateManager.onFvRes old ∨
    new = FreshnessValueStateManager.onUnauthenticFvRes old

theorem SignalsLead.trans {a b c : FreshnessValueState} (first : SignalsLead a b)
    (second : SignalsLead b c) : SignalsLead a c := by
  unfold SignalsLead at *
  cases a <;> rcases first with rfl | rfl | rfl <;> rcases second with rfl | rfl | rfl <;>
    simp [FreshnessValueStateManager.onFvRes, FreshnessValueStateManager.onUnauthenticFvRes]

/-- The state, given where the main thread stands: an action that was picked was
picked in a state from which call-backs led to the present one. -/
def MainThread.Fits : MainThread → FreshnessValueState → Prop
  | .outside, _ | .acted, _ => True
  | .picked action, state | .atLock action, state =>
    ∃ read, action = StateAction.ofState read ∧ SignalsLead read state

theorem MainThread.Fits.signalled {m : MainThread} {old new : FreshnessValueState}
    (hfits : m.Fits old) (hlead : SignalsLead old new) : m.Fits new := by
  cases m with
  | outside => trivial
  | acted => trivial
  | picked action | atLock action =>
    obtain ⟨read, haction, hread⟩ := hfits
    exact ⟨read, haction, hread.trans hlead⟩

/-- The invariant of the two threads. -/
structure Consistent (s : ThreadedParticipant) : Prop where
  registered : s.participant.mFvStateManager.AllRegistered StateAction.ofState
  fits : ∃ state, s.state = some state ∧ s.main.Fits state

/-- What one step does to the state. -/
inductive StateStep (s : ThreadedParticipant) (op : ThreadOp) (mover : Option StateAction) :
    FreshnessValueState → FreshnessValueState → Prop
  | stays (state : FreshnessValueState) (hguard : NotOvertaken s [] op) :
      StateStep s op mover state state
  | follows (old new : FreshnessValueState) (hguard : NotOvertaken s [] op)
      (hedge : documentedEdge old new = true)
      (hmover : old = .processFV → mover = some .processAnAuthenticFv) :
      StateStep s op mover old new
  /-- A timed-out `waitForAnAuthenticFv` leaves the state that a call-back led to. -/
  | overtakes (hguard : ¬ NotOvertaken s [] op) : StateStep s op mover .processFV .requestFV

/-- The step went from `s` to `s'`, and it can be continued. -/
structure Outcome (s : ThreadedParticipant) (op : ThreadOp) (mover : Option StateAction)
    (s' : ThreadedParticipant) : Prop where
  consistent : Consistent s'
  moves : ∃ old new, s.state = some old ∧ s'.state = some new ∧ StateStep s op mover old new

/-! ### The signal thread -/

/-- A call-back of the signal thread asks the state manager to react, or leaves it
alone. -/
theorem mFvStateManager_incomingAuthFvSignalsCb (signal : String) (value : ByteVector) :
    (p.incomingAuthFvSignalsCb signal value).1.mFvStateManager = p.mFvStateManager ∨
      (p.incomingAuthFvSignalsCb signal value).1.mFvStateManager =
        p.mFvStateManager.reactToFVRes := by
  have hstored : (p.storeAuthFvSignal signal value).1.mFvStateManager = p.mFvStateManager := by
    rcases storeAuthFvSignal_cases (s := p) signal value with h | h | h
    · rw [h]
    · rw [h]
    · rw [h]
  unfold incomingAuthFvSignalsCb
  dsimp only
  split
  · right
    rw [hstored]
  · left
    exact hstored

theorem mFvStateManager_incomingUnAuthFvSignalsCb (signal : String) (value : ByteVector) :
    (p.incomingUnAuthFvSignalsCb signal value).mFvStateManager = p.mFvStateManager ∨
      (p.incomingUnAuthFvSignalsCb signal value).mFvStateManager =
        p.mFvStateManager.reactToUnauthenticFVRes := by
  unfold incomingUnAuthFvSignalsCb
  split
  · right
    rfl
  · left
    rfl

/-- A call-back that leads to a state in which the main thread can go on. -/
theorem outcome_of_reaction {p' : FreshnessValueManagerImplParticipant}
    {state new : FreshnessValueState} (hstate : s.state = some state)
    (hregistered : p'.mFvStateManager.AllRegistered StateAction.ofState)
    (hcurrent : p'.mFvStateManager.mCurrentFvState = some new) (hfits : s.main.Fits new)
    (hmove : StateStep s op none state new) : Outcome s op none { s with participant := p' } :=
  ⟨⟨hregistered, new, hcurrent, hfits⟩, state, new, hstate, hcurrent, hmove⟩

/-- After a reaction of the state manager the main thread can go on where it stood. -/
theorem Consistent.signalled (hconsistent : Consistent s) (hop : NotOvertaken s [] op)
    {p' : FreshnessValueManagerImplParticipant}
    (hmanager : p'.mFvStateManager = s.participant.mFvStateManager ∨
      p'.mFvStateManager = s.participant.mFvStateManager.reactToFVRes ∨
      p'.mFvStateManager = s.participant.mFvStateManager.reactToUnauthenticFVRes) :
    Outcome s op none { s with participant := p' } := by
  obtain ⟨state, hstate, hfits⟩ := hconsistent.fits
  have hstate' : s.participant.mFvStateManager.mCurrentFvState = some state := hstate
  rcases hmanager with hmanager | hmanager | hmanager
  · have hregistered := hconsistent.registered
    rw [← hmanager] at hregistered hstate'
    exact outcome_of_reaction hstate hregistered hstate' hfits (.stays state hop)
  · obtain ⟨hregistered, hcurrent⟩ := hconsistent.registered.reactToFVRes hstate'
    rw [← hmanager] at hregistered hcurrent
    apply outcome_of_reaction hstate hregistered hcurrent (hfits.signalled (Or.inr (Or.inl rfl)))
    cases state with
    | fvInProgress => exact .follows _ _ hop rfl (by simp)
    | _ => exact .stays _ hop
  · obtain ⟨hregistered, hcurrent⟩ := hconsistent.registered.reactToUnauthenticFVRes hstate'
    rw [← hmanager] at hregistered hcurrent
    apply outcome_of_reaction hstate hregistered hcurrent (hfits.signalled (Or.inr (Or.inr rfl)))
    cases state with
    | idle => exact .follows _ _ hop rfl (by simp)
    | _ => exact .stays _ hop

/-! ### The main thread -/

/-- A step of the main thread that does not touch the state manager. -/
theorem Consistent.outcome_stays (hconsistent : Consistent s) (hop : NotOvertaken s [] op)
    {mover : Option StateAction}
    (hmanager : s'.participant.mFvStateManager = s.participant.mFvStateManager)
    (hfits : ∀ state, s.state = some state → s.main.Fits state → s'.main.Fits state) :
    Outcome s op mover s' := by
  obtain ⟨state, hstate, hfitsNow⟩ := hconsistent.fits
  have hnew : s'.state = some state := by
    show s'.participant.mFvStateManager.mCurrentFvState = some state
    rw [hmanager]
    exact hstate
  refine ⟨⟨?_, state, hnew, hfits state hstate hfitsNow⟩, state, state, hstate, hnew,
    .stays state hop⟩
  rw [hmanager]
  exact hconsistent.registered

/-- A step of the main thread that ends with a transition. -/
theorem Consistent.outcome_transiteTo (hconsistent : Consistent s) {mover : Option StateAction}
    {old new : FreshnessValueState} (hstate : s.state = some old)
    (hmanager : p.mFvStateManager = s.participant.mFvStateManager)
    (hmove : StateStep s op mover old new) :
    Outcome s op mover ⟨p.transiteTo new, .acted⟩ := by
  have hregistered : p.mFvStateManager.AllRegistered StateAction.ofState := by
    rw [hmanager]
    exact hconsistent.registered
  have hnew : (p.transiteTo new).mFvStateManager.mCurrentFvState = some new :=
    hregistered.current_transiteTo new
  exact ⟨⟨hregistered.transiteTo new, new, hnew, trivial⟩, old, new, hstate, hnew, hmove⟩

/-- The states in which an action can be waiting: the one it was picked in, and
`ProcessFV` for the action of `FVInProgress`, `ProcessAnauthFV` for that of `Idle`. -/
theorem state_of_fits {action : StateAction} {state : FreshnessValueState}
    (hfits : (MainThread.picked action).Fits state) :
    action = StateAction.ofState state ∨
      action = .waitForAnAuthenticFv ∧ state = .processFV ∨
      action = .idleAction ∧ state = .processAnauthFV := by
  obtain ⟨read, rfl, hlead⟩ := hfits
  rcases hlead with rfl | rfl | rfl
  · exact Or.inl rfl
  · cases read with
    | fvInProgress => exact Or.inr (Or.inl ⟨rfl, rfl⟩)
    | _ => exact Or.inl rfl
  · cases read with
    | idle => exact Or.inr (Or.inr ⟨rfl, rfl⟩)
    | _ => exact Or.inl rfl

theorem notOvertaken_of_main (hmain : s.main ≠ .atLock .waitForAnAuthenticFv)
    (csm : ICsmAccessor) (signals : ISignalManager) :
    NotOvertaken s [] (.main csm signals) := by
  intro hlock
  exact absurd hlock hmain

theorem outcome_requestAnAuthenticFv
    (hconsistent : Consistent ⟨p, .picked .requestAnAuthenticFv⟩) :
    Outcome ⟨p, .picked .requestAnAuthenticFv⟩ (.main csm signals) (some .requestAnAuthenticFv)
      ⟨(p.requestAnAuthenticFv csm signals).2.1, .acted⟩ := by
  have hop : NotOvertaken ⟨p, .picked .requestAnAuthenticFv⟩ [] (.main csm signals) :=
    notOvertaken_of_main (by simp) _ _
  obtain ⟨state, hstate, hfits⟩ := hconsistent.fits
  have hrequest : state = .requestFV := by
    have haction := state_of_fits hfits
    cases state <;> simp [StateAction.ofState] at haction ⊢
  subst hrequest
  unfold requestAnAuthenticFv
  split
  · exact hconsistent.outcome_stays hop rfl fun _ _ _ => trivial
  · dsimp only
    split
    · refine hconsistent.outcome_transiteTo hstate rfl ?_
      exact .follows _ _ hop rfl (by simp)
    · exact hconsistent.outcome_stays hop rfl fun _ _ _ => trivial

/-- An action up to its lock. -/
theorem outcome_runUpToLock (action : StateAction) (hconsistent : Consistent ⟨p, .picked action⟩) :
    Outcome ⟨p, .picked action⟩ (.main csm signals) (some action)
      (runUpToLock csm signals p action) := by
  have hop : NotOvertaken ⟨p, .picked action⟩ [] (.main csm signals) :=
    notOvertaken_of_main (by simp) _ _
  cases action with
  | requestAnAuthenticFv => exact outcome_requestAnAuthenticFv hconsistent
  | waitForAnAuthenticFv =>
    refine hconsistent.outcome_stays hop rfl ?_
    intro state _ hfits
    show (if p.waitUpToLock.1 then MainThread.atLock .waitForAnAuthenticFv else .acted).Fits state
    split
    · exact hfits
    · trivial
  | processAnAuthenticFv => exact hconsistent.outcome_stays hop rfl fun _ _ hfits => hfits
  | processAnUnauthenticFv => exact hconsistent.outcome_stays hop rfl fun _ _ hfits => hfits
  | idleAction => exact hconsistent.outcome_stays hop rfl fun _ _ _ => trivial

/-- The locked section of an action. -/
theorem outcome_runLocked (action : StateAction) (hconsistent : Consistent ⟨p, .atLock action⟩)
    {p' : FreshnessValueManagerImplParticipant} (hlocked : runLocked csm p action = .ok p') :
    Outcome ⟨p, .atLock action⟩ (.main csm signals) (some action) ⟨p', .acted⟩ := by
  obtain ⟨state, hstate, hfits⟩ := hconsistent.fits
  have haction := state_of_fits hfits
  cases action with
  | requestAnAuthenticFv =>
    cases hlocked
    exact hconsistent.outcome_stays (notOvertaken_of_main (by simp) _ _) rfl fun _ _ _ => trivial
  | waitForAnAuthenticFv =>
    cases hlocked
    refine hconsistent.outcome_transiteTo hstate rfl ?_
    -- this section does not look at the state again
    cases state with
    | fvInProgress => exact .follows _ _ (fun _ => hstate) rfl (by simp)
    | processFV =>
      refine .overtakes fun hguard => ?_
      have hread := hguard rfl
      rw [hstate] at hread
      cases hread
    | _ => simp [StateAction.ofState] at haction
  | processAnAuthenticFv =>
    have hop : NotOvertaken ⟨p, .atLock .processAnAuthenticFv⟩ [] (.main csm signals) :=
      notOvertaken_of_main (by simp) _ _
    have hprocess : state = .processFV := by
      cases state <;> simp [StateAction.ofState] at haction ⊢
    subst hprocess
    obtain ⟨result, hresult, rfl⟩ := exists_of_map_ok hlocked
    obtain ⟨-, code, -, ⟨-, hresult⟩ | ⟨-, hresult⟩⟩ := processAnAuthenticFv_cases hresult
    · subst hresult
      exact hconsistent.outcome_transiteTo hstate rfl (.follows _ _ hop rfl fun _ => rfl)
    · subst hresult
      exact hconsistent.outcome_transiteTo hstate rfl (.follows _ _ hop rfl fun _ => rfl)
  | processAnUnauthenticFv =>
    have hop : NotOvertaken ⟨p, .atLock .processAnUnauthenticFv⟩ [] (.main csm signals) :=
      notOvertaken_of_main (by simp) _ _
    have hprocess : state = .processAnauthFV := by
      cases state <;> simp [StateAction.ofState] at haction ⊢
    subst hprocess
    obtain ⟨result, hresult, rfl⟩ := exists_of_map_ok hlocked
    rcases processAnUnauthenticFv_cases hresult with hresult | hresult
    · subst hresult
      exact hconsistent.outcome_transiteTo hstate rfl (.follows _ _ hop rfl (by simp))
    · subst hresult
      exact hconsistent.outcome_transiteTo hstate rfl (.follows _ _ hop rfl (by simp))
  | idleAction =>
    cases hlocked
    exact hconsistent.outcome_stays (notOvertaken_of_main (by simp) _ _) rfl fun _ _ _ => trivial

theorem fits_beginMainFunction
    (hall : p.mFvStateManager.AllRegistered StateAction.ofState) {state : FreshnessValueState}
    (hstate : p.mFvStateManager.mCurrentFvState = some state) :
    (beginMainFunction p).Fits state := by
  unfold beginMainFunction
  split
  · trivial
  · rw [hall.enter hstate]
    exact ⟨state, rfl, Or.inl rfl⟩

/-- The next step of the main thread. -/
theorem outcome_mainThreadNext {mover : Option StateAction} (hconsistent : Consistent s)
    (hnext : mainThreadNext csm signals s = .ok (mover, s')) :
    Outcome s (.main csm signals) mover s' := by
  obtain ⟨p, main⟩ := s
  cases main with
  | outside =>
    cases hnext
    refine hconsistent.outcome_stays (notOvertaken_of_main (by simp) _ _) rfl ?_
    intro state hstate _
    exact fits_beginMainFunction hconsistent.registered hstate
  | picked action =>
    cases hnext
    exact outcome_runUpToLock action hconsistent
  | atLock action =>
    obtain ⟨p', hlocked, hpair⟩ := exists_of_map_ok hnext
    cases hpair
    exact outcome_runLocked action hconsistent hlocked
  | acted =>
    cases hnext
    exact hconsistent.outcome_stays (notOvertaken_of_main (by simp) _ _) rfl fun _ _ _ => trivial

/-! ## The result -/

/-- Every step of the two threads. -/
theorem outcome_of_step (hconsistent : Consistent s) (hstep : threadStep s op = .ok (s', es)) :
    ∃ mover, Outcome s op mover s' ∧ es = stateChange mover s.state s'.state := by
  obtain ⟨⟨mover, t⟩, hnext, hpair⟩ := exists_of_map_ok hstep
  cases hpair
  refine ⟨mover, ?_, rfl⟩
  cases op with
  | main csm signals => exact outcome_mainThreadNext hconsistent hnext
  | incomingAuthFvSignal signal value =>
    cases hnext
    refine hconsistent.signalled (by trivial) ?_
    rcases mFvStateManager_incomingAuthFvSignalsCb (p := s.participant) signal value with h | h
    · exact Or.inl h
    · exact Or.inr (Or.inl h)
  | incomingUnAuthFvSignal signal value =>
    cases hnext
    refine hconsistent.signalled (by trivial) ?_
    rcases mFvStateManager_incomingUnAuthFvSignalsCb (p := s.participant) signal value with h | h
    · exact Or.inl h
    · exact Or.inr (Or.inr h)

/-- What the diagram says about one change of the state. -/
def StateChange.Documented (e : StateChange) : Prop :=
  documentedEdge e.old e.new = true ∧
    (e.old = .processFV → e.mover = some .processAnAuthenticFv ∧
      (e.new = .idle ∨ e.new = .fvInProgress))

theorem mem_stateChange {mover : Option StateAction} {old new : FreshnessValueState}
    {e : StateChange} (hmem : e ∈ stateChange mover (some old) (some new)) :
    old ≠ new ∧ e = ⟨mover, old, new⟩ := by
  have hmem' : e ∈ if old = new then [] else [(⟨mover, old, new⟩ : StateChange)] := hmem
  split at hmem'
  · cases hmem'
  · rename_i hne
    exact ⟨hne, List.mem_singleton.mp hmem'⟩

/-- From `ProcessFV` the diagram leads to two states. -/
theorem documentedEdge_processFV {new : FreshnessValueState}
    (hedge : documentedEdge .processFV new = true) : new = .idle ∨ new = .fvInProgress := by
  cases new <;> simp [documentedEdge] at hedge ⊢

/-- A step changes the state along the diagram exactly when no call-back has
overtaken the main thread. -/
theorem documented_iff (hconsistent : Consistent s) (hstep : threadStep s op = .ok (s', es)) :
    (∀ e ∈ es, e.Documented) ↔ NotOvertaken s [] op := by
  obtain ⟨mover, ⟨-, old, new, hold, hnew, hmove⟩, hes⟩ := outcome_of_step hconsistent hstep
  rw [hold, hnew] at hes
  subst hes
  cases hmove with
  | stays state hguard =>
    refine ⟨fun _ => hguard, fun _ e hmem => ?_⟩
    exact absurd rfl (mem_stateChange hmem).1
  | follows _ _ hguard hedge hmover =>
    refine ⟨fun _ => hguard, fun _ e hmem => ?_⟩
    obtain ⟨-, rfl⟩ := mem_stateChange hmem
    refine ⟨hedge, fun hprocess => ?_⟩
    dsimp only at hprocess
    subst hprocess
    exact ⟨hmover rfl, documentedEdge_processFV hedge⟩
  | overtakes hguard =>
    refine ⟨fun hdocumented => ?_, fun h => absurd h hguard⟩
    have hedge := (hdocumented ⟨mover, .processFV, .requestFV⟩ List.mem_cons_self).1
    cases hedge

theorem consistent_start (hinit : InitialisedParticipant s.participant)
    (hmain : s.main = .outside) : Consistent s := by
  refine ⟨hinit.registered, .requestFV, hinit.current, ?_⟩
  rw [hmain]
  trivial

/-- Run lemma. -/
theorem documented_of_run (hstart : Consistent s₀)
    (hrun : Run threadStep NotOvertaken s₀ [] s h) : Consistent s ∧ ∀ e ∈ h, e.Documented := by
  refine hrun.invariant (fun s h => Consistent s ∧ ∀ e ∈ h, e.Documented) ⟨hstart, by simp⟩ ?_
  intro s h op s' es ⟨hconsistent, hpast⟩ hguard hstep
  obtain ⟨mover, houtcome, -⟩ := outcome_of_step hconsistent hstep
  refine ⟨houtcome.consistent, fun e hmem => ?_⟩
  rcases List.mem_append.mp hmem with hnow | hbefore
  · exact (documented_iff hconsistent hstep).mpr hguard e hnow
  · exact hpast e hbefore

/-- **State diagram.**  In every interleaving in which no call-back overtakes a
timed-out `waitForAnAuthenticFv`, every change of the state is an edge of the
documented diagram, and `ProcessFV` is left by `processAnAuthenticFv` alone.  The
next step goes along the diagram exactly when it is not the locked section of a
`waitForAnAuthenticFv` whose state a call-back has changed. -/
theorem follows_diagram (hinit : InitialisedParticipant s₀.participant)
    (hmain : s₀.main = .outside) (hrun : Run threadStep NotOvertaken s₀ [] s h) :
    (∀ e ∈ h, documentedEdge e.old e.new = true ∧
      (e.old = .processFV → e.mover = some .processAnAuthenticFv ∧
        (e.new = .idle ∨ e.new = .fvInProgress))) ∧
    ∀ op s' es, threadStep s op = .ok (s', es) →
      ((∀ e ∈ es, e.Documented) ↔ NotOvertaken s h op) := by
  obtain ⟨hconsistent, hpast⟩ := documented_of_run (consistent_start hinit hmain) hrun
  exact ⟨hpast, fun op s' es hstep => documented_iff hconsistent hstep⟩

/-- A participant between two calls of its main function. -/
def sinkThreads : ThreadedParticipant :=
  ⟨sinkParticipant, .outside⟩

/-- Steps of the main thread. A call takes three, and a fourth one for its lock. -/
def mainSteps (steps : Nat) : List ThreadOp :=
  .replicate steps (.main zeroDigestCsm reliableSignals)

/-- The two signals of a response. -/
def responseSignals : List ThreadOp :=
  [.incomingAuthFvSignal "SOK_Zeit_SINK_Zeit" [0, 0, 0, 0, 0, 0, 0, 7],
    .incomingAuthFvSignal "SOK_Zeit_SINK_Signatur" (.replicate 8 0)]

theorem follows_diagram_adopts :
    ∃ s h, Run threadStep NotOvertaken sinkThreads [] s h ∧
      ⟨some .processAnAuthenticFv, .processFV, .idle⟩ ∈ h ∧
      (∀ e ∈ h, documentedEdge e.old e.new = true ∧
        (e.old = .processFV → e.mover = some .processAnAuthenticFv ∧
          (e.new = .idle ∨ e.new = .fvInProgress))) ∧
      ∀ op s' es, threadStep s op = .ok (s', es) →
        ((∀ e ∈ es, e.Documented) ↔ NotOvertaken s h op) := by
  obtain ⟨s, h, hrun, hmem⟩ : ∃ s h, Run threadStep NotOvertaken sinkThreads [] s h ∧
      ⟨some .processAnAuthenticFv, .processFV, .idle⟩ ∈ h :=
    Run.exists_of_exec_of_meets (mainSteps 6 ++ responseSignals ++ mainSteps 4)
      (by decide +kernel) (by decide +kernel)
  exact ⟨s, h, hrun, hmem, follows_diagram initialisedParticipant_sinkParticipant rfl hrun⟩

/-- A response completes while the timed-out `waitForAnAuthenticFv` waits for its
lock.  The request is made again, and the response is not looked at. -/
theorem response_overtaken :
    ∃ s h, Run threadStep Anything sinkThreads [] s h ∧
      ⟨some .waitForAnAuthenticFv, .processFV, .requestFV⟩ ∈ h ∧
      documentedEdge .processFV .requestFV = false :=
  Run.exists_of_exec (mainSteps (3 * 51) ++ mainSteps 2 ++ responseSignals ++ mainSteps 1)
    (by decide +kernel)

end Sok.Fvm
