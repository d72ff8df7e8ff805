import SokFvm.Fvm.Definitions

/-!
# `FreshnessValueStateManager`

The state machine of the participant, as the class has it: a table of actions,
filled at run time, and a current state that may be missing.  The type of the
actions is a parameter.  An entry of the table may be an empty `std::function`,
so the table holds optional actions.

A transition to a state without an entry is refused.  Once all states are
registered, `AllRegistered`, every transition takes place, and the two reactions
to a received signal are the functions `onFvRes` and `onUnauthenticFvRes` of the
current state.
-/

namespace Sok.Fvm

/-- `FreshnessValueState`. -/
inductive FreshnessValueState
  | requestFV | fvInProgress | processFV | processAnauthFV | idle
  deriving DecidableEq, Repr

structure FreshnessValueStateManager (α : Type) where
  mFvActions : UnorderedMap FreshnessValueState (Option α)
  mCurrentFvState : Option FreshnessValueState

namespace FreshnessValueStateManager

variable {α : Type} (mgr : FreshnessValueStateManager α)

/-- The state that the constructor leaves. -/
def empty : FreshnessValueStateManager α :=
  { mFvActions := ∅, mCurrentFvState := none }

/-- The action that `enter` runs. Without one, `enter` returns `kGeneralError`. -/
def enter : Option α :=
  match mgr.mCurrentFvState with
  | none => none
  | some state =>
    match mgr.mFvActions.lookup state with
    | none => none
    | some stateAction => stateAction

/-- `transiteTo`. -/
def transiteTo (state : FreshnessValueState) : FreshnessValueStateManager α :=
  if state ∈ mgr.mFvActions then { mgr with mCurrentFvState := some state } else mgr

/-- `registerState`. -/
def registerState (state : FreshnessValueState) (action : Option α) :
    FreshnessValueStateManager α :=
  { mgr with mFvActions := mgr.mFvActions.emplace state action }

/-- `reactToFVRes`. -/
def reactToFVRes : FreshnessValueStateManager α :=
  match mgr.mCurrentFvState with
  | none => mgr
  | some .fvInProgress => mgr.transiteTo .processFV
  | some .processFV => mgr
  | some .processAnauthFV | some .idle | some .requestFV => mgr

/-- `reactToUnauthenticFVRes`. -/
def reactToUnauthenticFVRes : FreshnessValueStateManager α :=
  match mgr.mCurrentFvState with
  | none => mgr
  | some .requestFV | some .fvInProgress | some .processFV => mgr
  | some .idle => mgr.transiteTo .processAnauthFV
  | some .processAnauthFV => mgr

/-! ## A manager whose states are registered -/

/-- Every state has its action. -/
def AllRegistered (actionOf : FreshnessValueState → α) : Prop :=
  ∀ state, mgr.mFvActions.lookup state = some (some (actionOf state))

variable {mgr} {actionOf : FreshnessValueState → α}

@[simp] theorem mFvActions_transiteTo (state : FreshnessValueState) :
    (mgr.transiteTo state).mFvActions = mgr.mFvActions := by
  unfold transiteTo
  split
  · rfl
  · rfl

theorem AllRegistered.transiteTo (hall : mgr.AllRegistered actionOf)
    (state : FreshnessValueState) : (mgr.transiteTo state).AllRegistered actionOf := by
  unfold AllRegistered
  rw [mFvActions_transiteTo]
  exact hall

/-- Every transition takes place. -/
theorem AllRegistered.current_transiteTo (hall : mgr.AllRegistered actionOf)
    (state : FreshnessValueState) : (mgr.transiteTo state).mCurrentFvState = some state := by
  have hmem : state ∈ mgr.mFvActions := AList.lookup_isSome.mp (by rw [hall state]; rfl)
  rw [FreshnessValueStateManager.transiteTo, if_pos hmem]

theorem AllRegistered.enter (hall : mgr.AllRegistered actionOf) {state : FreshnessValueState}
    (hcurrent : mgr.mCurrentFvState = some state) : mgr.enter = some (actionOf state) := by
  rw [FreshnessValueStateManager.enter, hcurrent]
  dsimp only
  rw [hall state]

/-- Where a complete authentic response leads. -/
def onFvRes : FreshnessValueState → FreshnessValueState
  | .fvInProgress => .processFV
  | state => state

/-- Where an unauthentic freshness value leads. -/
def onUnauthenticFvRes : FreshnessValueState → FreshnessValueState
  | .idle => .processAnauthFV
  | state => state

theorem AllRegistered.reactToFVRes (hall : mgr.AllRegistered actionOf)
    {state : FreshnessValueState} (hcurrent : mgr.mCurrentFvState = some state) :
    mgr.reactToFVRes.AllRegistered actionOf ∧
      mgr.reactToFVRes.mCurrentFvState = some (onFvRes state) := by
  unfold FreshnessValueStateManager.reactToFVRes
  rw [hcurrent]
  cases state with
  | fvInProgress => exact ⟨hall.transiteTo _, hall.current_transiteTo _⟩
  | _ => exact ⟨hall, hcurrent⟩

theorem AllRegistered.reactToUnauthenticFVRes (hall : mgr.AllRegistered actionOf)
    {state : FreshnessValueState} (hcurrent : mgr.mCurrentFvState = some state) :
    mgr.reactToUnauthenticFVRes.AllRegistered actionOf ∧
      mgr.reactToUnauthenticFVRes.mCurrentFvState = some (onUnauthenticFvRes state) := by
  unfold FreshnessValueStateManager.reactToUnauthenticFVRes
  rw [hcurrent]
  cases state with
  | idle => exact ⟨hall.transiteTo _, hall.current_transiteTo _⟩
  | _ => exact ⟨hall, hcurrent⟩

end FreshnessValueStateManager

end Sok.Fvm
