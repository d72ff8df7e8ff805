import SokFvm.Fvm.AuthenticRequest
import SokFvm.Fvm.Lineage

/-!
# One adoption for each challenge

The participant never clears `mActiveFvChallenge`.  That a challenge serves for one
adoption only follows from the state machine: an adoption leads to `Idle`, and the
only way back to a verification is through `RequestFV` and a request that was
published.  The loop through `FVInProgress` after a rejected response, and the
timeout, do not pass an adoption.

`Asked` is the invariant: while a request is outstanding, something was published
since the last adoption.  From it every adoption has a publication between itself
and the adoption before.
-/

namespace Sok.Fvm

open Sok.Common StateMachine FreshnessValueManagerImplParticipant

variable {s s₀ : FreshnessValueManagerImplParticipant}
variable {es h : List ParticipantEvent} {c c' : RequestCycle}

/-- What happened after the last adoption. -/
def sinceAdoption (h : List ParticipantEvent) : List ParticipantEvent :=
  since (·.adoption.isSome) h

@[simp] theorem sinceAdoption_cons (e : ParticipantEvent) (h : List ParticipantEvent) :
    sinceAdoption (e :: h) = if e.adoption.isSome then [] else e :: sinceAdoption h := by
  split
  · rename_i hadoption
    exact since_cons_of_mark hadoption
  · rename_i hadoption
    exact since_cons_of_not_mark (Bool.eq_false_of_not_eq_true hadoption)

/-- A request was published since the last adoption. -/
def RequestedSinceAdoption (h : List ParticipantEvent) : Prop :=
  ∃ challenge, .published challenge ∈ sinceAdoption h

/-- An outstanding request was published since the last adoption, and every
adoption so far followed a request of its own. -/
structure Asked (c : RequestCycle) (h : List ParticipantEvent) : Prop where
  outstanding : c.Outstanding → RequestedSinceAdoption h
  adoptions : EachEvent (fun e past => e.adoption.isSome → RequestedSinceAdoption past) h

theorem RequestedSinceAdoption.append (hrequested : RequestedSinceAdoption h)
    (hadoption : ∀ e ∈ es, e.adoption = none) : RequestedSinceAdoption (es ++ h) := by
  obtain ⟨challenge, hmem⟩ := hrequested
  refine ⟨challenge, ?_⟩
  unfold sinceAdoption
  rw [since_append_of_not_mark fun e he => by rw [hadoption e he]; rfl]
  exact List.mem_append_right _ hmem

theorem Asked.step (hasked : Asked c h) (hstep : RequestCycle.Step c es c') :
    Asked c' (es ++ h) := by
  cases hstep with
  | publish challenge hstate hlength =>
    refine ⟨fun _ => ⟨challenge, by simp⟩, ?_⟩
    simpa using hasked.adoptions
  | adopt fv hstate =>
    -- the request that is answered is the one the adoption needs
    have hrequested := hasked.outstanding (Or.inr hstate)
    refine ⟨fun houtstanding => ?_, ?_⟩
    · exact absurd houtstanding (RequestCycle.not_outstanding rfl (by decide))
    · simpa using ⟨hrequested, hasked.adoptions⟩
  | wait hstate hwait =>
    refine ⟨fun _ => (hasked.outstanding (Or.inl hstate)).append (by simp), ?_⟩
    simpa using hasked.adoptions
  | reject hstate =>
    refine ⟨fun _ => (hasked.outstanding (Or.inr hstate)).append (by simp), ?_⟩
    simpa using hasked.adoptions
  | value bytes | signature bytes =>
    refine ⟨fun houtstanding => ?_, by simpa using hasked.adoptions⟩
    rw [RequestCycle.outstanding_react] at houtstanding
    exact (hasked.outstanding houtstanding).append (by simp)
  | otherSignal =>
    refine ⟨fun houtstanding => ?_, hasked.adoptions⟩
    rw [RequestCycle.outstanding_react] at houtstanding
    exact hasked.outstanding houtstanding
  | other => exact hasked
  | fail hstate | rest hstate =>
    refine ⟨fun houtstanding => ?_, by simpa using hasked.adoptions⟩
    exact absurd houtstanding (RequestCycle.not_outstanding hstate (by decide))
  | timeout | agree | drift | unauthentic =>
    refine ⟨fun houtstanding => ?_, by simpa using hasked.adoptions⟩
    exact absurd houtstanding (RequestCycle.not_outstanding rfl (by decide))

variable {P : Guard FreshnessValueManagerImplParticipant ParticipantOp ParticipantEvent}

theorem asked_of_run (hinit : InitialisedParticipant s₀)
    (hrun : Run participantStep P s₀ [] s h) : Asked s.requestCycle h := by
  refine cycleInvariant_of_run Asked (fun _ _ => True) hinit hrun
    (fun _ _ _ _ _ _ _ _ => trivial) ?_ fun _ _ _ _ hasked _ hstep => hasked.step hstep
  intro c hstate
  refine ⟨fun houtstanding => ?_, trivial⟩
  exact absurd houtstanding (RequestCycle.not_outstanding hstate (by decide))

/-- **One adoption for each challenge.**  In every run, the payload that a
participant in `ProcessFV` verifies starts with the challenge that it published
last, and between two adoptions it published a request. -/
theorem one_adoption_per_challenge (hinit : InitialisedParticipant s₀)
    (hrun : Run participantStep Anything s₀ [] s h) :
    (s.mFvStateManager.mCurrentFvState = some .processFV →
      ∃ challenge, lastRequest h = some challenge ∧ challenge <+: s.payloadForVerification) ∧
    ∀ newer fv between fv' older,
      h = newer ++ .adopted fv :: (between ++ .adopted fv' :: older) →
      ∃ challenge, .published challenge ∈ between := by
  constructor
  · intro hstate
    obtain ⟨hlast, -⟩ := accounted_of_run hinit hrun (Or.inr hstate)
    exact ⟨s.mActiveFvChallenge, hlast, List.prefix_append _ _⟩
  · intro newer fv between fv' older hh
    have heach := (asked_of_run hinit hrun).adoptions
    rw [hh] at heach
    obtain ⟨challenge, hmem⟩ := heach.past rfl
    have hmark : (fun e : ParticipantEvent => e.adoption.isSome) (.adopted fv') = true := rfl
    exact ⟨challenge, mem_of_mem_since hmark hmem⟩

theorem one_adoption_per_challenge_pending :
    ∃ s h, Run participantStep Anything sinkParticipant [] s h ∧
      s.mFvStateManager.mCurrentFvState = some .processFV ∧
      ∃ challenge, lastRequest h = some challenge ∧ challenge <+: s.payloadForVerification := by
  obtain ⟨s, h, hrun, hstate⟩ : ∃ s h, Run participantStep Anything sinkParticipant [] s h ∧
      s.mFvStateManager.mCurrentFvState = some .processFV :=
    Run.exists_of_exec (adoptionOf [0, 0, 0, 0, 0, 0, 0, 7] 0) (by decide +kernel)
  exact ⟨s, h, hrun, hstate,
    (one_adoption_per_challenge initialisedParticipant_sinkParticipant hrun).1 hstate⟩

end Sok.Fvm
