import SokFvm.Fvm.ChallengeBinding

/-!
# Challenges are served once

A producer is told of a challenge by the call-back that the application has offered,
and the application can ask for the challenge before the call-back returns: then
`GetTxFreshness` is entered while `incomingChallengeSignalCb` is not finished.
`serviceStep` is the machine of the protocol with such call-backs.  The call-back is
the last thing that `incomingChallengeSignalCb` does, after the challenge was stored,
and that makes a run of `serviceStep` a run of `challengeStep`.

What is given out was accepted, and it is given out once, `challenge_served_once`:
the event of giving out a challenge has a past in which that challenge is the last
one accepted and nothing was given out since.
-/

namespace Sok.Fvm

open Sok.Common StateMachine TimedSlot AFreshnessValueManagerImpl

/-- The inputs of a producer. -/
inductive ServiceOp
  | call (op : ManagerOp)
  /-- A signal.  If there is a call-back, it calls `GetTxFreshness` for each of the
  identifiers before it returns. -/
  | signal (name : String) (challenge : ByteVector) (requests : List SokFreshnessValueId)

/-- The manager with call-backs that ask for challenges. -/
def serviceStep : Machine AFreshnessValueManagerImpl ServiceOp ChallengeEvent Fault :=
  fun s op =>
    match op with
    | .call op => challengeStep s op
    | .signal name challenge requests =>
      let entered := s.incomingChallengeSignalCb name challenge
      match entered.1 with
      | none => .ok (entered.2, [])
      | some (_, id) =>
        exec challengeStep entered.2 [.accepted id challenge s.mTimeSinceInit]
          (requests.map .getTxFreshness)

variable {s s' s₀ : AFreshnessValueManagerImpl} {id : SokFreshnessValueId}
variable {h newer older between : List ChallengeEvent} {e : ChallengeEvent}

/-! ## Runs with call-backs -/

/-- The calls inside a call-back are calls after the signal. -/
theorem challengeRun_of_serviceStep {op : ServiceOp} {es : List ChallengeEvent}
    (hstep : serviceStep s op = .ok (s', es)) (h : List ChallengeEvent) :
    Run challengeStep Anything s h s' (es ++ h) := by
  cases op with
  | call op => exact .single trivial hstep
  | signal name challenge requests =>
    have hsignal : challengeStep s (.incomingChallengeSignal name challenge) =
        .ok ((s.incomingChallengeSignalCb name challenge).2,
          challengeEvents s (.incomingChallengeSignal name challenge)) := rfl
    unfold serviceStep at hstep
    dsimp only at hstep
    unfold challengeEvents at hsignal
    dsimp only at hsignal
    split at hstep
    · rename_i hrefused
      rw [hrefused] at hsignal
      cases hstep
      exact .single trivial hsignal
    · rename_i cb fvId haccepted
      rw [haccepted] at hsignal
      have hinside := (Run.of_exec_of_meets (execMeets_anything _) hstep).older h
      exact (Run.single trivial hsignal).trans hinside

theorem challengeRun_of_serviceRun {P : Guard AFreshnessValueManagerImpl ServiceOp ChallengeEvent}
    {h₀ : List ChallengeEvent} (hrun : Run serviceStep P s₀ h₀ s h) :
    Run challengeStep Anything s₀ h₀ s h := by
  refine hrun.project (fun s => s) (fun h => h) ?_
  intro s h op s' es _ hstep
  exact challengeRun_of_serviceStep hstep h

/-! ## What is given out -/

/-- What is given out for the identifier is what its slot holds, and what is accepted
has the length of a challenge. -/
def Answers (id : SokFreshnessValueId) (e : ChallengeEvent) (past : List ChallengeEvent) : Prop :=
  (∀ bytes, e = .served id bytes →
      ∃ time, content (incomingKind id) past = some (time, bytes)) ∧
    ∀ challenge time, e = .accepted id challenge time →
      challenge.length = challengeLengthBytes.toNat

/-- Step lemma. -/
theorem ChallengeEffect.answers {es : List ChallengeEvent} (heffect : ChallengeEffect s es s')
    (htype : s.mFvmConfAccessor.getEntryTypeByFvId id = .ok .kVwSokFreshnessCrResponse)
    (hslot : ChallengeSlot (incomingKind id) s.mActiveIncomingChallenges id s.mTimeSinceInit h)
    (heach : EachEvent (Answers id) h) : EachEvent (Answers id) (es ++ h) := by
  cases heffect with
  | quiet hsame => exact heach
  | ticks hout hin htime => exact ⟨⟨by simp, by simp⟩, heach⟩
  | triggers id' challenge hlength hexpired hout hin htime => exact ⟨⟨by simp, by simp⟩, heach⟩
  | confirms id' hout hin htime => exact ⟨⟨by simp, by simp⟩, heach⟩
  | accepts id' challenge hlength hexpired hout hin htime =>
    refine ⟨⟨by simp, ?_⟩, heach⟩
    intro challenge' time' he
    cases he
    exact hlength
  | responds id' time bytes hpending hout hin htime =>
    refine ⟨⟨?_, by simp⟩, heach⟩
    intro bytes' he
    cases he
    exact ⟨time, hslot.slot_eq.symm.trans hpending⟩
  | serves id' bytes htype' hsame =>
    refine ⟨⟨?_, by simp⟩, heach⟩
    intro bytes' he
    cases he
    exact absurd htype htype'

/-- Run lemma. -/
theorem answers_of_run (hfirst : s₀.FirstInit)
    (htype : s₀.mFvmConfAccessor.getEntryTypeByFvId id = .ok .kVwSokFreshnessCrResponse)
    (hrun : Run challengeStep Anything s₀ [] s h) : EachEvent (Answers id) h := by
  have hspec := hfirst.spec
  have hboth := challengeRun_invariant hspec.mInitialized hrun
    (fun s h => ChallengeSlot (incomingKind id) s.mActiveIncomingChallenges id s.mTimeSinceInit h ∧
      EachEvent (Answers id) h) ?_ ?_
  · exact hboth.2.2
  · refine ⟨?_, eachEvent_nil⟩
    rw [hspec.mActiveIncomingChallenges, hspec.mTimeSinceInit]
    exact follows_nil
  · rintro s h es s' hsetup ⟨hslot, heach⟩ heffect
    rw [← hsetup.mFvmConfAccessor] at htype
    exact ⟨heffect.producerSlot htype hslot, heffect.answers htype hslot heach⟩

/-- An event that the history has had since another one is newer than that. -/
theorem mem_between {x : ChallengeEvent} {newer' older' : List ChallengeEvent} (hne : e ≠ x)
    (hnot : x ∉ newer) (heq : newer' ++ x :: older' = newer ++ e :: older) : e ∈ newer' := by
  rcases List.append_eq_append_iff.mp heq with ⟨rest, rfl, hcons⟩ | ⟨rest, rfl, hcons⟩
  · cases rest with
    | nil => exact absurd (List.cons.inj hcons).1.symm hne
    | cons y rest =>
      obtain ⟨rfl, -⟩ := List.cons.inj hcons
      exact absurd (List.mem_append_right _ List.mem_cons_self) hnot
  · cases rest with
    | nil => exact absurd (List.cons.inj hcons).1 hne
    | cons y rest =>
      obtain ⟨rfl, -⟩ := List.cons.inj hcons
      exact List.mem_append_right _ List.mem_cons_self

/-- What was given out was accepted last, and nothing was given out since. -/
theorem accepted_of_served {bytes : ByteVector} {past : List ChallengeEvent}
    (heach : EachEvent (Answers id) (newer ++ .served id bytes :: past)) :
    ∃ between time older, past = between ++ .accepted id bytes time :: older ∧
      (∀ challenge' time', .accepted id challenge' time' ∉ between) ∧
      ∀ bytes', .served id bytes' ∉ between := by
  obtain ⟨time, hcontent⟩ := heach.past.1 bytes rfl
  simp only [content_eq_some_iff, incomingKind_eq_stores_iff, incoming_quiet_iff] at hcontent
  obtain ⟨between, _, older, heq, rfl, hquiet⟩ := hcontent
  exact ⟨between, time, older, heq, hquiet⟩

/-- **A challenge is served once.**  In every run of a producer, with call-backs that
ask for challenges: what is given out is the challenge that was accepted last, and
it was not given out before; between two times that a challenge is given out another
one was accepted; what is accepted has the length of a challenge; and a challenge
that is replaced before it was given out is as old as the timeout. -/
theorem challenge_served_once (hfirst : s₀.FirstInit)
    (htype : s₀.mFvmConfAccessor.getEntryTypeByFvId id = .ok .kVwSokFreshnessCrResponse)
    (hrun : Run serviceStep Anything s₀ [] s h) :
    (∀ newer bytes past, h = newer ++ .served id bytes :: past →
        ∃ between time older, past = between ++ .accepted id bytes time :: older ∧
          (∀ challenge' time', .accepted id challenge' time' ∉ between) ∧
          ∀ bytes', .served id bytes' ∉ between) ∧
      (∀ newer bytes₂ between bytes₁ older,
        h = newer ++ .served id bytes₂ :: between ++ .served id bytes₁ :: older →
        ∃ challenge time, .accepted id challenge time ∈ between) ∧
      (∀ challenge time, .accepted id challenge time ∈ h →
        challenge.length = challengeLengthBytes.toNat) ∧
      ∀ newer challenge₂ time₂ between challenge₁ time₁ older,
        h = newer ++ .accepted id challenge₂ time₂ :: between ++
          .accepted id challenge₁ time₁ :: older →
        (∀ bytes, .served id bytes ∉ between) →
        time₂ = time₁ + UInt64.ofNat (elapsed between) ∧
          sokFmChallengeTimeoutMs.toNat ≤ elapsed between := by
  have hrun := challengeRun_of_serviceRun hrun
  have heach := answers_of_run hfirst htype hrun
  refine ⟨?_, ?_, ?_, ?_⟩
  · rintro newer bytes past rfl
    exact accepted_of_served heach
  · rintro newer bytes₂ between bytes₁ older rfl
    rw [List.append_assoc] at heach
    obtain ⟨between', time, older', heq, -, hserved⟩ := accepted_of_served heach
    exact ⟨bytes₂, time, mem_between (by simp) (hserved bytes₁) heq⟩
  · intro challenge time hmem
    obtain ⟨newer, older, rfl⟩ := List.append_of_mem hmem
    exact heach.past.2 challenge time rfl
  · intro newer challenge₂ time₂ between challenge₁ time₁ older heq hunserved
    obtain ⟨-, hslot⟩ := producerSlot_of_run hfirst htype hrun
    have hguarded := hslot.guarded
    rw [heq] at hguarded
    have hapart := stored_apart hguarded (incomingKind_eq_stores_iff.mpr rfl)
      (incomingKind_eq_stores_iff.mpr rfl) ?_
    · rw [mul_ticks_eq_elapsed (isTick_incomingKind id)] at hapart
      exact hapart
    · intro x hmem hdiscards
      obtain ⟨bytes, rfl⟩ := incomingKind_eq_discards_iff.mp hdiscards
      exact hunserved bytes hmem

/-- A producer after its first `Init`, for runs on concrete inputs. -/
def firstProducer : AFreshnessValueManagerImpl :=
  (FreshnessValueManagerImplParticipant.derivedClass.initialised
    (reliableInit (challengeConfig .kVwSokFreshnessCrResponse))
    (.construct .construct)).toAFreshnessValueManagerImpl

theorem firstInit_firstProducer : firstProducer.FirstInit :=
  Or.inl ⟨_, ⟨reliableInit (challengeConfig .kVwSokFreshnessCrResponse),
    DerivedClass.init_eq_initialised (by decide +kernel)⟩, rfl⟩

theorem type_firstProducer : firstProducer.mFvmConfAccessor.getEntryTypeByFvId 0 =
    .ok .kVwSokFreshnessCrResponse := by
  decide +kernel

/-- The call-back of the first challenge asks for it twice.  The third challenge takes
the place of the second. -/
def threeChallenges : List ServiceOp :=
  [.call (.offerCrRequest 0 7), .signal "CR" (.replicate 8 1) [0, 0],
    .signal "CR" (.replicate 8 2) []] ++
    List.replicate challengeTimeoutTicks (.call .incTimers) ++
    [.signal "CR" (.replicate 8 3) []]

theorem challenge_served_once_three :
    ∃ s h, Run serviceStep Anything firstProducer [] s h ∧
      .served 0 (.replicate 8 1) ∈ h ∧
      sokFmChallengeTimeoutMs.toNat ≤
        elapsed (List.replicate challengeTimeoutTicks .ticked) := by
  obtain ⟨s, h, hrun, rfl⟩ : ∃ s h, Run serviceStep Anything firstProducer [] s h ∧
      h = [.accepted 0 (.replicate 8 3) 250] ++
        (List.replicate challengeTimeoutTicks .ticked ++
          [.accepted 0 (.replicate 8 2) 0, .served 0 (.replicate 8 1),
            .accepted 0 (.replicate 8 1) 0]) :=
    Run.exists_of_exec threeChallenges (by decide +kernel)
  obtain ⟨-, -, -, hapart⟩ :=
    challenge_served_once firstInit_firstProducer type_firstProducer hrun
  refine ⟨s, _, hrun, by simp, (hapart [] _ _ _ _ _ _ rfl ?_).2⟩
  intro bytes hmem
  cases List.eq_of_mem_replicate hmem

end Sok.Fvm
