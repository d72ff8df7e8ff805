import SokFvm.Fvm.ChallengeRun

/-!
# What a challenge stands for

A consumer verifies a response against the challenge that it has published last,
`challenge_binding`: `GetRxFreshness` gives exactly those bytes, from the successful
`TriggerCrRequest` on and until a verification succeeds.

`SOK_FM_CHALLENGE_TIMEOUT_MS` is documented as the maximum time that a challenge
can remain hanging.  It is tested where a challenge would be replaced, and not where
a challenge is given out, where the source has a todo.  So a challenge does not
expire by itself, and `challenge_expires_iff` is the condition under which what is
given out is younger than the timeout: no challenge was left for the fifty calls of
the main function that make up the timeout.
-/

namespace Sok.Fvm

open Sok.Common StateMachine TimedSlot AFreshnessValueManagerImpl

variable {s s' s₀ : AFreshnessValueManagerImpl} {id : SokFreshnessValueId}
variable {h newer older between : List ChallengeEvent} {e : ChallengeEvent}
variable {challenge : ByteVector} {time : UInt64}

/-! ## The events of a slot -/

/-- The milliseconds that the clock has counted. -/
def elapsed (h : List ChallengeEvent) : Nat :=
  sokFmMainFunctionPeriodMs.toNat * h.count .ticked

/-- The calls of the main function that make up the timeout. -/
def challengeTimeoutTicks : Nat :=
  sokFmChallengeTimeoutMs.toNat / sokFmMainFunctionPeriodMs.toNat

theorem outgoingKind_eq_stores_iff :
    outgoingKind id e = .stores time challenge ↔ e = .triggered id challenge time := by
  cases e <;> grind [outgoingKind]

theorem outgoingKind_eq_discards_iff : outgoingKind id e = .discards ↔ e = .confirmed id := by
  cases e <;> grind [outgoingKind]

theorem incomingKind_eq_stores_iff :
    incomingKind id e = .stores time challenge ↔ e = .accepted id challenge time := by
  cases e <;> grind [incomingKind]

theorem incomingKind_eq_discards_iff :
    incomingKind id e = .discards ↔ ∃ bytes, e = .served id bytes := by
  cases e <;> grind [incomingKind]

theorem isTick_outgoingKind (id : SokFreshnessValueId) (e : ChallengeEvent) :
    (outgoingKind id e).isTick = (e == .ticked) := by
  cases e <;> grind [outgoingKind, Kind.isTick]

theorem isTick_incomingKind (id : SokFreshnessValueId) (e : ChallengeEvent) :
    (incomingKind id e).isTick = (e == .ticked) := by
  cases e <;> grind [incomingKind, Kind.isTick]

/-- The ticks of a slot are those of the manager. -/
theorem mul_ticks_eq_elapsed {kind : ChallengeEvent → Kind ByteVector}
    (hticks : ∀ e, (kind e).isTick = (e == .ticked)) :
    sokFmMainFunctionPeriodMs.toNat * ticks kind h = elapsed h := by
  unfold elapsed ticks List.count
  simp only [hticks]

/-- Nothing has happened to the challenge that a consumer has sent. -/
theorem outgoing_quiet_iff :
    (∀ x ∈ newer, (outgoingKind id x).writes = false) ↔
      (∀ challenge time, .triggered id challenge time ∉ newer) ∧ .confirmed id ∉ newer := by
  simp only [Kind.writes_eq_false_iff, ne_eq, outgoingKind_eq_stores_iff,
    outgoingKind_eq_discards_iff]
  constructor
  · intro hquiet
    exact ⟨fun challenge time hmem => (hquiet _ hmem).1 time challenge rfl,
      fun hmem => (hquiet _ hmem).2 rfl⟩
  · rintro ⟨htriggered, hconfirmed⟩ x hmem
    refine ⟨?_, ?_⟩
    · rintro time challenge rfl
      exact htriggered challenge time hmem
    · rintro rfl
      exact hconfirmed hmem

/-- Nothing has happened to the challenge that a producer has received. -/
theorem incoming_quiet_iff :
    (∀ x ∈ newer, (incomingKind id x).writes = false) ↔
      (∀ challenge time, .accepted id challenge time ∉ newer) ∧
        ∀ bytes, .served id bytes ∉ newer := by
  simp only [Kind.writes_eq_false_iff, ne_eq, incomingKind_eq_stores_iff,
    incomingKind_eq_discards_iff, not_exists]
  constructor
  · intro hquiet
    exact ⟨fun challenge time hmem => (hquiet _ hmem).1 time challenge rfl,
      fun bytes hmem => (hquiet _ hmem).2 bytes rfl⟩
  · rintro ⟨haccepted, hserved⟩ x hmem
    refine ⟨?_, ?_⟩
    · rintro time challenge rfl
      exact haccepted challenge time hmem
    · rintro bytes rfl
      exact hserved bytes hmem

/-! ## What a call gives out -/

theorem getRxFreshness_challenge_iff (hinit : s.mInitialized = true)
    (htype : s.mFvmConfAccessor.getEntryTypeByFvId id = .ok .kVwSokFreshnessCrChallenge)
    (truncated : FVContainer) :
    (s.getRxFreshness id truncated 0).1 = .ok challenge ↔
      ∃ time, s.mActiveOutgoingChallenges.lookup id = some (time, challenge) := by
  unfold getRxFreshness
  rw [hinit, htype]
  show s.getChallengeForIncomingResponse id = .ok challenge ↔ _
  unfold getChallengeForIncomingResponse
  cases s.mActiveOutgoingChallenges.lookup id with
  | none => simp
  | some activeCh =>
    obtain ⟨time, bytes⟩ := activeCh
    simp

theorem getTxFreshness_response_iff (hinit : s.mInitialized = true)
    (htype : s.mFvmConfAccessor.getEntryTypeByFvId id = .ok .kVwSokFreshnessCrResponse) :
    (s.getTxFreshness id).1 = .ok challenge ↔
      ∃ time, s.mActiveIncomingChallenges.lookup id = some (time, challenge) := by
  unfold getTxFreshness
  rw [hinit, htype]
  show (s.getChallengeForOutgoingResponse id).1 = .ok challenge ↔ _
  unfold getChallengeForOutgoingResponse
  cases s.mActiveIncomingChallenges.lookup id with
  | none => simp
  | some activeCh =>
    obtain ⟨time, bytes⟩ := activeCh
    simp

/-! ## The challenge of a consumer -/

/-- A consumer after its first `Init`, for runs on concrete inputs. -/
def firstConsumer : AFreshnessValueManagerImpl :=
  firstParticipant.toAFreshnessValueManagerImpl

theorem firstInit_firstConsumer : firstConsumer.FirstInit :=
  Or.inl ⟨firstParticipant, firstInit_firstParticipant, rfl⟩

theorem type_firstConsumer : firstConsumer.mFvmConfAccessor.getEntryTypeByFvId 0 =
    .ok .kVwSokFreshnessCrChallenge := by
  decide +kernel

/-- The challenge was stored less than the timeout ago; `event` is the event of
storing it at a time. -/
def StoredRecently (event : UInt64 → ChallengeEvent) (s : AFreshnessValueManagerImpl)
    (h : List ChallengeEvent) : Prop :=
  ∃ newer time older, h = newer ++ event time :: older ∧
    s.mTimeSinceInit = time + UInt64.ofNat (elapsed newer) ∧
    elapsed newer < sokFmChallengeTimeoutMs.toNat

/-- A consumer was left with a challenge, neither confirmed nor replaced, for the
whole timeout. -/
def LeftUnconfirmed (id : SokFreshnessValueId) (h : List ChallengeEvent) : Prop :=
  ∃ newer challenge time older, h = newer ++ .triggered id challenge time :: older ∧
    (∀ challenge' time', .triggered id challenge' time' ∉ newer) ∧ .confirmed id ∉ newer ∧
    challengeTimeoutTicks ≤ newer.count .ticked

/-- A producer was left with a challenge, neither asked for nor replaced, for the
whole timeout. -/
def LeftUnserved (id : SokFreshnessValueId) (h : List ChallengeEvent) : Prop :=
  ∃ newer challenge time older, h = newer ++ .accepted id challenge time :: older ∧
    (∀ challenge' time', .accepted id challenge' time' ∉ newer) ∧
    (∀ bytes, .served id bytes ∉ newer) ∧ challengeTimeoutTicks ≤ newer.count .ticked

theorem elapsed_lt_timeout_iff :
    elapsed h < sokFmChallengeTimeoutMs.toNat ↔ h.count .ticked < challengeTimeoutTicks := by
  have hperiod : sokFmMainFunctionPeriodMs.toNat = 5 := rfl
  have htimeout : sokFmChallengeTimeoutMs.toNat = 250 := rfl
  have hticks : challengeTimeoutTicks = 50 := rfl
  unfold elapsed
  rw [hperiod, htimeout, hticks]
  omega

/-- What a slot holds was stored recently, unless it lingers. -/
theorem storedRecently_iff {kind : ChallengeEvent → Kind ByteVector}
    {activeChallenges : UnorderedMap SokFreshnessValueId (UInt64 × ByteVector)}
    {event : ByteVector → UInt64 → ChallengeEvent}
    (hslot : ChallengeSlot kind activeChallenges id s.mTimeSinceInit h)
    (hstores : ∀ e time challenge, kind e = .stores time challenge ↔ e = event challenge time)
    (hticks : ∀ e, (kind e).isTick = (e == .ticked)) :
    (∀ challenge, (∃ time, activeChallenges.lookup id = some (time, challenge)) →
        StoredRecently (event challenge) s h) ↔ ¬ Lingers kind challengeTimeoutTicks h := by
  have hcount : ∀ g, ticks kind g = g.count .ticked := by
    intro g
    unfold ticks List.count
    simp only [hticks]
  rw [← stored_within_iff, ← hslot.slot_eq]
  constructor
  · intro hrecent time challenge hactive
    obtain ⟨newer, time', older, rfl, -, hlt⟩ := hrecent challenge ⟨time, hactive⟩
    refine ⟨newer, _, older, time', rfl, (hstores _ _ _).mpr rfl, ?_⟩
    rw [hcount, ← elapsed_lt_timeout_iff]
    exact hlt
  · rintro hwithin challenge ⟨time, hactive⟩
    obtain ⟨newer, e, older, time', rfl, he, hlt⟩ := hwithin time challenge hactive
    have hclock := hslot.now_eq.trans (clock_of_stores hslot.guarded he)
    rw [mul_ticks_eq_elapsed hticks] at hclock
    rw [hcount, ← elapsed_lt_timeout_iff] at hlt
    rw [hstores] at he
    subst he
    exact ⟨newer, time', older, rfl, hclock, hlt⟩

theorem lingers_outgoing_iff :
    Lingers (outgoingKind id) challengeTimeoutTicks h ↔ LeftUnconfirmed id h := by
  unfold Lingers LeftUnconfirmed ticks List.count
  simp only [outgoingKind_eq_stores_iff, outgoing_quiet_iff, isTick_outgoingKind]
  constructor
  · rintro ⟨newer, _, older, time, challenge, rfl, rfl, ⟨htriggered, hconfirmed⟩, hle⟩
    exact ⟨newer, challenge, time, older, rfl, htriggered, hconfirmed, hle⟩
  · rintro ⟨newer, challenge, time, older, rfl, htriggered, hconfirmed, hle⟩
    exact ⟨newer, _, older, time, challenge, rfl, rfl, ⟨htriggered, hconfirmed⟩, hle⟩

theorem lingers_incoming_iff :
    Lingers (incomingKind id) challengeTimeoutTicks h ↔ LeftUnserved id h := by
  unfold Lingers LeftUnserved ticks List.count
  simp only [incomingKind_eq_stores_iff, incoming_quiet_iff, isTick_incomingKind]
  constructor
  · rintro ⟨newer, _, older, time, challenge, rfl, rfl, ⟨haccepted, hserved⟩, hle⟩
    exact ⟨newer, challenge, time, older, rfl, haccepted, hserved, hle⟩
  · rintro ⟨newer, challenge, time, older, rfl, haccepted, hserved, hle⟩
    exact ⟨newer, _, older, time, challenge, rfl, rfl, ⟨haccepted, hserved⟩, hle⟩

/-- **When a challenge expires.**  In every state of every run, what a consumer or a
producer would be given was stored less than the timeout ago, exactly if no
challenge was left for the whole timeout. -/
theorem challenge_expires_iff (hfirst : s₀.FirstInit)
    (hrun : Run challengeStep Anything s₀ [] s h) :
    (s₀.mFvmConfAccessor.getEntryTypeByFvId id = .ok .kVwSokFreshnessCrChallenge →
      ((∀ truncated challenge, (s.getRxFreshness id truncated 0).1 = .ok challenge →
          StoredRecently (.triggered id challenge) s h) ↔ ¬ LeftUnconfirmed id h)) ∧
    (s₀.mFvmConfAccessor.getEntryTypeByFvId id = .ok .kVwSokFreshnessCrResponse →
      ((∀ challenge, (s.getTxFreshness id).1 = .ok challenge →
          StoredRecently (.accepted id challenge) s h) ↔ ¬ LeftUnserved id h)) := by
  constructor
  · intro htype
    obtain ⟨hsetup, hslot⟩ := consumerSlot_of_run hfirst htype hrun
    have hinit : s.mInitialized = true := hsetup.mInitialized.trans hfirst.spec.mInitialized
    rw [← hsetup.mFvmConfAccessor] at htype
    rw [← lingers_outgoing_iff, ← storedRecently_iff hslot
      (fun _ _ _ => outgoingKind_eq_stores_iff) (isTick_outgoingKind id)]
    simp only [getRxFreshness_challenge_iff hinit htype]
    exact ⟨fun hrecent => hrecent [], fun hrecent _ => hrecent⟩
  · intro htype
    obtain ⟨hsetup, hslot⟩ := producerSlot_of_run hfirst htype hrun
    have hinit : s.mInitialized = true := hsetup.mInitialized.trans hfirst.spec.mInitialized
    rw [← hsetup.mFvmConfAccessor] at htype
    rw [← lingers_incoming_iff, ← storedRecently_iff hslot
      (fun _ _ _ => incomingKind_eq_stores_iff) (isTick_incomingKind id)]
    simp only [getTxFreshness_response_iff hinit htype]

/-- A challenge after `n` ticks. -/
def pendingChallenge (n : Nat) : List ManagerOp :=
  .triggerCrRequest zeroDigestCsm reliableSignals 0 :: List.replicate n .incTimers

theorem challenge_expires_iff_young :
    ∃ s h, Run challengeStep Anything firstConsumer [] s h ∧
      StoredRecently (.triggered 0 (.replicate 8 7)) s h := by
  obtain ⟨s, h, hrun, hgiven, hticks⟩ : ∃ s h, Run challengeStep Anything firstConsumer [] s h ∧
      (s.getRxFreshness 0 [] 0).1 = .ok (.replicate 8 7) ∧
      h.count .ticked < challengeTimeoutTicks :=
    Run.exists_of_exec (pendingChallenge 49) (by decide +kernel)
  refine ⟨s, h, hrun, ?_⟩
  refine ((challenge_expires_iff firstInit_firstConsumer hrun).1 type_firstConsumer).mpr ?_ [] _
    hgiven
  rintro ⟨newer, challenge, time, older, rfl, -, -, hle⟩
  rw [List.count_append] at hticks
  omega

/-- A challenge that hangs for the timeout is given out. -/
theorem challenge_outlives_timeout :
    ∃ s h, Run challengeStep Anything firstConsumer [] s h ∧
      (s.getRxFreshness 0 [] 0).1 = .ok (.replicate 8 7) ∧
      ¬ StoredRecently (.triggered 0 (.replicate 8 7)) s h := by
  obtain ⟨s, h, hrun, hgiven, rfl⟩ : ∃ s h, Run challengeStep Anything firstConsumer [] s h ∧
      (s.getRxFreshness 0 [] 0).1 = .ok (.replicate 8 7) ∧
      h = List.replicate challengeTimeoutTicks .ticked ++ [.triggered 0 (.replicate 8 7) 0] :=
    Run.exists_of_exec (pendingChallenge challengeTimeoutTicks) (by decide +kernel)
  refine ⟨s, _, hrun, hgiven, ?_⟩
  rintro ⟨newer, time, older, heq, -, hlt⟩
  have hstores : outgoingKind 0 (.triggered 0 (.replicate 8 7) time) =
      .stores time (.replicate 8 7) := outgoingKind_eq_stores_iff.mpr rfl
  have hle := ticks_le_of_stores hstores (by decide) heq
  have hticks : ticks (outgoingKind 0) (List.replicate challengeTimeoutTicks .ticked) =
      challengeTimeoutTicks := by decide
  rw [elapsed_lt_timeout_iff] at hlt
  rw [hticks, ticks] at hle
  simp only [isTick_outgoingKind] at hle
  exact absurd hle (Nat.not_le_of_lt hlt)

end Sok.Fvm
