import SokFvm.Fvm.Lifecycle
import SokFvm.Fvm.ServerRun

/-!
# `getRxFv` beside the main function

SecOC calls `GetRxFreshness` from one thread while another one calls `MainFunction`.
They share no lock.  `mIsFvValid`, `mFV` and the clocks are read one at a time, and the
main function can come between any two of the reads.

`RxPoint` says where a call of `getRxFv` stands.  `rxNext` is the part of the call up to
the next read, and `receptionStep` is the call beside another thread that may leave any
values in the members that a main function changes: `onlyShared_mainFunction` and
`onlyShared_mainFunction_server` say that it changes no others.
`uninterrupted_getRxFv` and `uninterrupted_getRxFreshness` are the call without an
interruption.

`mIsFvValid` is tested three times.  The third test is the second half of an
`else if`, and the code after it indexes the candidate list whatever the test has said.
Nothing has been cached when the flag is seen cleared there.  `candidate_access_iff` is
the condition under which every access is inside its list.
-/

namespace Sok.Fvm

open Sok.Common StateMachine AFreshnessValueManagerImpl FvmRuntimeAttributesManager

/-! ## What the other thread changes -/

/-- The members that a main function changes. -/
structure SharedMembers where
  mIsFvValid : Bool
  mTimeSinceInit : UInt64
  mClockCount : UInt32
  mFV : UInt64
  deriving DecidableEq, Repr

namespace AFreshnessValueManagerImpl

def shared (self : AFreshnessValueManagerImpl) : SharedMembers :=
  { mIsFvValid := self.mIsFvValid
    mTimeSinceInit := self.mTimeSinceInit
    mClockCount := self.mClockCount
    mFV := self.mFV }

def withShared (self : AFreshnessValueManagerImpl) (members : SharedMembers) :
    AFreshnessValueManagerImpl :=
  { self with
    mIsFvValid := members.mIsFvValid
    mTimeSinceInit := members.mTimeSinceInit
    mClockCount := members.mClockCount
    mFV := members.mFV }

end AFreshnessValueManagerImpl

/-- Nothing but the shared members is changed. -/
def OnlyShared (s s' : AFreshnessValueManagerImpl) : Prop := s' = s.withShared s'.shared

/-! ## The steps of `getRxFv` -/

/-- The arguments of a call, with the type that `GetRxFreshness` has found. -/
structure RxCall where
  id : SokFreshnessValueId
  type : SokFreshnessType
  truncated : FVContainer
  attempts : UInt16

/-- Where a call of `getRxFv` stands. -/
inductive RxPoint
  | find
  /-- Before the access to the list that was found. -/
  | accessFound
  /-- Before the first test of `mIsFvValid`, and then of the time. -/
  | validFirst
  | timeFirst
  | activate
  /-- Before the second test of `mIsFvValid`, and then of the time. -/
  | validSecond (firstOccurrence : Bool)
  | timeSecond (firstOccurrence : Bool)
  /-- Before the third test of `mIsFvValid`. -/
  | validThird (firstOccurrence : Bool)
  | compareFv
  | timeThird (firstActivity : UInt64)
  /-- Before the three reads of `mFV` for the list. -/
  | readFv (rxCandList : List UInt64)
  | readFvBelow (rxCandList : List UInt64)
  | readFvAbove (rxCandList : List UInt64)
  | verifyReq
  /-- Before the access to the list of the identifier. -/
  | access
  | returned (result : FreshnessResult)

namespace AFreshnessValueManagerImpl

variable (self : AFreshnessValueManagerImpl) (call : RxCall)

/-- The access to the candidate list of the identifier. `operator[]` makes an empty list
when there is none. -/
def accessCandidate : Except Fault RxPoint :=
  let rxCandList := self.mFvRxCandidates.getD call.id []
  if call.attempts.toNat < rxCandList.length then
    .ok (.returned (.ok (serializeCandidate rxCandList call.attempts call.truncated)))
  else .error .readPastEnd

/-- `getRxFv` from a point to the next. -/
def rxNext : RxPoint → Except Fault (AFreshnessValueManagerImpl × RxPoint)
  | .find =>
    match self.mFvRxCandidates.lookup call.id with
    | some rxCandList =>
      if rxCandList.length ≤ call.attempts.toNat then
        .ok (self, .returned (.error .invalidAttempts))
      else .ok (self, .accessFound)
    | none =>
      -- if there is no candidate list this must be the first attempt
      if call.attempts ≠ 0 then .ok (self, .returned (.error .invalidAttempts))
      else if call.type = .kVwSokFreshnessValueSessionReceiver ∧
          call.truncated ≠ self.mAttrMgr.getNextSessionCounter call.id then
        .ok (self, .returned (.error .sessionCounterMismatch))
      else .ok (self.consumeSessionCounter call.id call.type, .validFirst)
  | .accessFound | .access => (self.accessCandidate call).map fun point => (self, point)
  | .validFirst => .ok (self, if self.mIsFvValid then .activate else .timeFirst)
  | .timeFirst =>
    .ok (self, if self.validTimeoutPassed then .returned (.error .noAuthFvAvailable)
      else .activate)
  | .activate =>
    if !self.mAttrMgr.isActive call.id then .ok (self.setActive call.id, .validSecond true)
    else .ok (self, .validSecond false)
  | .validSecond firstOccurrence =>
    .ok (self, if self.mIsFvValid then .validThird firstOccurrence
      else .timeSecond firstOccurrence)
  | .timeSecond firstOccurrence =>
    if self.validTimeoutPassed then .ok (self, .validThird firstOccurrence)
    else .ok (self.setRxCandidates call.id [sokUpstartTime], .verifyReq)
  | .validThird firstOccurrence =>
    .ok (self, if self.mIsFvValid then
        if firstOccurrence then .readFv [sokUpstartTime] else .compareFv
      else .verifyReq)
  | .compareFv =>
    let firstActivity := self.mAttrMgr.getEvent .kFirstActivity call.id
    .ok (self, if self.mFV < firstActivity then .returned (.error .fvBeforeFirstActivity)
      else .timeThird firstActivity)
  | .timeThird firstActivity =>
    .ok (self, if self.mTimeSinceInit - firstActivity ≤ sokFmTimeValidTimeoutMs.toUInt64 then
        .readFv [sokUpstartTime]
      else .readFv [])
  | .readFv rxCandList => .ok (self, .readFvBelow (rxCandList ++ [self.mFV]))
  | .readFvBelow rxCandList => .ok (self, .readFvAbove (rxCandList ++ [self.mFV - 1]))
  | .readFvAbove rxCandList =>
    .ok (self.setRxCandidates call.id (rxCandList ++ [self.mFV + 1]), .verifyReq)
  | .verifyReq =>
    .ok ({ self with mAttrMgr := self.mAttrMgr.updateEvent .kVerifyReq call.id self.mFV },
      .access)
  | .returned result => .ok (self, .returned result)

end AFreshnessValueManagerImpl

/-- A call of `getRxFv` on its way. -/
structure Reception where
  manager : AFreshnessValueManagerImpl
  point : RxPoint

/-- The next step of one of the threads. -/
inductive ReceptionOp
  | reader
  /-- The other thread leaves these values. -/
  | other (members : SharedMembers)

/-- A call beside the other thread. -/
def receptionStep (call : RxCall) : Machine Reception ReceptionOp Unit Fault := fun s op =>
  match op with
  | .reader => (s.manager.rxNext call s.point).map fun next => (⟨next.1, next.2⟩, [])
  | .other members => .ok ({ s with manager := s.manager.withShared members }, [])

/-- An access to a candidate list is inside the list. -/
def Reception.AccessInside (call : RxCall) (s : Reception) : Prop :=
  s.point = .accessFound ∨ s.point = .access →
    call.attempts.toNat < (s.manager.mFvRxCandidates.getD call.id []).length

/-- When the call comes to its third test of `mIsFvValid`, the flag is set. -/
def SetAtThirdTest : Guard Reception ReceptionOp Unit := fun s _ op =>
  match op with
  | .reader => ∀ firstOccurrence, s.point = .validThird firstOccurrence →
      s.manager.mIsFvValid = true
  | .other _ => True

/-! ## What a step does -/

variable {call : RxCall} {self self' : AFreshnessValueManagerImpl} {point point' : RxPoint}
variable {s s' s₀ : Reception} {op : ReceptionOp} {es h h₀ : List Unit}

/-- The points from the first test on, before a list is cached. -/
def RxPoint.building : RxPoint → Bool
  | .find | .accessFound | .verifyReq | .access | .returned _ => false
  | _ => true

/-- What a step of the call can do to the candidate lists. -/
inductive RxMove (call : RxCall) (self : AFreshnessValueManagerImpl) :
    RxPoint → AFreshnessValueManagerImpl → RxPoint → Prop
  | returns (point : RxPoint) (result : FreshnessResult) :
      RxMove call self point self (.returned result)
  | finds (rxCandList : List UInt64) (hfound : self.candidates call.id = some rxCandList)
      (hlength : call.attempts.toNat < rxCandList.length) :
      RxMove call self .find self .accessFound
  | starts (self' : AFreshnessValueManagerImpl) (hnone : self.candidates call.id = none)
      (hfirst : call.attempts = 0) (hsame : self'.candidates call.id = self.candidates call.id) :
      RxMove call self .find self' .validFirst
  | builds (point point' : RxPoint) (self' : AFreshnessValueManagerImpl)
      (hbefore : point.building = true) (hafter : point'.building = true)
      (hsame : self'.candidates call.id = self.candidates call.id) :
      RxMove call self point self' point'
  | caches (point : RxPoint) (rxCandList : List UInt64) (hbefore : point.building = true)
      (hne : rxCandList ≠ []) :
      RxMove call self point (self.setRxCandidates call.id rxCandList) .verifyReq
  /-- The third test sees the flag cleared. -/
  | misses (firstOccurrence : Bool) (hcleared : self.mIsFvValid = false) :
      RxMove call self (.validThird firstOccurrence) self .verifyReq
  | requests (self' : AFreshnessValueManagerImpl)
      (hsame : self'.candidates call.id = self.candidates call.id) :
      RxMove call self .verifyReq self' .access

/-- What `operator[]` gives. -/
theorem getD_eq_candidates {id : SokFreshnessValueId} :
    self.mFvRxCandidates.getD id [] = (self.candidates id).getD [] := rfl

theorem accessCandidate_eq_ok (haccess : self.accessCandidate call = .ok point) :
    (∃ result, point = .returned result) ∧
      call.attempts.toNat < (self.mFvRxCandidates.getD call.id []).length := by
  unfold accessCandidate at haccess
  dsimp only at haccess
  split at haccess
  · rename_i hinside
    exact ⟨⟨_, (Except.ok.inj haccess).symm⟩, hinside⟩
  · cases haccess

/-- The one case distinction over the points. -/
theorem rxMove_of_rxNext (hnext : self.rxNext call point = .ok (self', point')) :
    RxMove call self point self' point' := by
  cases point with
  | find =>
    rw [rxNext] at hnext
    split at hnext
    · rename_i rxCandList hfound
      split at hnext
      · cases Except.ok.inj hnext
        exact .returns _ _
      · rename_i hlength
        cases Except.ok.inj hnext
        exact .finds rxCandList hfound (by omega)
    · rename_i hnone
      split at hnext
      · cases Except.ok.inj hnext
        exact .returns _ _
      · rename_i hfirst
        split at hnext
        · cases Except.ok.inj hnext
          exact .returns _ _
        · cases Except.ok.inj hnext
          refine .starts _ hnone (not_not.mp hfirst) ?_
          rw [consumeSessionCounter_eq]
          rfl
  | accessFound | access =>
    obtain ⟨next, haccess, heq⟩ := exists_of_map_ok hnext
    cases heq
    obtain ⟨⟨result, rfl⟩, -⟩ := accessCandidate_eq_ok haccess
    exact .returns _ result
  | validFirst =>
    cases Except.ok.inj hnext
    split
    · exact .builds _ _ _ rfl rfl rfl
    · exact .builds _ _ _ rfl rfl rfl
  | timeFirst =>
    cases Except.ok.inj hnext
    split
    · exact .returns _ _
    · exact .builds _ _ _ rfl rfl rfl
  | activate =>
    rw [rxNext] at hnext
    split at hnext
    · cases Except.ok.inj hnext
      exact .builds _ _ _ rfl rfl rfl
    · cases Except.ok.inj hnext
      exact .builds _ _ _ rfl rfl rfl
  | validSecond firstOccurrence =>
    cases Except.ok.inj hnext
    split
    · exact .builds _ _ _ rfl rfl rfl
    · exact .builds _ _ _ rfl rfl rfl
  | timeSecond firstOccurrence =>
    rw [rxNext] at hnext
    split at hnext
    · cases Except.ok.inj hnext
      exact .builds _ _ _ rfl rfl rfl
    · cases Except.ok.inj hnext
      exact .caches _ _ rfl (List.cons_ne_nil _ _)
  | validThird firstOccurrence =>
    cases Except.ok.inj hnext
    split
    · split
      · exact .builds _ _ _ rfl rfl rfl
      · exact .builds _ _ _ rfl rfl rfl
    · rename_i hcleared
      exact .misses firstOccurrence (by simpa using hcleared)
  | compareFv =>
    cases Except.ok.inj hnext
    split
    · exact .returns _ _
    · exact .builds _ _ _ rfl rfl rfl
  | timeThird firstActivity =>
    cases Except.ok.inj hnext
    split
    · exact .builds _ _ _ rfl rfl rfl
    · exact .builds _ _ _ rfl rfl rfl
  | readFv rxCandList =>
    cases Except.ok.inj hnext
    exact .builds _ _ _ rfl rfl rfl
  | readFvBelow rxCandList =>
    cases Except.ok.inj hnext
    exact .builds _ _ _ rfl rfl rfl
  | readFvAbove rxCandList =>
    cases Except.ok.inj hnext
    exact .caches _ _ rfl (by simp)
  | verifyReq =>
    cases Except.ok.inj hnext
    exact .requests _ rfl
  | returned result =>
    cases Except.ok.inj hnext
    exact .returns _ result

/-- Only an access to a candidate list can fault. -/
theorem exists_rxNext (hfound : point ≠ .accessFound) (haccess : point ≠ .access) :
    ∃ next, self.rxNext call point = .ok next := by
  cases point with
  | find =>
    rw [rxNext]
    split
    · split
      · exact ⟨_, rfl⟩
      · exact ⟨_, rfl⟩
    · split
      · exact ⟨_, rfl⟩
      · split
        · exact ⟨_, rfl⟩
        · exact ⟨_, rfl⟩
  | accessFound => exact absurd rfl hfound
  | access => exact absurd rfl haccess
  | activate | timeSecond firstOccurrence =>
    rw [rxNext]
    split
    · exact ⟨_, rfl⟩
    · exact ⟨_, rfl⟩
  | _ => exact ⟨_, rfl⟩

/-- The next step of the call is defined if it is no access outside of the list. -/
theorem exists_rxNext_iff (s : Reception) :
    (∃ next, s.manager.rxNext call s.point = .ok next) ↔ s.AccessInside call := by
  have haccess : (∃ next, (s.manager.accessCandidate call).map
      (fun point => (s.manager, point)) = .ok next) ↔
      call.attempts.toNat < (s.manager.mFvRxCandidates.getD call.id []).length := by
    constructor
    · rintro ⟨next, hnext⟩
      obtain ⟨point, hpoint, -⟩ := exists_of_map_ok hnext
      exact (accessCandidate_eq_ok hpoint).2
    · intro hinside
      rw [accessCandidate, if_pos hinside]
      exact ⟨_, rfl⟩
  obtain ⟨manager, point⟩ := s
  by_cases hpoint : point = .accessFound ∨ point = .access
  · have hiff : (Reception.mk manager point).AccessInside call ↔
        call.attempts.toNat < (manager.mFvRxCandidates.getD call.id []).length :=
      ⟨fun hinside => hinside hpoint, fun hinside _ => hinside⟩
    rw [hiff]
    rcases hpoint with rfl | rfl
    · exact haccess
    · exact haccess
  · obtain ⟨hfound, hlast⟩ := not_or.mp hpoint
    exact ⟨fun _ hat => absurd hat hpoint, fun _ => exists_rxNext hfound hlast⟩

/-! ## Without an interruption -/

/-- The call goes on alone. -/
def Alone (call : RxCall) (s s' : Reception) : Prop :=
  Run (receptionStep call) Anything s [] s' []

theorem Alone.trans {s'' : Reception} (first : Alone call s s') (second : Alone call s' s'') :
    Alone call s s'' :=
  Run.trans first second

theorem alone_of_rxNext (hnext : self.rxNext call point = .ok (self', point')) :
    Alone call ⟨self, point⟩ ⟨self', point'⟩ := by
  have hstep : receptionStep call ⟨self, point⟩ .reader = .ok (⟨self', point'⟩, []) := by
    show (self.rxNext call point).map _ = _
    rw [hnext]
    rfl
  exact Run.single trivial hstep

/-- The three reads for a list, and its assignment. -/
theorem alone_readFv (rxCandList : List UInt64) :
    Alone call ⟨self, .readFv rxCandList⟩
      ⟨self.setRxCandidates call.id (rxCandList ++ self.neighbours), .verifyReq⟩ := by
  have hread : Alone call ⟨self, .readFv rxCandList⟩
      ⟨self, .readFvBelow (rxCandList ++ [self.mFV])⟩ := alone_of_rxNext rfl
  have hbelow : Alone call ⟨self, .readFvBelow (rxCandList ++ [self.mFV])⟩
      ⟨self, .readFvAbove (rxCandList ++ [self.mFV] ++ [self.mFV - 1])⟩ := alone_of_rxNext rfl
  have habove : Alone call ⟨self, .readFvAbove (rxCandList ++ [self.mFV] ++ [self.mFV - 1])⟩
      ⟨self.setRxCandidates call.id
        (rxCandList ++ [self.mFV] ++ [self.mFV - 1] ++ [self.mFV + 1]), .verifyReq⟩ :=
    alone_of_rxNext rfl
  have hlist : rxCandList ++ [self.mFV] ++ [self.mFV - 1] ++ [self.mFV + 1] =
      rxCandList ++ self.neighbours := by
    simp [neighbours]
  rw [hlist] at habove
  exact (hread.trans hbelow).trans habove

/-- The second test, without a valid freshness value but within the window. -/
theorem alone_upstart (hinvalid : self.mIsFvValid = false)
    (hwindow : self.validTimeoutPassed = false) (firstOccurrence : Bool) :
    Alone call ⟨self, .validSecond firstOccurrence⟩
      ⟨self.setRxCandidates call.id [sokUpstartTime], .verifyReq⟩ := by
  have hsecond : self.rxNext call (.validSecond firstOccurrence) =
      .ok (self, .timeSecond firstOccurrence) := by
    rw [rxNext, hinvalid]
    rfl
  have htime : self.rxNext call (.timeSecond firstOccurrence) =
      .ok (self.setRxCandidates call.id [sokUpstartTime], .verifyReq) := by
    rw [rxNext, hwindow]
    rfl
  exact (alone_of_rxNext hsecond).trans (alone_of_rxNext htime)

/-- The second and the third test, with a valid freshness value. -/
theorem alone_valid (hvalid : self.mIsFvValid = true) (firstOccurrence : Bool) :
    Alone call ⟨self, .validSecond firstOccurrence⟩
      ⟨self, if firstOccurrence then .readFv [sokUpstartTime] else .compareFv⟩ := by
  have hsecond : self.rxNext call (.validSecond firstOccurrence) =
      .ok (self, .validThird firstOccurrence) := by
    rw [rxNext, hvalid]
    rfl
  have hthird : self.rxNext call (.validThird firstOccurrence) =
      .ok (self, if firstOccurrence then .readFv [sokUpstartTime] else .compareFv) := by
    rw [rxNext, hvalid]
    rfl
  exact (alone_of_rxNext hsecond).trans (alone_of_rxNext hthird)

/-- The list of an identifier that was active before. -/
theorem alone_compareFv
    (hfresh : ¬self.mFV < self.mAttrMgr.getEvent .kFirstActivity call.id) :
    Alone call ⟨self, .compareFv⟩ ⟨self.setRxCandidates call.id
      (if self.mTimeSinceInit - self.mAttrMgr.getEvent .kFirstActivity call.id ≤
          sokFmTimeValidTimeoutMs.toUInt64 then sokUpstartTime :: self.neighbours
        else self.neighbours), .verifyReq⟩ := by
  have hcompare : self.rxNext call .compareFv =
      .ok (self, .timeThird (self.mAttrMgr.getEvent .kFirstActivity call.id)) := by
    rw [rxNext, if_neg hfresh]
  refine (alone_of_rxNext hcompare).trans ?_
  split
  · rename_i hwindow
    have htime : self.rxNext call (.timeThird (self.mAttrMgr.getEvent .kFirstActivity call.id)) =
        .ok (self, .readFv [sokUpstartTime]) := by
      rw [rxNext, if_pos hwindow]
    exact (alone_of_rxNext htime).trans (alone_readFv [sokUpstartTime])
  · rename_i hwindow
    have htime : self.rxNext call (.timeThird (self.mAttrMgr.getEvent .kFirstActivity call.id)) =
        .ok (self, .readFv []) := by
      rw [rxNext, if_neg hwindow]
    exact (alone_of_rxNext htime).trans (alone_readFv [])

/-- "build FV candidate list", in a state in which the freshness value is usable. -/
theorem alone_buildRxCandidates (call : RxCall)
    (husable : (!self.mIsFvValid && self.validTimeoutPassed) = false) :
    (∀ self', self.buildRxCandidates call.id = .ok self' →
      Alone call ⟨self, .activate⟩ ⟨self', .verifyReq⟩) ∧
    ∀ failure, self.buildRxCandidates call.id = .error failure →
      Alone call ⟨self, .activate⟩ ⟨self, .returned (.error failure)⟩ := by
  rw [buildRxCandidates_eq husable]
  have hwindow : self.mIsFvValid = false → self.validTimeoutPassed = false := by
    intro hinvalid
    rw [hinvalid] at husable
    exact husable
  unfold fvTooOld activateOnFirstUse rxCandidateList
  cases hactive : self.mAttrMgr.isActive call.id with
  | false =>
    have hfirst : self.rxNext call .activate =
        .ok (self.setActive call.id, .validSecond true) := by
      rw [rxNext, hactive]
      rfl
    cases hvalid : self.mIsFvValid with
    | false =>
      refine ⟨?_, fun failure hfailure => by cases hfailure⟩
      intro self' hself'
      cases Except.ok.inj hself'
      have hvalid' : (self.setActive call.id).mIsFvValid = false := hvalid
      exact (alone_of_rxNext hfirst).trans (alone_upstart hvalid' (hwindow hvalid) true)
    | true =>
      refine ⟨?_, fun failure hfailure => by cases hfailure⟩
      intro self' hself'
      cases Except.ok.inj hself'
      have hvalid' : (self.setActive call.id).mIsFvValid = true := hvalid
      exact ((alone_of_rxNext hfirst).trans (alone_valid hvalid' true)).trans
        (alone_readFv [sokUpstartTime])
  | true =>
    have hlater : self.rxNext call .activate = .ok (self, .validSecond false) := by
      rw [rxNext, hactive]
      rfl
    cases hvalid : self.mIsFvValid with
    | false =>
      refine ⟨?_, fun failure hfailure => by cases hfailure⟩
      intro self' hself'
      cases Except.ok.inj hself'
      exact (alone_of_rxNext hlater).trans (alone_upstart hvalid (hwindow hvalid) false)
    | true =>
      simp only [Bool.true_and, decide_eq_true_eq, Bool.not_true, Bool.false_eq_true, if_false,
        Bool.false_or]
      have hvalid' : Alone call ⟨self, .activate⟩ ⟨self, .compareFv⟩ :=
        (alone_of_rxNext hlater).trans (alone_valid hvalid false)
      split
      · rename_i hold
        refine ⟨fun self' hself' => (by cases hself'), ?_⟩
        intro failure hfailure
        cases Except.error.inj hfailure
        have hcompare : self.rxNext call .compareFv =
            .ok (self, .returned (.error .fvBeforeFirstActivity)) := by
          rw [rxNext, if_pos hold]
        exact hvalid'.trans (alone_of_rxNext hcompare)
      · rename_i hfresh
        refine ⟨?_, fun failure hfailure => (by cases hfailure)⟩
        intro self' hself'
        cases Except.ok.inj hself'
        exact hvalid'.trans (alone_compareFv hfresh)

/-- The first test. -/
theorem alone_validFirst : Alone call ⟨self, .validFirst⟩
    ⟨self, if !self.mIsFvValid && self.validTimeoutPassed then
        .returned (.error .noAuthFvAvailable)
      else .activate⟩ := by
  cases hvalid : self.mIsFvValid with
  | true =>
    apply alone_of_rxNext
    rw [rxNext, hvalid]
    rfl
  | false =>
    have htest : self.rxNext call .validFirst = .ok (self, .timeFirst) := by
      rw [rxNext, hvalid]
      rfl
    have htime : self.rxNext call .timeFirst = .ok (self,
        if self.validTimeoutPassed then .returned (.error .noAuthFvAvailable)
          else .activate) := by
      rw [rxNext]
    exact (alone_of_rxNext htest).trans (alone_of_rxNext htime)

/-- The answer from a list that was built. -/
theorem alone_answer (hfirst : call.attempts = 0)
    (husable : (!self.mIsFvValid && self.validTimeoutPassed) = false)
    (hbuilt : self.buildRxCandidates call.id = .ok self') :
    Alone call ⟨self', .verifyReq⟩
      ⟨{ self' with mAttrMgr := self'.mAttrMgr.updateEvent .kVerifyReq call.id self'.mFV },
        .returned (.ok (serializeCandidate (self'.mFvRxCandidates.getD call.id [])
          call.attempts call.truncated))⟩ := by
  have hlist : self'.mFvRxCandidates.getD call.id [] = self.rxCandidateList call.id := by
    rw [buildRxCandidates_eq husable] at hbuilt
    split at hbuilt
    · cases hbuilt
    · cases Except.ok.inj hbuilt
      rw [UnorderedMap.getD, setRxCandidates, AList.lookup_insert, Option.getD_some]
  have hpos : call.attempts.toNat < (self'.mFvRxCandidates.getD call.id []).length := by
    rw [hlist, hfirst]
    exact List.length_pos_of_ne_nil rxCandidateList_ne_nil
  have hrequest : self'.rxNext call .verifyReq = .ok ({ self' with
      mAttrMgr := self'.mAttrMgr.updateEvent .kVerifyReq call.id self'.mFV }, .access) := rfl
  refine (alone_of_rxNext hrequest).trans (alone_of_rxNext ?_)
  rw [rxNext, accessCandidate, if_pos hpos]
  rfl

/-- The steps of the call alone are `getRxFv`. -/
theorem uninterrupted_getRxFv (call : RxCall) (self : AFreshnessValueManagerImpl) :
    Alone call ⟨self, .find⟩
      ⟨(self.getRxFv call.id call.type call.truncated call.attempts).2,
        .returned (self.getRxFv call.id call.type call.truncated call.attempts).1⟩ := by
  unfold getRxFv
  cases hlookup : self.mFvRxCandidates.lookup call.id with
  | some rxCandList =>
    dsimp only
    split
    · rename_i hshort
      apply alone_of_rxNext
      rw [rxNext, hlookup]
      dsimp only
      rw [if_pos hshort]
    · rename_i hlong
      have hfind : self.rxNext call .find = .ok (self, .accessFound) := by
        rw [rxNext, hlookup]
        dsimp only
        rw [if_neg hlong]
      have haccess : self.rxNext call .accessFound = .ok (self,
          .returned (.ok (serializeCandidate rxCandList call.attempts call.truncated))) := by
        rw [rxNext, accessCandidate, UnorderedMap.getD, hlookup, Option.getD_some,
          if_pos (by omega)]
        rfl
      exact (alone_of_rxNext hfind).trans (alone_of_rxNext haccess)
  | none =>
    have hfind : self.rxNext call .find =
        if call.attempts ≠ 0 then .ok (self, .returned (.error .invalidAttempts))
        else if call.type = .kVwSokFreshnessValueSessionReceiver ∧
            call.truncated ≠ self.mAttrMgr.getNextSessionCounter call.id then
          .ok (self, .returned (.error .sessionCounterMismatch))
        else .ok (self.consumeSessionCounter call.id call.type, .validFirst) := by
      rw [rxNext, hlookup]
    dsimp only
    by_cases hattempts : call.attempts ≠ 0
    · rw [if_pos hattempts] at hfind ⊢
      exact alone_of_rxNext hfind
    · rw [if_neg hattempts] at hfind ⊢
      by_cases hmismatch : call.type = .kVwSokFreshnessValueSessionReceiver ∧
          call.truncated ≠ self.mAttrMgr.getNextSessionCounter call.id
      · rw [if_pos hmismatch] at hfind ⊢
        exact alone_of_rxNext hfind
      · rw [if_neg hmismatch] at hfind ⊢
        refine (alone_of_rxNext hfind).trans ?_
        generalize self.consumeSessionCounter call.id call.type = consumed
        have htest : Alone call ⟨consumed, .validFirst⟩ _ := alone_validFirst
        cases husable : (!consumed.mIsFvValid && consumed.validTimeoutPassed) with
        | true =>
          rw [husable] at htest
          exact htest
        | false =>
          rw [husable] at htest
          obtain ⟨hok, herror⟩ := alone_buildRxCandidates call husable
          cases hbuilt : consumed.buildRxCandidates call.id with
          | error failure => exact htest.trans (herror failure hbuilt)
          | ok built =>
            exact (htest.trans (hok built hbuilt)).trans
              (alone_answer (not_not.mp hattempts) husable hbuilt)

/-- For the types that `GetRxFreshness` passes on to `getRxFv`, they are `GetRxFreshness`. -/
theorem uninterrupted_getRxFreshness (hinit : self.mInitialized = true)
    (htype : self.mFvmConfAccessor.getEntryTypeByFvId call.id = .ok call.type)
    (hrx : IsRxFvType call.type) : Alone call ⟨self, .find⟩
      ⟨(self.getRxFreshness call.id call.truncated call.attempts).2,
        .returned (self.getRxFreshness call.id call.truncated call.attempts).1⟩ := by
  rw [getRxFreshness_eq hinit htype hrx]
  exact uninterrupted_getRxFv call self

/-! ## Every run -/

/-- What holds at a point while the third test sees the flag set. -/
def Reception.Listed (call : RxCall) (s : Reception) : Prop :=
  match s.point with
  | .find | .returned _ => True
  | .accessFound => ∃ rxCandList, s.manager.candidates call.id = some rxCandList ∧
      call.attempts.toNat < rxCandList.length
  | .verifyReq | .access => call.attempts = 0 ∧
      ∃ rxCandList, s.manager.candidates call.id = some rxCandList ∧ rxCandList ≠ []
  | _ => call.attempts = 0 ∧ s.manager.candidates call.id = none

theorem listed_iff_of_building {manager : AFreshnessValueManagerImpl}
    (hbuilding : point.building = true) : (Reception.mk manager point).Listed call ↔
      call.attempts = 0 ∧ manager.candidates call.id = none := by
  cases point with
  | find | accessFound | verifyReq | access | returned result => cases hbuilding
  | _ => exact Iff.rfl

theorem listed_congr {manager manager' : AFreshnessValueManagerImpl}
    (hsame : manager'.candidates call.id = manager.candidates call.id)
    (hlisted : (Reception.mk manager point).Listed call) :
    (Reception.mk manager' point).Listed call := by
  unfold Reception.Listed at hlisted ⊢
  rw [hsame]
  exact hlisted

/-- A list that is listed is long enough. -/
theorem Reception.Listed.accessInside (hlisted : s.Listed call) : s.AccessInside call := by
  obtain ⟨manager, point⟩ := s
  intro hpoint
  rcases hpoint with hpoint | hpoint
  · cases hpoint
    obtain ⟨rxCandList, hcached, hlength⟩ := hlisted
    rw [getD_eq_candidates, hcached]
    exact hlength
  · cases hpoint
    obtain ⟨hfirst, rxCandList, hcached, hne⟩ := hlisted
    rw [getD_eq_candidates, hcached, hfirst]
    exact List.length_pos_of_ne_nil hne

/-- Step lemma of the call: it comes to the end with a list, if the third test does not
see the flag cleared. -/
theorem listed_of_rxMove (hmove : RxMove call self point self' point')
    (hset : ∀ firstOccurrence, point = .validThird firstOccurrence → self.mIsFvValid = true)
    (hlisted : (Reception.mk self point).Listed call) :
    (Reception.mk self' point').Listed call := by
  cases hmove with
  | returns _ result => trivial
  | finds rxCandList hfound hlength => exact ⟨rxCandList, hfound, hlength⟩
  | starts _ hnone hfirst hsame => exact ⟨hfirst, hsame.trans hnone⟩
  | builds _ _ _ hbefore hafter hsame =>
    rw [listed_iff_of_building hbefore] at hlisted
    rw [listed_iff_of_building hafter]
    exact ⟨hlisted.1, hsame.trans hlisted.2⟩
  | caches _ rxCandList hbefore hne =>
    rw [listed_iff_of_building hbefore] at hlisted
    exact ⟨hlisted.1, rxCandList, candidates_setRxCandidates_self rxCandList, hne⟩
  | misses firstOccurrence hcleared =>
    rw [hset firstOccurrence rfl] at hcleared
    cases hcleared
  | requests _ hsame =>
    have hlisted' : (Reception.mk self .access).Listed call := hlisted
    exact listed_congr hsame hlisted'

theorem listed_step (hlisted : s.Listed call) (hset : SetAtThirdTest s h op)
    (hstep : receptionStep call s op = .ok (s', es)) : s'.Listed call := by
  cases op with
  | reader =>
    obtain ⟨next, hnext, heq⟩ := exists_of_map_ok hstep
    cases heq
    exact listed_of_rxMove (rxMove_of_rxNext hnext) hset hlisted
  | other members =>
    cases Except.ok.inj hstep
    have hlisted' : (Reception.mk s.manager s.point).Listed call := hlisted
    exact listed_congr rfl hlisted'

/-- Run lemma. -/
theorem listed_of_run {manager : AFreshnessValueManagerImpl}
    (hrun : Run (receptionStep call) SetAtThirdTest ⟨manager, .find⟩ [] s h) :
    s.Listed call := by
  refine hrun.stateInvariant (Reception.Listed call) trivial ?_
  intro s h op s' es hlisted hset hstep
  exact listed_step hlisted hset hstep

/-! ## After the third test -/

/-- The call goes to its last access without a list. -/
structure Missed (call : RxCall) (t : Reception) : Prop where
  point : t.point = .verifyReq ∨ t.point = .access
  uncached : t.manager.candidates call.id = none

theorem Missed.not_accessInside (hmissed : Missed call s) (haccess : s.point = .access) :
    ¬s.AccessInside call := by
  intro hinside
  have hlength := hinside (Or.inr haccess)
  rw [getD_eq_candidates, hmissed.uncached] at hlength
  exact absurd hlength (Nat.not_lt_zero _)

theorem Missed.step (hmissed : Missed call s)
    (hstep : receptionStep call s op = .ok (s', es)) : Missed call s' := by
  cases op with
  | reader =>
    obtain ⟨next, hnext, heq⟩ := exists_of_map_ok hstep
    cases heq
    rcases hmissed.point with hpoint | hpoint
    · rw [hpoint] at hnext
      cases Except.ok.inj hnext
      exact ⟨Or.inr rfl, hmissed.uncached⟩
    · exact absurd ((exists_rxNext_iff s).mp ⟨next, hnext⟩) (hmissed.not_accessInside hpoint)
  | other members =>
    cases Except.ok.inj hstep
    exact ⟨hmissed.point, hmissed.uncached⟩

/-- Whatever the other thread does from there on, the access is outside. -/
theorem Missed.of_run {g : List Unit} (hmissed : Missed call s)
    (hrun : Run (receptionStep call) Anything s h s' g) : Missed call s' := by
  refine hrun.stateInvariant (Missed call) hmissed ?_
  intro s h op s' es hmissed _ hstep
  exact hmissed.step hstep

/-- The third test has seen the flag cleared. -/
theorem missed_of_not_set (hlisted : s.Listed call) (hset : ¬SetAtThirdTest s h .reader)
    (hstep : receptionStep call s .reader = .ok (s', es)) :
    Missed call s' ∧ s'.point = .verifyReq := by
  obtain ⟨manager, point⟩ := s
  simp only [SetAtThirdTest, not_forall, Bool.not_eq_true] at hset
  obtain ⟨firstOccurrence, rfl, hcleared⟩ := hset
  have hnext : receptionStep call ⟨manager, .validThird firstOccurrence⟩ .reader =
      .ok (⟨manager, .verifyReq⟩, []) := by
    simp [receptionStep, rxNext, hcleared, Except.map]
  rw [hnext] at hstep
  cases Except.ok.inj hstep
  exact ⟨⟨Or.inl rfl, hlisted.2⟩, rfl⟩

/-- From there the call comes to the access in one step. -/
theorem exists_access_of_verifyReq (hpoint : s.point = .verifyReq) (h : List Unit) :
    ∃ s' g, Run (receptionStep call) Anything s h s' g ∧ s'.point = .access := by
  have hstep : receptionStep call s .reader = .ok (⟨{ s.manager with
      mAttrMgr := s.manager.mAttrMgr.updateEvent .kVerifyReq call.id s.manager.mFV },
      .access⟩, []) := by
    rw [receptionStep, hpoint]
    rfl
  exact ⟨_, _, .single trivial hstep, rfl⟩

/-- When the accesses are inside their lists. They are in every run in which the third
test of `mIsFvValid` sees the flag set. When it sees the flag cleared, the call comes to
its last access without a list, whatever the other thread does then. -/
theorem candidate_access_iff (call : RxCall) (manager : AFreshnessValueManagerImpl) :
    (∀ s h, Run (receptionStep call) SetAtThirdTest ⟨manager, .find⟩ [] s h →
      s.AccessInside call) ∧
    ∀ s h s' es, Run (receptionStep call) SetAtThirdTest ⟨manager, .find⟩ [] s h →
      ¬SetAtThirdTest s h .reader → receptionStep call s .reader = .ok (s', es) →
      (∃ t g, Run (receptionStep call) Anything s' (es ++ h) t g ∧ t.point = .access) ∧
      ∀ t g, Run (receptionStep call) Anything s' (es ++ h) t g → t.point = .access →
        ¬t.AccessInside call := by
  constructor
  · intro s h hrun
    exact (listed_of_run hrun).accessInside
  · intro s h s' es hrun hset hstep
    obtain ⟨hmissed, hpoint⟩ := missed_of_not_set (listed_of_run hrun) hset hstep
    refine ⟨exists_access_of_verifyReq hpoint (es ++ h), ?_⟩
    intro t g hcontinued haccess
    exact (hmissed.of_run hcontinued).not_accessInside haccess

/-! ## The main functions -/

theorem OnlyShared.trans {self'' : AFreshnessValueManagerImpl} (first : OnlyShared self self')
    (second : OnlyShared self' self'') : OnlyShared self self'' := by
  unfold OnlyShared at *
  rw [first] at second
  exact second

theorem onlyShared_incTimers : OnlyShared self self.incTimers := by
  unfold incTimers
  split
  · rfl
  · dsimp only
    split
    · rfl
    · rfl

section

open FreshnessValueManagerImplParticipant

variable {p : FreshnessValueManagerImplParticipant} {csm : ICsmAccessor}
variable {signals : ISignalManager}

theorem onlyShared_stateAction {action : StateAction} {result : ActionResult}
    (hresult : p.stateAction csm signals action = .ok result) :
    OnlyShared p.toAFreshnessValueManagerImpl result.2.1.toAFreshnessValueManagerImpl := by
  rcases base_stateAction hresult with hsame | ⟨fv, hadopts⟩ | hdrops
  · rw [hsame]
    rfl
  · rw [hadopts]
    rfl
  · rw [hdrops]
    rfl

/-- A main function of a participant changes the shared members only. -/
theorem onlyShared_mainFunction {result : ActionResult}
    (hresult : p.mainFunction csm signals = .ok result) :
    OnlyShared p.toAFreshnessValueManagerImpl result.2.1.toAFreshnessValueManagerImpl := by
  unfold mainFunction enter at hresult
  split at hresult
  · cases Except.ok.inj hresult
    rfl
  · split at hresult
    · cases hresult
    · rename_i ret t events henter
      cases Except.ok.inj hresult
      split at henter
      · cases Except.ok.inj henter
        exact onlyShared_incTimers
      · exact (onlyShared_stateAction henter).trans onlyShared_incTimers

end

/-- A main function of a server changes the shared members only. -/
theorem onlyShared_mainFunction_server {server : FreshnessValueManagerImplServer}
    {services : ServerServices} {result : FreshnessValueManagerImplServer.ServerResult}
    (hresult : server.mainFunction services = .ok result) :
    OnlyShared server.toAFreshnessValueManagerImpl result.2.1.toAFreshnessValueManagerImpl := by
  rw [base_mainFunction_server hresult]
  exact onlyShared_incTimers

/-! ## A participant with its two threads -/

/-- A participant, and where a call of `getRxFv` on it stands. -/
structure ParticipantReception where
  participant : FreshnessValueManagerImplParticipant
  point : RxPoint

inductive ParticipantReceptionOp
  | reader
  | mainFunction (csm : ICsmAccessor) (signals : ISignalManager)

/-- A call on a participant beside its main function. -/
def participantReceptionStep (call : RxCall) :
    Machine ParticipantReception ParticipantReceptionOp Unit Fault := fun s op =>
  match op with
  | .reader => (s.participant.rxNext call s.point).map fun next =>
      (⟨{ s.participant with toAFreshnessValueManagerImpl := next.1 }, next.2⟩, [])
  | .mainFunction csm signals => (s.participant.mainFunction csm signals).map fun result =>
      ({ s with participant := result.2.1 }, [])

/-- The call, towards the base class. -/
def ParticipantReception.reception (s : ParticipantReception) : Reception :=
  ⟨s.participant.toAFreshnessValueManagerImpl, s.point⟩

/-- A main function is a step of the other thread. -/
theorem reception_of_run {s s₀ : ParticipantReception} {h₀ : List Unit}
    {guard : Guard ParticipantReception ParticipantReceptionOp Unit}
    (hrun : Run (participantReceptionStep call) guard s₀ h₀ s h) (g₀ : List Unit) :
    ∃ g, Run (receptionStep call) Anything s₀.reception g₀ s.reception g := by
  refine hrun.simulate ParticipantReception.reception ?_ g₀
  intro s h op s' es g _ hstep
  cases op with
  | reader =>
    obtain ⟨next, hnext, heq⟩ := exists_of_map_ok hstep
    cases heq
    have hreader : receptionStep call s.reception .reader = .ok (⟨next.1, next.2⟩, []) := by
      show (s.participant.rxNext call s.point).map _ = _
      rw [hnext]
      rfl
    exact ⟨_, .single trivial hreader⟩
  | mainFunction csm signals =>
    obtain ⟨result, hresult, heq⟩ := exists_of_map_ok hstep
    cases heq
    have hother : receptionStep call s.reception
        (.other result.2.1.toAFreshnessValueManagerImpl.shared) =
          .ok (⟨result.2.1.toAFreshnessValueManagerImpl, s.point⟩, []) := by
      rw [onlyShared_mainFunction hresult]
      rfl
    exact ⟨_, .single trivial hother⟩

/-! ### The flag is cleared between two tests -/

/-- The configuration of a participant with one identifier of each kind. -/
def receivingConfig : SokFmConfig :=
  { participantConfig with
    mAuthBroadcastConfig := AList.insert 1 ⟨.kVwSokFreshnessValue, 0, 0⟩ ∅
    mUnAuthFvDistributionSignal := { (default : SignalConfig) with name := "SOK_Zeit" } }

/-- A participant with this configuration, after its first `Init`. -/
def receivingParticipant : FreshnessValueManagerImplParticipant :=
  FreshnessValueManagerImplParticipant.derivedClass.initialised (reliableInit receivingConfig)
    (.construct .construct)

/-- The participant adopts a freshness value, and then hears a broadcast of another. -/
def adoptsAndHears : List ParticipantOp :=
  [.mainFunction zeroDigestCsm reliableSignals,
    .incomingAuthFvSignal "SOK_Zeit_SINK_Zeit" [0, 0, 0, 0, 0, 0, 0, 7],
    .incomingAuthFvSignal "SOK_Zeit_SINK_Signatur" (.replicate 8 0),
    .mainFunction zeroDigestCsm reliableSignals,
    .incomingUnAuthFvSignal "SOK_Zeit" [0, 0, 0, 0, 0, 0, 0, 100]]

/-- The next main function clears `mIsFvValid`. It runs between the second and the third
test of the flag, and the call indexes a list that is not there. -/
theorem access_outside_of_list :
    receivingParticipant.FirstInit ∧
    ∃ p g, Run participantStep Anything receivingParticipant [] p g ∧
      (p.mInitialized = true ∧
        p.mFvmConfAccessor.getEntryTypeByFvId 1 = .ok .kVwSokFreshnessValue) ∧
      ∃ s h, Run (participantReceptionStep ⟨1, .kVwSokFreshnessValue, [], 0⟩) Anything
          ⟨p, .find⟩ [] s h ∧
        ¬s.reception.AccessInside ⟨1, .kVwSokFreshnessValue, [], 0⟩ := by
  refine ⟨⟨reliableInit receivingConfig, DerivedClass.init_eq_initialised (by decide +kernel)⟩,
    _, _, .of_execState adoptsAndHears (by decide +kernel) (by decide +kernel),
    by decide +kernel, ?_⟩
  refine ⟨_, _, .of_execState
    [.reader, .reader, .reader, .reader, .mainFunction zeroDigestCsm reliableSignals,
      .reader, .reader] (by decide +kernel) (by decide +kernel), ?_⟩
  intro hinside
  exact absurd (hinside (Or.inr rfl)) (by decide +kernel)

end Sok.Fvm
