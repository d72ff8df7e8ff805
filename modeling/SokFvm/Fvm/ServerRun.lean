import SokFvm.Fvm.ManagerRun
import SokFvm.Fvm.Server

/-!
# Runs of a server

The server as a machine.  An input is a call of the main function, a challenge
signal with arbitrary bytes, or any other call to the manager.

An answer is made by the main function alone, in a response round, for a challenge
that is pending then: `answered_of_serverStep`.  Towards the base class a server is
a manager whose clock ticks, `managerRun_of_serverRun`; its freshness value comes
from its initialisation and moves with the clock.
-/

namespace Sok.Fvm

open Sok.Common StateMachine FreshnessValueManagerImplServer

/-- The inputs of a server. -/
inductive ServerOp
  | mainFunction (services : ServerServices)
  | incomingAuthFvChallengeSignal (signal : String) (challenge : ByteVector)
  | call (call : ManagerCall)

/-- The server as a machine. -/
def serverStep : Machine FreshnessValueManagerImplServer ServerOp ServerEvent Fault := fun s op =>
  match op with
  | .mainFunction services => (s.mainFunction services).map Prod.snd
  | .incomingAuthFvChallengeSignal signal challenge =>
    .ok (s.incomingAuthFvChallengeSignalsCb signal challenge)
  | .call call => .ok ({ s with
      toAFreshnessValueManagerImpl := (managerNext s.toAFreshnessValueManagerImpl call.1).1 }, [])

variable {s s' s₀ : FreshnessValueManagerImplServer} {op : ServerOp}
variable {es h₀ h : List ServerEvent} {services : ServerServices}
variable {P : Guard FreshnessValueManagerImplServer ServerOp ServerEvent}

theorem mainFunction_of_serverStep
    (hstep : serverStep s (.mainFunction services) = .ok (s', es)) :
    ∃ ret, s.mainFunction services = .ok (ret, s', es) :=
  exists_of_map_snd hstep

/-! ## Answers -/

/-- An answer is made by a main function that runs a response round. -/
theorem answered_of_serverStep {client : String} {keyId : UInt16}
    {challenge data mac : ByteVector} {fv : UInt64} (hstep : serverStep s op = .ok (s', es))
    (hanswered : .answered client keyId challenge fv data mac ∈ es) :
    (∃ services, op = .mainFunction services) ∧ s.mNeedToSendAuthFvResponses = true ∧
      s.Answer client challenge fv data mac := by
  cases op with
  | mainFunction services =>
    obtain ⟨ret, hresult⟩ := mainFunction_of_serverStep hstep
    exact ⟨⟨services, rfl⟩, answered_of_mainFunction hresult hanswered⟩
  | incomingAuthFvChallengeSignal signal challenge' =>
    have hes : (s.incomingAuthFvChallengeSignalsCb signal challenge').2 = es :=
      congrArg Prod.snd (Except.ok.inj hstep)
    rw [← hes] at hanswered
    rcases s.incomingAuthFvChallengeSignalsCb_cases signal challenge' with
      heq | ⟨client', -, -, heq⟩
    · rw [heq] at hanswered
      cases hanswered
    · rw [heq] at hanswered
      cases List.mem_singleton.mp hanswered
  | call call =>
    cases Except.ok.inj hstep
    cases hanswered

/-! ## The server as a manager -/

theorem base_advanceClock :
    s.advanceClock.toAFreshnessValueManagerImpl = s.toAFreshnessValueManagerImpl.incTimers := by
  unfold advanceClock
  dsimp only
  split
  · split
    · rfl
    · rfl
  · split
    · rfl
    · rfl

theorem base_respondIfNeeded {result : ServerResult}
    (hresult : s.respondIfNeeded services = .ok result) :
    result.2.1.toAFreshnessValueManagerImpl = s.toAFreshnessValueManagerImpl := by
  rcases respondIfNeeded_cases hresult with ⟨-, rfl⟩ | ⟨-, events, -, rfl⟩
  · rfl
  · rfl

/-- A main function of the server is a tick of the base class, which is nothing when the
server is not initialised. -/
theorem base_mainFunction_server {result : ServerResult}
    (hresult : s.mainFunction services = .ok result) :
    result.2.1.toAFreshnessValueManagerImpl = s.toAFreshnessValueManagerImpl.incTimers := by
  cases hinit : s.mInitialized with
  | false =>
    rw [mainFunction_of_not_initialized hinit hresult, AFreshnessValueManagerImpl.incTimers, hinit]
    rfl
  | true =>
    obtain ⟨t, events, hrespond, rfl⟩ := mainFunction_parts hinit hresult
    have hbase := base_respondIfNeeded hrespond
    rw [broadcastIfNeeded_eq] at hbase
    dsimp only at hbase ⊢
    rw [base_advanceClock, hbase]

theorem managerRun_mainFunction_server {result : ServerResult}
    (hresult : s.mainFunction services = .ok result) (g : List ManagerEvent) :
    Run managerStep Anything s.toAFreshnessValueManagerImpl g
      result.2.1.toAFreshnessValueManagerImpl g := by
  rw [base_mainFunction_server hresult]
  exact managerRun_silent .incTimers rfl g

/-- Towards the base class, a run of a server is a run of a manager. -/
theorem managerRun_of_serverRun (hrun : Run serverStep P s₀ h₀ s h) (g₀ : List ManagerEvent) :
    ∃ g, Run managerStep Anything s₀.toAFreshnessValueManagerImpl g₀
      s.toAFreshnessValueManagerImpl g := by
  refine hrun.simulate (·.toAFreshnessValueManagerImpl) ?_ g₀
  intro s h op s' es g _ hstep
  cases op with
  | mainFunction services =>
    obtain ⟨ret, hresult⟩ := mainFunction_of_serverStep hstep
    exact ⟨g, managerRun_mainFunction_server hresult g⟩
  | incomingAuthFvChallengeSignal signal challenge =>
    have hs' : (s.incomingAuthFvChallengeSignalsCb signal challenge).1 = s' :=
      congrArg Prod.fst (Except.ok.inj hstep)
    rw [← hs']
    rcases s.incomingAuthFvChallengeSignalsCb_cases signal challenge with
      heq | ⟨client, -, -, heq⟩
    · rw [heq]
      exact ⟨g, .refl⟩
    · rw [heq]
      exact ⟨g, .refl⟩
  | call call =>
    cases Except.ok.inj hstep
    exact ⟨_, .single (i := call.1) trivial rfl⟩

end Sok.Fvm
