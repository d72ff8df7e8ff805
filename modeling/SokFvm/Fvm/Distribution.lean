import SokFvm.Fvm.AuthenticTag
import SokFvm.Fvm.ServerRun

/-!
# The distribution of the authentic freshness value

A server and a participant with a network between them that delivers whatever it
likes: any challenge to the server, any value and any signature to the
participant, in any order and at any time.  Nothing that one side publishes has to
reach the other.

What protects the freshness value is the MAC.  `IdealMac` is the assumption about
it: a verification succeeds only for a signature that the server made, over the
very payload that the participant verifies.  The two sides form their payloads
differently, though.  The server signs the challenge it received, of any length,
followed by seven bytes; the participant verifies its own challenge followed by
the received value without its first byte, of any length, and adopts the value
with its first byte.  `authentic_fv_agreement` is the result for values that have
eight bytes of which the first is zero: then the two payloads can only be equal
part by part.
-/

namespace Sok.Fvm

open Sok.Common StateMachine

/-! ## The system -/

structure Distribution where
  server : FreshnessValueManagerImplServer
  participant : FreshnessValueManagerImplParticipant

inductive DistributionOp
  | atServer (op : ServerOp)
  | atParticipant (op : ParticipantOp)

inductive DistributionEvent
  | server (e : ServerEvent)
  | participant (e : ParticipantEvent)
  deriving DecidableEq

/-- Each side takes its steps on its own. -/
def distributionStep : Machine Distribution DistributionOp DistributionEvent Fault := fun s op =>
  match op with
  | .atServer op =>
    match serverStep s.server op with
    | .error fault => .error fault
    | .ok (server, es) => .ok ({ s with server := server }, es.map .server)
  | .atParticipant op =>
    match participantStep s.participant op with
    | .error fault => .error fault
    | .ok (participant, es) => .ok ({ s with participant := participant }, es.map .participant)

/-- The server made the signature `mac` over `data`. -/
def DistributionEvent.Made (data mac : ByteVector) : DistributionEvent → Prop
  | .server (.answered _ _ _ _ data' mac') => data' = data ∧ mac' = mac
  | _ => False

/-- The server answered `challenge` while its freshness value was `fv`. -/
def DistributionEvent.Answers (challenge : ByteVector) (fv : UInt64) : DistributionEvent → Prop
  | .server (.answered _ _ challenge' fv' _ _) => challenge' = challenge ∧ fv' = fv
  | _ => False

instance (data mac : ByteVector) : DecidablePred (DistributionEvent.Made data mac)
  | .server (.answered _ _ _ _ _ _) => inferInstanceAs (Decidable (_ ∧ _))
  | .server (.broadcast _) | .server (.recorded _ _) | .server (.valuePublished _ _)
  | .server (.signaturePublished _ _) | .server (.mainFunctionCompleted _)
  | .participant _ => .isFalse id

instance (challenge : ByteVector) (fv : UInt64) :
    DecidablePred (DistributionEvent.Answers challenge fv)
  | .server (.answered _ _ _ _ _ _) => inferInstanceAs (Decidable (_ ∧ _))
  | .server (.broadcast _) | .server (.recorded _ _) | .server (.valuePublished _ _)
  | .server (.signaturePublished _ _) | .server (.mainFunctionCompleted _)
  | .participant _ => .isFalse id

/-- The ideal MAC: what the participant verifies successfully was made by the
server before, cut to its first eight bytes, under one of its keys. -/
def IdealMac : Guard Distribution DistributionOp DistributionEvent := fun s h op =>
  match op with
  | .atParticipant (.mainFunction csm _) =>
    s.participant.mFvStateManager.mCurrentFvState = some .processFV →
    s.participant.verifyRes csm = .ok .kSuccess →
    ∃ e ∈ h, e.Made s.participant.payloadForVerification s.participant.mCrAuthFvAndMac.2
  | _ => True

/-- The server answers challenges with a freshness value of at most seven bytes,
and a value that is verified successfully has eight bytes, the first of them zero. -/
def WholeValues : Guard Distribution DistributionOp DistributionEvent := fun s _ op =>
  match op with
  | .atServer (.mainFunction _) =>
    s.server.mNeedToSendAuthFvResponses = true →
    s.server.mResponsePendingChallenges.entries ≠ [] → s.server.mFV.toNat < 2 ^ 56
  | .atParticipant (.mainFunction csm _) =>
    s.participant.mFvStateManager.mCurrentFvState = some .processFV →
    s.participant.verifyRes csm = .ok .kSuccess →
    s.participant.mCrAuthFvAndMac.1.length = 8 ∧ s.participant.mCrAuthFvAndMac.1.head? = some 0
  | _ => True

instance (s : Distribution) (h : List DistributionEvent) : DecidablePred (IdealMac s h)
  | .atParticipant (.mainFunction _ _) => inferInstanceAs (Decidable (_ → _ → _))
  | .atServer _ | .atParticipant (.incomingAuthFvSignal _ _)
  | .atParticipant (.incomingUnAuthFvSignal _ _) | .atParticipant (.call _) => .isTrue trivial

instance (s : Distribution) (h : List DistributionEvent) : DecidablePred (WholeValues s h)
  | .atServer (.mainFunction _) => inferInstanceAs (Decidable (_ → _ → _))
  | .atParticipant (.mainFunction _ _) => inferInstanceAs (Decidable (_ → _ → _))
  | .atServer (.incomingAuthFvChallengeSignal _ _) | .atServer (.call _)
  | .atParticipant (.incomingAuthFvSignal _ _)
  | .atParticipant (.incomingUnAuthFvSignal _ _) | .atParticipant (.call _) => .isTrue trivial

variable {s s' s₀ : Distribution} {h : List DistributionEvent} {op : DistributionOp}
variable {es : List DistributionEvent} {P : Guard Distribution DistributionOp DistributionEvent}

/-- A step is a step of one side. -/
theorem distributionStep_cases (hstep : distributionStep s op = .ok (s', es)) :
    (∃ op' server es', op = .atServer op' ∧ serverStep s.server op' = .ok (server, es') ∧
        s' = { s with server := server } ∧ es = es'.map .server) ∨
      ∃ op' participant es', op = .atParticipant op' ∧
        participantStep s.participant op' = .ok (participant, es') ∧
        s' = { s with participant := participant } ∧ es = es'.map .participant := by
  unfold distributionStep at hstep
  cases op with
  | atServer op' =>
    dsimp only at hstep
    split at hstep
    · cases hstep
    · rename_i server es' hserver
      cases Except.ok.inj hstep
      exact Or.inl ⟨op', server, es', rfl, hserver, rfl, rfl⟩
  | atParticipant op' =>
    dsimp only at hstep
    split at hstep
    · cases hstep
    · rename_i participant es' hparticipant
      cases Except.ok.inj hstep
      exact Or.inr ⟨op', participant, es', rfl, hparticipant, rfl, rfl⟩

/-! ### The participant in the system -/

/-- The participant's part of a run. -/
theorem participantRun_of_run (hrun : Run distributionStep P s₀ [] s h) :
    ∃ g, Run participantStep Anything s₀.participant [] s.participant g := by
  refine hrun.simulate Distribution.participant ?_ []
  intro s h op s' es g _ hstep
  rcases distributionStep_cases hstep with ⟨op', server, es', -, -, hs', -⟩ |
    ⟨op', participant, es', -, hparticipant, hs', -⟩
  · rw [hs']
    exact ⟨g, .refl⟩
  · rw [hs']
    exact ⟨_, .single trivial hparticipant⟩

/-! ### What was signed -/

/-- Every signature that was made is over a challenge and the seven bytes of a
freshness value that fits into them. -/
def SignedWhole (h : List DistributionEvent) : Prop :=
  ∀ client keyId challenge fv data mac, .server (.answered client keyId challenge fv data mac) ∈ h →
    data = challenge ++ uintToByteVectorTrim fv 7 ∧ fv.toNat < 2 ^ 56

theorem SignedWhole.step (hsigned : SignedWhole h) (hwhole : WholeValues s h op)
    (hstep : distributionStep s op = .ok (s', es)) : SignedWhole (es ++ h) := by
  intro client keyId challenge fv data mac hanswered
  rcases List.mem_append.mp hanswered with hnew | hold
  · rcases distributionStep_cases hstep with ⟨op', server, es', hop, hserver, -, hes⟩ |
      ⟨op', participant, es', -, -, -, hes⟩
    · subst hop hes
      have hevent : .answered client keyId challenge fv data mac ∈ es' := by simpa using hnew
      obtain ⟨⟨services, hmain⟩, hneed, hanswer⟩ := answered_of_serverStep hserver hevent
      subst hmain
      have hentry := AList.mem_lookup_iff.mp hanswer.pending
      refine ⟨hanswer.data_eq, ?_⟩
      rw [hanswer.fv_eq]
      exact hwhole hneed (List.ne_nil_of_mem hentry)
    · subst hes
      simp at hnew
  · exact hsigned _ _ _ _ _ _ hold

theorem signedWhole_of_run (hwhole : ∀ s h op, P s h op → WholeValues s h op)
    (hrun : Run distributionStep P s₀ [] s h) : SignedWhole h := by
  refine hrun.invariant (fun _ h => SignedWhole h) ?_ ?_
  · intro client keyId challenge fv data mac hanswered
    cases hanswered
  · intro s h op s' es hsigned hmeets hstep
    exact hsigned.step (hwhole _ _ _ hmeets) hstep

/-! ### What is adopted -/

/-- An adoption is a successful verification by the participant's main function. -/
theorem verified_of_adopted (hready : Ready s.participant)
    (hstep : distributionStep s op = .ok (s', es)) {fv : UInt64}
    (hadopted : .participant (.adopted fv) ∈ es) :
    ∃ csm signals, op = .atParticipant (.mainFunction csm signals) ∧
      s.participant.mFvStateManager.mCurrentFvState = some .processFV ∧
      s.participant.verifyRes csm = .ok .kSuccess ∧
      fv = byteVectorToUint s.participant.mCrAuthFvAndMac.1 := by
  rcases distributionStep_cases hstep with ⟨op', server, es', -, -, -, hes⟩ |
    ⟨op', participant, es', hop, hparticipant, -, hes⟩
  · subst hes
    simp at hadopted
  · subst hop hes
    have hevent : .adopted fv ∈ es' := by simpa using hadopted
    obtain ⟨hstate, csm, signals, hmain⟩ :=
      processFV_of_event hready hparticipant (Or.inr ⟨fv, hevent⟩)
    subst hmain
    obtain ⟨-, code, hverify, hcases⟩ := verification_of_step hready hstate hparticipant
    rcases hcases with ⟨hsuccess, hes⟩ | ⟨-, hes⟩
    · subst hsuccess
      rw [hes] at hevent
      exact ⟨csm, signals, rfl, hstate, hverify, by simpa using hevent⟩
    · rw [hes] at hevent
      simp at hevent

/-- Two payloads with the same seven bytes at their ends are equal part by part,
and the adopted value is the one that was signed. -/
theorem value_of_payload {active challenge value : ByteVector} {fv : UInt64}
    (hlength : value.length = 8) (hhead : value.head? = some 0) (hfv : fv.toNat < 2 ^ 56)
    (hpayload : active ++ value.tail = challenge ++ uintToByteVectorTrim fv 7) :
    challenge = active ∧ byteVectorToUint value = fv := by
  have htrim : (uintToByteVectorTrim fv 7).length = 7 := length_uintToByteVectorTrim fv (by decide)
  have htail : value.tail.length = (uintToByteVectorTrim fv 7).length := by
    rw [List.length_tail, hlength, htrim]
  obtain ⟨hchallenge, hvalue⟩ := List.append_inj' hpayload htail
  have hcons : value = 0 :: uintToByteVectorTrim fv 7 := by
    rw [← hvalue]
    exact (List.cons_head?_tail hhead).symm
  refine ⟨hchallenge.symm, ?_⟩
  rw [hcons, byteVectorToUint_zero_cons_trim hfv]

/-- **Agreement.**  With an ideal MAC, a freshness value that a participant adopts
is one that the server signed for the participant's active challenge while it was
the server's own, in every run in which whole values are signed and accepted. -/
theorem authentic_fv_agreement (hinit : InitialisedParticipant s₀.participant)
    (hrun : Run distributionStep (fun s h op => IdealMac s h op ∧ WholeValues s h op) s₀ [] s h)
    (hideal : IdealMac s h op) (hwhole : WholeValues s h op) (fv : UInt64)
    (hemits : Emits distributionStep s op (.participant (.adopted fv))) :
    ∃ e ∈ h, e.Answers s.participant.mActiveFvChallenge fv := by
  obtain ⟨s', es, hstep, hadopted⟩ := hemits
  obtain ⟨g, hparticipant⟩ := participantRun_of_run hrun
  obtain ⟨csm, signals, hop, hstate, hverify, hfv⟩ :=
    verified_of_adopted (ready_of_run hinit hparticipant) hstep hadopted
  subst hop
  obtain ⟨e, hmem, hmade⟩ := hideal hstate hverify
  obtain ⟨hlength, hhead⟩ := hwhole hstate hverify
  have hsigned := signedWhole_of_run (fun _ _ _ hmeets => hmeets.2) hrun
  cases e with
  | participant e => cases hmade
  | server e =>
    cases e with
    | answered client keyId challenge fv' data mac =>
      obtain ⟨hdata, hlt⟩ := hsigned _ _ _ _ _ _ hmem
      obtain ⟨hpayload, -⟩ := hmade
      obtain ⟨hchallenge, hvalue⟩ :=
        value_of_payload hlength hhead hlt (hpayload.symm.trans hdata)
      exact ⟨_, hmem, hchallenge, hvalue.symm.trans hfv.symm⟩
    | _ => cases hmade

/-! ### Runs on concrete inputs -/

/-- Services that never fail. -/
def reliableServices : ServerServices :=
  { broadcastSignals := reliableSignals
    mCsmAccessor := fun _ => zeroDigestCsm
    mSignalManager := fun _ => reliableSignals
    order := .asListed }

/-- An initialised server with one client, and the participant of that name. -/
def sinkDistribution : Distribution :=
  { server := ((FreshnessValueManagerImplServer.construct
      (initialisedManager (.ofClient "SINK" 132))).serverOrParticipantInit
        zeroDigestCsm reliableSignals .asListed).2
    participant := sinkParticipant }

/-- The participant asks, the server answers 21 ticks later, and the network
delivers a value with the signature of the answer. -/
def deliveryOf (value : ByteVector) : List DistributionOp :=
  [.atParticipant (.mainFunction zeroDigestCsm reliableSignals),
    .atServer (.incomingAuthFvChallengeSignal "SOK_Zeit_SINK_Challenge" (.replicate 8 7))] ++
  .replicate 21 (.atServer (.mainFunction reliableServices)) ++
  [.atParticipant (.incomingAuthFvSignal "SOK_Zeit_SINK_Zeit" value),
    .atParticipant (.incomingAuthFvSignal "SOK_Zeit_SINK_Signatur" (.replicate 8 0))]

/-- The call that verifies what was delivered. -/
def verification : DistributionOp :=
  .atParticipant (.mainFunction zeroDigestCsm reliableSignals)

theorem authentic_fv_agreement_honest :
    ∃ s h, Run distributionStep (fun s h op => IdealMac s h op ∧ WholeValues s h op)
        sinkDistribution [] s h ∧
      Emits distributionStep s verification (.participant (.adopted 0x07070707070708)) ∧
      ∃ e ∈ h, e.Answers s.participant.mActiveFvChallenge 0x07070707070708 := by
  obtain ⟨s, h, hrun, hideal, hwhole, hemits⟩ :
      ∃ s h, Run distributionStep (fun s h op => IdealMac s h op ∧ WholeValues s h op)
          sinkDistribution [] s h ∧
        IdealMac s h verification ∧ WholeValues s h verification ∧
        Emits distributionStep s verification (.participant (.adopted 0x07070707070708)) :=
    Run.exists_of_exec_of_meets (deliveryOf [0, 7, 7, 7, 7, 7, 7, 8]) (by decide +kernel)
      (by decide +kernel)
  exact ⟨s, h, hrun, hemits, authentic_fv_agreement initialisedParticipant_sinkParticipant hrun
    hideal hwhole _ hemits⟩

/-- The first byte of the value is not signed: the network sets it, and the
participant adopts a value that the server never had. -/
theorem first_byte_not_authentic :
    InitialisedParticipant sinkDistribution.participant ∧
      ∃ s h, Run distributionStep IdealMac sinkDistribution [] s h ∧
        IdealMac s h verification ∧
        Emits distributionStep s verification (.participant (.adopted 0x0107070707070708)) ∧
        ¬ ∃ e ∈ h, e.Answers s.participant.mActiveFvChallenge 0x0107070707070708 :=
  ⟨initialisedParticipant_sinkParticipant,
    Run.exists_of_exec_of_meets (deliveryOf [1, 7, 7, 7, 7, 7, 7, 8]) (by decide +kernel)
      (by decide +kernel)⟩

end Sok.Fvm
