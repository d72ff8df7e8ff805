import SokFvm.Library.Countdown
import SokFvm.Fvm.FvLink

/-!
# How long a participant can be without a freshness value

A participant loses its freshness value when it drifts from the broadcasts, and it
asks for a new one.  In a link that works the answer is verified within a bounded
number of ticks.  `Phase` follows a request through its life and says how many ticks
are left at the most:

* `valid`: none.
* `request`: the participant is about to ask, 22.
* `asked`: the challenge is on its way, 21.
* `booked`: the server has it; the participant has waited for `n` ticks, 21 - `n`.
  What keeps this positive is the number of ticks that the server still needs, `due`,
  corrected by its lead.
* `answered`: both parts of the answer are on their way or there, 1.
* `stale`: the participant waits for an answer that never fits, because the
  server has booked another challenge or none.  It lets the request time out, and
  two answers at the most can hold it up.

`Wired` is what stays in a link.  The rank of the countdown is `Wired` with a phase,
and `outage_bounded` is the countdown rule.

A call of the main function that meets an empty value in `ProcessFV` leaves the
participant as it is.  A link that works brings no empty value, so there is none if there is
none at the start: `hasValue_of_run`.
-/

namespace Sok.Fvm

open Sok.Common StateMachine FreshnessValueManagerImplServer FreshnessValueManagerImplParticipant

variable {w : Wiring} {s s' s₀ : FvLink} {h : List FvLinkEvent} {b : Nat} {d : Int}

/-! ## What stays -/

/-- The client is known to the server, and each party is in a state that it can
reach. -/
structure Wired (w : Wiring) (s : FvLink) : Prop where
  server : ∃ start g, ServerClock start s.server g
  ready : Ready s.participant
  lineage : ∃ g, Lineage s.participant g
  names : valueName s.participant ≠ signatureName s.participant
  key : s.server.mClientNameToKeyId.lookup w.client = some w.keyId

theorem Wired.known (hwired : Wired w s) : w.client ∈ s.server.mClientNameToKeyId :=
  AList.lookup_isSome.mp (by rw [hwired.key]; rfl)

theorem Wired.keyId (hwired : Wired w s) :
    UnorderedMap.getD w.client 0 s.server.mClientNameToKeyId = w.keyId := by
  unfold UnorderedMap.getD
  rw [hwired.key]
  rfl

theorem Wired.valid_iff (hwired : Wired w s) : s.participant.mIsFvValid = true ↔
    FreshnessValueState.HoldsFv s.participant.requestCycle.state := by
  obtain ⟨g, hlineage⟩ := hwired.lineage
  exact hlineage.valid_iff

theorem names_of_participantStep {p p' : FreshnessValueManagerImplParticipant}
    {op : ParticipantOp} {es : List ParticipantEvent}
    (hstep : participantStep p op = .ok (p', es)) :
    valueName p' = valueName p ∧ signatureName p' = signatureName p := by
  have hconfig := (sameSetup_of_participantStep hstep).mFvmConfAccessor
  unfold valueName signatureName
  rw [hconfig]
  exact ⟨rfl, rfl⟩

/-- A step of the server. -/
theorem Wired.atServer (hwired : Wired w s) {op : ServerOp}
    {server : FreshnessValueManagerImplServer} {es : List ServerEvent}
    (hstep : serverStep s.server op = .ok (server, es)) (toServer : Option ByteVector)
    (toParticipant : List (String × ByteVector)) :
    Wired w ⟨⟨server, s.participant⟩, toServer, toParticipant⟩ := by
  obtain ⟨start, g, hclock⟩ := hwired.server
  have hkeys := mClientNameToKeyId_of_serverStep hclock.mInitialized hstep
  refine ⟨⟨start, _, hclock.step (serverClockStep_of_step hclock.mInitialized hstep)⟩,
    hwired.ready, hwired.lineage, hwired.names, ?_⟩
  show server.mClientNameToKeyId.lookup w.client = some w.keyId
  rw [hkeys]
  exact hwired.key

/-- A step of the participant. -/
theorem Wired.atParticipant (hwired : Wired w s) {op : ParticipantOp}
    {participant : FreshnessValueManagerImplParticipant} {es : List ParticipantEvent}
    (hstep : participantStep s.participant op = .ok (participant, es))
    (toServer : Option ByteVector) (toParticipant : List (String × ByteVector)) :
    Wired w ⟨⟨s.server, participant⟩, toServer, toParticipant⟩ := by
  obtain ⟨g, hlineage⟩ := hwired.lineage
  obtain ⟨hvalue, hsignature⟩ := names_of_participantStep hstep
  refine ⟨hwired.server, (requestCycle_step hwired.ready hstep).ready,
    ⟨_, hlineage.step hwired.ready (fvStep_of_step hwired.ready hstep)⟩, ?_, hwired.key⟩
  show valueName participant ≠ signatureName participant
  rw [hvalue, hsignature]
  exact hwired.names

/-! ## The life of a request -/

/-- The parts of the answer to the challenge of the participant are on their way, or
there. -/
inductive Arrives (p : FreshnessValueManagerImplParticipant) (fv : UInt64) (mac : ByteVector) :
    List (String × ByteVector) → Prop
  | both (houtstanding : p.requestCycle.Outstanding) : Arrives p fv mac (answerSignals p fv mac)
  | value (houtstanding : p.requestCycle.Outstanding)
      (hsignature : p.requestCycle.signature = mac.take authFvSignatureSizeBytes.toNatClampNeg) :
      Arrives p fv mac [(valueName p, 0 :: uintToByteVectorTrim fv 7)]
  | signature (houtstanding : p.requestCycle.Outstanding)
      (hvalue : p.requestCycle.value = 0 :: uintToByteVectorTrim fv 7) :
      Arrives p fv mac
        [(signatureName p, mac.take authFvSignatureSizeBytes.toNatClampNeg)]
  | none (hstate : p.requestCycle.state = some .processFV)
      (hvalue : p.requestCycle.value = 0 :: uintToByteVectorTrim fv 7)
      (hsignature : p.requestCycle.signature = mac.take authFvSignatureSizeBytes.toNatClampNeg) :
      Arrives p fv mac []

/-- Where the request of the participant is, for a server that is `d` ticks ahead, and
the ticks until it has a freshness value, at the most. -/
inductive Phase (w : Wiring) (s : FvLink) (d : Int) : Nat → Prop
  | valid (hholds : FreshnessValueState.HoldsFv s.participant.requestCycle.state) : Phase w s d 0
  | request (hstate : s.participant.requestCycle.state = some .requestFV) : Phase w s d 22
  | asked (hstate : s.participant.requestCycle.state = some .fvInProgress)
      (hwaited : s.participant.requestCycle.waited = 0)
      (htoServer : s.toServer = some s.participant.requestCycle.challenge)
      (hempty : s.toParticipant = []) (hdue : due s.server + d ≤ 20) : Phase w s d 21
  | booked (n : Nat) (hstate : s.participant.requestCycle.state = some .fvInProgress)
      (hwaited : s.participant.requestCycle.waited = 5 * n)
      (htoServer : s.toServer = none) (hempty : s.toParticipant = [])
      (hpending : s.server.mResponsePendingChallenges.lookup w.client =
        some s.participant.requestCycle.challenge)
      (hdue : n + due s.server + d ≤ 20) : Phase w s d (21 - n)
  | answered (fv : UInt64) (mac : ByteVector) (htoServer : s.toServer = none)
      (hpending : s.server.mResponsePendingChallenges.lookup w.client = none)
      (hmac : w.creator.macCreate w.keyId
        (s.participant.requestCycle.challenge ++ uintToByteVectorTrim fv 7) .kAes128Cmac = .ok mac)
      (hlength : 8 ≤ mac.length) (hsigned : SignedAt s.server fv d)
      (harrives : Arrives s.participant fv mac s.toParticipant) : Phase w s d 1
  /-- `i` answers may still be made, and `j` may still have to be verified. -/
  | stale (i j : Nat) (houtstanding : s.participant.requestCycle.Outstanding)
      (htoServer : s.toServer = none)
      (hpending : s.server.mResponsePendingChallenges.lookup w.client ≠ none → 0 < i)
      (hverify : s.toParticipant ≠ [] ∨
        s.participant.requestCycle.state = some .processFV → 0 < j) :
      Phase w s d (23 + (250 - s.participant.requestCycle.waited) / 5 + i + j)

/-- A phase with no more ticks left than `b`. -/
def NoLater (w : Wiring) (s : FvLink) (d : Int) (b : Nat) : Prop :=
  ∃ b', Phase w s d b' ∧ b' ≤ b ∧ (b' = 0 → b = 0)

theorem Phase.noLater (hphase : Phase w s d b) : NoLater w s d b :=
  ⟨b, hphase, Nat.le_refl b, id⟩

theorem Arrives.outstanding {p : FreshnessValueManagerImplParticipant} {fv : UInt64}
    {mac : ByteVector} {signals : List (String × ByteVector)}
    (harrives : Arrives p fv mac signals) : p.requestCycle.Outstanding := by
  cases harrives with
  | both houtstanding => exact houtstanding
  | value houtstanding => exact houtstanding
  | signature houtstanding => exact houtstanding
  | none hstate => exact Or.inr hstate

theorem not_holdsFv_of_outstanding {c : RequestCycle} (houtstanding : c.Outstanding) :
    ¬ FreshnessValueState.HoldsFv c.state := by
  intro hholds
  rcases hholds with hstate | hstate
  · exact RequestCycle.not_outstanding hstate (by decide) houtstanding
  · exact RequestCycle.not_outstanding hstate (by decide) houtstanding

/-- There are ticks left only without a freshness value. -/
theorem Phase.not_holdsFv (hphase : Phase w s d b) (hpos : 0 < b) :
    ¬ FreshnessValueState.HoldsFv s.participant.requestCycle.state := by
  cases hphase with
  | valid hholds => exact absurd hpos (Nat.lt_irrefl 0)
  | request hstate =>
    rw [hstate]
    simp [FreshnessValueState.HoldsFv]
  | asked hstate => exact not_holdsFv_of_outstanding (Or.inl hstate)
  | booked n hstate => exact not_holdsFv_of_outstanding (Or.inl hstate)
  | answered fv mac _ _ _ _ _ harrives => exact not_holdsFv_of_outstanding harrives.outstanding
  | stale i j houtstanding => exact not_holdsFv_of_outstanding houtstanding

/-- The phase depends on the request cycle, on what the server has booked for the
client, and on what is on its way. -/
theorem Phase.of_same (hphase : Phase w s d b) (hdue : due s'.server = due s.server)
    (hcontext : AFreshnessValueManagerImpl.SameContext s.server.toAFreshnessValueManagerImpl
      s'.server.toAFreshnessValueManagerImpl)
    (hpending : s'.server.mResponsePendingChallenges.lookup w.client =
      s.server.mResponsePendingChallenges.lookup w.client)
    (hcycle : s'.participant.requestCycle = s.participant.requestCycle)
    (hvalueName : valueName s'.participant = valueName s.participant)
    (hsignatureName : signatureName s'.participant = signatureName s.participant)
    (htoServer : s'.toServer = s.toServer) (htoParticipant : s'.toParticipant = s.toParticipant) :
    Phase w s' d b := by
  cases hphase with
  | valid hholds => exact .valid (by rw [hcycle]; exact hholds)
  | request hstate => exact .request (by rw [hcycle]; exact hstate)
  | asked hstate hwaited hasked hempty hbound =>
    refine .asked ?_ ?_ ?_ (htoParticipant.trans hempty) (by rw [hdue]; exact hbound)
    · rw [hcycle]
      exact hstate
    · rw [hcycle]
      exact hwaited
    · rw [hcycle, htoServer]
      exact hasked
  | booked n hstate hwaited hnone hempty hbooked hbound =>
    refine .booked n ?_ ?_ (htoServer.trans hnone) (htoParticipant.trans hempty) ?_
      (by rw [hdue]; exact hbound)
    · rw [hcycle]
      exact hstate
    · rw [hcycle]
      exact hwaited
    · rw [hcycle, hpending]
      exact hbooked
  | answered fv mac hnone hlookup hmac hlength hsigned harrives =>
    obtain ⟨m, o, ho, hm, hshows⟩ := hsigned
    refine .answered fv mac (htoServer.trans hnone) (hpending.trans hlookup) ?_ hlength
      ⟨m, o, ho, hm, hshows.of_sameContext hcontext⟩ ?_
    · rw [hcycle]
      exact hmac
    · rw [htoParticipant]
      generalize s.toParticipant = signals at harrives
      cases harrives with
      | both houtstanding =>
        have hsame : answerSignals s.participant fv mac = answerSignals s'.participant fv mac := by
          unfold answerSignals
          rw [hvalueName, hsignatureName]
        rw [hsame]
        exact .both (by rw [hcycle]; exact houtstanding)
      | value houtstanding hsignature =>
        rw [← hvalueName]
        exact .value (by rw [hcycle]; exact houtstanding) (by rw [hcycle]; exact hsignature)
      | signature houtstanding hvalue =>
        rw [← hsignatureName]
        exact .signature (by rw [hcycle]; exact houtstanding) (by rw [hcycle]; exact hvalue)
      | none hstate hvalue hsignature =>
        exact .none (by rw [hcycle]; exact hstate) (by rw [hcycle]; exact hvalue)
          (by rw [hcycle]; exact hsignature)
  | stale i j houtstanding hnone hlookup hverify =>
    rw [← hcycle]
    refine .stale i j (by rw [hcycle]; exact houtstanding) (htoServer.trans hnone) ?_ ?_
    · rw [hpending]
      exact hlookup
    · rw [htoParticipant, hcycle]
      exact hverify

/-! ## Inputs that are no ticks -/

/-- What others do at the server. -/
theorem Phase.atServer (hphase : Phase w s d b) {op : ServerOp}
    {server : FreshnessValueManagerImplServer} {es : List ServerEvent}
    (hhidden : HiddenFrom w.client op) (hstep : serverStep s.server op = .ok (server, es)) :
    Phase w ⟨⟨server, s.participant⟩, s.toServer, s.toParticipant⟩ d b := by
  obtain ⟨hagree, -⟩ := AgreeFor.of_hidden hhidden hstep
  exact hphase.of_same (due_of_sameContext hagree.context hagree.respond) hagree.context
    hagree.pending rfl rfl rfl rfl rfl

/-- A broadcast arrives, or an application calls. -/
theorem Phase.atParticipant (hphase : Phase w s d b) (hready : Ready s.participant)
    {op : ParticipantOp} {participant : FreshnessValueManagerImplParticipant}
    {es : List ParticipantEvent} (hquiet : Quiet s.participant [] op)
    (hstep : participantStep s.participant op = .ok (participant, es)) :
    Phase w ⟨⟨s.server, participant⟩, s.toServer, s.toParticipant⟩ d b := by
  obtain ⟨hvalue, hsignature⟩ := names_of_participantStep hstep
  rcases requestCycle_of_quiet_cases hready hquiet hstep with hcycle | ⟨hidle, hcompares⟩
  · exact hphase.of_same rfl ⟨rfl, rfl, rfl, rfl, rfl, rfl⟩ rfl hcycle hvalue hsignature rfl rfl
  · have hzero : b = 0 := by
      by_contra hne
      exact hphase.not_holdsFv (Nat.pos_of_ne_zero hne) (Or.inl hidle)
    rw [hzero]
    exact .valid (Or.inr hcompares)

/-- The challenge arrives. -/
theorem Phase.deliverChallenge (hphase : Phase w s d b) (hwired : Wired w s)
    {challenge : ByteVector} {server : FreshnessValueManagerImplServer} {es : List ServerEvent}
    (hsent : s.toServer = some challenge)
    (hstep : serverStep s.server (.incomingAuthFvChallengeSignal w.signal challenge) =
      .ok (server, es)) :
    NoLater w ⟨⟨server, s.participant⟩, none, s.toParticipant⟩ d b := by
  have hserver := serverStep_challenge w.signal_client hwired.known hstep
  subst hserver
  cases hphase with
  | valid hholds => exact ⟨0, .valid hholds, Nat.le_refl 0, id⟩
  | request hstate => exact ⟨22, .request hstate, Nat.le_refl 22, id⟩
  | asked hstate hwaited hasked hempty hdue =>
    refine ⟨21, .booked 0 hstate hwaited rfl hempty ?_ ?_, Nat.le_refl 21, id⟩
    · cases hsent.symm.trans hasked
      exact AList.lookup_insert _
    · show ((0 : Nat) : Int) + due s.server + d ≤ 20
      omega
  | booked n _ _ hnone => cases hsent.symm.trans hnone
  | answered fv mac hnone => cases hsent.symm.trans hnone
  | stale i j _ hnone => cases hsent.symm.trans hnone

/-- One of the parts of the answer arrives. -/
theorem Arrives.deliver {p p' : FreshnessValueManagerImplParticipant} {fv : UInt64}
    {mac : ByteVector} {signals : List (String × ByteVector)} {signal : String × ByteVector}
    {es : List ParticipantEvent} {i : Nat} (harrives : Arrives p fv mac signals)
    (hready : Ready p) (hnames : valueName p ≠ signatureName p) (hlength : 8 ≤ mac.length)
    (hsignal : signals[i]? = some signal)
    (hstep : participantStep p (.incomingAuthFvSignal signal.1 signal.2) = .ok (p', es)) :
    p'.requestCycle.challenge = p.requestCycle.challenge ∧
      Arrives p' fv mac (signals.eraseIdx i) := by
  obtain ⟨hvalueName, hsignatureName⟩ := names_of_participantStep hstep
  have hnonempty : mac.take authFvSignatureSizeBytes.toNatClampNeg ≠ [] := by
    intro hempty
    have hsize : authFvSignatureSizeBytes.toNatClampNeg = 8 := by decide
    have hzero := congrArg List.length hempty
    rw [hsize, List.length_take, List.length_nil] at hzero
    omega
  have hvalue : (0 :: uintToByteVectorTrim fv 7) ≠ [] := nofun
  cases harrives with
  | both houtstanding =>
    unfold answerSignals at hsignal ⊢
    rcases i with _ | _ | i
    · cases Option.some.inj hsignal
      have hstored := stored_of_signature hready hnames hstep
      refine ⟨hstored.challenge, ?_⟩
      show Arrives p' fv mac [(valueName p, _)]
      rw [← hvalueName]
      exact .value (hstored.outstanding houtstanding) hstored.signatureStored
    · cases Option.some.inj hsignal
      have hstored := stored_of_value hready hstep
      refine ⟨hstored.challenge, ?_⟩
      show Arrives p' fv mac [(signatureName p, _)]
      rw [← hsignatureName]
      exact .signature (hstored.outstanding houtstanding) hstored.valueStored
    · cases hsignal
  | value houtstanding hsignature =>
    rcases i with _ | i
    · cases Option.some.inj hsignal
      have hstored := stored_of_value hready hstep
      have hsigned := hstored.signatureStored.trans hsignature
      refine ⟨hstored.challenge, .none ?_ hstored.valueStored hsigned⟩
      exact hstored.complete houtstanding hvalue (by rw [hsignature]; exact hnonempty)
    · cases hsignal
  | signature houtstanding hvalue' =>
    rcases i with _ | i
    · cases Option.some.inj hsignal
      have hstored := stored_of_signature hready hnames hstep
      have hkept := hstored.valueStored.trans hvalue'
      refine ⟨hstored.challenge, .none ?_ hkept hstored.signatureStored⟩
      exact hstored.complete houtstanding (by rw [hvalue']; exact hvalue) hnonempty
    · cases hsignal
  | none hstate => cases hsignal

/-- A signal for the participant arrives. -/
theorem Phase.deliverResponse (hphase : Phase w s d b) (hwired : Wired w s) {i : Nat}
    {signal : String × ByteVector} {participant : FreshnessValueManagerImplParticipant}
    {es : List ParticipantEvent} (hsignal : s.toParticipant[i]? = some signal)
    (hstep : participantStep s.participant (.incomingAuthFvSignal signal.1 signal.2) =
      .ok (participant, es)) :
    Phase w ⟨⟨s.server, participant⟩, s.toServer, s.toParticipant.eraseIdx i⟩ d b := by
  obtain ⟨value, signature, hcycle⟩ := requestCycle_of_response hwired.ready hstep
  have hreact := RequestCycle.react_eq
    { s.participant.requestCycle with value := value, signature := signature }
  have hsome : s.toParticipant ≠ [] := by
    intro hempty
    rw [hempty] at hsignal
    cases hsignal
  cases hphase with
  | valid hholds =>
    refine .valid ?_
    show FreshnessValueState.HoldsFv participant.requestCycle.state
    rw [hcycle]
    exact holdsFv_react.mpr hholds
  | request hstate =>
    refine .request ?_
    show participant.requestCycle.state = some .requestFV
    rw [hcycle]
    rcases RequestCycle.react_cases
      { s.participant.requestCycle with value := value, signature := signature } with h | h
    · rw [h]
      exact hstate
    · rw [h]
      dsimp only
      rw [hstate]
      rfl
  | asked _ _ _ hempty => exact absurd hempty hsome
  | booked n _ _ _ hempty => exact absurd hempty hsome
  | answered fv mac hnone hpending hmac hlength hsigned harrives =>
    obtain ⟨hchallenge, harrives'⟩ :=
      harrives.deliver hwired.ready hwired.names hlength hsignal hstep
    refine .answered fv mac hnone hpending ?_ hlength hsigned harrives'
    show w.creator.macCreate w.keyId (participant.requestCycle.challenge ++ _) _ = _
    rw [hchallenge]
    exact hmac
  | stale i' j houtstanding hnone hpending hverify =>
    have hwaited : participant.requestCycle.waited = s.participant.requestCycle.waited := by
      rw [hcycle, hreact]
    rw [← hwaited]
    refine .stale i' j ?_ hnone hpending fun _ => hverify (Or.inl hsome)
    show participant.requestCycle.Outstanding
    rw [hcycle]
    exact RequestCycle.outstanding_react.mpr houtstanding

/-! ## Ticks -/

/-- A tick of the server without a round. -/
theorem Phase.idleTick (hphase : Phase w s d b) (hquiet : s.Quiet)
    {server : FreshnessValueManagerImplServer}
    (hsigned : ∀ {fv}, SignedAt s.server fv d → SignedAt server fv (d + 1))
    (hdue : due server + 1 = due s.server)
    (hpending : server.mResponsePendingChallenges = s.server.mResponsePendingChallenges) :
    Phase w ⟨⟨server, s.participant⟩, s.toServer, s.toParticipant⟩ (d + 1) b := by
  cases hphase with
  | valid hholds => exact .valid hholds
  | request hstate => exact .request hstate
  | asked _ _ hasked => cases hquiet.1.symm.trans hasked
  | booked n hstate hwaited hnone hempty hbooked hbound =>
    refine .booked n hstate hwaited hnone hempty ?_ ?_
    · show server.mResponsePendingChallenges.lookup w.client = _
      rw [hpending]
      exact hbooked
    · show (n : Int) + due server + (d + 1) ≤ 20
      omega
  | answered fv mac hnone hlookup hmac hlength hat harrives =>
    refine .answered fv mac hnone ?_ hmac hlength (hsigned hat) harrives
    show server.mResponsePendingChallenges.lookup w.client = _
    rw [hpending]
    exact hlookup
  | stale i j houtstanding hnone hlookup hverify =>
    refine .stale i j houtstanding hnone ?_ hverify
    show server.mResponsePendingChallenges.lookup w.client ≠ none → _
    rw [hpending]
    exact hlookup

/-- A round with nothing for the client. -/
theorem Phase.otherRound (hphase : Phase w s d b) (hquiet : s.Quiet)
    {server : FreshnessValueManagerImplServer}
    (hsigned : ∀ {fv}, SignedAt s.server fv d → SignedAt server fv (d + 1))
    (hpending : server.mResponsePendingChallenges = ∅)
    (hlookup : s.server.mResponsePendingChallenges.lookup w.client = none) :
    Phase w ⟨⟨server, s.participant⟩, s.toServer, s.toParticipant⟩ (d + 1) b := by
  have hnone : server.mResponsePendingChallenges.lookup w.client = none := by
    rw [hpending]
    rfl
  cases hphase with
  | valid hholds => exact .valid hholds
  | request hstate => exact .request hstate
  | asked _ _ hasked => cases hquiet.1.symm.trans hasked
  | booked n _ _ _ _ hbooked => cases hlookup.symm.trans hbooked
  | answered fv mac htoServer _ hmac hlength hat harrives =>
    exact .answered fv mac htoServer hnone hmac hlength (hsigned hat) harrives
  | stale i j houtstanding htoServer _ hverify =>
    exact .stale i j houtstanding htoServer (fun hsome => absurd hnone hsome) hverify

/-- A round with an answer for the client. -/
theorem Phase.round (hphase : Phase w s d b) (hwired : Wired w s) (hquiet : s.Quiet)
    {services : ServerServices} (hcreator : services.mCsmAccessor w.client = w.creator)
    (hpublish : ∀ config bytes,
      (services.mSignalManager w.client).publish config bytes = .kSuccess)
    (hbehind : -1 ≤ d) {server : FreshnessValueManagerImplServer} {es : List ServerEvent}
    (hsigned : SignedAt server s.server.mFV (d + 1))
    (hneed : s.server.mNeedToSendAuthFvResponses = true)
    (hpending : server.mResponsePendingChallenges = ∅) {challenge : ByteVector}
    (hlookup : s.server.mResponsePendingChallenges.lookup w.client = some challenge)
    (hresponse : responseTo s.server services w.client (some challenge) = .ok es) :
    NoLater w ⟨⟨server, s.participant⟩, s.toServer,
      es.filterMap (sentTo w.client s.participant)⟩ (d + 1) b := by
  have hnone : server.mResponsePendingChallenges.lookup w.client = none := by
    rw [hpending]
    rfl
  cases hphase with
  | valid hholds => exact Phase.noLater (.valid hholds)
  | request hstate => exact Phase.noLater (.request hstate)
  | asked _ _ hasked => cases hquiet.1.symm.trans hasked
  | booked n hstate hwaited htoServer hempty hbooked hbound =>
    cases Option.some.inj (hlookup.symm.trans hbooked)
    obtain ⟨mac, hmac, hlength⟩ :=
      w.signs (s.participant.requestCycle.challenge ++ uintToByteVectorTrim s.server.mFV 7)
    have hmacRes : macRes s.server services w.client s.participant.requestCycle.challenge =
        .ok mac := by
      unfold macRes
      rw [hcreator, hwired.keyId]
      exact hmac
    rw [due_of_responds hneed] at hbound
    rw [answerSignals_of_responseTo hmacRes hlength hpublish hresponse]
    refine ⟨1, .answered s.server.mFV mac htoServer hnone hmac hlength hsigned
      (.both (Or.inl hstate)), ?_, fun h => absurd h (by decide)⟩
    omega
  | answered _ _ _ hfree => cases hlookup.symm.trans hfree
  | stale i j houtstanding htoServer hbudget _ =>
    have hpos : 0 < i := hbudget (by rw [hlookup]; exact nofun)
    refine ⟨_, .stale (i - 1) (j + 1) houtstanding htoServer (fun hsome => absurd hnone hsome)
      (fun _ => Nat.succ_pos j), ?_, fun h => absurd h (by omega)⟩
    dsimp only
    omega

/-- A tick of the server, when everything has arrived. -/
theorem Phase.serverTick (hphase : Phase w s d b) (hwired : Wired w s) (hquiet : s.Quiet)
    {services : ServerServices} (hcreator : services.mCsmAccessor w.client = w.creator)
    (hpublish : ∀ config bytes,
      (services.mSignalManager w.client).publish config bytes = .kSuccess)
    (hbehind : -1 ≤ d) (hahead : d ≤ 0) {server : FreshnessValueManagerImplServer}
    {es : List ServerEvent}
    (hstep : serverStep s.server (.mainFunction services) = .ok (server, es)) :
    NoLater w ⟨⟨server, s.participant⟩, s.toServer,
      es.filterMap (sentTo w.client s.participant) ++ s.toParticipant⟩ (d + 1) b := by
  obtain ⟨start, g, hclock⟩ := hwired.server
  rw [filterMap_sentTo, hquiet.2, List.append_nil]
  rcases serverTick_cases w.client hclock hstep with
    ⟨-, hdue, hpending, hview⟩ | ⟨hneed, -, hpending, hresponse⟩
  · rw [hview]
    have hnext := hphase.idleTick hquiet (fun hat => hat.serverTick hclock hstep) hdue hpending
    rw [hquiet.2] at hnext
    exact hnext.noLater
  · cases hlookup : s.server.mResponsePendingChallenges.lookup w.client with
    | none =>
      rw [hlookup] at hresponse
      rw [← Except.ok.inj hresponse]
      have hnext := hphase.otherRound hquiet (fun hat => hat.serverTick hclock hstep) hpending
        hlookup
      rw [hquiet.2] at hnext
      exact hnext.noLater
    | some challenge =>
      rw [hlookup] at hresponse
      exact hphase.round hwired hquiet hcreator hpublish hbehind
        (signedAt_of_round hclock hneed hbehind hahead hstep) hneed hpending hlookup hresponse

/-- What a tick of the participant leaves: a freshness value, or fewer ticks. -/
def Approaches (w : Wiring) (s : FvLink) (d : Int) (b : Nat) : Prop :=
  FreshnessValueState.HoldsFv s.participant.requestCycle.state ∨
    ∃ b', Phase w s d b' ∧ 0 < b' ∧ (b' < b ∨ b = 0 ∧ b' < 23)

section ParticipantTick

variable {csm : ICsmAccessor} {signals : ISignalManager}
variable {p : FreshnessValueManagerImplParticipant} {pes : List ParticipantEvent}

theorem Phase.tick_request (hwired : Wired w s) (hquiet : s.Quiet) (hahead : due s.server + d ≤ 21)
    (hstate : s.participant.requestCycle.state = some .requestFV)
    (hrandom : (csm.generateRandomBytes challengeLengthBytes).isOk = true)
    (hpublish : ∀ config bytes, signals.publish config bytes = .kSuccess)
    (hstep : participantStep s.participant (.mainFunction csm signals) = .ok (p, pes)) :
    Phase w ⟨⟨s.server, p⟩, (pes.findSome? (·.challenge?)).or s.toServer, s.toParticipant⟩
      (d - 1) 21 := by
  obtain ⟨challenge, hes, hcycle⟩ :=
    published_of_request hwired.ready hstate hrandom hpublish hstep
  refine .asked ?_ ?_ ?_ hquiet.2 ?_
  · show p.requestCycle.state = some .fvInProgress
    rw [hcycle]
  · show p.requestCycle.waited = 0
    rw [hcycle]
  · show (pes.findSome? (·.challenge?)).or s.toServer = some p.requestCycle.challenge
    rw [hes, hcycle]
    rfl
  · show (due s.server : Int) + (d - 1) ≤ 20
    omega

theorem Phase.tick_booked {n : Nat} (hwired : Wired w s) (hlead : 0 ≤ d)
    (hstate : s.participant.requestCycle.state = some .fvInProgress)
    (hwaited : s.participant.requestCycle.waited = 5 * n) (htoServer : s.toServer = none)
    (hempty : s.toParticipant = [])
    (hpending : s.server.mResponsePendingChallenges.lookup w.client =
      some s.participant.requestCycle.challenge)
    (hdue : n + due s.server + d ≤ 20)
    (hstep : participantStep s.participant (.mainFunction csm signals) = .ok (p, pes))
    (hcompleted : .mainFunctionCompleted ∈ pes) :
    n ≤ 19 ∧
      Phase w ⟨⟨s.server, p⟩, (pes.findSome? (·.challenge?)).or s.toServer, s.toParticipant⟩
        (d - 1) (21 - (n + 1)) := by
  obtain ⟨start, g, hclock⟩ := hwired.server
  have hpos := due_pos hclock
  have hn : n ≤ 19 := by omega
  obtain ⟨hes, ⟨-, hcycle⟩ | ⟨htimeout, -⟩⟩ :=
    (requestCycle_step hwired.ready hstep).step.waits hcompleted hstate
  · refine ⟨hn, .booked (n + 1) ?_ ?_ ?_ hempty ?_ ?_⟩
    · show p.requestCycle.state = some .fvInProgress
      rw [hcycle]
      exact hstate
    · show p.requestCycle.waited = 5 * (n + 1)
      rw [hcycle]
      dsimp only
      omega
    · show (pes.findSome? (·.challenge?)).or s.toServer = none
      rw [hes, htoServer]
      rfl
    · show _ = some p.requestCycle.challenge
      rw [hcycle]
      exact hpending
    · show ((n + 1 : Nat) : Int) + due s.server + (d - 1) ≤ 20
      omega
  · omega

theorem Phase.tick_answered {fv : UInt64} {mac : ByteVector} (hwired : Wired w s)
    (hquiet : s.Quiet)
    (hmac : w.creator.macCreate w.keyId
      (s.participant.requestCycle.challenge ++ uintToByteVectorTrim fv 7) .kAes128Cmac = .ok mac)
    (harrives : Arrives s.participant fv mac s.toParticipant)
    (haccepts : AcceptsTruncated w.creator w.keyId csm s.participant.mEcuKeyIdForFvDistribution)
    (hstep : participantStep s.participant (.mainFunction csm signals) = .ok (p, pes)) :
    p.requestCycle.state = some .idle := by
  rw [hquiet.2] at harrives
  generalize hsignals : ([] : List (String × ByteVector)) = inFlight at harrives
  cases harrives with
  | both => cases hsignals
  | value => cases hsignals
  | signature => cases hsignals
  | none hstate hvalue hsignature =>
    have hstored : s.participant.mCrAuthFvAndMac.1 = 0 :: uintToByteVectorTrim fv 7 := hvalue
    have hsigned : s.participant.mCrAuthFvAndMac.2 =
        mac.take authFvSignatureSizeBytes.toNatClampNeg := hsignature
    have hverify : s.participant.verifyRes csm = .ok .kSuccess := by
      unfold verifyRes payloadForVerification
      rw [hstored, hsigned]
      exact haccepts _ _ hmac
    obtain ⟨ret, hresult⟩ := mainFunction_of_step hstep
    obtain ⟨q, hq, hidle, -⟩ := mainFunction_of_verified hwired.ready hstate
      (by rw [hstored]; exact nofun) hverify signals
    cases hresult.symm.trans hq
    exact hidle

theorem Phase.tick_stale {i j : Nat} (hwired : Wired w s) (hquiet : s.Quiet)
    (houtstanding : s.participant.requestCycle.Outstanding)
    (hpending : s.server.mResponsePendingChallenges.lookup w.client ≠ none → 0 < i)
    (hverify : s.participant.requestCycle.state = some .processFV → 0 < j)
    (hstep : participantStep s.participant (.mainFunction csm signals) = .ok (p, pes))
    (hcompleted : .mainFunctionCompleted ∈ pes) :
    Approaches w ⟨⟨s.server, p⟩, (pes.findSome? (·.challenge?)).or s.toServer, s.toParticipant⟩
      (d - 1) (23 + (250 - s.participant.requestCycle.waited) / 5 + i + j) := by
  have hcycle := (requestCycle_step hwired.ready hstep).step
  rcases houtstanding with hstate | hstate
  · obtain ⟨hes, ⟨hwait, hnext⟩ | ⟨-, hnext⟩⟩ := hcycle.waits hcompleted hstate
    · have hstate' : p.requestCycle.state = some .fvInProgress := by
        rw [hnext]
        exact hstate
      have hwaited : p.requestCycle.waited = s.participant.requestCycle.waited + 5 := by
        rw [hnext]
      refine Or.inr ⟨_, .stale i j (Or.inl hstate') ?_ hpending ?_, ?_, Or.inl ?_⟩
      · show (pes.findSome? (·.challenge?)).or s.toServer = none
        rw [hes, hquiet.1]
        rfl
      · rintro (hsome | hother)
        · exact absurd hquiet.2 hsome
        · cases hstate'.symm.trans hother
      · omega
      · show 23 + (250 - p.requestCycle.waited) / 5 + i + j < _
        rw [hwaited]
        omega
    · exact Or.inr ⟨22, .request hnext, by decide, Or.inl (by omega)⟩
  · obtain ⟨hnone, hidle | ⟨hstate', hwaited⟩⟩ := hcycle.verified hcompleted hstate
    · exact Or.inl (Or.inl hidle)
    · have hpos := hverify hstate
      refine Or.inr ⟨_, .stale i (j - 1) (Or.inl hstate') ?_ hpending ?_, ?_, Or.inl ?_⟩
      · show (pes.findSome? (·.challenge?)).or s.toServer = none
        rw [List.findSome?_eq_none_iff.mpr hnone, hquiet.1]
        rfl
      · rintro (hsome | hother)
        · exact absurd hquiet.2 hsome
        · cases hstate'.symm.trans hother
      · omega
      · show 23 + (250 - p.requestCycle.waited) / 5 + i + (j - 1) < _
        rw [hwaited]
        omega

/-- A tick of the participant, when everything has arrived. -/
theorem Phase.participantTick (hphase : Phase w s d b) (hwired : Wired w s) (hquiet : s.Quiet)
    (hlead : 0 ≤ d) (hahead : due s.server + d ≤ 21)
    (hrandom : (csm.generateRandomBytes challengeLengthBytes).isOk = true)
    (hpublish : ∀ config bytes, signals.publish config bytes = .kSuccess)
    (haccepts : AcceptsTruncated w.creator w.keyId csm s.participant.mEcuKeyIdForFvDistribution)
    (hstep : participantStep s.participant (.mainFunction csm signals) = .ok (p, pes)) :
    Approaches w ⟨⟨s.server, p⟩, (pes.findSome? (·.challenge?)).or s.toServer, s.toParticipant⟩
      (d - 1) b := by
  have hcompleted := mainFunctionCompleted_mem hwired.ready hstep
  cases hphase with
  | valid hholds =>
    rcases (requestCycle_step hwired.ready hstep).step.compares hcompleted hholds with
      hstate | hstate
    · exact Or.inl (Or.inl hstate)
    · exact Or.inr ⟨22, .request hstate, by decide, Or.inr ⟨rfl, by decide⟩⟩
  | request hstate =>
    exact Or.inr ⟨21, .tick_request hwired hquiet hahead hstate hrandom hpublish hstep, by decide,
      Or.inl (by decide)⟩
  | asked _ _ hasked => cases hquiet.1.symm.trans hasked
  | booked n hstate hwaited htoServer hempty hpending hdue =>
    obtain ⟨hn, hnext⟩ := Phase.tick_booked hwired hlead hstate hwaited htoServer hempty hpending
      hdue hstep hcompleted
    exact Or.inr ⟨_, hnext, by omega, Or.inl (by omega)⟩
  | answered fv mac _ _ hmac _ _ harrives =>
    exact Or.inl (Or.inl (Phase.tick_answered hwired hquiet hmac harrives haccepts hstep))
  | stale i j houtstanding _ hpending hverify =>
    exact Phase.tick_stale hwired hquiet houtstanding hpending (fun h => hverify (Or.inr h)) hstep
      hcompleted

end ParticipantTick

/-! ## The bound -/

/-- The parties are in lock-step, and the server answers in time. -/
structure Paced (s : FvLink) (h : List FvLinkEvent) : Prop where
  behind : -1 ≤ lead h
  ahead : lead h ≤ 1
  answered : due s.server + lead h ≤ 21

/-- The rank of the countdown. -/
def fvLinkRank (w : Wiring) (s : FvLink) (h : List FvLinkEvent) (b : Nat) : Prop :=
  Wired w s ∧ Paced s h ∧ Phase w s (lead h) b

theorem Paced.serverTick (hpaced : Paced s h) (hwired : Wired w s) (hlead : lead h ≤ 0)
    {services : ServerServices} {server : FreshnessValueManagerImplServer} {es : List ServerEvent}
    (hstep : serverStep s.server (.mainFunction services) = .ok (server, es))
    (toServer : Option ByteVector) (toParticipant : List (String × ByteVector)) :
    Paced ⟨⟨server, s.participant⟩, toServer, toParticipant⟩ (.serverTicked :: h) := by
  obtain ⟨start, g, hclock⟩ := hwired.server
  obtain ⟨hidle, hround⟩ := due_of_tick hclock hstep
  have hbehind := hpaced.behind
  have hdue := hpaced.answered
  have hnext : due server + (lead h + 1) ≤ 21 := by
    cases hneed : s.server.mNeedToSendAuthFvResponses with
    | false =>
      have hone := hidle hneed
      omega
    | true =>
      have hnew := hround hneed
      omega
  refine ⟨?_, ?_, ?_⟩
  · rw [lead_serverTicked]
    omega
  · rw [lead_serverTicked]
    omega
  · rw [lead_serverTicked]
    exact hnext

theorem Paced.participantTick (hpaced : Paced s h) (hlead : 0 ≤ lead h)
    (participant : FreshnessValueManagerImplParticipant) (valid : Bool)
    (toServer : Option ByteVector) (toParticipant : List (String × ByteVector)) :
    Paced ⟨⟨s.server, participant⟩, toServer, toParticipant⟩ (.participantTicked valid :: h) := by
  have hahead := hpaced.ahead
  have hdue := hpaced.answered
  refine ⟨?_, ?_, ?_⟩
  · rw [lead_participantTicked]
    omega
  · rw [lead_participantTicked]
    omega
  · rw [lead_participantTicked]
    show due s.server + (lead h - 1) ≤ 21
    omega

theorem Paced.of_due (hpaced : Paced s h) (hdue : due s'.server = due s.server) : Paced s' h :=
  ⟨hpaced.behind, hpaced.ahead, by rw [hdue]; exact hpaced.answered⟩

/-- An input that is no tick. -/
theorem fvLinkRank_of_phase (hrank : fvLinkRank w s h b) (hwired : Wired w s')
    (hdue : due s'.server = due s.server) (hphase : NoLater w s' (lead h) b) :
    ∃ b', fvLinkRank w s' ([] ++ h) b' ∧ b' ≤ b ∧ (b' = 0 → b = 0) ∧
      ∀ e ∈ ([] : List FvLinkEvent), e.tick = none := by
  obtain ⟨-, hpaced, -⟩ := hrank
  obtain ⟨b', hphase', hle, hzero⟩ := hphase
  exact ⟨b', ⟨hwired, hpaced.of_due hdue, hphase'⟩, hle, hzero, nofun⟩

theorem countsDown_fvLinkRank (w : Wiring) :
    CountsDown (fvLinkStep w) (Honest w) FvLinkEvent.tick (fvLinkRank w) 23 where
  step := by
    intro s h op s' es b hrank hmeets hstep
    have hrank' := hrank
    obtain ⟨hwired, hpaced, hphase⟩ := hrank'
    unfold fvLinkStep at hstep
    cases op with
    | serverTick services =>
      obtain ⟨hquiet, hlead, hcreator, hpublish⟩ := hmeets
      obtain ⟨next, hnext, heq⟩ := exists_of_map_ok hstep
      cases heq
      obtain ⟨b', hphase', hle, hzero⟩ :=
        hphase.serverTick hwired hquiet hcreator hpublish hpaced.behind hlead hnext
      refine Or.inl ⟨b', ⟨hwired.atServer hnext _ _, hpaced.serverTick hwired hlead hnext _ _, ?_⟩,
        hle, hzero, ?_⟩
      · rw [List.singleton_append, lead_serverTicked]
        exact hphase'
      · intro e hmem
        rw [List.mem_singleton.mp hmem]
        rfl
    | participantTick csm signals =>
      obtain ⟨hquiet, hlead, hrandom, hpublish, haccepts⟩ := hmeets
      obtain ⟨next, hnext, heq⟩ := exists_of_map_ok hstep
      cases heq
      have hwired' := hwired.atParticipant hnext ((next.2.findSome? (·.challenge?)).or s.toServer)
        s.toParticipant
      have hpaced' := hpaced.participantTick hlead next.1 next.1.mIsFvValid
        ((next.2.findSome? (·.challenge?)).or s.toServer) s.toParticipant
      rcases hphase.participantTick hwired hquiet hlead hpaced.answered hrandom hpublish haccepts
        hnext with hholds | ⟨b', hphase', hpos, hdown⟩
      · refine Or.inr (Or.inl ⟨_, rfl, ?_, hwired', hpaced', .valid hholds⟩)
        show some next.1.mIsFvValid = some true
        rw [hwired'.valid_iff.mpr hholds]
      · refine Or.inr (Or.inr ⟨_, b', rfl, ?_, ⟨hwired', hpaced', ?_⟩, hpos, hdown⟩)
        · show some next.1.mIsFvValid = some false
          rw [Bool.eq_false_iff.mpr (mt hwired'.valid_iff.mp (hphase'.not_holdsFv hpos))]
        · rw [List.singleton_append, lead_participantTicked]
          exact hphase'
    | deliverChallenge =>
      dsimp only at hstep
      split at hstep
      · cases hstep
        exact Or.inl (fvLinkRank_of_phase hrank hwired rfl hphase.noLater)
      · rename_i challenge hsent
        obtain ⟨next, hnext, heq⟩ := exists_of_map_ok hstep
        cases heq
        have hserver := serverStep_challenge w.signal_client hwired.known hnext
        refine Or.inl (fvLinkRank_of_phase hrank (hwired.atServer hnext _ _) ?_
          (hphase.deliverChallenge hwired hsent hnext))
        show due next.1 = due s.server
        rw [hserver]
        rfl
    | deliverResponse i =>
      dsimp only at hstep
      split at hstep
      · cases hstep
        exact Or.inl (fvLinkRank_of_phase hrank hwired rfl hphase.noLater)
      · rename_i signal hsignal
        obtain ⟨next, hnext, heq⟩ := exists_of_map_ok hstep
        cases heq
        exact Or.inl (fvLinkRank_of_phase hrank (hwired.atParticipant hnext _ _) rfl
          (hphase.deliverResponse hwired hsignal hnext).noLater)
    | atServer op =>
      obtain ⟨next, hnext, heq⟩ := exists_of_map_ok hstep
      cases heq
      obtain ⟨hagree, -⟩ := AgreeFor.of_hidden hmeets hnext
      exact Or.inl (fvLinkRank_of_phase hrank (hwired.atServer hnext _ _)
        (due_of_sameContext hagree.context hagree.respond) (hphase.atServer hmeets hnext).noLater)
    | atParticipant op =>
      obtain ⟨next, hnext, heq⟩ := exists_of_map_ok hstep
      cases heq
      exact Or.inl (fvLinkRank_of_phase hrank (hwired.atParticipant hnext _ _) rfl
        (hphase.atParticipant hwired.ready hmeets hnext).noLater)

/-- The two parties are in states that they reach after their first `Init`, the
participant is a client of the server, and nothing is on its way.  A pair that waits for
its verification has a value. -/
structure FvLinked (w : Wiring) (s : FvLink) : Prop where
  server : ∃ server₀ g, server₀.FirstInit ∧ Run serverStep Anything server₀ [] s.server g
  participant : ∃ participant₀ g, participant₀.FirstInit ∧
    Run participantStep Anything participant₀ [] s.participant g
  names : valueName s.participant ≠ signatureName s.participant
  key : s.server.mClientNameToKeyId.lookup w.client = some w.keyId
  quiet : s.Quiet
  hasValue : s.participant.requestCycle.HasValue

theorem FvLinked.wired (hlinked : FvLinked w s) : Wired w s := by
  obtain ⟨⟨server₀, g, hserver, hserverRun⟩, ⟨participant₀, g', hparticipant, hparticipantRun⟩,
    hnames, hkey, -, -⟩ := hlinked
  obtain ⟨hready, hlineage⟩ := lineage_of_run hparticipant hparticipantRun
  exact ⟨⟨_, g, serverClock_of_run (serverClock_of_firstInit hserver) hserverRun⟩, hready,
    ⟨g', hlineage⟩, hnames, hkey⟩

/-! ## Values -/

/-- A pair that waits has a value, and the signals on their way have one. -/
structure NoneEmpty (s : FvLink) : Prop where
  waits : s.participant.requestCycle.HasValue
  arrives : ∀ signal ∈ s.toParticipant, signal.2 ≠ []

/-- What is on its way to the participant is not empty. -/
theorem ne_nil_of_sentTo {client : String} {p : FreshnessValueManagerImplParticipant}
    {e : ServerEvent} {signal : String × ByteVector} (hsent : sentTo client p e = some signal) :
    signal.2 ≠ [] := by
  cases e with
  | valuePublished client' value =>
    obtain ⟨-, heq⟩ := Option.ite_none_right_eq_some.mp hsent
    cases heq
    exact padded_ne_nil value
  | signaturePublished client' signature =>
    obtain ⟨-, heq⟩ := Option.ite_none_right_eq_some.mp hsent
    cases heq
    exact padded_ne_nil signature
  | _ => cases hsent

/-- An input of the participant that is no empty signal. -/
theorem NoneEmpty.atParticipant (hnone : NoneEmpty s) (hwired : Wired w s) {op : ParticipantOp}
    {participant : FreshnessValueManagerImplParticipant} {es : List ParticipantEvent}
    (hop : ∀ signal, op ≠ .incomingAuthFvSignal signal [])
    (hstep : participantStep s.participant op = .ok (participant, es))
    {toServer : Option ByteVector} {toParticipant : List (String × ByteVector)}
    (hfewer : toParticipant ⊆ s.toParticipant) :
    NoneEmpty ⟨⟨s.server, participant⟩, toServer, toParticipant⟩ :=
  ⟨hnone.waits.step (not_valueReceived_of_step hwired.ready hop hstep)
    (requestCycle_step hwired.ready hstep).step,
    fun signal hmem => hnone.arrives signal (hfewer hmem)⟩

/-- Step lemma. -/
theorem NoneEmpty.step (hnone : NoneEmpty s) (hwired : Wired w s) {op : FvLinkOp}
    {es : List FvLinkEvent} (hmeets : Honest w s h op) (hstep : fvLinkStep w s op = .ok (s', es)) :
    Wired w s' ∧ NoneEmpty s' := by
  unfold fvLinkStep at hstep
  cases op with
  | serverTick services =>
    obtain ⟨next, hnext, heq⟩ := exists_of_map_ok hstep
    cases heq
    refine ⟨hwired.atServer hnext _ _, hnone.waits, ?_⟩
    intro signal hmem
    rcases List.mem_append.mp hmem with hsent | hbefore
    · obtain ⟨e, -, hsent⟩ := List.mem_filterMap.mp hsent
      exact ne_nil_of_sentTo hsent
    · exact hnone.arrives signal hbefore
  | participantTick csm signals =>
    obtain ⟨next, hnext, heq⟩ := exists_of_map_ok hstep
    cases heq
    exact ⟨hwired.atParticipant hnext _ _,
      hnone.atParticipant hwired (by simp) hnext (List.Subset.refl _)⟩
  | deliverChallenge =>
    dsimp only at hstep
    split at hstep
    · cases hstep
      exact ⟨hwired, hnone⟩
    · obtain ⟨next, hnext, heq⟩ := exists_of_map_ok hstep
      cases heq
      exact ⟨hwired.atServer hnext _ _, hnone.waits, hnone.arrives⟩
  | deliverResponse i =>
    dsimp only at hstep
    split at hstep
    · cases hstep
      exact ⟨hwired, hnone⟩
    · rename_i signal hsignal
      obtain ⟨next, hnext, heq⟩ := exists_of_map_ok hstep
      cases heq
      refine ⟨hwired.atParticipant hnext _ _, hnone.atParticipant hwired ?_ hnext
        List.eraseIdx_subset⟩
      intro signal' heq
      exact hnone.arrives signal (List.mem_of_getElem? hsignal)
        (ParticipantOp.incomingAuthFvSignal.inj heq).2
  | atServer op =>
    obtain ⟨next, hnext, heq⟩ := exists_of_map_ok hstep
    cases heq
    exact ⟨hwired.atServer hnext _ _, hnone.waits, hnone.arrives⟩
  | atParticipant op =>
    obtain ⟨next, hnext, heq⟩ := exists_of_map_ok hstep
    cases heq
    refine ⟨hwired.atParticipant hnext _ _,
      hnone.atParticipant hwired ?_ hnext (List.Subset.refl _)⟩
    rintro signal rfl
    exact hmeets

/-- Run lemma: no call of the main function of the participant meets an empty value. -/
theorem hasValue_of_run (hlinked : FvLinked w s₀)
    (hrun : Run (fvLinkStep w) (Honest w) s₀ [] s h) : s.participant.requestCycle.HasValue := by
  have hinv : Wired w s ∧ NoneEmpty s := by
    refine hrun.invariant (fun s _ => Wired w s ∧ NoneEmpty s) ?_ ?_
    · refine ⟨hlinked.wired, hlinked.hasValue, ?_⟩
      rw [hlinked.quiet.2]
      nofun
    · intro s h op s' es hinv hmeets hstep
      exact hinv.2.step hinv.1 hmeets hstep
  exact hinv.2.waits

/-! ## The bound at the start -/

theorem paced_nil : Paced s [] := by
  refine ⟨by decide, by decide, ?_⟩
  show (due s.server : Int) + 0 ≤ 21
  have hle := due_le s.server
  omega

/-- The rank at the start. -/
theorem FvLinked.rank (hlinked : FvLinked w s) : ∃ b, fvLinkRank w s [] b ∧ b ≤ 75 ∧
    (¬ s.participant.requestCycle.Outstanding → b ≤ 23) := by
  have hwired := hlinked.wired
  obtain ⟨state, hstate⟩ := Option.isSome_iff_exists.mp hwired.ready.current
  have hstate' : s.participant.requestCycle.state = some state := hstate
  have hrank : ∀ {b}, Phase w s 0 b → fvLinkRank w s [] b := by
    intro b hphase
    exact ⟨hwired, paced_nil, hphase⟩
  have hstale : s.participant.requestCycle.Outstanding → ∃ b, fvLinkRank w s [] b ∧ b ≤ 75 ∧
      (¬ s.participant.requestCycle.Outstanding → b ≤ 23) := by
    intro houtstanding
    refine ⟨_, hrank (.stale 1 1 houtstanding hlinked.quiet.1 (fun _ => Nat.one_pos)
      fun _ => Nat.one_pos), ?_, fun h => absurd houtstanding h⟩
    omega
  cases state with
  | requestFV => exact ⟨22, hrank (.request hstate'), by decide, fun _ => by decide⟩
  | fvInProgress => exact hstale (Or.inl hstate')
  | processFV => exact hstale (Or.inr hstate')
  | processAnauthFV => exact ⟨0, hrank (.valid (Or.inr hstate')), by decide, fun _ => by decide⟩
  | idle => exact ⟨0, hrank (.valid (Or.inl hstate')), by decide, fun _ => by decide⟩

/-- **Outages are bounded.**  In a link that works, whatever the states are from which
it starts, a participant is never without a freshness value for more than 74 ticks in
a row.  Once it has had one, or when no request is outstanding at the start, it is
never without one for more than 22.  No tick is spent on an empty value. -/
theorem outage_bounded (hlinked : FvLinked w s₀)
    (hrun : Run (fvLinkStep w) (Honest w) s₀ [] s h) :
    outage FvLinkEvent.tick h ≤ 74 ∧
      (.participantTicked true ∈ h ∨ ¬ s₀.participant.requestCycle.Outstanding →
        outage FvLinkEvent.tick h ≤ 22) ∧
      s.participant.requestCycle.HasValue := by
  obtain ⟨b₀, hrank, hstart, hidle⟩ := hlinked.rank
  obtain ⟨b, -, hzero, hsum, hgood⟩ := hrun.outage_le (countsDown_fvLinkRank w) hrank
  refine ⟨by omega, ?_, hasValue_of_run hlinked hrun⟩
  rintro (hmem | houtstanding)
  · have hsince := hgood ⟨_, hmem, rfl⟩
    omega
  · have hearly := hidle houtstanding
    omega

/-! ## The longest outage -/

/-- The inputs of a link with reliable services. -/
inductive FvLinkMove
  | serverTick | participantTick | deliverChallenge | deliverResponse
  /-- A broadcast of zero arrives. -/
  | broadcast

def FvLinkMove.input : FvLinkMove → FvLinkOp
  | .serverTick => .serverTick reliableServices
  | .participantTick => .participantTick zeroDigestCsm reliableSignals
  | .deliverChallenge => .deliverChallenge
  | .deliverResponse => .deliverResponse 0
  | .broadcast => .atParticipant (.incomingUnAuthFvSignal
      firstParticipant.mFvmConfAccessor.getUnauthenticatedFvSignalConfig.name (.replicate 8 0))

/-- The part of `Honest` that is about the time. -/
def Timely : Guard FvLink FvLinkOp FvLinkEvent := fun s h op =>
  match op with
  | .serverTick _ => s.Quiet ∧ lead h ≤ 0
  | .participantTick _ _ => s.Quiet ∧ 0 ≤ lead h
  | _ => True

instance (s : FvLink) : Decidable s.Quiet :=
  inferInstanceAs (Decidable (_ ∧ _))

instance (s : FvLink) (h : List FvLinkEvent) : DecidablePred (Timely s h)
  | .serverTick _ | .participantTick _ _ => inferInstanceAs (Decidable (_ ∧ _))
  | .deliverChallenge | .deliverResponse _ | .atServer _ | .atParticipant _ => .isTrue trivial

/-- `firstServer` and its only client. -/
def wiringOfSink : Wiring where
  client := "SINK"
  signal := "SOK_Zeit_SINK_Challenge"
  keyId := 132
  creator := zeroDigestCsm
  signal_client := by decide +kernel
  signs := fun _ => ⟨_, rfl, (by decide : 8 ≤ 16)⟩

def firstFvLink : FvLink :=
  ⟨firstDistribution, none, []⟩

theorem linked_firstLink : FvLinked wiringOfSink firstFvLink :=
  ⟨⟨firstServer, [], firstInit_firstServer, .refl⟩,
    ⟨firstParticipant, [], firstInit_firstParticipant, .refl⟩, by decide +kernel,
    by decide +kernel, ⟨rfl, rfl⟩, nofun⟩

theorem honest_of_timely (move : FvLinkMove) (s : FvLink) (h : List FvLinkEvent)
    (htimely : Timely s h move.input) : Honest wiringOfSink s h move.input := by
  cases move with
  | serverTick => exact ⟨htimely.1, htimely.2, rfl, fun _ _ => rfl⟩
  | participantTick =>
    exact ⟨htimely.1, htimely.2, rfl, fun _ _ => rfl, acceptsTruncated_toICsmAccessor _ _ _⟩
  | deliverChallenge => trivial
  | deliverResponse => trivial
  | broadcast => trivial

def serverMoves : List FvLinkMove :=
  [.serverTick, .deliverResponse, .deliverResponse]

def participantMoves : List FvLinkMove :=
  [.participantTick, .deliverChallenge]

def lockStepMoves (ticks : Nat) : List FvLinkMove :=
  (List.replicate ticks (participantMoves ++ serverMoves)).flatten

/-- The participant gets a freshness value and drifts from a broadcast.  It asks for
another one right after a round, when the server is ahead, and is ahead itself at the
end. -/
def longestOutage : List FvLinkMove :=
  lockStepMoves 39 ++ [.broadcast] ++ participantMoves ++ serverMoves ++ serverMoves ++
    participantMoves ++ lockStepMoves 20

/-- The bound is reached. -/
theorem outage_bounded_reached :
    ∃ s h, Run (fvLinkStep wiringOfSink) (Honest wiringOfSink) firstFvLink [] s h ∧
      outage FvLinkEvent.tick h = 22 ∧ outage FvLinkEvent.tick h ≤ 22 := by
  let inputs := longestOutage.map (·.input)
  have hexec : ((exec (fvLinkStep wiringOfSink) firstFvLink [] inputs).toOption.map
      fun ret => (decide (.participantTicked true ∈ ret.2), outage FvLinkEvent.tick ret.2)) =
      some (true, 22) := by decide +kernel
  cases hret : exec (fvLinkStep wiringOfSink) firstFvLink [] inputs with
  | error fault =>
    rw [hret] at hexec
    cases hexec
  | ok ret =>
    rw [hret] at hexec
    obtain ⟨hmem, houtage⟩ := Prod.mk.inj (Option.some.inj hexec)
    have hmeets : execMeets (fvLinkStep wiringOfSink) Timely firstFvLink [] inputs = true := by
      decide +kernel
    have hrun : Run (fvLinkStep wiringOfSink) (Honest wiringOfSink) firstFvLink [] ret.1 ret.2 := by
      refine .of_exec_of_imp ?_ hmeets hret
      intro op hop s h htimely
      obtain ⟨move, -, rfl⟩ := List.mem_map.mp hop
      exact honest_of_timely move s h htimely
    exact ⟨ret.1, ret.2, hrun, houtage,
      (outage_bounded linked_firstLink hrun).2.1 (Or.inl (of_decide_eq_true hmem))⟩

end Sok.Fvm
