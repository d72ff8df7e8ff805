import SokFvm.Fvm.ConfiguredIds
import SokFvm.Fvm.ServerTimeLaw

/-!
# The freshness value of the server on the wire

The freshness value of a server is a 64-bit counter that starts with seven random bytes.
It leaves the server in three encodings: eight bytes in a broadcast and in a secured
message, and its low seven bytes in an authenticated answer.  Two numbers of that range
are reserved, `sokUpstartTime` and `sokInvalidTime`.

`OnWire` is what the encodings rely on.  The code does not look at the number that it
draws, and it increments it without a bound, so `OnWire` holds as long as the counter has
not come to a reserved number: `server_on_wire_iff`.  The first of them to be reached from
above `sokInvalidTime` is `sokUpstartTime`, and the next number does not fit into seven
bytes any more.
-/

namespace Sok.Fvm

open Sok.Common StateMachine FreshnessValueManagerImplServer

variable {s s' s₀ : FreshnessValueManagerImplServer} {h h' : List ServerEvent}

/-- What the encodings of the freshness value rely on. -/
structure OnWire (s : FreshnessValueManagerImplServer) : Prop where
  /-- It fits into the bytes that are signed and published. -/
  fits : s.mFV.toNat < 2 ^ 56
  notUpstart : s.mFV ≠ sokUpstartTime
  notInvalid : s.mFV ≠ sokInvalidTime
  /-- A secured message does not carry a default value. -/
  secured : ∀ id type a bytes, s.mFvmConfAccessor.getEntryTypeByFvId id = .ok type →
    AFreshnessValueManagerImpl.IsTxFvType type → s.attributes id = some a →
    a.valueIsActive = true → s.mIsFvValid = true → (s.getTxFreshness id).1 = .ok bytes →
    bytes.take 8 ≠ uintToByteVector sokUpstartTime ∧
      bytes.take 8 ≠ uintToByteVector sokInvalidTime
  /-- An authenticated answer and a broadcast carry the same number. -/
  distributed : byteVectorToUint (uintToByteVectorTrim s.mFV 7) =
    byteVectorToUint (uintToByteVector s.mFV)

/-- The counter stays below `sokUpstartTime` and off `sokInvalidTime` from `start` on, for
`n` calls of the main function. -/
def StaysOff (start n : Nat) : Prop :=
  start + n / 20 < sokUpstartTime.toNat ∧
    ¬ (start ≤ sokInvalidTime.toNat ∧ sokInvalidTime.toNat ≤ start + n / 20)

instance (start n : Nat) : Decidable (StaysOff start n) := inferInstanceAs (Decidable (_ ∧ _))

/-! ## One state -/

theorem distributed_of_fits (hfits : s.mFV.toNat < 2 ^ 56) :
    byteVectorToUint (uintToByteVectorTrim s.mFV 7) =
      byteVectorToUint (uintToByteVector s.mFV) := by
  have hlength := length_uintToByteVectorTrim s.mFV (n := 7) (by decide)
  have hmod : s.mFV.toNat % 256 ^ 7 = s.mFV.toNat := Nat.mod_eq_of_lt hfits
  rw [byteVectorToUint_uintToByteVector, ← UInt64.toNat_inj,
    toNat_byteVectorToUint (by rw [hlength]; decide), uintToByteVectorTrim_eq _ (by decide),
    BigEndian.value_encode, hmod]

/-- The first three say it all. -/
theorem onWire_of_off (hinit : s.mInitialized = true) (hfits : s.mFV.toNat < 2 ^ 56)
    (hupstart : s.mFV ≠ sokUpstartTime) (hinvalid : s.mFV ≠ sokInvalidTime) : OnWire s where
  fits := hfits
  notUpstart := hupstart
  notInvalid := hinvalid
  secured := by
    intro id type a bytes htype htx ha hactive hvalid hbytes
    rw [AFreshnessValueManagerImpl.getTxFreshness_eq hinit htype htx] at hbytes
    rw [← Except.ok.inj hbytes,
      take_getTxFv_of_active ha hactive hvalid]
    exact ⟨fun heq => hupstart (uintToByteVector_inj.mp heq),
      fun heq => hinvalid (uintToByteVector_inj.mp heq)⟩
  distributed := distributed_of_fits hfits

/-- What the counter shows after `n` calls, as long as it has not wrapped around. -/
theorem onWire_iff_of_clock {start : UInt64} (hclock : ServerClock start s h)
    (hsmall : start.toNat + serverCalls h / 20 < 2 ^ 64) :
    OnWire s ↔ start.toNat + serverCalls h / 20 < 2 ^ 56 ∧
      start.toNat + serverCalls h / 20 ≠ sokUpstartTime.toNat ∧
      start.toNat + serverCalls h / 20 ≠ sokInvalidTime.toNat := by
  have hfv : s.mFV.toNat = start.toNat + serverCalls h / 20 := by
    rw [toNat_mFV hclock.shows, Nat.mod_eq_of_lt hsmall]
  rw [← hfv]
  constructor
  · intro hwire
    exact ⟨hwire.fits, fun heq => hwire.notUpstart (UInt64.toNat_inj.mp heq),
      fun heq => hwire.notInvalid (UInt64.toNat_inj.mp heq)⟩
  · intro hoff
    obtain ⟨hfits, hupstart, hinvalid⟩ := hoff
    exact onWire_of_off hclock.mInitialized hfits (fun heq => hupstart (congrArg _ heq))
      (fun heq => hinvalid (congrArg _ heq))

/-! ## The states of a run -/

theorem serverCalls_step_le {start : UInt64} {op : ServerOp} {es : List ServerEvent}
    (hclock : ServerClock start s h) (hstep : serverStep s op = .ok (s', es)) :
    serverCalls (es ++ h) ≤ serverCalls h + 1 := by
  have hround := serverClockStep_of_step hclock.mInitialized hstep
  rw [serverCalls_append]
  cases hround with
  | ticks hop ret sent hes hsent =>
    rw [hes, serverCalls_completed fun e hmem => (hsent e hmem).quiet, Nat.add_comm]
  | calls hquiet =>
    rw [serverCalls_of_quiet hquiet]
    omega

/-- **When the freshness value is fit for the wire**: in every state of a run, until the
counter comes from its random start to a reserved number. -/
theorem server_on_wire_iff (hfirst : s₀.FirstInit) (hrun : Run serverStep Anything s₀ [] s h) :
    (∀ s' h', Run serverStep Anything s₀ [] s' h' → Run serverStep Anything s' h' s h →
      OnWire s') ↔ StaysOff s₀.mFV.toNat (serverCalls h) := by
  have hstart := serverClock_of_firstInit hfirst
  obtain ⟨-, -, hseed, -⟩ := hfirst.spec
  have hupstart : sokUpstartTime.toNat = 2 ^ 56 - 1 := by decide
  have hinvalid : sokInvalidTime.toNat < 2 ^ 56 - 1 := by decide
  constructor
  · intro hall
    -- the state in which the counter shows a number that it reaches
    have hreached : ∀ n, s₀.mFV.toNat ≤ n → n ≤ s₀.mFV.toNat + serverCalls h / 20 →
        n < 2 ^ 64 → n < 2 ^ 56 ∧ n ≠ sokUpstartTime.toNat ∧ n ≠ sokInvalidTime.toNat := by
      intro n hlow hhigh hsmall
      obtain ⟨s', h', hfirst', hsecond, hcalls⟩ := hrun.exists_between serverCalls
        (fun t g op t' es hbefore hstep =>
          serverCalls_step_le (serverClock_of_run hstart hbefore) hstep)
        (n := 20 * (n - s₀.mFV.toNat)) (Nat.zero_le _) (by omega)
      have hshown : s₀.mFV.toNat + serverCalls h' / 20 = n := by
        rw [hcalls]
        omega
      have hwire := hall s' h' hfirst' hsecond
      rw [onWire_iff_of_clock (serverClock_of_run hstart hfirst') (by omega), hshown] at hwire
      exact hwire
    refine ⟨?_, ?_⟩
    · by_contra hpast
      exact (hreached (2 ^ 56 - 1) (by omega) (by omega) (by decide)).2.1 hupstart.symm
    · intro hcrossed
      exact (hreached sokInvalidTime.toNat hcrossed.1 hcrossed.2 (by decide)).2.2 rfl
  · intro hoff s' h' hfirst' hsecond
    obtain ⟨hbelow, hnever⟩ := hoff
    have hle : serverCalls h' ≤ serverCalls h := hsecond.count_le serverCalls fun es g => by
      rw [serverCalls_append]
      omega
    have hdiv : serverCalls h' / 20 ≤ serverCalls h / 20 := Nat.div_le_div_right hle
    rw [onWire_iff_of_clock (serverClock_of_run hstart hfirst') (by omega)]
    refine ⟨by omega, by omega, ?_⟩
    intro heq
    exact hnever ⟨by omega, by omega⟩

theorem server_on_wire_at_start :
    ∃ s h, Run serverStep Anything firstServer [] s h ∧ serverCalls h = 201 ∧
      ∀ s' h', Run serverStep Anything firstServer [] s' h' →
        Run serverStep Anything s' h' s h → OnWire s' := by
  obtain ⟨s, h, hrun, hcalls⟩ :
      ∃ s h, Run serverStep Anything firstServer [] s h ∧ serverCalls h = 201 :=
    Run.exists_of_exec (List.replicate 201 (.mainFunction reliableServices)) (by decide +kernel)
  refine ⟨s, h, hrun, hcalls, (server_on_wire_iff firstInit_firstServer hrun).mpr ?_⟩
  rw [hcalls]
  decide +kernel

/-- A generator that draws the byte `0xFF` only. -/
def onesCsm : ICsmAccessor :=
  CsmAccessorAraCrypto.toICsmAccessor (.ofDigest (fun _ => Vector.replicate 16 0) 255)

/-- The server that draws `sokUpstartTime`. -/
def upstartServer : FreshnessValueManagerImplServer :=
  derivedClass.initialised { reliableInit serverConfig with mCsmAccessor := onesCsm }
    (.construct .construct)

/-- The random start can be a reserved number. -/
theorem server_starts_with_upstart_time :
    ¬ ∀ (s₀ s : FreshnessValueManagerImplServer) (h : List ServerEvent), s₀.FirstInit →
      Run serverStep Anything s₀ [] s h → OnWire s := by
  intro hall
  have hfirst : upstartServer.FirstInit :=
    ⟨{ reliableInit serverConfig with mCsmAccessor := onesCsm },
      DerivedClass.init_eq_initialised (by decide +kernel)⟩
  have hseed : upstartServer.mFV = sokUpstartTime := by decide +kernel
  exact (hall upstartServer upstartServer [] hfirst .refl).notUpstart hseed

end Sok.Fvm
