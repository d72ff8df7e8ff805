import SokFvm.Fvm.ConfigParser
import SokFvm.Fvm.SessionCounter

/-!
# The configured width of a session counter

The configuration states the length of a session counter in bits.  `Parse` takes
the number as it is for the number of bytes, and keeps its last eight bits:
`sessionCounterLength_of_parsed`.  A counter has that many bytes in every state of
a run, `counterWidth_of_run`.  The number of bits and the number of bytes agree for
eight widths only, `counter_width_iff`.
-/

namespace Sok.Fvm

open Sok.Common StateMachine AFreshnessValueManagerImpl FvmRuntimeAttributesManager
open FvmConfigParser

variable {s s₀ : AFreshnessValueManagerImpl} {id : SokFreshnessValueId}
variable {h : List ManagerEvent} {bits : UInt32} {type : String}

/-- The counter of an identifier has `width` bytes, wherever it is given out. A
message of a sender carries it after the eight bytes of the freshness value. -/
structure CounterWidth (s : AFreshnessValueManagerImpl) (id : SokFreshnessValueId)
    (type : SokFreshnessType) (width : Nat) : Prop where
  getSessionCounter : (s.mAttrMgr.getSessionCounter id).length = width
  getNextSessionCounter : (s.mAttrMgr.getNextSessionCounter id).length = width
  incSessionCounter : (s.mAttrMgr.incSessionCounter id).1.length = width
  suffix : type = .kVwSokFreshnessValueSessionSender →
    ∃ fv, (s.getTxFreshness id).1 = .ok fv ∧ fv.length = 8 + width

/-- The bytes that hold this many bits. -/
def bytesFor (bits : UInt32) : Nat := (bits.toNat + 7) / 8

/-- The document has an element of `auth_br_config` for the identifier, of this
type and with a session counter of this many bits. -/
def HasBroadcastElement (doc : Json) (id : SokFreshnessValueId) (type : String)
    (bits : UInt32) : Prop :=
  ∃ elements, arrayAt doc "auth_br_config" = .ok elements ∧ ∃ element ∈ elements,
    uintAt element "fv_id" = .ok id ∧ stringAt element "sok_freshness_type" = .ok type ∧
      uintAt element "session_counter_length_bits" = .ok bits

/-! ## The width in a run -/

/-- The entry of an element of `auth_br_config`. -/
theorem lookup_of_parsed {doc : Json} {config config' : SokFmConfig}
    (hparsed : Parsed doc config config') (helement : HasBroadcastElement doc id type bits) :
    ∃ conf, config'.mAuthBroadcastConfig.lookup id = some conf ∧
      conf.type = convertStringFreshnessTypeToEnum type ∧
      conf.sessionCounterLength = bits.toUInt8 := by
  obtain ⟨elements, harray, element, hmem, hid, htype, hbits⟩ := helement
  obtain ⟨elements', harray', hemplaced⟩ := hparsed.mAuthBroadcastConfig
  rw [harray, Except.ok.injEq] at harray'
  subst harray'
  obtain ⟨entry, hread, -, hlookup⟩ := hemplaced.added element hmem
  obtain ⟨fvId, hid', hread⟩ := Json.exists_of_bind_ok hread
  obtain ⟨type', htype', hread⟩ := Json.exists_of_bind_ok hread
  obtain ⟨pduId, -, hread⟩ := Json.exists_of_bind_ok hread
  obtain ⟨bits', hbits', hread⟩ := Json.exists_of_bind_ok hread
  cases hread
  rw [hid', Except.ok.injEq] at hid
  rw [htype', Except.ok.injEq] at htype
  rw [hbits', Except.ok.injEq] at hbits
  subst hid htype hbits
  exact ⟨_, hlookup, rfl, rfl⟩

theorem length_counterOf {a : SokFmRuntimeAttributes}
    (hbytes : a.sessionCounterLastUsed.length = a.sessionCounterLength.toNat) :
    (counterOf a).length = a.sessionCounterLength.toNat := by
  unfold counterOf
  split
  · exact hbytes
  · rename_i hzero
    rw [not_not.mp hzero]
    rfl

/-- The next counter of an entry has the width of the entry. -/
theorem length_getNextSessionCounter {a : SokFmRuntimeAttributes}
    (ha : s.attributes id = some a)
    (hbytes : a.sessionCounterLastUsed.length = a.sessionCounterLength.toNat) :
    (s.mAttrMgr.getNextSessionCounter id).length = a.sessionCounterLength.toNat := by
  have hlookup : s.mAttrMgr.mAttributesMap.lookup id = some a := ha
  have hevolves := evolves_countUp 0 a
  rw [FvmRuntimeAttributesManager.getNextSessionCounter, hlookup]
  show (counterOf (countUp a)).length = _
  rw [length_counterOf, hevolves.counterLength]
  rw [hevolves.counterBytes, hbytes, hevolves.counterLength]

/-- The counter of an identifier that is tracked has the width of its entry. -/
theorem Tracked.counterWidth (htracked : Tracked s₀ id s) {type : SokFreshnessType}
    (htype : s₀.mFvmConfAccessor.getEntryTypeByFvId id = .ok type) :
    CounterWidth s id type (counterLength s₀ id).toNat := by
  obtain ⟨a, ha, hlength, hbytes⟩ := htracked.entry
  have hwidth : (counterLength s₀ id).toNat = a.sessionCounterLength.toNat := by
    rw [hlength]
    rfl
  rw [hwidth]
  refine ⟨?_, length_getNextSessionCounter ha hbytes, ?_, ?_⟩
  · have hlookup : s.mAttrMgr.mAttributesMap.lookup id = some a := ha
    rw [FvmRuntimeAttributesManager.getSessionCounter, hlookup]
    exact length_counterOf hbytes
  · rw [incSessionCounter_fst]
    exact length_getNextSessionCounter ha hbytes
  · intro hsender
    rw [hsender, ← htracked.mFvmConfAccessor] at htype
    -- the call may set the entry active before it counts
    obtain ⟨a', ha', hevolves⟩ := worksOn_chooseTxFv.evolves a ha
    have hnext : ((s.chooseTxFv id).2.mAttrMgr.incSessionCounter id).1.length =
        a.sessionCounterLength.toNat := by
      rw [incSessionCounter_fst, ← hevolves.counterLength]
      apply length_getNextSessionCounter ha'
      rw [hevolves.counterBytes, hbytes, hevolves.counterLength]
    rw [getTxFreshness_eq htracked.mInitialized htype (Or.inr rfl), getTxFv, if_pos rfl]
    refine ⟨_, rfl, ?_⟩
    rw [List.length_append, length_chooseTxFv, hnext]

/-- Run lemma: the width is that of the configuration in every state. -/
theorem counterWidth_of_run {doc : Json} {config : SokFmConfig}
    (hparsed : Parsed doc config s₀.mFvmConfAccessor.mConfig)
    (helement : HasBroadcastElement doc id type bits)
    (hinit : FreshlyInitialised s₀) (hentry : (s₀.attributes id).isSome)
    (hrun : Run managerStep Anything s₀ [] s h) :
    CounterWidth s id (convertStringFreshnessTypeToEnum type) (bits.toNat % 256) := by
  obtain ⟨conf, hlookup, htype, hconf⟩ := lookup_of_parsed hparsed helement
  have hentryType : s₀.mFvmConfAccessor.getEntryTypeByFvId id =
      .ok (convertStringFreshnessTypeToEnum type) := by
    unfold FreshnessValueManagerConfigAccessor.getEntryTypeByFvId
    rw [hinit.accessor, hlookup, ← htype]
    rfl
  have hlength : counterLength s₀ id = bits.toUInt8 := by
    unfold counterLength freshAttributes
    unfold FreshnessValueManagerConfigAccessor.getSokFvConfigInstanceByFvId
    rw [hinit.accessor, hlookup]
    exact hconf
  have hwidth := (tracked_of_run hinit hentry hrun).counterWidth hentryType
  rw [hlength, UInt32.toNat_toUInt8] at hwidth
  exact hwidth

/-! ## The widths that are right -/

/-- The widths for which a number of bits, cut to eight bits, is the number of
bytes that hold the bits. -/
theorem mod_eq_bytesFor_iff :
    bits.toNat % 256 = bytesFor bits ↔
      bits.toNat ∈ [0, 1, 293, 586, 878, 1171, 1463, 1756] := by
  unfold bytesFor
  generalize bits.toNat = n
  simp only [List.mem_cons, List.not_mem_nil, or_false]
  constructor
  · intro heq
    obtain ⟨q, r, hr, hn⟩ : ∃ q r, r < 256 ∧ n = 256 * q + r :=
      ⟨n / 256, n % 256, Nat.mod_lt _ (by decide), (Nat.div_add_mod n 256).symm⟩
    have hmod : n % 256 = r := by omega
    -- `7 * r` lies between `256 * q` and `256 * q + 7`: one or two values for each `q`
    have hlow : 256 * q ≤ 7 * r := by omega
    have hhigh : 7 * r ≤ 256 * q + 7 := by omega
    have hq : q = 0 ∨ q = 1 ∨ q = 2 ∨ q = 3 ∨ q = 4 ∨ q = 5 ∨ q = 6 := by omega
    rcases hq with hq | hq | hq | hq | hq | hq | hq
    all_goals
      subst hq
      omega
  · omega

/-- The counter of a session entry has the configured width in a state of a run if
and only if the number of bits is one of eight. -/
theorem counter_width_iff {document : String → Option Json} {self self' : FvmConfigParser}
    {json : String} {doc : Json} {config : SokFmConfig}
    (hparse : parse document self json config =
      .ok (true, self', s₀.mFvmConfAccessor.mConfig))
    (hdoc : document json = some doc) (helement : HasBroadcastElement doc id type bits)
    (hinit : FreshlyInitialised s₀) (hentry : (s₀.attributes id).isSome)
    (hrun : Run managerStep Anything s₀ [] s h) :
    CounterWidth s id (convertStringFreshnessTypeToEnum type) (bytesFor bits) ↔
      bits.toNat ∈ [0, 1, 293, 586, 878, 1171, 1463, 1756] := by
  obtain ⟨-, -, -, doc', hdoc', hparsed⟩ := parse_eq_true hparse
  rw [hdoc, Option.some.injEq] at hdoc'
  subst hdoc'
  have hwidth := counterWidth_of_run hparsed helement hinit hentry hrun
  rw [← mod_eq_bytesFor_iff]
  constructor
  · intro hright
    rw [← hwidth.getSessionCounter, hright.getSessionCounter]
  · intro heq
    rw [← heq]
    exact hwidth

/-- The document of a session sender with a counter of this many bits. -/
def sessionDocument (bits : Int) : Json :=
  documentOf [broadcastElement 0 "FV_SESSION_SENDER" bits] []

/-- The manager of that document. -/
def sessionManager (bits : Int) : AFreshnessValueManagerImpl :=
  initialisedManager { mConfig := configurationOf (sessionDocument bits), mInitialized := true }

/-- A counter of one bit has the one byte that it needs. -/
theorem counter_width_one :
    CounterWidth (sessionManager 1) 0 .kVwSokFreshnessValueSessionSender 1 := by
  have hparse : parse (fun _ => some (sessionDocument 1)) .construct "document" default =
      .ok (true, { mSchema := true }, (sessionManager 1).mFvmConfAccessor.mConfig) :=
    parse_eq_configurationOf (by decide +kernel)
  have helement : HasBroadcastElement (sessionDocument 1) 0 "FV_SESSION_SENDER" 1 :=
    ⟨_, rfl, _, List.mem_cons_self, rfl, by decide +kernel, rfl⟩
  have hinit : FreshlyInitialised (sessionManager 1) :=
    freshlyInitialised_initialisedManager rfl
  exact (counter_width_iff hparse rfl helement hinit (by decide +kernel) .refl).mpr (by decide)

/-- A counter of eight bits, which is one byte, has eight bytes. -/
theorem counter_of_eight_bits_is_too_wide :
    parse (fun _ => some (sessionDocument 8)) .construct "document" default =
        .ok (true, { mSchema := true }, (sessionManager 8).mFvmConfAccessor.mConfig) ∧
      HasBroadcastElement (sessionDocument 8) 0 "FV_SESSION_SENDER" 8 ∧
      FreshlyInitialised (sessionManager 8) ∧
      ((sessionManager 8).attributes 0).isSome ∧
      (((sessionManager 8).getTxFreshness 0).1.map List.length = .ok (8 + 8)) ∧
      ¬ CounterWidth (sessionManager 8) 0 .kVwSokFreshnessValueSessionSender (bytesFor 8) := by
  refine ⟨parse_eq_configurationOf (by decide +kernel),
    ⟨_, rfl, _, List.mem_cons_self, rfl, by decide +kernel, rfl⟩,
    freshlyInitialised_initialisedManager rfl, by decide +kernel, by decide +kernel, ?_⟩
  intro hwidth
  have hlength : ((sessionManager 8).mAttrMgr.getSessionCounter 0).length ≠ bytesFor 8 := by
    decide +kernel
  exact hlength hwidth.getSessionCounter

end Sok.Fvm
