import SokFvm.Common.Csm
import SokFvm.Library.Run

/-!
# The cache of slot identifiers

`CsmAccessorAraCrypto` keeps the slot identifier of its key in `mKeysMap`, in front of
`SlotUid::From` of the key storage: `getKeyUuid`.  `AraCrypto` has no field for that map,
and `macCreate`, `macVerify` and `isKeyExists` ask the key storage each time.  Here they
have the map, and are a machine whose state it is.

`SlotUid::From` may answer differently in each call; the other answers of `AraCrypto` are
fixed.  `key_cache_law` says what the calls of the accessor answer then: the slot
identifier that was found first is used for good, and until one is found every call asks
again.  So as long as the key storage does not change its answer, the accessor answers as
the one without a map.
-/

namespace Sok.Common

open StateMachine

/-- The functions of the accessor, with their arguments. -/
inductive AccessorCall
  | macCreate (keyId : UInt16) (data : ByteVector) (alg : MacAlgorithm)
  | macVerify (keyId : UInt16) (data mac : ByteVector) (alg : MacAlgorithm)
  | isKeyExists (keyId : UInt16)
  | generateRandomBytes (size : UInt8)

/-- What they return. -/
inductive AccessorAnswer
  | bytes (ret : CsmResult ByteVector)
  | code (ret : CsmErrorCode)
  deriving DecidableEq

/-- A call of an accessor. -/
def AccessorCall.answer (csm : ICsmAccessor) : AccessorCall → Except Fault AccessorAnswer
  | .macCreate keyId data alg => .ok (.bytes (csm.macCreate keyId data alg))
  | .macVerify keyId data mac alg => (csm.macVerify keyId data mac alg).map .code
  | .isKeyExists keyId => .ok (.code (csm.isKeyExists keyId))
  | .generateRandomBytes size => .ok (.bytes (csm.generateRandomBytes size))

/-- A key storage that gives `slotUid` for every key. -/
def AraCrypto.withSlot (ara : AraCrypto) (slotUid : Option ara.Uuid) : AraCrypto :=
  { ara with slotUidFrom := fun _ => slotUid }

namespace CsmAccessorAraCrypto

/-- The map of the accessor. -/
abbrev KeysMap (ara : AraCrypto) := UnorderedMap String ara.Uuid

variable (ara : AraCrypto)

/-- `GetKeyUuid`. -/
def getKeyUuid (keyId : String) (mKeysMap : KeysMap ara) : Option ara.Uuid × KeysMap ara :=
  match mKeysMap.lookup keyId with
  | some slotUid => (some slotUid, mKeysMap)
  | none =>
    match ara.slotUidFrom keyId with
    | some slotUid => (some slotUid, mKeysMap.emplace keyId slotUid)
    | none => (none, mKeysMap)

/-- The rest of `MacCreate`, when the slot identifier is known. -/
def macOfSlot (slotUid : ara.Uuid) (data : ByteVector) (alg : MacAlgorithm) :
    CsmResult ByteVector :=
  match ara.createMessageAuthnCodeCtx (enumToStringMacAlgorithm alg) with
  | none => .error .kError
  | some macCtx =>
    match ara.openAsUser (ara.findSlot slotUid) with
    | none => .error .kError
    | some keyTrustedContainer =>
      match ara.loadConcreteObject keyTrustedContainer with
      | none => .error .kError
      | some symmetricKey => .ok (macCtx.getDigest symmetricKey data)

/-- `MacCreate`. -/
def macCreateCached (mKeysMap : KeysMap ara) (_keyId : UInt16) (data : ByteVector)
    (alg : MacAlgorithm) : CsmResult ByteVector × KeysMap ara :=
  if alg ≠ .kAes128Cmac then (.error .kError, mKeysMap)
  else if !ara.mCryptoProvider || !ara.mKeyStorageProvider then (.error .kError, mKeysMap)
  else match getKeyUuid ara keyStr mKeysMap with
    | (none, mKeysMap) => (.error .kKeyNotFound, mKeysMap)
    | (some slotUid, mKeysMap) => (macOfSlot ara slotUid data alg, mKeysMap)

/-- `MacVerify`. -/
def macVerifyCached (mKeysMap : KeysMap ara) (keyId : UInt16) (data mac : ByteVector)
    (alg : MacAlgorithm) : Except Fault (CsmErrorCode × KeysMap ara) :=
  match macCreateCached ara mKeysMap keyId data alg with
  | (.error _, mKeysMap) => .ok (.kError, mKeysMap)
  | (.ok macVec, mKeysMap) =>
    match stdEqual mac macVec with
    | .error fault => .error fault
    | .ok true => .ok (.kSuccess, mKeysMap)
    | .ok false => .ok (.kError, mKeysMap)

/-- `IsKeyExists`. -/
def isKeyExistsCached (mKeysMap : KeysMap ara) (_keyId : UInt16) : CsmErrorCode × KeysMap ara :=
  match getKeyUuid ara keyStr mKeysMap with
  | (none, mKeysMap) => (.kKeyNotFound, mKeysMap)
  | (some _, mKeysMap) => (.kSuccess, mKeysMap)

/-- A call of the accessor with its map. -/
def answerCached (mKeysMap : KeysMap ara) :
    AccessorCall → Except Fault (AccessorAnswer × KeysMap ara)
  | .macCreate keyId data alg =>
    let (ret, mKeysMap) := macCreateCached ara mKeysMap keyId data alg
    .ok (.bytes ret, mKeysMap)
  | .macVerify keyId data mac alg =>
    (macVerifyCached ara mKeysMap keyId data mac alg).map fun (ret, mKeysMap) =>
      (.code ret, mKeysMap)
  | .isKeyExists keyId =>
    let (ret, mKeysMap) := isKeyExistsCached ara mKeysMap keyId
    .ok (.code ret, mKeysMap)
  | .generateRandomBytes size => .ok (.bytes (generateRandomBytes ara size), mKeysMap)

/-! ## One call -/

/-- `MacCreate` asks for the slot identifier. -/
def macConsults (alg : MacAlgorithm) : Bool :=
  alg = .kAes128Cmac && (ara.mCryptoProvider && ara.mKeyStorageProvider)

/-- The call asks for the slot identifier. -/
def consults : AccessorCall → Bool
  | .macCreate _ _ alg => macConsults ara alg
  | .macVerify _ _ _ alg => macConsults ara alg
  | .isKeyExists _ => true
  | .generateRandomBytes _ => false

/-- The slot identifier that a call uses. -/
def slotUsed (mKeysMap : KeysMap ara) : Option ara.Uuid :=
  (mKeysMap.lookup keyStr).or (ara.slotUidFrom keyStr)

variable {ara} {mKeysMap mKeysMap' : KeysMap ara} {call : AccessorCall} {answer : AccessorAnswer}

/-- A key that is found is in the map from then on, and the map gives nothing else. -/
theorem getKeyUuid_spec (mKeysMap : KeysMap ara) :
    (getKeyUuid ara keyStr mKeysMap).1 = slotUsed ara mKeysMap ∧
    (getKeyUuid ara keyStr mKeysMap).2.lookup keyStr = slotUsed ara mKeysMap := by
  unfold getKeyUuid slotUsed
  cases hcached : mKeysMap.lookup keyStr with
  | some slotUid => exact ⟨rfl, hcached⟩
  | none =>
    cases hfound : ara.slotUidFrom keyStr with
    | none => exact ⟨rfl, hcached⟩
    | some slotUid =>
      refine ⟨rfl, ?_⟩
      have habsent : keyStr ∉ mKeysMap := AList.lookup_eq_none.mp hcached
      simp [UnorderedMap.emplace, habsent]

/-- The two checks of `MacCreate` before it asks. -/
theorem ite_macConsults (ara : AraCrypto) {α : Type} {alg : MacAlgorithm} (refused asked : α) :
    (if alg ≠ .kAes128Cmac then refused
      else if !ara.mCryptoProvider || !ara.mKeyStorageProvider then refused else asked) =
      if macConsults ara alg then asked else refused := by
  unfold macConsults
  by_cases halg : alg = .kAes128Cmac
  · cases ara.mCryptoProvider <;> cases ara.mKeyStorageProvider <;> simp [halg]
  · simp [halg]

/-- What `macCreate` does with the slot identifier. -/
theorem macCreate_eq (ara : AraCrypto) {keyId : UInt16} {data : ByteVector}
    {alg : MacAlgorithm} : macCreate ara keyId data alg =
      if macConsults ara alg then
        (ara.slotUidFrom keyStr).elim (.error .kKeyNotFound) (macOfSlot ara · data alg)
      else .error .kError := by
  rw [← ite_macConsults]
  unfold macCreate
  cases ara.slotUidFrom keyStr with
  | none => rfl
  | some slotUid => rfl

theorem macOfSlot_withSlot {slot : Option ara.Uuid} {slotUid : ara.Uuid} {data : ByteVector}
    {alg : MacAlgorithm} :
    macOfSlot (ara.withSlot slot) slotUid data alg = macOfSlot ara slotUid data alg := by
  unfold macOfSlot
  dsimp only [AraCrypto.withSlot]
  cases ara.createMessageAuthnCodeCtx (enumToStringMacAlgorithm alg) with
  | none => rfl
  | some macCtx =>
    dsimp only
    cases ara.openAsUser (ara.findSlot slotUid) with
    | none => rfl
    | some keyTrustedContainer =>
      dsimp only
      cases ara.loadConcreteObject keyTrustedContainer with
      | none => rfl
      | some symmetricKey => rfl

theorem macCreate_withSlot {slot : Option ara.Uuid} {keyId : UInt16} {data : ByteVector}
    {alg : MacAlgorithm} : macCreate (ara.withSlot slot) keyId data alg =
      if macConsults ara alg then slot.elim (.error .kKeyNotFound) (macOfSlot ara · data alg)
      else .error .kError := by
  refine (macCreate_eq (ara.withSlot slot)).trans ?_
  cases slot with
  | none => rfl
  | some slotUid =>
    exact congrArg (fun mac => if macConsults ara alg then mac else .error .kError)
      macOfSlot_withSlot

theorem macCreateCached_spec (mKeysMap : KeysMap ara) (keyId : UInt16) (data : ByteVector)
    (alg : MacAlgorithm) :
    (macCreateCached ara mKeysMap keyId data alg).1 =
        macCreate (ara.withSlot (slotUsed ara mKeysMap)) keyId data alg ∧
      (macCreateCached ara mKeysMap keyId data alg).2.lookup keyStr =
        if macConsults ara alg then slotUsed ara mKeysMap else mKeysMap.lookup keyStr := by
  obtain ⟨hslot, hmap⟩ := getKeyUuid_spec mKeysMap
  rw [macCreate_withSlot]
  unfold macCreateCached
  rw [ite_macConsults, ← hslot]
  rw [← hslot] at hmap
  cases macConsults ara alg with
  | false => exact ⟨rfl, rfl⟩
  | true =>
    -- The map is that of `GetKeyUuid`, whatever comes after it.
    rw [if_pos rfl, if_pos rfl, if_pos rfl]
    generalize getKeyUuid ara keyStr mKeysMap = found at hmap ⊢
    obtain ⟨_ | slotUid, map⟩ := found
    · exact ⟨rfl, hmap⟩
    · exact ⟨rfl, hmap⟩

theorem isKeyExistsCached_spec (mKeysMap : KeysMap ara) (keyId : UInt16) :
    (isKeyExistsCached ara mKeysMap keyId).1 =
        isKeyExists (ara.withSlot (slotUsed ara mKeysMap)) keyId ∧
      (isKeyExistsCached ara mKeysMap keyId).2.lookup keyStr = slotUsed ara mKeysMap := by
  obtain ⟨hslot, hmap⟩ := getKeyUuid_spec mKeysMap
  unfold isKeyExistsCached isKeyExists AraCrypto.withSlot
  dsimp only
  rw [← hslot]
  rw [← hslot] at hmap
  generalize getKeyUuid ara keyStr mKeysMap = found at hmap ⊢
  obtain ⟨_ | slotUid, map⟩ := found
  · exact ⟨rfl, hmap⟩
  · exact ⟨rfl, hmap⟩

/-- `macVerify` is the comparison after `macCreate`, with the map or without. -/
theorem macVerifyCached_eq {keyId : UInt16} {data mac : ByteVector} {alg : MacAlgorithm} :
    macVerifyCached ara mKeysMap keyId data mac alg =
      (macVerify (ara.withSlot (slotUsed ara mKeysMap)) keyId data mac alg).map fun ret =>
        (ret, (macCreateCached ara mKeysMap keyId data alg).2) := by
  obtain ⟨hmac, -⟩ := macCreateCached_spec mKeysMap keyId data alg
  unfold macVerifyCached macVerify
  rw [← hmac]
  generalize macCreateCached ara mKeysMap keyId data alg = created
  obtain ⟨_ | macVec, map⟩ := created
  · rfl
  · dsimp only
    cases stdEqual mac macVec with
    | error fault => rfl
    | ok equal => cases equal <;> rfl

/-- A call with the map answers as one without it does over the slot identifier that the
call uses. -/
theorem answerCached_answer : (answerCached ara mKeysMap call).map Prod.fst =
    call.answer (toICsmAccessor (ara.withSlot (slotUsed ara mKeysMap))) := by
  cases call with
  | macCreate keyId data alg =>
    obtain ⟨hmac, -⟩ := macCreateCached_spec mKeysMap keyId data alg
    dsimp only [answerCached, AccessorCall.answer, toICsmAccessor]
    rw [← hmac]
    rfl
  | macVerify keyId data mac alg =>
    dsimp only [answerCached, AccessorCall.answer, toICsmAccessor]
    rw [macVerifyCached_eq]
    cases macVerify (ara.withSlot (slotUsed ara mKeysMap)) keyId data mac alg with
    | error fault => rfl
    | ok ret => rfl
  | isKeyExists keyId =>
    obtain ⟨hexists, -⟩ := isKeyExistsCached_spec mKeysMap keyId
    dsimp only [answerCached, AccessorCall.answer, toICsmAccessor]
    rw [← hexists]
    rfl
  | generateRandomBytes size => rfl

/-- After a call that asked, the map holds the slot identifier that it used. -/
theorem lookup_answerCached (hanswer : answerCached ara mKeysMap call = .ok (answer, mKeysMap')) :
    mKeysMap'.lookup keyStr =
      if consults ara call then slotUsed ara mKeysMap else mKeysMap.lookup keyStr := by
  cases call with
  | macCreate keyId data alg =>
    cases hanswer
    exact (macCreateCached_spec mKeysMap keyId data alg).2
  | macVerify keyId data mac alg =>
    dsimp only [answerCached] at hanswer
    rw [macVerifyCached_eq] at hanswer
    cases hverify : macVerify (ara.withSlot (slotUsed ara mKeysMap)) keyId data mac alg with
    | error fault =>
      rw [hverify] at hanswer
      cases hanswer
    | ok ret =>
      rw [hverify] at hanswer
      cases hanswer
      exact (macCreateCached_spec mKeysMap keyId data alg).2
  | isKeyExists keyId =>
    cases hanswer
    exact (isKeyExistsCached_spec mKeysMap keyId).2
  | generateRandomBytes size =>
    cases hanswer
    rfl

/-! ## The calls of an accessor -/

/-- A call, and how `SlotUid::From` answers during it. -/
structure AccessorOp (ara : AraCrypto) where
  slotUidFrom : String → Option ara.Uuid
  call : AccessorCall

/-- The key storage during the call. -/
abbrev AccessorOp.crypto (op : AccessorOp ara) : AraCrypto :=
  { ara with slotUidFrom := op.slotUidFrom }

/-- The accessor as a machine: what it answers stands in the history. -/
def accessorStep (ara : AraCrypto) :
    Machine (KeysMap ara) (AccessorOp ara) (AccessorOp ara × AccessorAnswer) Fault :=
  fun mKeysMap op => (answerCached op.crypto mKeysMap op.call).map fun result =>
    (result.2, [(op, result.1)])

/-- The slot identifier that was found first, by a call that asked for it. -/
def firstFound : List (AccessorOp ara × AccessorAnswer) → Option ara.Uuid
  | [] => none
  | (op, _) :: h =>
    (firstFound h).or (if consults ara op.call then op.slotUidFrom keyStr else none)

variable {h : List (AccessorOp ara × AccessorAnswer)} {op : AccessorOp ara}
variable {es : List (AccessorOp ara × AccessorAnswer)}

/-- Step lemma: the map holds what was found first. -/
theorem lookup_accessorStep (hcached : mKeysMap.lookup keyStr = firstFound h)
    (hstep : accessorStep ara mKeysMap op = .ok (mKeysMap', es)) :
    mKeysMap'.lookup keyStr = firstFound (es ++ h) := by
  unfold accessorStep at hstep
  cases hanswer : answerCached op.crypto mKeysMap op.call with
  | error fault =>
    rw [hanswer] at hstep
    cases hstep
  | ok result =>
    rw [hanswer] at hstep
    cases hstep
    have hasks : consults op.crypto op.call = consults ara op.call := by
      cases op.call <;> rfl
    have hmap := lookup_answerCached hanswer
    rw [hasks] at hmap
    refine hmap.trans ?_
    unfold slotUsed
    dsimp only [List.cons_append, List.nil_append, firstFound]
    rw [hcached]
    split
    · rfl
    · rw [Option.or_none]

/-- Run lemma. -/
theorem lookup_of_run (hrun : Run (accessorStep ara) Anything ∅ [] mKeysMap h) :
    mKeysMap.lookup keyStr = firstFound h := by
  refine hrun.invariant (fun mKeysMap h => mKeysMap.lookup keyStr = firstFound h) ?_ ?_
  · exact AList.lookup_empty keyStr
  · intro mKeysMap h op mKeysMap' es hcached _ hstep
    exact lookup_accessorStep hcached hstep

/-- What was found first is what one of the calls was told. -/
theorem firstFound_cases : firstFound h = none ∨
    ∃ e ∈ h, firstFound h = e.1.slotUidFrom keyStr := by
  induction h with
  | nil => exact Or.inl rfl
  | cons e h ih =>
    obtain ⟨op, answer⟩ := e
    dsimp only [firstFound]
    cases hfirst : firstFound h with
    | none =>
      rw [Option.none_or]
      split
      · exact Or.inr ⟨_, List.mem_cons_self, rfl⟩
      · exact Or.inl rfl
    | some slotUid =>
      rw [Option.some_or, ← hfirst]
      rcases ih with hnone | ⟨e, hmem, hfound⟩
      · rw [hfirst] at hnone
        cases hnone
      · exact Or.inr ⟨e, List.mem_cons_of_mem _ hmem, hfound⟩

/-- The accessor asks for its one key only. -/
theorem answer_withSlot (ara : AraCrypto) (call : AccessorCall) :
    call.answer (toICsmAccessor (ara.withSlot (ara.slotUidFrom keyStr))) =
      call.answer (toICsmAccessor ara) := by
  have hmac : ∀ keyId data alg,
      macCreate (ara.withSlot (ara.slotUidFrom keyStr)) keyId data alg =
        macCreate ara keyId data alg :=
    fun _ _ _ => macCreate_withSlot.trans (macCreate_eq ara).symm
  cases call with
  | macCreate keyId data alg =>
    dsimp only [AccessorCall.answer, toICsmAccessor]
    rw [hmac]
  | macVerify keyId data mac alg =>
    dsimp only [AccessorCall.answer, toICsmAccessor, macVerify]
    rw [hmac]
  | isKeyExists keyId => rfl
  | generateRandomBytes size => rfl

theorem map_accessorStep : (accessorStep ara mKeysMap op).map Prod.snd =
    (op.call.answer (toICsmAccessor (ara.withSlot (slotUsed op.crypto mKeysMap)))).map
      fun answer => [(op, answer)] := by
  have hanswer : (answerCached op.crypto mKeysMap op.call).map Prod.fst =
      op.call.answer (toICsmAccessor (ara.withSlot (slotUsed op.crypto mKeysMap))) :=
    answerCached_answer
  rw [← hanswer]
  unfold accessorStep
  cases answerCached op.crypto mKeysMap op.call with
  | error fault => rfl
  | ok result => rfl

/-- **What the cache of the accessor shows.**  After any calls, during which
`SlotUid::From` answers as it likes, a call answers as an accessor without a map does
over a key storage that gives the slot identifier found first, and before one is found
over the one that the key storage gives now.  If the key storage has always given what it
gives now, the map does not show. -/
theorem key_cache_law (hrun : Run (accessorStep ara) Anything ∅ [] mKeysMap h)
    (op : AccessorOp ara) :
    (accessorStep ara mKeysMap op).map Prod.snd =
      (op.call.answer (toICsmAccessor (ara.withSlot
        ((firstFound h).or (op.slotUidFrom keyStr))))).map (fun answer => [(op, answer)]) ∧
    ((∀ e ∈ h, e.1.slotUidFrom keyStr = op.slotUidFrom keyStr) →
      (accessorStep ara mKeysMap op).map Prod.snd =
        (op.call.answer (toICsmAccessor op.crypto)).map (fun answer => [(op, answer)])) := by
  have hused : slotUsed op.crypto mKeysMap = (firstFound h).or (op.slotUidFrom keyStr) := by
    unfold slotUsed
    rw [lookup_of_run hrun]
  rw [← hused]
  refine ⟨map_accessorStep, ?_⟩
  intro hstable
  have hnow : slotUsed op.crypto mKeysMap = op.crypto.slotUidFrom keyStr := by
    rw [hused]
    rcases firstFound_cases (h := h) with hnone | ⟨e, hmem, hfound⟩
    · rw [hnone, Option.none_or]
    · rw [hfound, hstable e hmem, Option.or_self]
  rw [map_accessorStep, hnow]
  exact congrArg (Except.map _) (answer_withSlot op.crypto op.call)

/-- A key storage that answers when `found` says so. -/
def keyStorage (found : Bool) (call : AccessorCall) :
    AccessorOp (.ofDigest (fun _ => .replicate 16 0) 7) :=
  { slotUidFrom := fun _ => if found then some () else none
    call := call }

/-- Once the key was found, it is found also when the key storage does not give it. -/
theorem key_cache_law_found :
    ∃ mKeysMap h, Run (accessorStep _) Anything ∅ [] mKeysMap h ∧
      h.map Prod.snd = [.code .kSuccess, .code .kKeyNotFound] ∧
      (accessorStep _ mKeysMap (keyStorage false (.isKeyExists 1))).map Prod.snd =
        .ok [(keyStorage false (.isKeyExists 1), .code .kSuccess)] := by
  obtain ⟨mKeysMap, h, hrun, hanswers, hfound⟩ :
      ∃ mKeysMap h, Run (accessorStep _) Anything ∅ [] mKeysMap h ∧
        h.map Prod.snd = [.code .kSuccess, .code .kKeyNotFound] ∧
        (firstFound h).isSome = true :=
    Run.exists_of_exec [keyStorage false (.isKeyExists 1), keyStorage true (.isKeyExists 1)]
      (by decide +kernel)
  obtain ⟨hlaw, -⟩ := key_cache_law hrun (keyStorage false (.isKeyExists 1))
  refine ⟨mKeysMap, h, hrun, hanswers, ?_⟩
  obtain ⟨slotUid, hslot⟩ := Option.isSome_iff_exists.mp hfound
  rw [hlaw, hslot]
  rfl

end CsmAccessorAraCrypto

end Sok.Common
