import SokFvm.Common.Cpp

/-!
# The crypto service accessor

`ICsmAccessor` is the interface through which the freshness value manager makes
and checks authenticators and draws random bytes.  One call of a manager
function sees one `ICsmAccessor`: it is the way the crypto service answers
during that call, so a different call may see a different one, and a failing
random generator is one whose `generateRandomBytes` is an error.

`CsmAccessorAraCrypto` is the implementation that the factory hands out.  The
`ara::crypto` providers behind it are not part of the repository; they are the
fields of `AraCrypto`.  What the repository writes on top of them is
`macCreate`, with its six error exits, and `macVerify`, which recomputes the
authenticator and compares it with `std::equal`.

`macVerify_eq_success_iff` and `macVerify_eq_error_iff` say what that comparison
is worth: it accepts every prefix of the digest, the empty one included, and it
reads past the digest when the received authenticator is longer.
-/

namespace Sok.Common

/-- `CsmErrorCode`. -/
inductive CsmErrorCode
  | kSuccess | kKeyNotFound | kErrorRng | kError
  deriving DecidableEq, Repr

/-- `CsmResult<T>`. -/
abbrev CsmResult (α : Type) := Except CsmErrorCode α

/-- `MacAlgorithm`. -/
inductive MacAlgorithm
  | kSipHash24 | kAes128Cmac | kEndEnum
  deriving DecidableEq, Repr

/-- The interface `ICsmAccessor`.  The last field is what the interface documents
of `GenerateRandomBytes`: the vector has the size that was asked for. -/
structure ICsmAccessor where
  macCreate : UInt16 → ByteVector → MacAlgorithm → CsmResult ByteVector
  macVerify : UInt16 → ByteVector → ByteVector → MacAlgorithm → Except Fault CsmErrorCode
  isKeyExists : UInt16 → CsmErrorCode
  generateRandomBytes : UInt8 → CsmResult ByteVector
  length_generateRandomBytes : ∀ size bytes,
    generateRandomBytes size = .ok bytes → bytes.length = size.toNat

/-! ## The providers of `ara::crypto` -/

/-- A message authentication context.  The digest is written into a buffer that
was resized to `GetDigestSize()`, so it has that length for every key and
message. -/
structure MacContext (Key : Type) where
  getDigestSize : Nat
  getDigest : Key → ByteVector → ByteVector
  length_getDigest : ∀ key message, (getDigest key message).length = getDigestSize

/-- The crypto and key storage providers.  The two flags say whether they were
loaded; the cache of slot identifiers has no field, as it does not show while
`SlotUid::From` does not change its answer. -/
structure AraCrypto where
  Uuid : Type
  SlotNumber : Type
  TrustedContainer : Type
  SymmetricKey : Type
  mCryptoProvider : Bool
  mKeyStorageProvider : Bool
  slotUidFrom : String → Option Uuid
  findSlot : Uuid → SlotNumber
  createMessageAuthnCodeCtx : String → Option (MacContext SymmetricKey)
  openAsUser : SlotNumber → Option TrustedContainer
  loadConcreteObject : TrustedContainer → Option SymmetricKey
  createRandomGeneratorCtx : Option (∀ size : UInt8, Option (Vector UInt8 size.toNat))

/-- Providers that are loaded and always answer, with the digest and the random
bytes that are given. -/
def AraCrypto.ofDigest (digest : ByteVector → Vector UInt8 16) (random : UInt8) : AraCrypto where
  Uuid := Unit
  SlotNumber := Unit
  TrustedContainer := Unit
  SymmetricKey := Unit
  mCryptoProvider := true
  mKeyStorageProvider := true
  slotUidFrom _ := some ()
  findSlot _ := ()
  createMessageAuthnCodeCtx _ := some
    { getDigestSize := 16
      getDigest := fun _ message => (digest message).toList
      length_getDigest := fun _ _ => Vector.length_toList }
  openAsUser _ := some ()
  loadConcreteObject _ := some ()
  createRandomGeneratorCtx := some fun size => some (Vector.replicate size.toNat random)

namespace CsmAccessorAraCrypto

/-- `EnumToStringMacAlgorithm`. -/
def enumToStringMacAlgorithm : MacAlgorithm → String
  | .kAes128Cmac => "CMAC/AES-128"
  | _ => ""

/-- The one slot of the accessor. The key identifier of a call is not used. -/
def keyStr : String := "b2adc146-eefa-11e8-8eb2-f2801f1b9fd1"

variable (ara : AraCrypto)

/-- `MacCreate`. -/
def macCreate (_keyId : UInt16) (data : ByteVector) (alg : MacAlgorithm) :
    CsmResult ByteVector :=
  if alg ≠ .kAes128Cmac then .error .kError
  else if !ara.mCryptoProvider || !ara.mKeyStorageProvider then .error .kError
  else match ara.slotUidFrom keyStr with
    | none => .error .kKeyNotFound
    | some slotUid =>
      match ara.createMessageAuthnCodeCtx (enumToStringMacAlgorithm alg) with
      | none => .error .kError
      | some macCtx =>
        match ara.openAsUser (ara.findSlot slotUid) with
        | none => .error .kError
        | some keyTrustedContainer =>
          match ara.loadConcreteObject keyTrustedContainer with
          | none => .error .kError
          | some symmetricKey => .ok (macCtx.getDigest symmetricKey data)

/-- `MacVerify`: `std::equal(mac.begin(), mac.end(), macVec.begin())` with the
recomputed authenticator `macVec`. -/
def macVerify (keyId : UInt16) (data mac : ByteVector) (alg : MacAlgorithm) :
    Except Fault CsmErrorCode :=
  match macCreate ara keyId data alg with
  | .error _ => .ok .kError
  | .ok macVec =>
    match stdEqual mac macVec with
    | .error fault => .error fault
    | .ok true => .ok .kSuccess
    | .ok false => .ok .kError

/-- `IsKeyExists`. -/
def isKeyExists (_keyId : UInt16) : CsmErrorCode :=
  if (ara.slotUidFrom keyStr).isSome then .kSuccess else .kKeyNotFound

/-- `GenerateRandomBytes`. -/
def generateRandomBytes (size : UInt8) : CsmResult ByteVector :=
  if !ara.mCryptoProvider || !ara.mKeyStorageProvider then .error .kError
  else match ara.createRandomGeneratorCtx with
    | none => .error .kErrorRng
    | some rng =>
      match rng size with
      | none => .error .kError
      | some randomVec => .ok randomVec.toList

theorem length_generateRandomBytes (size : UInt8) (bytes : ByteVector)
    (h : generateRandomBytes ara size = .ok bytes) : bytes.length = size.toNat := by
  unfold generateRandomBytes at h
  split at h
  · cases h
  · split at h
    · cases h
    · split at h
      · cases h
      · cases h
        exact Vector.length_toList

/-- The accessor behind its interface. -/
def toICsmAccessor : ICsmAccessor where
  macCreate := macCreate ara
  macVerify := macVerify ara
  isKeyExists := isKeyExists ara
  generateRandomBytes := generateRandomBytes ara
  length_generateRandomBytes := length_generateRandomBytes ara

/-! ## What the comparison accepts -/

variable {ara}

/-- A received authenticator is accepted exactly when it is a prefix of the
digest. -/
theorem macVerify_eq_success_iff {keyId : UInt16} {data mac : ByteVector} {alg : MacAlgorithm} :
    macVerify ara keyId data mac alg = .ok .kSuccess ↔
      ∃ digest, macCreate ara keyId data alg = .ok digest ∧ mac <+: digest := by
  unfold macVerify
  cases hcreate : macCreate ara keyId data alg with
  | error code => simp
  | ok digest =>
    simp only [Except.ok.injEq, exists_eq_left', ← stdEqual_eq_ok_true_iff]
    cases stdEqual mac digest with
    | error fault => simp
    | ok equal => cases equal <;> simp

/-- The comparison reads past the digest exactly when the received authenticator is
longer than the digest. -/
theorem macVerify_eq_error_iff {keyId : UInt16} {data mac : ByteVector} {alg : MacAlgorithm}
    {fault : Fault} :
    macVerify ara keyId data mac alg = .error fault ↔
      fault = .readPastEnd ∧ ∃ digest, macCreate ara keyId data alg = .ok digest ∧
        digest.length < mac.length := by
  unfold macVerify
  cases hcreate : macCreate ara keyId data alg with
  | error code => simp
  | ok digest =>
    simp only [Except.ok.injEq, exists_eq_left', ← stdEqual_eq_error_iff]
    cases stdEqual mac digest with
    | error fault' => simp
    | ok equal => cases equal <;> simp

end CsmAccessorAraCrypto

end Sok.Common
