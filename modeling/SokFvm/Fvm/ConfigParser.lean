import SokFvm.Library.Json
import SokFvm.Fvm.ConfigAccessor

/-!
# `FvmConfigParser`

`Parse` validates the document with the schema that is compiled in, reads the
members one after the other, and fills the maps with `emplace`, which reports a key
that occurs twice.  A failure leaves behind what was read before it.

The text is parsed by a library, which here is a function from texts to documents.
Its readers assert the kind of a value, so `parse` answers with `Json.Misuse` where
an assertion fails: the schema bounds no number by what an unsigned number of 32
bits holds.

`Parsed` is what a successful `Parse` says about the document and the
configuration, and `WellTyped` is what the schema adds: which freshness types an
entry can have.
-/

namespace Sok.Fvm

open Sok.Common

/-! ## The schema -/

namespace Schema

open Json.Schema

/-- `SCHEMA_VERSION`. -/
def schemaVersion : UInt32 := 1

/-- `ENUM_FRESHNESS_TYPE_FV` and the four other names of freshness types. -/
def enumFreshnessTypeFv : String := "FV"
def enumFreshnessTypeFvSessionSender : String := "FV_SESSION_SENDER"
def enumFreshnessTypeFvSessionReceiver : String := "FV_SESSION_RECEIVER"
def enumFreshnessTypeChallenge : String := "CHALLENGE"
def enumFreshnessTypeResponse : String := "RESPONSE"

/-- `"properties"` with these names, all of them required. -/
def requiredProperties (schemas : List (String × Json.Schema)) : Json.Schema :=
  all [properties schemas, required (schemas.map Prod.fst)]

/-- An object with these properties. -/
def objectOf (schemas : List (String × Json.Schema)) : Json.Schema :=
  all [typeObject, requiredProperties schemas]

/-- An array whose elements have these properties and no other ones.  The schema
does not ask that the elements are objects. -/
def arrayOf (schemas : List (String × Json.Schema)) : Json.Schema :=
  all [typeArray,
    items (all [noAdditionalProperties (schemas.map Prod.fst), requiredProperties schemas])]

/-- `complete_signal_config`. -/
def completeSignalConfig : Json.Schema :=
  objectOf
    [("frame_config", objectOf
      [("name", typeString),
        ("frame_max_payload_size", integerBetween 0 65535),
        ("source_ip", typeString),
        ("destination_ip", typeString),
        ("source_port", integerBetween 0 65535),
        ("destination_port", integerBetween 0 65535)]),
      ("pdu_config", objectOf
      [("name", typeString),
        ("pdu_id", integerFrom 0),
        ("length_bytes", integerFrom 0)]),
      ("signal_config", objectOf
      [("name", typeString),
        ("start_byte", integerFrom 0),
        ("length_in_bits", integerFrom 0)])]

/-- The properties of an element of `auth_br_config`. -/
def authBrConfig : List (String × Json.Schema) :=
  [("fv_id", integerFrom 0),
    ("sok_freshness_type", enum [enumFreshnessTypeFv, enumFreshnessTypeFvSessionSender,
      enumFreshnessTypeFvSessionReceiver]),
    ("pdu_id", integerFrom 0),
    ("session_counter_length_bits", integerFrom 0)]

/-- The properties of an element of `challenge_response_config`. -/
def challengeResponseConfig : List (String × Json.Schema) :=
  [("fv_id", integerFrom 0),
    ("challenge_type", enum [enumFreshnessTypeChallenge, enumFreshnessTypeResponse]),
    ("signal", completeSignalConfig)]

/-- The properties of an element of `key_config`. -/
def keyConfig : List (String × Json.Schema) :=
  [("fv_id", integerFrom 0), ("key_id", integerBetween 0 65535)]

/-- The properties of an element of `clients_signals_config`. -/
def clientsSignalsConfig : List (String × Json.Schema) :=
  [("client_ecu_name", typeString),
    ("key_id", integerBetween 0 65535),
    ("challenge_signal", completeSignalConfig),
    ("response_value_signal", completeSignalConfig),
    ("response_signature_signal", completeSignalConfig)]

/-- The properties of the document. -/
def documentProperties : List (String × Json.Schema) :=
  [("version", integerFrom 0),
    ("network_interface", typeString),
    ("ecu_name", typeString),
    ("ecu_key_id_auth_fv", integerBetween 0 65535),
    ("auth_br_config", arrayOf authBrConfig),
    ("challenge_response_config", arrayOf challengeResponseConfig),
    ("unauthenticated_fv_signal_config", completeSignalConfig),
    ("authenticated_fv_value_signal_config", completeSignalConfig),
    ("authenticated_fv_signature_signal_config", completeSignalConfig),
    ("authenticated_fv_value_challenge_config", completeSignalConfig),
    ("key_config", arrayOf keyConfig),
    ("clients_signals_config", arrayOf clientsSignalsConfig)]

/-- `FVM_CONFIG_SCHEMA`. -/
def fvmConfigSchema : Json.Schema := objectOf documentProperties

end Schema

/-! ## Reading the members -/

/-- A part of `Parse`: whether it succeeded, and what it made of the
configuration. -/
abbrev Fetch := SokFmConfig → Except Json.Misuse (Bool × SokFmConfig)

namespace FvmConfigParser

/-- The number under a name. -/
def uintAt (json : Json) (name : String) : Except Json.Misuse UInt32 := do
  (← json.get name).getUint

/-- The string under a name. -/
def stringAt (json : Json) (name : String) : Except Json.Misuse String := do
  (← json.get name).getString

/-- The array under a name. -/
def arrayAt (json : Json) (name : String) : Except Json.Misuse (List Json) := do
  (← json.get name).getArray

/-- The object under a name. -/
def objectAt (json : Json) (name : String) : Except Json.Misuse Json := do
  (← json.get name).getObject

/-- `convertStringFreshnessTypeToEnum`. -/
def convertStringFreshnessTypeToEnum (freshnessType : String) : SokFreshnessType :=
  if Schema.enumFreshnessTypeChallenge = freshnessType then .kVwSokFreshnessCrChallenge
  else if Schema.enumFreshnessTypeResponse = freshnessType then .kVwSokFreshnessCrResponse
  else if Schema.enumFreshnessTypeFv = freshnessType then .kVwSokFreshnessValue
  else if Schema.enumFreshnessTypeFvSessionReceiver = freshnessType then
    .kVwSokFreshnessValueSessionReceiver
  else if Schema.enumFreshnessTypeFvSessionSender = freshnessType then
    .kVwSokFreshnessValueSessionSender
  else .kEndEnum

/-- `fetchSignalConfig`. It always returns `true`. -/
def fetchSignalConfig (object : Json) : Except Json.Misuse SignalConfig := do
  let frameObject ← objectAt object "frame_config"
  let maxPayloadSizeBytes ← uintAt frameObject "frame_max_payload_size"
  let frameName ← stringAt frameObject "name"
  let destinationIp ← stringAt frameObject "destination_ip"
  let destinationPort ← uintAt frameObject "destination_port"
  let sourceIp ← stringAt frameObject "source_ip"
  let sourcePort ← uintAt frameObject "source_port"
  let pduObject ← objectAt object "pdu_config"
  let pduName ← stringAt pduObject "name"
  let pduId ← uintAt pduObject "pdu_id"
  let lengthBytes ← uintAt pduObject "length_bytes"
  let signalObject ← objectAt object "signal_config"
  let signalName ← stringAt signalObject "name"
  let lengthInBits ← uintAt signalObject "length_in_bits"
  let startByte ← uintAt signalObject "start_byte"
  return {
    pduConfig := {
      frameConfig := {
        name := frameName
        maxPayloadSizeBytes := maxPayloadSizeBytes.toUInt16
        sourceIp := sourceIp
        destinationIp := destinationIp
        sourcePort := sourcePort.toUInt16
        destinationPort := destinationPort.toUInt16 }
      name := pduName
      id := pduId
      lengthBytes := lengthBytes }
    name := signalName
    startByte := startByte
    lengthInBits := lengthInBits }

/-- The signal under a name. -/
def signalAt (json : Json) (name : String) : Except Json.Misuse SignalConfig := do
  fetchSignalConfig (← objectAt json name)

section

variable {κ α : Type} [DecidableEq κ]

/-- The loop of four of the `fetch` functions: read an element and emplace what it
says, up to the first key that is there already. -/
def emplaceEach (read : Json → Except Json.Misuse (κ × α)) :
    List Json → UnorderedMap κ α → Except Json.Misuse (Bool × UnorderedMap κ α)
  | [], map => .ok (true, map)
  | element :: elements, map => do
    let entry ← read element
    if entry.1 ∈ map then return (false, map)
    else emplaceEach read elements (map.emplace entry.1 entry.2)

/-- What these functions share: the array under a name fills a map of the
configuration. -/
def fetchMap (read : Json → Except Json.Misuse (κ × α)) (doc : Json) (name : String)
    (mapOf : SokFmConfig → UnorderedMap κ α)
    (withMap : SokFmConfig → UnorderedMap κ α → SokFmConfig) : Fetch := fun config => do
  let elements ← arrayAt doc name
  let ret ← emplaceEach read elements (mapOf config)
  return (ret.1, withMap config ret.2)

end

/-- One element of `auth_br_config`. -/
def readAuthBroadcast (brObject : Json) :
    Except Json.Misuse (SokFreshnessValueId × SokFvConfigInstance) := do
  let fvId ← uintAt brObject "fv_id"
  let type ← stringAt brObject "sok_freshness_type"
  let pduId ← uintAt brObject "pdu_id"
  let sessionCounterLength ← uintAt brObject "session_counter_length_bits"
  return (fvId, {
    type := convertStringFreshnessTypeToEnum type
    pduId := pduId
    sessionCounterLength := sessionCounterLength.toUInt8 })

/-- One element of `challenge_response_config`. -/
def readChallengeResponse (crObject : Json) :
    Except Json.Misuse (SokFreshnessValueId × ChallengeConfigInstance) := do
  let fvId ← uintAt crObject "fv_id"
  let type ← stringAt crObject "challenge_type"
  let challengeSignalConfig ← signalAt crObject "signal"
  return (fvId, {
    type := convertStringFreshnessTypeToEnum type
    challengeSignalConfig := challengeSignalConfig })

/-- One element of `key_config`. -/
def readKey (keyObject : Json) : Except Json.Misuse (SokFreshnessValueId × UInt16) := do
  let fvId ← uintAt keyObject "fv_id"
  let keyId ← uintAt keyObject "key_id"
  return (fvId, keyId.toUInt16)

/-- One element of `clients_signals_config`. -/
def readClient (clientObject : Json) :
    Except Json.Misuse (String × SokFvClientConfigArrayInstance) := do
  let clientEcuName ← stringAt clientObject "client_ecu_name"
  let keyId ← uintAt clientObject "key_id"
  let clientChallengeSignal ← signalAt clientObject "challenge_signal"
  let clientResponseValueSignal ← signalAt clientObject "response_value_signal"
  let clientResponseSignatureSignal ← signalAt clientObject "response_signature_signal"
  return (clientEcuName, {
    clientChallengeSignal := clientChallengeSignal
    clientResponseValueSignal := clientResponseValueSignal
    clientResponseSignatureSignal := clientResponseSignatureSignal
    keyId := keyId.toUInt16 })

/-- `fetchGeneralConfigurations`. -/
def fetchGeneralConfigurations (doc : Json) : Fetch := fun config => do
  let mEcuName ← stringAt doc "ecu_name"
  let mNetworkInterface ← stringAt doc "network_interface"
  let mKeyIdForAuthFvDistribution ← uintAt doc "ecu_key_id_auth_fv"
  return (true, { config with
    mEcuName := mEcuName
    mNetworkInterface := mNetworkInterface
    mKeyIdForAuthFvDistribution := mKeyIdForAuthFvDistribution.toUInt16 })

/-- `fetchAuthenticBroadcastConfigurations`. -/
def fetchAuthenticBroadcastConfigurations (doc : Json) : Fetch :=
  fetchMap readAuthBroadcast doc "auth_br_config" (·.mAuthBroadcastConfig)
    fun config map => { config with mAuthBroadcastConfig := map }

/-- `fetchChallengeResponseConfigurations`. -/
def fetchChallengeResponseConfigurations (doc : Json) : Fetch :=
  fetchMap readChallengeResponse doc "challenge_response_config" (·.mChallengesConfig)
    fun config map => { config with mChallengesConfig := map }

/-- `fetchFvDistributionSignalConfigurations`. -/
def fetchFvDistributionSignalConfigurations (doc : Json) : Fetch := fun config => do
  let mUnAuthFvDistributionSignal ← signalAt doc "unauthenticated_fv_signal_config"
  let mAuthFvChallengeSignal ← signalAt doc "authenticated_fv_value_challenge_config"
  let mAuthFvValueSignal ← signalAt doc "authenticated_fv_value_signal_config"
  let mAuthFvSignatureSignal ← signalAt doc "authenticated_fv_signature_signal_config"
  return (true, { config with
    mUnAuthFvDistributionSignal := mUnAuthFvDistributionSignal
    mAuthFvChallengeSignal := mAuthFvChallengeSignal
    mAuthFvValueSignal := mAuthFvValueSignal
    mAuthFvSignatureSignal := mAuthFvSignatureSignal })

/-- `fetchKeyConfigurations`. -/
def fetchKeyConfigurations (doc : Json) : Fetch :=
  fetchMap readKey doc "key_config" (·.mKeyConfig)
    fun config map => { config with mKeyConfig := map }

/-- `fetchClientsConfigurations`. -/
def fetchClientsConfigurations (doc : Json) : Fetch :=
  fetchMap readClient doc "clients_signals_config" (·.mFmServerClientsConfig)
    fun config map => { config with mFmServerClientsConfig := map }

/-- The parts of `Parse` one after the other, up to the first one that fails. -/
def fetchInOrder : List Fetch → Fetch
  | [], config => .ok (true, config)
  | fetch :: fetches, config => do
    let ret ← fetch config
    if ret.1 then fetchInOrder fetches ret.2 else return (false, ret.2)

/-- What `Parse` reads of a document that meets the schema. -/
def fetchDocument (doc : Json) : Fetch :=
  fetchInOrder
    [fetchGeneralConfigurations doc,
      fetchAuthenticBroadcastConfigurations doc,
      fetchChallengeResponseConfigurations doc,
      fetchFvDistributionSignalConfigurations doc,
      fetchKeyConfigurations doc,
      fetchClientsConfigurations doc]

end FvmConfigParser

/-- The parser: whether `mSchema` holds the document of `FVM_CONFIG_SCHEMA`. -/
structure FvmConfigParser where
  mSchema : Bool
  deriving DecidableEq, Repr

namespace FvmConfigParser

/-- The constructor. -/
def construct : FvmConfigParser := { mSchema := false }

/-- `Parse`, over the library's parser of texts.  The schema document is built on
the first call for a text that is not empty, and from then on the first test
fails. -/
def parse (document : String → Option Json) (self : FvmConfigParser) (json : String)
    (config : SokFmConfig) : Except Json.Misuse (Bool × FvmConfigParser × SokFmConfig) :=
  if json = "" then .ok (false, self, config)
  else if self.mSchema then .ok (false, self, config)
  else
    let self := { self with mSchema := true }
    match document json with
    | none => .ok (false, self, config)
    | some doc =>
      if !doc.isObject then .ok (false, self, config)
      else if !Schema.fvmConfigSchema doc then .ok (false, self, config)
      else do
        let version ← uintAt doc "version"
        if version ≠ Schema.schemaVersion then return (false, self, config)
        let ret ← fetchDocument doc config
        return (ret.1, self, ret.2)

end FvmConfigParser

/-! ## What a successful `Parse` says -/

namespace FvmConfigParser

open Json (exists_of_bind_ok)

section

variable {κ α : Type} [DecidableEq κ] {read : Json → Except Json.Misuse (κ × α)}

/-- The elements are read and emplaced into a map, each under a key of its own. -/
structure Emplaced (read : Json → Except Json.Misuse (κ × α)) (elements : List Json)
    (map map' : UnorderedMap κ α) : Prop where
  added : ∀ element ∈ elements, ∃ entry, read element = .ok entry ∧
    entry.1 ∉ map ∧ map'.lookup entry.1 = some entry.2
  kept : ∀ key value, map.lookup key = some value → map'.lookup key = some value
  origin : ∀ key value, map'.lookup key = some value →
    map.lookup key = some value ∨ ∃ element ∈ elements, read element = .ok (key, value)
  size : map'.size = map.size + elements.length

theorem emplaceEach_spec {elements : List Json} {map map' : UnorderedMap κ α}
    (hemplace : emplaceEach read elements map = .ok (true, map')) :
    Emplaced read elements map map' := by
  induction elements generalizing map with
  | nil =>
    obtain rfl : map = map' := by simpa [emplaceEach] using hemplace
    exact ⟨by simp, fun _ _ h => h, fun _ _ h => Or.inl h, rfl⟩
  | cons element elements ih =>
    obtain ⟨entry, hread, hrest⟩ := exists_of_bind_ok hemplace
    by_cases hmem : entry.1 ∈ map
    · rw [if_pos hmem] at hrest
      cases hrest
    · rw [if_neg hmem, UnorderedMap.emplace, if_neg hmem] at hrest
      have hstep := ih hrest
      have hnew : map'.lookup entry.1 = some entry.2 :=
        hstep.kept _ _ (AList.lookup_insert map)
      refine ⟨?_, ?_, ?_, ?_⟩
      · intro e he
        rcases List.mem_cons.mp he with rfl | he
        · exact ⟨entry, hread, hmem, hnew⟩
        · obtain ⟨entry', hread', hfresh, hlookup⟩ := hstep.added e he
          refine ⟨entry', hread', ?_, hlookup⟩
          intro hold
          exact hfresh (AList.mem_insert map |>.mpr (Or.inr hold))
      · intro key value hlookup
        have hne : key ≠ entry.1 := by
          rintro rfl
          exact hmem (AList.lookup_isSome.mp (Option.isSome_of_mem hlookup))
        apply hstep.kept
        rw [AList.lookup_insert_ne hne, hlookup]
      · intro key value hlookup
        rcases hstep.origin key value hlookup with hbefore | ⟨e, he, hread'⟩
        · by_cases hkey : key = entry.1
          · subst hkey
            rw [AList.lookup_insert, Option.some.injEq] at hbefore
            right
            exact ⟨element, List.mem_cons_self, by rw [hread, ← hbefore]⟩
          · rw [AList.lookup_insert_ne hkey] at hbefore
            exact Or.inl hbefore
        · right
          exact ⟨e, List.mem_cons_of_mem _ he, hread'⟩
      · rw [hstep.size, List.length_cons]
        simp only [UnorderedMap.size, AList.entries_insert_of_notMem hmem, List.length_cons]
        omega

end

/-- What a successful `Parse` makes of a configuration. -/
structure Parsed (doc : Json) (config config' : SokFmConfig) : Prop where
  schema : Schema.fvmConfigSchema doc = true
  version : uintAt doc "version" = .ok Schema.schemaVersion
  mEcuName : stringAt doc "ecu_name" = .ok config'.mEcuName
  mNetworkInterface : stringAt doc "network_interface" = .ok config'.mNetworkInterface
  mKeyIdForAuthFvDistribution :
    (uintAt doc "ecu_key_id_auth_fv").map UInt32.toUInt16 = .ok config'.mKeyIdForAuthFvDistribution
  mAuthBroadcastConfig : ∃ elements, arrayAt doc "auth_br_config" = .ok elements ∧
    Emplaced readAuthBroadcast elements config.mAuthBroadcastConfig config'.mAuthBroadcastConfig
  mChallengesConfig : ∃ elements, arrayAt doc "challenge_response_config" = .ok elements ∧
    Emplaced readChallengeResponse elements config.mChallengesConfig config'.mChallengesConfig
  mUnAuthFvDistributionSignal :
    signalAt doc "unauthenticated_fv_signal_config" = .ok config'.mUnAuthFvDistributionSignal
  mAuthFvChallengeSignal :
    signalAt doc "authenticated_fv_value_challenge_config" = .ok config'.mAuthFvChallengeSignal
  mAuthFvValueSignal :
    signalAt doc "authenticated_fv_value_signal_config" = .ok config'.mAuthFvValueSignal
  mAuthFvSignatureSignal :
    signalAt doc "authenticated_fv_signature_signal_config" = .ok config'.mAuthFvSignatureSignal
  mKeyConfig : ∃ elements, arrayAt doc "key_config" = .ok elements ∧
    Emplaced readKey elements config.mKeyConfig config'.mKeyConfig
  mFmServerClientsConfig : ∃ elements, arrayAt doc "clients_signals_config" = .ok elements ∧
    Emplaced readClient elements config.mFmServerClientsConfig config'.mFmServerClientsConfig

/-- A part that succeeds is followed by the other ones. -/
theorem fetchInOrder_cons {fetch : Fetch} {fetches : List Fetch} {config config' : SokFmConfig}
    (hfetch : fetchInOrder (fetch :: fetches) config = .ok (true, config')) :
    ∃ between, fetch config = .ok (true, between) ∧
      fetchInOrder fetches between = .ok (true, config') := by
  obtain ⟨⟨succeeded, between⟩, hfirst, hrest⟩ := exists_of_bind_ok hfetch
  cases succeeded with
  | true => exact ⟨between, hfirst, hrest⟩
  | false => cases hrest

/-- A part that fills a map. -/
theorem fetchMap_spec {κ α : Type} [DecidableEq κ]
    {read : Json → Except Json.Misuse (κ × α)} {doc : Json} {name : String}
    {mapOf : SokFmConfig → UnorderedMap κ α}
    {withMap : SokFmConfig → UnorderedMap κ α → SokFmConfig} {config config' : SokFmConfig}
    (hfetch : fetchMap read doc name mapOf withMap config = .ok (true, config')) :
    ∃ elements map', arrayAt doc name = .ok elements ∧
      Emplaced read elements (mapOf config) map' ∧ config' = withMap config map' := by
  obtain ⟨elements, harray, hrest⟩ := exists_of_bind_ok hfetch
  obtain ⟨⟨succeeded, map'⟩, hemplace, hret⟩ := exists_of_bind_ok hrest
  cases hret
  exact ⟨elements, map', harray, emplaceEach_spec hemplace, rfl⟩

variable {doc : Json} {config config' : SokFmConfig}

theorem fetchGeneralConfigurations_spec
    (hfetch : fetchGeneralConfigurations doc config = .ok (true, config')) :
    ∃ ecuName networkInterface keyId, stringAt doc "ecu_name" = .ok ecuName ∧
      stringAt doc "network_interface" = .ok networkInterface ∧
      uintAt doc "ecu_key_id_auth_fv" = .ok keyId ∧
      config' = { config with
        mEcuName := ecuName
        mNetworkInterface := networkInterface
        mKeyIdForAuthFvDistribution := keyId.toUInt16 } := by
  obtain ⟨ecuName, hname, hfetch⟩ := exists_of_bind_ok hfetch
  obtain ⟨networkInterface, hinterface, hfetch⟩ := exists_of_bind_ok hfetch
  obtain ⟨keyId, hkey, hfetch⟩ := exists_of_bind_ok hfetch
  cases hfetch
  exact ⟨ecuName, networkInterface, keyId, hname, hinterface, hkey, rfl⟩

theorem fetchFvDistributionSignalConfigurations_spec
    (hfetch : fetchFvDistributionSignalConfigurations doc config = .ok (true, config')) :
    ∃ unAuth challenge value signature,
      signalAt doc "unauthenticated_fv_signal_config" = .ok unAuth ∧
      signalAt doc "authenticated_fv_value_challenge_config" = .ok challenge ∧
      signalAt doc "authenticated_fv_value_signal_config" = .ok value ∧
      signalAt doc "authenticated_fv_signature_signal_config" = .ok signature ∧
      config' = { config with
        mUnAuthFvDistributionSignal := unAuth
        mAuthFvChallengeSignal := challenge
        mAuthFvValueSignal := value
        mAuthFvSignatureSignal := signature } := by
  obtain ⟨unAuth, hunAuth, hfetch⟩ := exists_of_bind_ok hfetch
  obtain ⟨challenge, hchallenge, hfetch⟩ := exists_of_bind_ok hfetch
  obtain ⟨value, hvalue, hfetch⟩ := exists_of_bind_ok hfetch
  obtain ⟨signature, hsignature, hfetch⟩ := exists_of_bind_ok hfetch
  cases hfetch
  exact ⟨unAuth, challenge, value, signature, hunAuth, hchallenge, hvalue, hsignature, rfl⟩

theorem parsed_of_fetchDocument (hschema : Schema.fvmConfigSchema doc = true)
    (hversion : uintAt doc "version" = .ok Schema.schemaVersion)
    (hfetch : fetchDocument doc config = .ok (true, config')) : Parsed doc config config' := by
  obtain ⟨c₁, hgeneral, hfetch⟩ := fetchInOrder_cons hfetch
  obtain ⟨c₂, hbroadcast, hfetch⟩ := fetchInOrder_cons hfetch
  obtain ⟨c₃, hchallenge, hfetch⟩ := fetchInOrder_cons hfetch
  obtain ⟨c₄, hsignals, hfetch⟩ := fetchInOrder_cons hfetch
  obtain ⟨c₅, hkeys, hfetch⟩ := fetchInOrder_cons hfetch
  obtain ⟨c₆, hclients, hfetch⟩ := fetchInOrder_cons hfetch
  cases hfetch
  obtain ⟨_, _, _, hname, hinterface, hkey, rfl⟩ := fetchGeneralConfigurations_spec hgeneral
  obtain ⟨_, _, hauthBr, hemplacedBr, rfl⟩ := fetchMap_spec hbroadcast
  obtain ⟨_, _, hcr, hemplacedCr, rfl⟩ := fetchMap_spec hchallenge
  obtain ⟨_, _, _, _, hunAuth, hsignalChallenge, hvalue, hsignature, rfl⟩ :=
    fetchFvDistributionSignalConfigurations_spec hsignals
  obtain ⟨_, _, hkeyArray, hemplacedKey, rfl⟩ := fetchMap_spec hkeys
  obtain ⟨_, _, hclientArray, hemplacedClient, rfl⟩ := fetchMap_spec hclients
  exact {
    schema := hschema
    version := hversion
    mEcuName := hname
    mNetworkInterface := hinterface
    mKeyIdForAuthFvDistribution := by rw [hkey]; rfl
    mAuthBroadcastConfig := ⟨_, hauthBr, hemplacedBr⟩
    mChallengesConfig := ⟨_, hcr, hemplacedCr⟩
    mUnAuthFvDistributionSignal := hunAuth
    mAuthFvChallengeSignal := hsignalChallenge
    mAuthFvValueSignal := hvalue
    mAuthFvSignatureSignal := hsignature
    mKeyConfig := ⟨_, hkeyArray, hemplacedKey⟩
    mFmServerClientsConfig := ⟨_, hclientArray, hemplacedClient⟩ }

/-- A `Parse` that succeeds found a document and made a configuration of it. -/
theorem parse_eq_true {document : String → Option Json} {self self' : FvmConfigParser}
    {json : String} (hparse : parse document self json config = .ok (true, self', config')) :
    json ≠ "" ∧ self.mSchema = false ∧ self'.mSchema = true ∧
      ∃ doc, document json = some doc ∧ Parsed doc config config' := by
  unfold parse at hparse
  split at hparse
  · cases hparse
  · rename_i htext
    split at hparse
    · cases hparse
    · rename_i hfresh
      dsimp only at hparse
      split at hparse
      · cases hparse
      · rename_i doc hdocument
        split at hparse
        · cases hparse
        · split at hparse
          · cases hparse
          · rename_i hschema
            obtain ⟨version, hversion, hrest⟩ := exists_of_bind_ok hparse
            split at hrest
            · cases hrest
            · rename_i hequal
              obtain ⟨⟨succeeded, config''⟩, hfetch, hret⟩ := exists_of_bind_ok hrest
              cases hret
              refine ⟨htext, by simpa using hfresh, rfl, doc, hdocument, ?_⟩
              refine parsed_of_fetchDocument (by simpa using hschema) ?_ hfetch
              rw [hversion, not_not.mp hequal]

/-! ## What the schema says about the types of the entries -/

section

open Json.Schema

variable {schemas : List (String × Json.Schema)} {json : Json}

theorem properties_of_objectOf (hobject : Schema.objectOf schemas json = true) :
    properties schemas json = true := by
  have hboth : Schema.requiredProperties schemas json = true := of_all hobject (by simp)
  exact of_all hboth (by simp)

/-- The elements of an array have the properties that the schema lists. -/
theorem properties_of_arrayOf {elements : List Json} {element : Json}
    (hlist : Schema.arrayOf schemas json = true) (harray : json.getArray = .ok elements)
    (hmem : element ∈ elements) : properties schemas element = true := by
  have hitem := of_items (of_all hlist (List.mem_cons_of_mem _ List.mem_cons_self)) harray hmem
  have hboth : Schema.requiredProperties schemas element = true := of_all hitem (by simp)
  exact of_all hboth (by simp)

/-- So do the elements of an array of the document. -/
theorem properties_of_arrayAt {name : String} {elements : List Json} {element : Json}
    (hschema : Schema.fvmConfigSchema doc = true) (harray : arrayAt doc name = .ok elements)
    (hname : (name, Schema.arrayOf schemas) ∈ Schema.documentProperties)
    (hmem : element ∈ elements) : properties schemas element = true := by
  obtain ⟨json, hget, hjson⟩ := exists_of_bind_ok harray
  have hlist := of_properties (properties_of_objectOf hschema) hget hname
  exact properties_of_arrayOf hlist hjson hmem

/-- A string that the schema enumerates. -/
theorem stringAt_of_enum {name s : String} {values : List String}
    (hproperties : properties schemas json = true) (hget : stringAt json name = .ok s)
    (hname : (name, enum values) ∈ schemas)
    (hplain : ∀ value ∈ values, (value.toList.all fun c => c.toNat ≠ 0) = true) :
    s ∈ values := by
  obtain ⟨value, hvalue, hstring⟩ := exists_of_bind_ok hget
  exact getString_of_enum (of_properties hproperties hvalue hname) hstring hplain

end

/-- A type of an entry of `auth_br_config`. -/
def IsBroadcastType (type : SokFreshnessType) : Prop :=
  type = .kVwSokFreshnessValue ∨ type = .kVwSokFreshnessValueSessionSender ∨
    type = .kVwSokFreshnessValueSessionReceiver

/-- A type of an entry of `challenge_response_config`. -/
def IsChallengeType (type : SokFreshnessType) : Prop :=
  type = .kVwSokFreshnessCrChallenge ∨ type = .kVwSokFreshnessCrResponse

/-- The entries have types of their map. -/
structure WellTyped (config : SokFmConfig) : Prop where
  broadcast : ∀ id conf, config.mAuthBroadcastConfig.lookup id = some conf →
    IsBroadcastType conf.type
  challenge : ∀ id conf, config.mChallengesConfig.lookup id = some conf →
    IsChallengeType conf.type

theorem wellTyped_default : WellTyped default := by
  constructor
  · intro id conf hlookup
    cases hlookup
  · intro id conf hlookup
    cases hlookup

/-- What `Parse` accepts is well typed. -/
theorem Parsed.wellTyped (hparsed : Parsed doc config config') (hbefore : WellTyped config) :
    WellTyped config' := by
  constructor
  · intro id conf hlookup
    obtain ⟨elements, harray, hemplaced⟩ := hparsed.mAuthBroadcastConfig
    rcases hemplaced.origin id conf hlookup with hold | ⟨element, hmem, hread⟩
    · exact hbefore.broadcast id conf hold
    · have hproperties : Json.Schema.properties Schema.authBrConfig element = true :=
        properties_of_arrayAt hparsed.schema harray (by simp [Schema.documentProperties]) hmem
      obtain ⟨_, -, hread⟩ := exists_of_bind_ok hread
      obtain ⟨type, htype, hread⟩ := exists_of_bind_ok hread
      obtain ⟨_, -, hread⟩ := exists_of_bind_ok hread
      obtain ⟨_, -, hread⟩ := exists_of_bind_ok hread
      cases hread
      have henum := stringAt_of_enum hproperties htype
        (List.mem_cons_of_mem _ List.mem_cons_self) (by decide)
      simp only [List.mem_cons, List.not_mem_nil, or_false] at henum
      rcases henum with rfl | rfl | rfl
      · exact Or.inl rfl
      · exact Or.inr (Or.inl rfl)
      · exact Or.inr (Or.inr rfl)
  · intro id conf hlookup
    obtain ⟨elements, harray, hemplaced⟩ := hparsed.mChallengesConfig
    rcases hemplaced.origin id conf hlookup with hold | ⟨element, hmem, hread⟩
    · exact hbefore.challenge id conf hold
    · have hproperties : Json.Schema.properties Schema.challengeResponseConfig element = true :=
        properties_of_arrayAt hparsed.schema harray (by simp [Schema.documentProperties]) hmem
      obtain ⟨_, -, hread⟩ := exists_of_bind_ok hread
      obtain ⟨type, htype, hread⟩ := exists_of_bind_ok hread
      obtain ⟨_, -, hread⟩ := exists_of_bind_ok hread
      cases hread
      have henum := stringAt_of_enum hproperties htype
        (List.mem_cons_of_mem _ List.mem_cons_self) (by decide)
      simp only [List.mem_cons, List.not_mem_nil, or_false] at henum
      rcases henum with rfl | rfl
      · exact Or.inl rfl
      · exact Or.inr rfl

/-- The same configuration, with the entries of its maps in any order. -/
structure Reordered (config config' : SokFmConfig) : Prop where
  mAuthBroadcastConfig :
    config.mAuthBroadcastConfig.entries.Perm config'.mAuthBroadcastConfig.entries
  mChallengesConfig : config.mChallengesConfig.entries.Perm config'.mChallengesConfig.entries
  mKeyConfig : config.mKeyConfig.entries.Perm config'.mKeyConfig.entries
  mFmServerClientsConfig :
    config.mFmServerClientsConfig.entries.Perm config'.mFmServerClientsConfig.entries
  others : config' = { config with
    mAuthBroadcastConfig := config'.mAuthBroadcastConfig
    mChallengesConfig := config'.mChallengesConfig
    mKeyConfig := config'.mKeyConfig
    mFmServerClientsConfig := config'.mFmServerClientsConfig }

theorem Reordered.refl (config : SokFmConfig) : Reordered config config :=
  ⟨.refl _, .refl _, .refl _, .refl _, rfl⟩

/-- The order is nothing to the types. -/
theorem WellTyped.of_reordered (htyped : WellTyped config) (hsame : Reordered config config') :
    WellTyped config' := by
  constructor
  · intro id conf hlookup
    rw [← AList.perm_lookup hsame.mAuthBroadcastConfig] at hlookup
    exact htyped.broadcast id conf hlookup
  · intro id conf hlookup
    rw [← AList.perm_lookup hsame.mChallengesConfig] at hlookup
    exact htyped.challenge id conf hlookup

/-! ## Documents on concrete inputs -/

/-- A signal, by its name. -/
def signalDocument (name : String) : Json := .object
  [("frame_config", .object
    [("name", .string "FRAME"), ("frame_max_payload_size", .integer 64),
      ("source_ip", .string "10.0.0.1"), ("destination_ip", .string "10.0.0.2"),
      ("source_port", .integer 1), ("destination_port", .integer 2)]),
    ("pdu_config", .object
    [("name", .string "PDU"), ("pdu_id", .integer 1), ("length_bytes", .integer 16)]),
    ("signal_config", .object
    [("name", .string name), ("start_byte", .integer 0), ("length_in_bits", .integer 64)])]

/-- An element of `auth_br_config`. -/
def broadcastElement (fvId : Int) (type : String) (bits : Int) : Json := .object
  [("fv_id", .integer fvId), ("sok_freshness_type", .string type), ("pdu_id", .integer 0),
    ("session_counter_length_bits", .integer bits)]

/-- An element of `challenge_response_config`. -/
def challengeElement (fvId : Int) (type signal : String) : Json := .object
  [("fv_id", .integer fvId), ("challenge_type", .string type), ("signal", signalDocument signal)]

/-- A document with these entries, and without keys and clients. -/
def documentOf (broadcast challenges : List Json) : Json := .object
  [("version", .integer 1), ("network_interface", .string "eth0"), ("ecu_name", .string "SINK"),
    ("ecu_key_id_auth_fv", .integer 123), ("auth_br_config", .array broadcast),
    ("challenge_response_config", .array challenges),
    ("unauthenticated_fv_signal_config", signalDocument "SOK_Zeit"),
    ("authenticated_fv_value_signal_config", signalDocument "SOK_Zeit_SINK_Zeit"),
    ("authenticated_fv_signature_signal_config", signalDocument "SOK_Zeit_SINK_Signatur"),
    ("authenticated_fv_value_challenge_config", signalDocument "SOK_Zeit_SINK_Challenge"),
    ("key_config", .array []), ("clients_signals_config", .array [])]

/-- The configuration that a fresh parser makes of a document. -/
def configurationOf (doc : Json) : SokFmConfig :=
  match parse (fun _ => some doc) construct "document" default with
  | .ok ret => ret.2.2
  | .error _ => default

theorem parse_eq_configurationOf {doc : Json}
    (hparse : (parse (fun _ => some doc) construct "document" default).map Prod.fst = .ok true) :
    parse (fun _ => some doc) construct "document" default =
      .ok (true, { mSchema := true }, configurationOf doc) := by
  unfold configurationOf
  cases hret : parse (fun _ => some doc) construct "document" default with
  | error misuse =>
    rw [hret] at hparse
    cases hparse
  | ok ret =>
    obtain ⟨succeeded, self, config⟩ := ret
    rw [hret] at hparse
    cases Except.ok.inj hparse
    obtain ⟨-, -, hschema, -⟩ := parse_eq_true hret
    cases self
    cases hschema
    rfl

end FvmConfigParser

end Sok.Fvm
