import SokFvm.Fvm.ConfigParser
import SokFvm.Library.Verdict

/-!
# What `Parse` asks of a document

The schema is not all that `Parse` asks of a document.  A number that is read has to fit
into 32 bits, an element of an array has to be an object, and no key may occur twice in
an array.  The first two are the assertions of the library, the third one is tested, by
`emplace`.

`Parse` stops at the first key that occurs twice, and nothing behind it is read.  So
`FitsInOrder` asks for the numbers of what stands before it only, and `KeysDistinct` is
what is tested.  `decides_parse` is how a fresh parser decides.
-/

namespace Sok.Fvm

open Sok.Common Verdict

namespace FvmConfigParser

open Json (exists_of_bind_ok bind_eq_ok_iff untilNull)
open Json.Schema

/-! ## The readers -/

variable {json object doc element : Json} {name : String}

theorem uintAt_eq_ok_iff {n : UInt32} :
    uintAt json name = .ok n ↔ json.get name = .ok (.integer n.toNat) := by
  unfold uintAt
  rw [bind_eq_ok_iff]
  constructor
  · intro hread
    obtain ⟨value, hget, hvalue⟩ := hread
    rw [hget, Json.getUint_eq_ok_iff.mp hvalue]
  · intro hget
    exact ⟨_, hget, Json.getUint_eq_ok_iff.mpr rfl⟩

theorem stringAt_eq_ok_iff {s : String} :
    stringAt json name = .ok s ↔ ∃ text, json.get name = .ok (.string text) ∧
      s = untilNull text := by
  unfold stringAt
  rw [bind_eq_ok_iff]
  constructor
  · intro hread
    obtain ⟨value, hget, hvalue⟩ := hread
    obtain ⟨text, rfl, hs⟩ := Json.getString_eq_ok_iff.mp hvalue
    exact ⟨text, hget, hs⟩
  · intro htext
    obtain ⟨text, hget, hs⟩ := htext
    exact ⟨_, hget, Json.getString_eq_ok_iff.mpr ⟨text, rfl, hs⟩⟩

theorem arrayAt_eq_ok_iff {elements : List Json} :
    arrayAt json name = .ok elements ↔ json.get name = .ok (.array elements) := by
  unfold arrayAt
  rw [bind_eq_ok_iff]
  constructor
  · intro hread
    obtain ⟨value, hget, hvalue⟩ := hread
    rw [hget, Json.eq_array_of_getArray hvalue]
  · intro hget
    exact ⟨_, hget, rfl⟩

theorem objectAt_eq_ok_iff :
    objectAt json name = .ok object ↔ json.get name = .ok object ∧ object.isObject = true := by
  unfold objectAt
  rw [bind_eq_ok_iff]
  constructor
  · intro hread
    obtain ⟨value, hget, hvalue⟩ := hread
    obtain ⟨rfl, hobject⟩ := Json.getObject_eq_ok_iff.mp hvalue
    exact ⟨hget, hobject⟩
  · intro hobject
    exact ⟨_, hobject.1, Json.getObject_eq_ok_iff.mpr ⟨rfl, hobject.2⟩⟩

/-! ## What the schema grants the readers -/

variable {schemas : List (String × Json.Schema)} {schema : Json.Schema}

/-- An object whose members meet their schemas. -/
structure Granted (schemas : List (String × Json.Schema)) (json : Json) : Prop where
  properties : properties schemas json = true
  required : required (schemas.map Prod.fst) json = true

theorem granted_of_requiredProperties
    (hschema : Schema.requiredProperties schemas json = true) : Granted schemas json where
  properties := of_all hschema (by simp)
  required := of_all hschema (by simp)

theorem granted_of_objectOf (hschema : Schema.objectOf schemas json = true) :
    Granted schemas json ∧ json.isObject = true := by
  have hobject : typeObject json = true := of_all hschema List.mem_cons_self
  exact ⟨granted_of_requiredProperties (of_all hschema (by simp)), hobject⟩

theorem granted_of_arrayOf {elements : List Json}
    (hschema : Schema.arrayOf schemas (.array elements) = true) (hmem : element ∈ elements) :
    Granted schemas element := by
  have hitem := of_items (of_all hschema (List.mem_cons_of_mem _ List.mem_cons_self)) rfl hmem
  exact granted_of_requiredProperties (of_all hitem (by simp))

/-- A member of an object is there and meets its schema. -/
theorem Granted.member (hgranted : Granted schemas json) (hobject : json.isObject = true)
    (hname : (name, schema) ∈ schemas) :
    ∃ value, json.get name = .ok value ∧ schema value = true := by
  have hmem : name ∈ schemas.map Prod.fst := List.mem_map.mpr ⟨_, hname, rfl⟩
  obtain ⟨value, hget⟩ := exists_get_of_required hgranted.required hobject hmem
  exact ⟨value, hget, of_properties hgranted.properties hget hname⟩

theorem Granted.exists_stringAt (hgranted : Granted schemas json)
    (hobject : json.isObject = true) (hname : (name, typeString) ∈ schemas) :
    ∃ s, stringAt json name = .ok s := by
  obtain ⟨value, hget, hvalue⟩ := hgranted.member hobject hname
  obtain ⟨text, rfl⟩ := exists_of_typeString hvalue
  exact ⟨_, stringAt_eq_ok_iff.mpr ⟨text, hget, rfl⟩⟩

theorem Granted.exists_stringAt_of_enum {values : List String} (hgranted : Granted schemas json)
    (hobject : json.isObject = true) (hname : (name, enum values) ∈ schemas) :
    ∃ s, stringAt json name = .ok s := by
  obtain ⟨value, hget, hvalue⟩ := hgranted.member hobject hname
  obtain ⟨text, rfl, -⟩ := exists_of_enum hvalue
  exact ⟨_, stringAt_eq_ok_iff.mpr ⟨text, hget, rfl⟩⟩

/-- A number that the schema bounds by 16 bits. -/
theorem Granted.exists_uintAt (hgranted : Granted schemas json)
    (hobject : json.isObject = true) (hname : (name, integerBetween 0 65535) ∈ schemas) :
    ∃ n, uintAt json name = .ok n := by
  obtain ⟨value, hget, hvalue⟩ := hgranted.member hobject hname
  obtain ⟨n, rfl, hlow, hhigh⟩ := exists_of_integerBetween hvalue
  refine ⟨UInt32.ofNat n.toNat, uintAt_eq_ok_iff.mpr ?_⟩
  have hlt : n.toNat < UInt32.size := (Int.toNat_lt hlow).mpr (by
    show n < 4294967296
    omega)
  rw [hget, UInt32.toNat_ofNat_of_lt' hlt, Int.toNat_of_nonneg hlow]

/-- What the schema does not grant: the number fits into 32 bits. -/
def Fits (json : Json) (name : String) : Prop :=
  ∃ n : UInt32, json.get name = .ok (.integer n.toNat)

theorem exists_uintAt_iff : (∃ n, uintAt json name = .ok n) ↔ Fits json name :=
  exists_congr fun _ => uintAt_eq_ok_iff

theorem Fits.isObject (hfits : Fits json name) : json.isObject = true := by
  obtain ⟨n, hget⟩ := hfits
  exact Json.isObject_of_get hget

/-! ## A signal -/

/-- What is read of `frame_config`. -/
structure ReadsFrame (frame : Json) (config : FrameConfig) : Prop where
  maxPayloadSizeBytes : (uintAt frame "frame_max_payload_size").map UInt32.toUInt16 =
    .ok config.maxPayloadSizeBytes
  name : stringAt frame "name" = .ok config.name
  destinationIp : stringAt frame "destination_ip" = .ok config.destinationIp
  destinationPort :
    (uintAt frame "destination_port").map UInt32.toUInt16 = .ok config.destinationPort
  sourceIp : stringAt frame "source_ip" = .ok config.sourceIp
  sourcePort : (uintAt frame "source_port").map UInt32.toUInt16 = .ok config.sourcePort

/-- What is read of a signal. -/
structure ReadsSignal (object : Json) (config : SignalConfig) : Prop where
  frame : ∃ frame, objectAt object "frame_config" = .ok frame ∧
    ReadsFrame frame config.pduConfig.frameConfig
  pdu : ∃ pdu, objectAt object "pdu_config" = .ok pdu ∧
    stringAt pdu "name" = .ok config.pduConfig.name ∧
    uintAt pdu "pdu_id" = .ok config.pduConfig.id ∧
    uintAt pdu "length_bytes" = .ok config.pduConfig.lengthBytes
  signal : ∃ signal, objectAt object "signal_config" = .ok signal ∧
    stringAt signal "name" = .ok config.name ∧
    uintAt signal "length_in_bits" = .ok config.lengthInBits ∧
    uintAt signal "start_byte" = .ok config.startByte

theorem readsSignal_of_fetchSignalConfig {config : SignalConfig}
    (hfetch : fetchSignalConfig object = .ok config) : ReadsSignal object config := by
  obtain ⟨frame, hframe, hfetch⟩ := exists_of_bind_ok hfetch
  obtain ⟨maxPayloadSizeBytes, hmax, hfetch⟩ := exists_of_bind_ok hfetch
  obtain ⟨frameName, hframeName, hfetch⟩ := exists_of_bind_ok hfetch
  obtain ⟨destinationIp, hdestinationIp, hfetch⟩ := exists_of_bind_ok hfetch
  obtain ⟨destinationPort, hdestinationPort, hfetch⟩ := exists_of_bind_ok hfetch
  obtain ⟨sourceIp, hsourceIp, hfetch⟩ := exists_of_bind_ok hfetch
  obtain ⟨sourcePort, hsourcePort, hfetch⟩ := exists_of_bind_ok hfetch
  obtain ⟨pdu, hpdu, hfetch⟩ := exists_of_bind_ok hfetch
  obtain ⟨pduName, hpduName, hfetch⟩ := exists_of_bind_ok hfetch
  obtain ⟨pduId, hpduId, hfetch⟩ := exists_of_bind_ok hfetch
  obtain ⟨lengthBytes, hlengthBytes, hfetch⟩ := exists_of_bind_ok hfetch
  obtain ⟨signal, hsignal, hfetch⟩ := exists_of_bind_ok hfetch
  obtain ⟨signalName, hsignalName, hfetch⟩ := exists_of_bind_ok hfetch
  obtain ⟨lengthInBits, hlengthInBits, hfetch⟩ := exists_of_bind_ok hfetch
  obtain ⟨startByte, hstartByte, hfetch⟩ := exists_of_bind_ok hfetch
  cases hfetch
  refine ⟨⟨frame, hframe, ?_⟩, ⟨pdu, hpdu, hpduName, hpduId, hlengthBytes⟩,
    ⟨signal, hsignal, hsignalName, hlengthInBits, hstartByte⟩⟩
  exact {
    maxPayloadSizeBytes := by rw [hmax]; rfl
    name := hframeName
    destinationIp := hdestinationIp
    destinationPort := by rw [hdestinationPort]; rfl
    sourceIp := hsourceIp
    sourcePort := by rw [hsourcePort]; rfl }

/-- The numbers of a signal that the schema does not bound. -/
structure FitsSignal (object : Json) : Prop where
  pdu : ∃ pdu, object.get "pdu_config" = .ok pdu ∧ Fits pdu "pdu_id" ∧ Fits pdu "length_bytes"
  signal : ∃ signal, object.get "signal_config" = .ok signal ∧ Fits signal "length_in_bits" ∧
    Fits signal "start_byte"

theorem exists_fetchSignalConfig_iff (hschema : Schema.completeSignalConfig object = true) :
    (∃ config, fetchSignalConfig object = .ok config) ↔ FitsSignal object := by
  constructor
  · intro hread
    obtain ⟨config, hfetch⟩ := hread
    obtain ⟨-, ⟨pdu, hpdu, -, hid, hlength⟩, ⟨signal, hsignal, -, hbits, hstart⟩⟩ :=
      readsSignal_of_fetchSignalConfig hfetch
    exact ⟨⟨pdu, (objectAt_eq_ok_iff.mp hpdu).1, exists_uintAt_iff.mp ⟨_, hid⟩,
        exists_uintAt_iff.mp ⟨_, hlength⟩⟩,
      ⟨signal, (objectAt_eq_ok_iff.mp hsignal).1, exists_uintAt_iff.mp ⟨_, hbits⟩,
        exists_uintAt_iff.mp ⟨_, hstart⟩⟩⟩
  · intro hfits
    obtain ⟨hgranted, hobject⟩ := granted_of_objectOf hschema
    obtain ⟨frame, hframe, hframeSchema⟩ := hgranted.member hobject List.mem_cons_self
    obtain ⟨pdu, hpdu, hpduSchema⟩ :=
      hgranted.member hobject (List.mem_cons_of_mem _ List.mem_cons_self)
    obtain ⟨signal, hsignal, hsignalSchema⟩ := hgranted.member hobject
      (List.mem_cons_of_mem _ (List.mem_cons_of_mem _ List.mem_cons_self))
    obtain ⟨hframeGranted, hframeObject⟩ := granted_of_objectOf hframeSchema
    obtain ⟨hpduGranted, hpduObject⟩ := granted_of_objectOf hpduSchema
    obtain ⟨hsignalGranted, hsignalObject⟩ := granted_of_objectOf hsignalSchema
    obtain ⟨⟨pdu', hpdu', ⟨pduId, hpduId⟩, ⟨lengthBytes, hlengthBytes⟩⟩,
      ⟨signal', hsignal', ⟨lengthInBits, hlengthInBits⟩, ⟨startByte, hstartByte⟩⟩⟩ := hfits
    obtain rfl : pdu = pdu' := Except.ok.inj (hpdu.symm.trans hpdu')
    obtain rfl : signal = signal' := Except.ok.inj (hsignal.symm.trans hsignal')
    obtain ⟨maxPayloadSizeBytes, hmax⟩ : ∃ n, uintAt frame "frame_max_payload_size" = .ok n :=
      hframeGranted.exists_uintAt hframeObject (by simp)
    obtain ⟨frameName, hframeName⟩ : ∃ s, stringAt frame "name" = .ok s :=
      hframeGranted.exists_stringAt hframeObject (by simp)
    obtain ⟨destinationIp, hdestinationIp⟩ : ∃ s, stringAt frame "destination_ip" = .ok s :=
      hframeGranted.exists_stringAt hframeObject (by simp)
    obtain ⟨destinationPort, hdestinationPort⟩ : ∃ n, uintAt frame "destination_port" = .ok n :=
      hframeGranted.exists_uintAt hframeObject (by simp)
    obtain ⟨sourceIp, hsourceIp⟩ : ∃ s, stringAt frame "source_ip" = .ok s :=
      hframeGranted.exists_stringAt hframeObject (by simp)
    obtain ⟨sourcePort, hsourcePort⟩ : ∃ n, uintAt frame "source_port" = .ok n :=
      hframeGranted.exists_uintAt hframeObject (by simp)
    obtain ⟨pduName, hpduName⟩ : ∃ s, stringAt pdu "name" = .ok s :=
      hpduGranted.exists_stringAt hpduObject (by simp)
    obtain ⟨signalName, hsignalName⟩ : ∃ s, stringAt signal "name" = .ok s :=
      hsignalGranted.exists_stringAt hsignalObject (by simp)
    unfold fetchSignalConfig
    simp only [bind_eq_ok_iff]
    exact ⟨_, frame, objectAt_eq_ok_iff.mpr ⟨hframe, hframeObject⟩, _, hmax, _, hframeName,
      _, hdestinationIp, _, hdestinationPort, _, hsourceIp, _, hsourcePort,
      pdu, objectAt_eq_ok_iff.mpr ⟨hpdu, hpduObject⟩, _, hpduName,
      _, uintAt_eq_ok_iff.mpr hpduId, _, uintAt_eq_ok_iff.mpr hlengthBytes,
      signal, objectAt_eq_ok_iff.mpr ⟨hsignal, hsignalObject⟩, _, hsignalName,
      _, uintAt_eq_ok_iff.mpr hlengthInBits, _, uintAt_eq_ok_iff.mpr hstartByte, rfl⟩

/-- The same, of the signal under a name. -/
def FitsSignalAt (json : Json) (name : String) : Prop :=
  ∃ object, json.get name = .ok object ∧ FitsSignal object

theorem exists_signalAt_iff (hgranted : Granted schemas json) (hobject : json.isObject = true)
    (hname : (name, Schema.completeSignalConfig) ∈ schemas) :
    (∃ config, signalAt json name = .ok config) ↔ FitsSignalAt json name := by
  obtain ⟨signal, hget, hschema⟩ := hgranted.member hobject hname
  have hsignal := (granted_of_objectOf hschema).2
  have hat : ∀ config, signalAt json name = .ok config ↔ fetchSignalConfig signal = .ok config := by
    intro config
    unfold signalAt
    rw [objectAt_eq_ok_iff.mpr ⟨hget, hsignal⟩]
    exact Iff.rfl
  unfold FitsSignalAt
  rw [exists_congr hat, exists_fetchSignalConfig_iff hschema, Json.exists_get_iff hget]

/-! ## The elements of the arrays -/

/-- The numbers of an element of `auth_br_config`. -/
structure FitsBroadcast (element : Json) : Prop where
  fvId : Fits element "fv_id"
  pduId : Fits element "pdu_id"
  sessionCounterLength : Fits element "session_counter_length_bits"

theorem exists_readAuthBroadcast_iff (hgranted : Granted Schema.authBrConfig element) :
    (∃ entry, readAuthBroadcast element = .ok entry) ↔ FitsBroadcast element := by
  unfold readAuthBroadcast
  simp only [bind_eq_ok_iff]
  constructor
  · intro hread
    obtain ⟨entry, fvId, hfvId, type, -, pduId, hpduId, length, hlength, -⟩ := hread
    exact ⟨⟨_, uintAt_eq_ok_iff.mp hfvId⟩, ⟨_, uintAt_eq_ok_iff.mp hpduId⟩,
      ⟨_, uintAt_eq_ok_iff.mp hlength⟩⟩
  · intro hfits
    obtain ⟨⟨fvId, hfvId⟩, ⟨pduId, hpduId⟩, ⟨length, hlength⟩⟩ := hfits
    obtain ⟨type, htype⟩ : ∃ s, stringAt element "sok_freshness_type" = .ok s :=
      hgranted.exists_stringAt_of_enum (Json.isObject_of_get hfvId)
        (List.mem_cons_of_mem _ List.mem_cons_self)
    exact ⟨_, _, uintAt_eq_ok_iff.mpr hfvId, _, htype, _, uintAt_eq_ok_iff.mpr hpduId,
      _, uintAt_eq_ok_iff.mpr hlength, rfl⟩

/-- The numbers of an element of `challenge_response_config`. -/
structure FitsChallenge (element : Json) : Prop where
  fvId : Fits element "fv_id"
  signal : FitsSignalAt element "signal"

theorem exists_readChallengeResponse_iff
    (hgranted : Granted Schema.challengeResponseConfig element) :
    (∃ entry, readChallengeResponse element = .ok entry) ↔ FitsChallenge element := by
  unfold readChallengeResponse
  simp only [bind_eq_ok_iff]
  have hsignalAt (hobject : element.isObject = true) :
      (∃ config, signalAt element "signal" = .ok config) ↔ FitsSignalAt element "signal" :=
    exists_signalAt_iff hgranted hobject
      (List.mem_cons_of_mem _ (List.mem_cons_of_mem _ List.mem_cons_self))
  constructor
  · intro hread
    obtain ⟨entry, fvId, hfvId, type, -, signal, hsignal, -⟩ := hread
    have hfits : Fits element "fv_id" := ⟨_, uintAt_eq_ok_iff.mp hfvId⟩
    exact ⟨hfits, (hsignalAt hfits.isObject).mp ⟨_, hsignal⟩⟩
  · intro hfits
    have hobject := hfits.fvId.isObject
    obtain ⟨fvId, hfvId⟩ := exists_uintAt_iff.mpr hfits.fvId
    obtain ⟨signal, hsignal⟩ := (hsignalAt hobject).mpr hfits.signal
    obtain ⟨type, htype⟩ : ∃ s, stringAt element "challenge_type" = .ok s :=
      hgranted.exists_stringAt_of_enum hobject (List.mem_cons_of_mem _ List.mem_cons_self)
    exact ⟨_, _, hfvId, _, htype, _, hsignal, rfl⟩

/-- The numbers of an element of `key_config`. -/
theorem exists_readKey_iff (hgranted : Granted Schema.keyConfig element) :
    (∃ entry, readKey element = .ok entry) ↔ Fits element "fv_id" := by
  unfold readKey
  simp only [bind_eq_ok_iff]
  constructor
  · intro hread
    obtain ⟨entry, fvId, hfvId, -⟩ := hread
    exact ⟨_, uintAt_eq_ok_iff.mp hfvId⟩
  · intro hfits
    obtain ⟨fvId, hfvId⟩ := exists_uintAt_iff.mpr hfits
    obtain ⟨keyId, hkeyId⟩ : ∃ n, uintAt element "key_id" = .ok n :=
      hgranted.exists_uintAt hfits.isObject (List.mem_cons_of_mem _ List.mem_cons_self)
    exact ⟨_, _, hfvId, _, hkeyId, rfl⟩

/-- The numbers of an element of `clients_signals_config`. -/
structure FitsClient (element : Json) : Prop where
  isObject : element.isObject = true
  challenge : FitsSignalAt element "challenge_signal"
  value : FitsSignalAt element "response_value_signal"
  signature : FitsSignalAt element "response_signature_signal"

theorem exists_readClient_iff (hgranted : Granted Schema.clientsSignalsConfig element) :
    (∃ entry, readClient element = .ok entry) ↔ FitsClient element := by
  unfold readClient
  simp only [bind_eq_ok_iff]
  have hsignalAt (hobject : element.isObject = true) {name : String}
      (hname : (name, Schema.completeSignalConfig) ∈ Schema.clientsSignalsConfig) :
      (∃ config, signalAt element name = .ok config) ↔ FitsSignalAt element name :=
    exists_signalAt_iff hgranted hobject hname
  constructor
  · intro hread
    obtain ⟨entry, ecuName, hecuName, keyId, -, challenge, hchallenge, value, hvalue,
      signature, hsignature, -⟩ := hread
    obtain ⟨text, hget, -⟩ := stringAt_eq_ok_iff.mp hecuName
    have hobject := Json.isObject_of_get hget
    exact ⟨hobject, (hsignalAt hobject (by simp [Schema.clientsSignalsConfig])).mp ⟨_, hchallenge⟩,
      (hsignalAt hobject (by simp [Schema.clientsSignalsConfig])).mp ⟨_, hvalue⟩,
      (hsignalAt hobject (by simp [Schema.clientsSignalsConfig])).mp ⟨_, hsignature⟩⟩
  · intro hfits
    have hobject := hfits.isObject
    obtain ⟨ecuName, hecuName⟩ : ∃ s, stringAt element "client_ecu_name" = .ok s :=
      hgranted.exists_stringAt hobject List.mem_cons_self
    obtain ⟨keyId, hkeyId⟩ : ∃ n, uintAt element "key_id" = .ok n :=
      hgranted.exists_uintAt hobject (List.mem_cons_of_mem _ List.mem_cons_self)
    obtain ⟨challenge, hchallenge⟩ :=
      (hsignalAt hobject (by simp [Schema.clientsSignalsConfig])).mpr hfits.challenge
    obtain ⟨value, hvalue⟩ :=
      (hsignalAt hobject (by simp [Schema.clientsSignalsConfig])).mpr hfits.value
    obtain ⟨signature, hsignature⟩ :=
      (hsignalAt hobject (by simp [Schema.clientsSignalsConfig])).mpr hfits.signature
    exact ⟨_, _, hecuName, _, hkeyId, _, hchallenge, _, hvalue, _, hsignature, rfl⟩

/-! ## The arrays -/

section

variable {κ α : Type} [DecidableEq κ] {read : Json → Except Json.Misuse (κ × α)}
variable {fits : Json → Prop} {key : Json → Except Json.Misuse κ} {elements : List Json}

/-- No two elements have the same key. -/
def DistinctKeys (key : Json → Except Json.Misuse κ) (elements : List Json) : Prop :=
  elements.Pairwise fun a b => key a ≠ key b

/-- The elements up to the first one whose key has occurred before. -/
def FitsUpToRepetition (fits : Json → Prop) (key : Json → Except Json.Misuse κ)
    (elements : List Json) : Prop :=
  ∀ before element after, elements = before ++ element :: after → DistinctKeys key before →
    fits element

/-- The keys are distinct, and none of them is in the map. -/
def NewKeys (key : Json → Except Json.Misuse κ) (map : UnorderedMap κ α)
    (elements : List Json) : Prop :=
  DistinctKeys key elements ∧ ∀ element ∈ elements, ∀ k ∈ map, key element ≠ .ok k

omit [DecidableEq κ] in
theorem newKeys_nil (map : UnorderedMap κ α) : NewKeys key map [] :=
  ⟨List.Pairwise.nil, nofun⟩

theorem mem_emplace {map : UnorderedMap κ α} {k j : κ} {value : α} :
    j ∈ map.emplace k value ↔ j = k ∨ j ∈ map := by
  unfold UnorderedMap.emplace
  by_cases hmem : k ∈ map
  · rw [if_pos hmem]
    refine ⟨Or.inr, ?_⟩
    intro hj
    rcases hj with rfl | hj
    · exact hmem
    · exact hj
  · rw [if_neg hmem]
    exact AList.mem_insert map

/-- The first key is new, and the other ones are new to the map that has it. -/
theorem newKeys_cons_iff {map : UnorderedMap κ α} {k : κ} {value : α}
    (hkey : key element = .ok k) :
    NewKeys key map (element :: elements) ↔
      k ∉ map ∧ NewKeys key (map.emplace k value) elements := by
  unfold NewKeys DistinctKeys
  rw [List.pairwise_cons]
  constructor
  · intro hnew
    obtain ⟨⟨hfirst, hothers⟩, hnew⟩ := hnew
    refine ⟨?_, hothers, ?_⟩
    · intro hmem
      exact hnew element List.mem_cons_self k hmem hkey
    · intro other hother j hj heq
      rcases mem_emplace.mp hj with rfl | hj
      · exact hfirst other hother (hkey.trans heq.symm)
      · exact hnew other (List.mem_cons_of_mem _ hother) j hj heq
  · intro hnew
    obtain ⟨hk, hothers, hnew⟩ := hnew
    refine ⟨⟨?_, hothers⟩, ?_⟩
    · intro other hother heq
      exact hnew other hother k (mem_emplace.mpr (Or.inl rfl)) (heq.symm.trans hkey)
    · intro other hother j hj heq
      rcases List.mem_cons.mp hother with rfl | hother
      · obtain rfl : k = j := Except.ok.inj (hkey.symm.trans heq)
        exact hk hj
      · exact hnew other hother j (mem_emplace.mpr (Or.inr hj)) heq

/-- How the loop over the elements decides. -/
theorem decides_emplaceEach {map : UnorderedMap κ α}
    (hfits : ∀ element ∈ elements, (∃ entry, read element = .ok entry) ↔ fits element)
    (hkey : ∀ element ∈ elements, ∀ entry, read element = .ok entry →
      key element = .ok entry.1) :
    Decides (emplaceEach read elements map)
      (∀ before element after, elements = before ++ element :: after → NewKeys key map before →
        fits element)
      (NewKeys key map elements) := by
  induction elements generalizing map with
  | nil =>
    refine (Decides.accepting map).congr (iff_of_true trivial ?_)
      (iff_of_true trivial (newKeys_nil map))
    intro before element after hsplit
    exact absurd hsplit.symm (List.append_ne_nil_of_right_ne_nil _ (List.cons_ne_nil _ _))
  | cons element elements ih =>
    have hrest : ∀ entry, read element = .ok entry →
        Decides (if entry.1 ∈ map then .ok (false, map)
            else emplaceEach read elements (map.emplace entry.1 entry.2))
          (∀ before other after, elements = before ++ other :: after →
            NewKeys key map (element :: before) → fits other)
          (NewKeys key map (element :: elements)) := by
      intro entry hread
      have hnew (others : List Json) : NewKeys key map (element :: others) ↔
          entry.1 ∉ map ∧ NewKeys key (map.emplace entry.1 entry.2) others :=
        newKeys_cons_iff (hkey element List.mem_cons_self entry hread)
      by_cases hmem : entry.1 ∈ map
      · rw [if_pos hmem]
        refine (Decides.refusing map).congr (iff_of_true trivial ?_) (iff_of_false id ?_)
        · intro before other after _ hkeys
          exact absurd hmem ((hnew before).mp hkeys).1
        · intro hkeys
          exact absurd hmem ((hnew elements).mp hkeys).1
      · rw [if_neg hmem]
        refine (ih (fun other hother => hfits other (List.mem_cons_of_mem _ hother))
          (fun other hother => hkey other (List.mem_cons_of_mem _ hother))).congr ?_ ?_
        · simp only [hnew, hmem, not_false_eq_true, true_and]
        · rw [hnew, and_iff_right hmem]
    refine (Decides.read (hfits element List.mem_cons_self) hrest).congr ?_ Iff.rfl
    constructor
    · intro hboth before other after hsplit hkeys
      cases before with
      | nil =>
        cases hsplit
        exact hboth.1
      | cons first before =>
        cases hsplit
        exact hboth.2 before other after rfl hkeys
    · intro hall
      refine ⟨hall [] element elements rfl (newKeys_nil map), ?_⟩
      intro before other after hsplit hkeys
      exact hall (element :: before) other after (by rw [hsplit]; rfl) hkeys

/-- The elements of the array under a name fit, up to a repetition. -/
def ArrayFits (doc : Json) (name : String) (fits : Json → Prop)
    (key : Json → Except Json.Misuse κ) : Prop :=
  ∃ elements, doc.get name = .ok (.array elements) ∧ FitsUpToRepetition fits key elements

/-- The elements of the array under a name have distinct keys. -/
def ArrayDistinct (doc : Json) (name : String) (key : Json → Except Json.Misuse κ) : Prop :=
  ∃ elements, doc.get name = .ok (.array elements) ∧ DistinctKeys key elements

/-- How a part that fills a map decides, if the map is empty. -/
theorem decides_fetchMap {mapOf : SokFmConfig → UnorderedMap κ α}
    {withMap : SokFmConfig → UnorderedMap κ α → SokFmConfig} {config : SokFmConfig}
    (hschema : Schema.fvmConfigSchema doc = true)
    (hname : (name, Schema.arrayOf schemas) ∈ Schema.documentProperties)
    (hempty : mapOf config = ∅)
    (hfits : ∀ element, Granted schemas element →
      ((∃ entry, read element = .ok entry) ↔ fits element))
    (hkey : ∀ element entry, read element = .ok entry → key element = .ok entry.1) :
    Decides (fetchMap read doc name mapOf withMap config) (ArrayFits doc name fits key)
      (ArrayDistinct doc name key) := by
  obtain ⟨hgranted, hobject⟩ := granted_of_objectOf hschema
  obtain ⟨value, hget, harray⟩ := hgranted.member hobject hname
  have htype : typeArray value = true := of_all harray List.mem_cons_self
  obtain ⟨elements, rfl⟩ := exists_of_typeArray htype
  have hnew (others : List Json) : NewKeys key (mapOf config) others ↔ DistinctKeys key others := by
    unfold NewKeys
    rw [hempty, and_iff_left]
    intro other _ k hk
    exact absurd hk (AList.notMem_empty k)
  have hloop : Decides (emplaceEach read elements (mapOf config)) _ _ := decides_emplaceEach
    (fun element hmem => hfits element (granted_of_arrayOf harray hmem))
    (fun element _ => hkey element)
  unfold fetchMap
  rw [arrayAt_eq_ok_iff.mpr hget]
  refine (hloop.map (withMap config)).congr ?_ ?_
  · unfold ArrayFits FitsUpToRepetition
    rw [Json.exists_get_array_iff hget]
    simp only [hnew]
  · unfold ArrayDistinct
    rw [Json.exists_get_array_iff hget, hnew]

end

/-! ## The document -/

/-- The numbers of the four distribution signals. -/
structure FitsDistributionSignals (doc : Json) : Prop where
  unAuth : FitsSignalAt doc "unauthenticated_fv_signal_config"
  challenge : FitsSignalAt doc "authenticated_fv_value_challenge_config"
  value : FitsSignalAt doc "authenticated_fv_value_signal_config"
  signature : FitsSignalAt doc "authenticated_fv_signature_signal_config"

/-- The key of an element of the arrays of freshness values. -/
def fvIdOf (element : Json) : Except Json.Misuse SokFreshnessValueId := uintAt element "fv_id"

/-- The key of an element of `clients_signals_config`. -/
def clientEcuNameOf (element : Json) : Except Json.Misuse String :=
  stringAt element "client_ecu_name"

theorem fvIdOf_of_readAuthBroadcast {entry : SokFreshnessValueId × SokFvConfigInstance}
    (hread : readAuthBroadcast element = .ok entry) : fvIdOf element = .ok entry.1 := by
  obtain ⟨fvId, hfvId, hread⟩ := exists_of_bind_ok hread
  obtain ⟨_, -, hread⟩ := exists_of_bind_ok hread
  obtain ⟨_, -, hread⟩ := exists_of_bind_ok hread
  obtain ⟨_, -, hread⟩ := exists_of_bind_ok hread
  cases hread
  exact hfvId

theorem fvIdOf_of_readChallengeResponse {entry : SokFreshnessValueId × ChallengeConfigInstance}
    (hread : readChallengeResponse element = .ok entry) : fvIdOf element = .ok entry.1 := by
  obtain ⟨fvId, hfvId, hread⟩ := exists_of_bind_ok hread
  obtain ⟨_, -, hread⟩ := exists_of_bind_ok hread
  obtain ⟨_, -, hread⟩ := exists_of_bind_ok hread
  cases hread
  exact hfvId

theorem fvIdOf_of_readKey {entry : SokFreshnessValueId × UInt16}
    (hread : readKey element = .ok entry) : fvIdOf element = .ok entry.1 := by
  obtain ⟨fvId, hfvId, hread⟩ := exists_of_bind_ok hread
  obtain ⟨_, -, hread⟩ := exists_of_bind_ok hread
  cases hread
  exact hfvId

theorem clientEcuNameOf_of_readClient {entry : String × SokFvClientConfigArrayInstance}
    (hread : readClient element = .ok entry) : clientEcuNameOf element = .ok entry.1 := by
  obtain ⟨ecuName, hecuName, hread⟩ := exists_of_bind_ok hread
  obtain ⟨_, -, hread⟩ := exists_of_bind_ok hread
  obtain ⟨_, -, hread⟩ := exists_of_bind_ok hread
  obtain ⟨_, -, hread⟩ := exists_of_bind_ok hread
  obtain ⟨_, -, hread⟩ := exists_of_bind_ok hread
  cases hread
  exact hecuName

/-- What is read of the document fits: each array up to a repetition, and what stands behind
an array only if the array has none. -/
def FitsInOrder (doc : Json) : Prop :=
  ArrayFits doc "auth_br_config" FitsBroadcast fvIdOf ∧
  (ArrayDistinct doc "auth_br_config" fvIdOf →
    ArrayFits doc "challenge_response_config" FitsChallenge fvIdOf ∧
    (ArrayDistinct doc "challenge_response_config" fvIdOf →
      FitsDistributionSignals doc ∧
      ArrayFits doc "key_config" (Fits · "fv_id") fvIdOf ∧
      (ArrayDistinct doc "key_config" fvIdOf →
        ArrayFits doc "clients_signals_config" FitsClient clientEcuNameOf)))

/-- No key occurs twice in an array. -/
structure KeysDistinct (doc : Json) : Prop where
  broadcast : ArrayDistinct doc "auth_br_config" fvIdOf
  challenge : ArrayDistinct doc "challenge_response_config" fvIdOf
  key : ArrayDistinct doc "key_config" fvIdOf
  client : ArrayDistinct doc "clients_signals_config" clientEcuNameOf

variable {config : SokFmConfig}

theorem decides_fetchGeneralConfigurations (hschema : Schema.fvmConfigSchema doc = true) :
    Decides (fetchGeneralConfigurations doc config) True True := by
  obtain ⟨hgranted, hobject⟩ := granted_of_objectOf hschema
  obtain ⟨ecuName, hecuName⟩ : ∃ s, stringAt doc "ecu_name" = .ok s :=
    hgranted.exists_stringAt hobject (by simp [Schema.documentProperties])
  obtain ⟨networkInterface, hinterface⟩ : ∃ s, stringAt doc "network_interface" = .ok s :=
    hgranted.exists_stringAt hobject (by simp [Schema.documentProperties])
  obtain ⟨keyId, hkeyId⟩ : ∃ n, uintAt doc "ecu_key_id_auth_fv" = .ok n :=
    hgranted.exists_uintAt hobject (by simp [Schema.documentProperties])
  unfold fetchGeneralConfigurations
  rw [hecuName, hinterface, hkeyId]
  exact Decides.accepting _

theorem decides_fetchFvDistributionSignalConfigurations
    (hschema : Schema.fvmConfigSchema doc = true) :
    Decides (fetchFvDistributionSignalConfigurations doc config) (FitsDistributionSignals doc)
      True := by
  obtain ⟨hgranted, hobject⟩ := granted_of_objectOf hschema
  have hsignalAt {name : String}
      (hname : (name, Schema.completeSignalConfig) ∈ Schema.documentProperties) :
      (∃ config, signalAt doc name = .ok config) ↔ FitsSignalAt doc name :=
    exists_signalAt_iff hgranted hobject hname
  refine Decides.congr (Decides.read (hsignalAt (by simp [Schema.documentProperties]))
    fun _ _ => Decides.read (hsignalAt (by simp [Schema.documentProperties]))
    fun _ _ => Decides.read (hsignalAt (by simp [Schema.documentProperties]))
    fun _ _ => Decides.read (hsignalAt (by simp [Schema.documentProperties]))
    fun _ _ => Decides.accepting _) ?_ Iff.rfl
  constructor
  · intro hall
    exact ⟨hall.1, hall.2.1, hall.2.2.1, hall.2.2.2.1⟩
  · intro hfits
    exact ⟨hfits.unAuth, hfits.challenge, hfits.value, hfits.signature, trivial⟩

theorem decides_fetchAuthenticBroadcastConfigurations
    (hschema : Schema.fvmConfigSchema doc = true) (hempty : config.mAuthBroadcastConfig = ∅) :
    Decides (fetchAuthenticBroadcastConfigurations doc config)
      (ArrayFits doc "auth_br_config" FitsBroadcast fvIdOf)
      (ArrayDistinct doc "auth_br_config" fvIdOf) := by
  refine decides_fetchMap hschema (by simp [Schema.documentProperties]) hempty
    (fun _ => exists_readAuthBroadcast_iff) ?_
  intro element entry hread
  exact fvIdOf_of_readAuthBroadcast hread

theorem decides_fetchChallengeResponseConfigurations
    (hschema : Schema.fvmConfigSchema doc = true) (hempty : config.mChallengesConfig = ∅) :
    Decides (fetchChallengeResponseConfigurations doc config)
      (ArrayFits doc "challenge_response_config" FitsChallenge fvIdOf)
      (ArrayDistinct doc "challenge_response_config" fvIdOf) := by
  refine decides_fetchMap hschema (by simp [Schema.documentProperties]) hempty
    (fun _ => exists_readChallengeResponse_iff) ?_
  intro element entry hread
  exact fvIdOf_of_readChallengeResponse hread

theorem decides_fetchKeyConfigurations (hschema : Schema.fvmConfigSchema doc = true)
    (hempty : config.mKeyConfig = ∅) :
    Decides (fetchKeyConfigurations doc config)
      (ArrayFits doc "key_config" (Fits · "fv_id") fvIdOf)
      (ArrayDistinct doc "key_config" fvIdOf) := by
  refine decides_fetchMap hschema (by simp [Schema.documentProperties]) hempty
    (fun _ => exists_readKey_iff) ?_
  intro element entry hread
  exact fvIdOf_of_readKey hread

theorem decides_fetchClientsConfigurations (hschema : Schema.fvmConfigSchema doc = true)
    (hempty : config.mFmServerClientsConfig = ∅) :
    Decides (fetchClientsConfigurations doc config)
      (ArrayFits doc "clients_signals_config" FitsClient clientEcuNameOf)
      (ArrayDistinct doc "clients_signals_config" clientEcuNameOf) := by
  refine decides_fetchMap hschema (by simp [Schema.documentProperties]) hempty
    (fun _ => exists_readClient_iff) ?_
  intro element entry hread
  exact clientEcuNameOf_of_readClient hread

theorem decides_fetchInOrder_cons {fetch : Fetch} {fetches : List Fetch}
    {defined accepts defined' accepts' : Prop} (hfetch : Decides (fetch config) defined accepts)
    (hrest : ∀ between, fetch config = .ok (true, between) →
      Decides (fetchInOrder fetches between) defined' accepts') :
    Decides (fetchInOrder (fetch :: fetches) config) (defined ∧ (accepts → defined'))
      (accepts ∧ accepts') := by
  show Decides (fetch config >>= fun ret =>
    if ret.1 then fetchInOrder fetches ret.2 else .ok (false, id ret.2)) _ _
  exact hfetch.andThen hrest

/-- How the parts decide in their order, from a configuration with empty maps. -/
theorem decides_fetchDocument (hschema : Schema.fvmConfigSchema doc = true) :
    Decides (fetchDocument doc default) (FitsInOrder doc) (KeysDistinct doc) := by
  apply Decides.congr
  · apply decides_fetchInOrder_cons (decides_fetchGeneralConfigurations hschema)
    intro c₁ hgeneral
    obtain ⟨_, _, _, -, -, -, rfl⟩ := fetchGeneralConfigurations_spec hgeneral
    apply decides_fetchInOrder_cons (decides_fetchAuthenticBroadcastConfigurations hschema rfl)
    intro c₂ hbroadcast
    obtain ⟨_, _, -, -, rfl⟩ := fetchMap_spec hbroadcast
    apply decides_fetchInOrder_cons (decides_fetchChallengeResponseConfigurations hschema rfl)
    intro c₃ hchallenge
    obtain ⟨_, _, -, -, rfl⟩ := fetchMap_spec hchallenge
    apply decides_fetchInOrder_cons (decides_fetchFvDistributionSignalConfigurations hschema)
    intro c₄ hsignals
    obtain ⟨_, _, _, _, -, -, -, -, rfl⟩ := fetchFvDistributionSignalConfigurations_spec hsignals
    apply decides_fetchInOrder_cons (decides_fetchKeyConfigurations hschema rfl)
    intro c₅ hkeys
    obtain ⟨_, _, -, -, rfl⟩ := fetchMap_spec hkeys
    apply decides_fetchInOrder_cons (decides_fetchClientsConfigurations hschema rfl)
    intro c₆ _
    exact Decides.accepting c₆
  · simp only [true_and, true_imp_iff, implies_true, and_true]
    exact Iff.rfl
  · rw [true_and, true_and, and_true]
    constructor
    · intro hall
      exact ⟨hall.1, hall.2.1, hall.2.2.1, hall.2.2.2⟩
    · intro hdistinct
      exact ⟨hdistinct.broadcast, hdistinct.challenge, hdistinct.key, hdistinct.client⟩

/-- The version is the one of the schema. -/
def HasVersion (doc : Json) : Prop := doc.get "version" = .ok (.integer 1)

theorem uintAt_version_iff :
    uintAt doc "version" = .ok Schema.schemaVersion ↔ HasVersion doc :=
  uintAt_eq_ok_iff

/-- What is read of a document that meets the schema fits. -/
structure FitsDocument (doc : Json) : Prop where
  version : Fits doc "version"
  parts : HasVersion doc → FitsInOrder doc

/-- A document that meets the schema is one to be accepted. -/
structure Acceptable (doc : Json) : Prop where
  version : HasVersion doc
  keys : KeysDistinct doc

/-- **How a fresh parser decides**, of a document that meets the schema. -/
theorem decides_parse {document : String → Option Json} {text : String} (htext : text ≠ "")
    (hdocument : document text = some doc) (hschema : Schema.fvmConfigSchema doc = true) :
    Decides (parse document construct text default) (FitsDocument doc) (Acceptable doc) := by
  have hobject := (granted_of_objectOf hschema).2
  have hrest : ∀ version, uintAt doc "version" = .ok version →
      Decides (if version ≠ Schema.schemaVersion then
            .ok (false, ({ mSchema := true } : FvmConfigParser), (default : SokFmConfig))
          else fetchDocument doc default >>= fun ret =>
            .ok (ret.1, ({ mSchema := true } : FvmConfigParser), ret.2))
        (HasVersion doc → FitsInOrder doc) (Acceptable doc) := by
    intro version hread
    by_cases hversion : version = Schema.schemaVersion
    · have hhas : HasVersion doc := by
        rw [← uintAt_version_iff, hread, hversion]
      rw [if_neg (not_not.mpr hversion)]
      refine ((decides_fetchDocument hschema).map
        fun c => (({ mSchema := true } : FvmConfigParser), c)).congr ?_ ?_
      · exact ⟨fun hfits _ => hfits, fun hfits => hfits hhas⟩
      · exact ⟨fun hkeys => ⟨hhas, hkeys⟩, fun haccepts => haccepts.keys⟩
    · have hhas : ¬ HasVersion doc := by
        rw [← uintAt_version_iff, hread]
        intro heq
        exact hversion (Except.ok.inj heq)
      rw [if_pos hversion]
      exact (Decides.refusing _).congr (iff_of_true trivial fun h => absurd h hhas)
        (iff_of_false id fun haccepts => hhas haccepts.version)
  unfold parse
  have hfresh : ¬ construct.mSchema = true := by decide
  rw [if_neg htext, if_neg hfresh, hdocument]
  dsimp only
  rw [hobject, hschema]
  refine (Decides.read exists_uintAt_iff hrest).congr ?_ Iff.rfl
  exact ⟨fun hboth => ⟨hboth.1, hboth.2⟩, fun hrange => ⟨hrange.version, hrange.parts⟩⟩

end FvmConfigParser

end Sok.Fvm
