import SokFvm.Fvm.ConfigDocument
import SokFvm.Library.Run
import SokFvm.Library.Pointwise
import Mathlib.Data.List.Perm.Subperm

/-!
# What `Parse` loses

`ConfigWritten` says that a configuration holds what the document says: each field the
value of its member, and each map one entry for each element of its array.  The schema
does not grant it.

* A number is read by `GetUint`, which is defined up to 32 bits.  Most of the numbers have
  a minimum in the schema and no maximum.
* The length of a session counter is converted to eight bits.
* A string is read through a pointer, up to its first null character.

`Plain` is what the last two ask of a document, and `parse_lossless_iff` is the whole
condition.
-/

namespace Sok.Fvm

open Sok.Common StateMachine Verdict

namespace FvmConfigParser

open Json (exists_of_bind_ok untilNull NullFree)
open Json.Schema

variable {json object doc element : Json} {name : String}
variable {schemas : List (String × Json.Schema)}

/-! ## What is written -/

/-- The name that a freshness type has in a document. -/
def freshnessTypeName : SokFreshnessType → String
  | .kVwSokFreshnessValue => "FV"
  | .kVwSokFreshnessValueSessionSender => "FV_SESSION_SENDER"
  | .kVwSokFreshnessValueSessionReceiver => "FV_SESSION_RECEIVER"
  | .kVwSokFreshnessCrChallenge => "CHALLENGE"
  | .kVwSokFreshnessCrResponse => "RESPONSE"
  | _ => ""

/-- The frame is the one that the object describes. -/
structure FrameWritten (frame : Json) (config : FrameConfig) : Prop where
  name : frame.get "name" = .ok (.string config.name)
  maxPayloadSizeBytes :
    frame.get "frame_max_payload_size" = .ok (.integer config.maxPayloadSizeBytes.toNat)
  sourceIp : frame.get "source_ip" = .ok (.string config.sourceIp)
  destinationIp : frame.get "destination_ip" = .ok (.string config.destinationIp)
  sourcePort : frame.get "source_port" = .ok (.integer config.sourcePort.toNat)
  destinationPort : frame.get "destination_port" = .ok (.integer config.destinationPort.toNat)

/-- The signal is the one that the object describes. -/
structure SignalWritten (object : Json) (config : SignalConfig) : Prop where
  frame : ∃ frame, object.get "frame_config" = .ok frame ∧
    FrameWritten frame config.pduConfig.frameConfig
  pdu : ∃ pdu, object.get "pdu_config" = .ok pdu ∧
    pdu.get "name" = .ok (.string config.pduConfig.name) ∧
    pdu.get "pdu_id" = .ok (.integer config.pduConfig.id.toNat) ∧
    pdu.get "length_bytes" = .ok (.integer config.pduConfig.lengthBytes.toNat)
  signal : ∃ signal, object.get "signal_config" = .ok signal ∧
    signal.get "name" = .ok (.string config.name) ∧
    signal.get "start_byte" = .ok (.integer config.startByte.toNat) ∧
    signal.get "length_in_bits" = .ok (.integer config.lengthInBits.toNat)

/-- The signal is the one under a name. -/
def SignalWrittenAt (json : Json) (name : String) (config : SignalConfig) : Prop :=
  ∃ object, json.get name = .ok object ∧ SignalWritten object config

/-- The entry is the one that an element of `auth_br_config` describes. -/
structure BroadcastWritten (element : Json) (id : SokFreshnessValueId)
    (config : SokFvConfigInstance) : Prop where
  fvId : element.get "fv_id" = .ok (.integer id.toNat)
  type : element.get "sok_freshness_type" = .ok (.string (freshnessTypeName config.type))
  pduId : element.get "pdu_id" = .ok (.integer config.pduId.toNat)
  sessionCounterLength :
    element.get "session_counter_length_bits" = .ok (.integer config.sessionCounterLength.toNat)

/-- The entry is the one that an element of `challenge_response_config` describes. -/
structure ChallengeWritten (element : Json) (id : SokFreshnessValueId)
    (config : ChallengeConfigInstance) : Prop where
  fvId : element.get "fv_id" = .ok (.integer id.toNat)
  type : element.get "challenge_type" = .ok (.string (freshnessTypeName config.type))
  challengeSignalConfig : SignalWrittenAt element "signal" config.challengeSignalConfig

/-- The entry is the one that an element of `key_config` describes. -/
structure KeyWritten (element : Json) (id : SokFreshnessValueId) (keyId : UInt16) : Prop where
  fvId : element.get "fv_id" = .ok (.integer id.toNat)
  keyId : element.get "key_id" = .ok (.integer keyId.toNat)

/-- The entry is the one that an element of `clients_signals_config` describes. -/
structure ClientWritten (element : Json) (clientEcuName : String)
    (config : SokFvClientConfigArrayInstance) : Prop where
  clientEcuName : element.get "client_ecu_name" = .ok (.string clientEcuName)
  keyId : element.get "key_id" = .ok (.integer config.keyId.toNat)
  clientChallengeSignal :
    SignalWrittenAt element "challenge_signal" config.clientChallengeSignal
  clientResponseValueSignal :
    SignalWrittenAt element "response_value_signal" config.clientResponseValueSignal
  clientResponseSignatureSignal :
    SignalWrittenAt element "response_signature_signal" config.clientResponseSignatureSignal

/-- The map has exactly one entry for each element, under the key of the element. -/
def OneEach {κ α : Type} (written : Json → κ → α → Prop) (elements : List Json)
    (map : UnorderedMap κ α) : Prop :=
  ∃ entries : List (Σ _ : κ, α),
    List.Forall₂ (fun element entry => written element entry.1 entry.2) elements entries ∧
      map.entries.Perm entries

/-- The same, of the array under a name. -/
def ArrayWritten {κ α : Type} (doc : Json) (name : String) (written : Json → κ → α → Prop)
    (map : UnorderedMap κ α) : Prop :=
  ∃ elements, doc.get name = .ok (.array elements) ∧ OneEach written elements map

/-- The configuration is the one that the document describes. -/
structure ConfigWritten (doc : Json) (config : SokFmConfig) : Prop where
  mEcuName : doc.get "ecu_name" = .ok (.string config.mEcuName)
  mNetworkInterface : doc.get "network_interface" = .ok (.string config.mNetworkInterface)
  mKeyIdForAuthFvDistribution :
    doc.get "ecu_key_id_auth_fv" = .ok (.integer config.mKeyIdForAuthFvDistribution.toNat)
  mAuthBroadcastConfig :
    ArrayWritten doc "auth_br_config" BroadcastWritten config.mAuthBroadcastConfig
  mChallengesConfig :
    ArrayWritten doc "challenge_response_config" ChallengeWritten config.mChallengesConfig
  mUnAuthFvDistributionSignal :
    SignalWrittenAt doc "unauthenticated_fv_signal_config" config.mUnAuthFvDistributionSignal
  mAuthFvChallengeSignal :
    SignalWrittenAt doc "authenticated_fv_value_challenge_config" config.mAuthFvChallengeSignal
  mAuthFvValueSignal :
    SignalWrittenAt doc "authenticated_fv_value_signal_config" config.mAuthFvValueSignal
  mAuthFvSignatureSignal :
    SignalWrittenAt doc "authenticated_fv_signature_signal_config" config.mAuthFvSignatureSignal
  mKeyConfig : ArrayWritten doc "key_config" KeyWritten config.mKeyConfig
  mFmServerClientsConfig :
    ArrayWritten doc "clients_signals_config" ClientWritten config.mFmServerClientsConfig

/-! ## What is not lost -/

/-- The string under a name has no null characters. -/
def PlainAt (json : Json) (name : String) : Prop :=
  ∃ text, json.get name = .ok (.string text) ∧ NullFree text

/-- The strings of a signal. -/
structure PlainSignal (object : Json) : Prop where
  frame : ∃ frame, object.get "frame_config" = .ok frame ∧ PlainAt frame "name" ∧
    PlainAt frame "source_ip" ∧ PlainAt frame "destination_ip"
  pdu : ∃ pdu, object.get "pdu_config" = .ok pdu ∧ PlainAt pdu "name"
  signal : ∃ signal, object.get "signal_config" = .ok signal ∧ PlainAt signal "name"

/-- The strings of the signal under a name. -/
def PlainSignalAt (json : Json) (name : String) : Prop :=
  ∃ object, json.get name = .ok object ∧ PlainSignal object

/-- The length of the session counter fits into eight bits. -/
def ShortCounter (element : Json) : Prop :=
  ∃ n : UInt8, element.get "session_counter_length_bits" = .ok (.integer n.toNat)

/-- The strings of an element of `clients_signals_config`. -/
structure PlainClient (element : Json) : Prop where
  clientEcuName : PlainAt element "client_ecu_name"
  challenge : PlainSignalAt element "challenge_signal"
  value : PlainSignalAt element "response_value_signal"
  signature : PlainSignalAt element "response_signature_signal"

/-- Every element of the array under a name has a property. -/
def EachAt (doc : Json) (name : String) (plain : Json → Prop) : Prop :=
  ∃ elements, doc.get name = .ok (.array elements) ∧ ∀ element ∈ elements, plain element

/-- No string that is read has a null character, and every length of a session counter fits
into eight bits. -/
structure Plain (doc : Json) : Prop where
  ecuName : PlainAt doc "ecu_name"
  networkInterface : PlainAt doc "network_interface"
  broadcast : EachAt doc "auth_br_config" ShortCounter
  challenges : EachAt doc "challenge_response_config" (PlainSignalAt · "signal")
  unAuth : PlainSignalAt doc "unauthenticated_fv_signal_config"
  challenge : PlainSignalAt doc "authenticated_fv_value_challenge_config"
  value : PlainSignalAt doc "authenticated_fv_value_signal_config"
  signature : PlainSignalAt doc "authenticated_fv_signature_signal_config"
  clients : EachAt doc "clients_signals_config" PlainClient

/-! ## One field -/

/-- A string that was read is the one that is written if and only if it is plain. -/
theorem get_eq_string_iff {s : String} (hread : stringAt json name = .ok s) :
    json.get name = .ok (.string s) ↔ PlainAt json name := by
  obtain ⟨text, hget, rfl⟩ := stringAt_eq_ok_iff.mp hread
  constructor
  · intro hwritten
    exact ⟨_, hwritten, Json.nullFree_untilNull text⟩
  · intro hplain
    obtain ⟨text', hget', hfree⟩ := hplain
    obtain rfl : text = text' := by
      cases hget.symm.trans hget'
      rfl
    rw [Json.untilNull_eq_self_iff.mpr hfree]
    exact hget

/-- A number of 16 bits by the schema is converted without loss. -/
theorem get_eq_integer_of_schema {n : UInt16} (hgranted : Granted schemas json)
    (hname : (name, integerBetween 0 65535) ∈ schemas)
    (hread : (uintAt json name).map UInt32.toUInt16 = .ok n) :
    json.get name = .ok (.integer n.toNat) := by
  obtain ⟨m, hm, hn⟩ := exists_of_map_ok hread
  have hget := uintAt_eq_ok_iff.mp hm
  obtain ⟨k, hk, -, hhigh⟩ :=
    exists_of_integerBetween (of_properties hgranted.properties hget hname)
  have hsmall : m.toNat < 2 ^ 16 := by
    cases hk
    omega
  rw [hget, ← hn, UInt32.toNat_toUInt16, Nat.mod_eq_of_lt hsmall]

/-! ## A signal -/

theorem frameWritten_iff {config : FrameConfig}
    (hgranted : Granted
      [("name", typeString), ("frame_max_payload_size", integerBetween 0 65535),
        ("source_ip", typeString), ("destination_ip", typeString),
        ("source_port", integerBetween 0 65535), ("destination_port", integerBetween 0 65535)]
      object)
    (hreads : ReadsFrame object config) :
    FrameWritten object config ↔ PlainAt object "name" ∧ PlainAt object "source_ip" ∧
      PlainAt object "destination_ip" := by
  rw [← get_eq_string_iff hreads.name, ← get_eq_string_iff hreads.sourceIp,
    ← get_eq_string_iff hreads.destinationIp]
  constructor
  · intro hwritten
    exact ⟨hwritten.name, hwritten.sourceIp, hwritten.destinationIp⟩
  · intro hstrings
    obtain ⟨hname, hsourceIp, hdestinationIp⟩ := hstrings
    exact {
      name := hname
      maxPayloadSizeBytes :=
        get_eq_integer_of_schema hgranted (by simp) hreads.maxPayloadSizeBytes
      sourceIp := hsourceIp
      destinationIp := hdestinationIp
      sourcePort := get_eq_integer_of_schema hgranted (by simp) hreads.sourcePort
      destinationPort := get_eq_integer_of_schema hgranted (by simp) hreads.destinationPort }

/-- Of a signal that was read, only strings can be lost. -/
theorem signalWritten_iff {config : SignalConfig}
    (hschema : Schema.completeSignalConfig object = true)
    (hreads : ReadsSignal object config) : SignalWritten object config ↔ PlainSignal object := by
  obtain ⟨hgranted, hobject⟩ := granted_of_objectOf hschema
  obtain ⟨⟨frame, hframe, hframeReads⟩, ⟨pdu, hpdu, hpduName, hpduId, hlengthBytes⟩,
    ⟨signal, hsignal, hsignalName, hlengthInBits, hstartByte⟩⟩ := hreads
  have hframeGet := (objectAt_eq_ok_iff.mp hframe).1
  have hpduGet := (objectAt_eq_ok_iff.mp hpdu).1
  have hsignalGet := (objectAt_eq_ok_iff.mp hsignal).1
  have hframeSchema := of_properties hgranted.properties hframeGet List.mem_cons_self
  have hframeWritten := frameWritten_iff (granted_of_objectOf hframeSchema).1 hframeReads
  constructor
  · intro hwritten
    have hframeAll := (Json.exists_get_iff hframeGet).mp hwritten.frame
    have hpduAll := (Json.exists_get_iff hpduGet).mp hwritten.pdu
    have hsignalAll := (Json.exists_get_iff hsignalGet).mp hwritten.signal
    exact ⟨⟨frame, hframeGet, hframeWritten.mp hframeAll⟩,
      ⟨pdu, hpduGet, (get_eq_string_iff hpduName).mp hpduAll.1⟩,
      ⟨signal, hsignalGet, (get_eq_string_iff hsignalName).mp hsignalAll.1⟩⟩
  · intro hplain
    have hframePlain := (Json.exists_get_iff hframeGet).mp hplain.frame
    have hpduPlain := (Json.exists_get_iff hpduGet).mp hplain.pdu
    have hsignalPlain := (Json.exists_get_iff hsignalGet).mp hplain.signal
    exact ⟨⟨frame, hframeGet, hframeWritten.mpr hframePlain⟩,
      ⟨pdu, hpduGet, (get_eq_string_iff hpduName).mpr hpduPlain,
        uintAt_eq_ok_iff.mp hpduId, uintAt_eq_ok_iff.mp hlengthBytes⟩,
      ⟨signal, hsignalGet, (get_eq_string_iff hsignalName).mpr hsignalPlain,
        uintAt_eq_ok_iff.mp hstartByte, uintAt_eq_ok_iff.mp hlengthInBits⟩⟩

/-- The same, of the signal under a name. -/
theorem signalWrittenAt_iff {config : SignalConfig} (hgranted : Granted schemas json)
    (hname : (name, Schema.completeSignalConfig) ∈ schemas)
    (hread : signalAt json name = .ok config) :
    SignalWrittenAt json name config ↔ PlainSignalAt json name := by
  obtain ⟨object, hobject, hfetch⟩ := exists_of_bind_ok hread
  have hget := (objectAt_eq_ok_iff.mp hobject).1
  have hschema := of_properties hgranted.properties hget hname
  unfold SignalWrittenAt PlainSignalAt
  rw [Json.exists_get_iff hget, Json.exists_get_iff hget]
  exact signalWritten_iff hschema (readsSignal_of_fetchSignalConfig hfetch)

/-! ## One element -/

/-- The name of a freshness type is not lost. -/
theorem get_eq_freshnessTypeName {values : List String} {type : String}
    (hgranted : Granted schemas json) (hname : (name, enum values) ∈ schemas)
    (hvalues : ∀ value ∈ values,
      freshnessTypeName (convertStringFreshnessTypeToEnum (untilNull value)) = value)
    (hread : stringAt json name = .ok type) :
    json.get name =
      .ok (.string (freshnessTypeName (convertStringFreshnessTypeToEnum type))) := by
  obtain ⟨text, hget, rfl⟩ := stringAt_eq_ok_iff.mp hread
  obtain ⟨value, hvalue, hmem⟩ :=
    exists_of_enum (of_properties hgranted.properties hget hname)
  cases hvalue
  rw [hvalues text hmem]
  exact hget

/-- Of an element of `auth_br_config`, only the length of the session counter can be lost. -/
theorem broadcastWritten_iff {entry : SokFreshnessValueId × SokFvConfigInstance}
    (hgranted : Granted Schema.authBrConfig element)
    (hread : readAuthBroadcast element = .ok entry) :
    BroadcastWritten element entry.1 entry.2 ↔ ShortCounter element := by
  obtain ⟨fvId, hfvId, hread⟩ := exists_of_bind_ok hread
  obtain ⟨type, htype, hread⟩ := exists_of_bind_ok hread
  obtain ⟨pduId, hpduId, hread⟩ := exists_of_bind_ok hread
  obtain ⟨length, hlength, hread⟩ := exists_of_bind_ok hread
  cases hread
  constructor
  · intro hwritten
    exact ⟨_, hwritten.sessionCounterLength⟩
  · intro hshort
    obtain ⟨n, hn⟩ := hshort
    refine ⟨uintAt_eq_ok_iff.mp hfvId, ?_, uintAt_eq_ok_iff.mp hpduId, ?_⟩
    · exact get_eq_freshnessTypeName hgranted (List.mem_cons_of_mem _ List.mem_cons_self)
        (by decide +kernel) htype
    · have hsame : length.toNat = n.toNat := by
        have hsame := Json.integer.inj
          (Except.ok.inj ((uintAt_eq_ok_iff.mp hlength).symm.trans hn))
        omega
      show _ = Except.ok (Json.integer (length.toUInt8).toNat)
      rw [UInt32.toNat_toUInt8, hsame, Nat.mod_eq_of_lt n.toNat_lt]
      exact hn

theorem challengeWritten_iff {entry : SokFreshnessValueId × ChallengeConfigInstance}
    (hgranted : Granted Schema.challengeResponseConfig element)
    (hread : readChallengeResponse element = .ok entry) :
    ChallengeWritten element entry.1 entry.2 ↔ PlainSignalAt element "signal" := by
  obtain ⟨fvId, hfvId, hread⟩ := exists_of_bind_ok hread
  obtain ⟨type, htype, hread⟩ := exists_of_bind_ok hread
  obtain ⟨signal, hsignal, hread⟩ := exists_of_bind_ok hread
  cases hread
  have hwritten := signalWrittenAt_iff hgranted (by simp [Schema.challengeResponseConfig]) hsignal
  constructor
  · intro hall
    exact hwritten.mp hall.challengeSignalConfig
  · intro hplain
    exact ⟨uintAt_eq_ok_iff.mp hfvId,
      get_eq_freshnessTypeName hgranted (List.mem_cons_of_mem _ List.mem_cons_self)
        (by decide +kernel) htype,
      hwritten.mpr hplain⟩

/-- Of an element of `key_config`, nothing can be lost. -/
theorem keyWritten {entry : SokFreshnessValueId × UInt16}
    (hgranted : Granted Schema.keyConfig element) (hread : readKey element = .ok entry) :
    KeyWritten element entry.1 entry.2 := by
  obtain ⟨fvId, hfvId, hread⟩ := exists_of_bind_ok hread
  obtain ⟨keyId, hkeyId, hread⟩ := exists_of_bind_ok hread
  cases hread
  exact ⟨uintAt_eq_ok_iff.mp hfvId,
    get_eq_integer_of_schema hgranted (List.mem_cons_of_mem _ List.mem_cons_self)
      (by rw [hkeyId]; rfl)⟩

theorem clientWritten_iff {entry : String × SokFvClientConfigArrayInstance}
    (hgranted : Granted Schema.clientsSignalsConfig element)
    (hread : readClient element = .ok entry) :
    ClientWritten element entry.1 entry.2 ↔ PlainClient element := by
  obtain ⟨ecuName, hecuName, hread⟩ := exists_of_bind_ok hread
  obtain ⟨keyId, hkeyId, hread⟩ := exists_of_bind_ok hread
  obtain ⟨challenge, hchallenge, hread⟩ := exists_of_bind_ok hread
  obtain ⟨value, hvalue, hread⟩ := exists_of_bind_ok hread
  obtain ⟨signature, hsignature, hread⟩ := exists_of_bind_ok hread
  cases hread
  have hchallengeAt :=
    signalWrittenAt_iff hgranted (by simp [Schema.clientsSignalsConfig]) hchallenge
  have hvalueAt := signalWrittenAt_iff hgranted (by simp [Schema.clientsSignalsConfig]) hvalue
  have hsignatureAt :=
    signalWrittenAt_iff hgranted (by simp [Schema.clientsSignalsConfig]) hsignature
  constructor
  · intro hall
    exact ⟨(get_eq_string_iff hecuName).mp hall.clientEcuName,
      hchallengeAt.mp hall.clientChallengeSignal, hvalueAt.mp hall.clientResponseValueSignal,
      hsignatureAt.mp hall.clientResponseSignatureSignal⟩
  · intro hplain
    exact ⟨(get_eq_string_iff hecuName).mpr hplain.clientEcuName,
      get_eq_integer_of_schema hgranted (List.mem_cons_of_mem _ List.mem_cons_self)
        (by rw [hkeyId]; rfl),
      hchallengeAt.mpr hplain.challenge, hvalueAt.mpr hplain.value,
      hsignatureAt.mpr hplain.signature⟩

/-! ## One entry for each element -/

section

variable {κ α : Type} [DecidableEq κ] {read : Json → Except Json.Misuse (κ × α)}
variable {key : Json → Except Json.Misuse κ} {elements : List Json} {map : UnorderedMap κ α}

/-- The map has one entry for each element if the elements have distinct keys. -/
theorem oneEach_of_emplaced {written : Json → κ → α → Prop}
    (hemplaced : Emplaced read elements ∅ map) (hdistinct : DistinctKeys key elements)
    (hkey : ∀ element entry, read element = .ok entry → key element = .ok entry.1)
    (hwritten : ∀ element ∈ elements, ∀ entry, read element = .ok entry →
      written element entry.1 entry.2) : OneEach written elements map := by
  obtain ⟨entries, hentries⟩ : ∃ entries : List (Σ _ : κ, α), List.Forall₂
      (fun element entry => element ∈ elements ∧ read element = .ok (entry.1, entry.2) ∧
        entry ∈ map.entries) elements entries := by
    apply List.exists_forall₂
    intro element hmem
    obtain ⟨⟨k, value⟩, hread, -, hlookup⟩ := hemplaced.added element hmem
    exact ⟨⟨k, value⟩, hmem, hread, AList.mem_lookup_iff.mp hlookup⟩
  refine ⟨entries, hentries.imp ?_, ?_⟩
  · intro element entry hentry
    exact hwritten element hentry.1 _ hentry.2.1
  · have hnodup : entries.Nodup := by
      refine hentries.pairwise hdistinct ?_
      intro element element' entry entry' hentry hentry' hne heq
      apply hne
      rw [hkey _ _ hentry.2.1, hkey _ _ hentry'.2.1, heq]
    have hsubset : entries ⊆ map.entries := by
      intro entry hmem
      obtain ⟨element, -, hentry⟩ := hentries.exists_left hmem
      exact hentry.2.2
    have hlength : map.entries.length = entries.length := by
      rw [← hentries.length_eq]
      exact hemplaced.size.trans (Nat.zero_add _)
    exact ((List.subperm_of_subset hnodup hsubset).perm_of_length_le hlength.le).symm

/-- Nothing is lost if and only if every element is plain. -/
theorem oneEach_iff {written : Json → κ → α → Prop} {plain : Json → Prop}
    (hemplaced : Emplaced read elements ∅ map) (hdistinct : DistinctKeys key elements)
    (hkey : ∀ element entry, read element = .ok entry → key element = .ok entry.1)
    (hwritten : ∀ element ∈ elements, ∀ entry, read element = .ok entry →
      (written element entry.1 entry.2 ↔ plain element))
    (hsame : ∀ element element' entry entry', read element = .ok entry →
      read element' = .ok entry' → written element entry'.1 entry'.2 → entry'.1 = entry.1) :
    OneEach written elements map ↔ ∀ element ∈ elements, plain element := by
  constructor
  · intro hone element hmem
    obtain ⟨entries, hall, hperm⟩ := hone
    obtain ⟨entry', hentry', hholds⟩ := hall.exists_right hmem
    have hlookup' : map.lookup entry'.1 = some entry'.2 :=
      AList.mem_lookup_iff.mpr (hperm.mem_iff.mpr hentry')
    obtain ⟨entry, hread, -, hlookup⟩ := hemplaced.added element hmem
    obtain hnone | ⟨element', -, hread'⟩ := hemplaced.origin _ _ hlookup'
    · cases hnone
    · have hk : entry'.1 = entry.1 := hsame _ _ _ _ hread hread' hholds
      rw [hk, hlookup] at hlookup'
      refine (hwritten element hmem entry hread).mp ?_
      rw [Option.some.inj hlookup', ← hk]
      exact hholds
  · intro hplain
    refine oneEach_of_emplaced hemplaced hdistinct hkey ?_
    intro element hmem entry hread
    exact (hwritten element hmem entry hread).mpr (hplain element hmem)

/-- What an array of the document loses on the way into its map. -/
theorem arrayWritten_iff {written : Json → κ → α → Prop} {plain : Json → Prop}
    (hschema : Schema.fvmConfigSchema doc = true)
    (hname : (name, Schema.arrayOf schemas) ∈ Schema.documentProperties)
    (hparsed : ∃ elements, arrayAt doc name = .ok elements ∧ Emplaced read elements ∅ map)
    (hdistinct : ArrayDistinct doc name key)
    (hkey : ∀ element entry, read element = .ok entry → key element = .ok entry.1)
    (hwritten : ∀ element entry, Granted schemas element → read element = .ok entry →
      (written element entry.1 entry.2 ↔ plain element))
    (hsame : ∀ element element' entry entry', read element = .ok entry →
      read element' = .ok entry' → written element entry'.1 entry'.2 → entry'.1 = entry.1) :
    ArrayWritten doc name written map ↔ EachAt doc name plain := by
  obtain ⟨elements, harray, hemplaced⟩ := hparsed
  have hget := arrayAt_eq_ok_iff.mp harray
  have hlist := of_properties (granted_of_objectOf hschema).1.properties hget hname
  unfold ArrayDistinct at hdistinct
  unfold ArrayWritten EachAt
  rw [Json.exists_get_array_iff hget] at hdistinct
  rw [Json.exists_get_array_iff hget, Json.exists_get_array_iff hget]
  refine oneEach_iff hemplaced hdistinct hkey ?_ hsame
  intro element hmem entry hread
  exact hwritten element entry (granted_of_arrayOf hlist hmem) hread

end

/-! ## The document -/

/-- A number under a name is one number. -/
theorem eq_of_uintAt {n n' : UInt32} (hread : uintAt json name = .ok n)
    (hget : json.get name = .ok (.integer n'.toNat)) : n' = n :=
  Except.ok.inj ((uintAt_eq_ok_iff.mpr hget).symm.trans hread)

section

variable {config : SokFmConfig} (hparsed : Parsed doc default config) (hkeys : KeysDistinct doc)

include hparsed hkeys

theorem Parsed.broadcastWritten_iff : ArrayWritten doc "auth_br_config" BroadcastWritten
    config.mAuthBroadcastConfig ↔ EachAt doc "auth_br_config" ShortCounter :=
  arrayWritten_iff hparsed.schema (by simp [Schema.documentProperties])
    hparsed.mAuthBroadcastConfig hkeys.broadcast (fun _ _ => fvIdOf_of_readAuthBroadcast)
    (fun _ _ => FvmConfigParser.broadcastWritten_iff)
    fun _ _ _ _ hread _ hwritten =>
      eq_of_uintAt (fvIdOf_of_readAuthBroadcast hread) hwritten.fvId

theorem Parsed.challengeWritten_iff : ArrayWritten doc "challenge_response_config"
    ChallengeWritten config.mChallengesConfig ↔
      EachAt doc "challenge_response_config" (PlainSignalAt · "signal") :=
  arrayWritten_iff hparsed.schema (by simp [Schema.documentProperties])
    hparsed.mChallengesConfig hkeys.challenge (fun _ _ => fvIdOf_of_readChallengeResponse)
    (fun _ _ => FvmConfigParser.challengeWritten_iff)
    fun _ _ _ _ hread _ hwritten =>
      eq_of_uintAt (fvIdOf_of_readChallengeResponse hread) hwritten.fvId

/-- The keys are always written. -/
theorem Parsed.keyWritten : ArrayWritten doc "key_config" KeyWritten config.mKeyConfig := by
  have hiff : ArrayWritten doc "key_config" KeyWritten config.mKeyConfig ↔
      EachAt doc "key_config" fun _ => True :=
    arrayWritten_iff hparsed.schema (by simp [Schema.documentProperties]) hparsed.mKeyConfig
      hkeys.key (fun _ _ => fvIdOf_of_readKey)
      (fun _ _ hgranted hread => iff_true_intro (FvmConfigParser.keyWritten hgranted hread))
      fun _ _ _ _ hread _ hwritten => eq_of_uintAt (fvIdOf_of_readKey hread) hwritten.fvId
  obtain ⟨elements, harray, -⟩ := hparsed.mKeyConfig
  exact hiff.mpr ⟨elements, arrayAt_eq_ok_iff.mp harray, fun _ _ => trivial⟩

theorem Parsed.clientWritten_iff : ArrayWritten doc "clients_signals_config" ClientWritten
    config.mFmServerClientsConfig ↔ EachAt doc "clients_signals_config" PlainClient := by
  refine arrayWritten_iff hparsed.schema (by simp [Schema.documentProperties])
    hparsed.mFmServerClientsConfig hkeys.client (fun _ _ => clientEcuNameOf_of_readClient)
    (fun _ _ => FvmConfigParser.clientWritten_iff) ?_
  intro element element' entry entry' hread hread' hwritten
  -- the name of an entry was read, so that it has no null characters
  obtain ⟨text, -, htext⟩ := stringAt_eq_ok_iff.mp (clientEcuNameOf_of_readClient hread')
  have hself : entry'.1 = untilNull entry'.1 := by
    rw [Json.untilNull_eq_self_iff.mpr (htext ▸ Json.nullFree_untilNull text)]
  have hsame := stringAt_eq_ok_iff.mpr ⟨_, hwritten.clientEcuName, hself⟩
  exact Except.ok.inj (hsame.symm.trans (clientEcuNameOf_of_readClient hread))

end

/-- A signal of its own in the document. -/
theorem Parsed.signalWritten_iff {config : SokFmConfig} (hparsed : Parsed doc default config)
    {name : String} {signal : SignalConfig}
    (hname : (name, Schema.completeSignalConfig) ∈ Schema.documentProperties)
    (hread : signalAt doc name = .ok signal) :
    SignalWrittenAt doc name signal ↔ PlainSignalAt doc name :=
  signalWrittenAt_iff (granted_of_objectOf hparsed.schema).1 hname hread

theorem configWritten_iff {config : SokFmConfig} (hparsed : Parsed doc default config)
    (hkeys : KeysDistinct doc) : ConfigWritten doc config ↔ Plain doc := by
  have hunAuth := hparsed.signalWritten_iff (by simp [Schema.documentProperties])
    hparsed.mUnAuthFvDistributionSignal
  have hchallenge := hparsed.signalWritten_iff (by simp [Schema.documentProperties])
    hparsed.mAuthFvChallengeSignal
  have hvalue := hparsed.signalWritten_iff (by simp [Schema.documentProperties])
    hparsed.mAuthFvValueSignal
  have hsignature := hparsed.signalWritten_iff (by simp [Schema.documentProperties])
    hparsed.mAuthFvSignatureSignal
  constructor
  · intro hall
    exact {
      ecuName := (get_eq_string_iff hparsed.mEcuName).mp hall.mEcuName
      networkInterface :=
        (get_eq_string_iff hparsed.mNetworkInterface).mp hall.mNetworkInterface
      broadcast := (hparsed.broadcastWritten_iff hkeys).mp hall.mAuthBroadcastConfig
      challenges := (hparsed.challengeWritten_iff hkeys).mp hall.mChallengesConfig
      unAuth := hunAuth.mp hall.mUnAuthFvDistributionSignal
      challenge := hchallenge.mp hall.mAuthFvChallengeSignal
      value := hvalue.mp hall.mAuthFvValueSignal
      signature := hsignature.mp hall.mAuthFvSignatureSignal
      clients := (hparsed.clientWritten_iff hkeys).mp hall.mFmServerClientsConfig }
  · intro hplain
    exact {
      mEcuName := (get_eq_string_iff hparsed.mEcuName).mpr hplain.ecuName
      mNetworkInterface :=
        (get_eq_string_iff hparsed.mNetworkInterface).mpr hplain.networkInterface
      mKeyIdForAuthFvDistribution :=
        get_eq_integer_of_schema (granted_of_objectOf hparsed.schema).1
          (by simp [Schema.documentProperties]) hparsed.mKeyIdForAuthFvDistribution
      mAuthBroadcastConfig := (hparsed.broadcastWritten_iff hkeys).mpr hplain.broadcast
      mChallengesConfig := (hparsed.challengeWritten_iff hkeys).mpr hplain.challenges
      mUnAuthFvDistributionSignal := hunAuth.mpr hplain.unAuth
      mAuthFvChallengeSignal := hchallenge.mpr hplain.challenge
      mAuthFvValueSignal := hvalue.mpr hplain.value
      mAuthFvSignatureSignal := hsignature.mpr hplain.signature
      mKeyConfig := hparsed.keyWritten hkeys
      mFmServerClientsConfig := (hparsed.clientWritten_iff hkeys).mpr hplain.clients }

/-! ## What `Parse` makes of a document -/

/-- A fresh parser finds every number of the document in the range of its reader and, if it
succeeds for an empty configuration, makes the one that the document describes. -/
def Lossless (document : String → Option Json) (text : String) (doc : Json) : Prop :=
  ∃ ret, construct.parse document text default = .ok ret ∧
    (ret.1 = true → ConfigWritten doc ret.2.2)

/-- **When `Parse` is lossless**: when the numbers fit as far as they are read, and nothing
of a document that is accepted is cut short. -/
theorem parse_lossless_iff {document : String → Option Json} {text : String} (htext : text ≠ "")
    (hdocument : document text = some doc) (hschema : Schema.fvmConfigSchema doc = true) :
    Lossless document text doc ↔ FitsDocument doc ∧ (Acceptable doc → Plain doc) := by
  have hdecides := decides_parse htext hdocument hschema
  -- a configuration that was made is one of this document
  have hmade : ∀ ret, construct.parse document text default = .ok ret → Acceptable doc →
      (ConfigWritten doc ret.2.2 ↔ Plain doc) := by
    intro ret hparse hacceptable
    obtain ⟨accepted, parser, config⟩ := ret
    obtain rfl : accepted = true := (hdecides.accepts_iff _ hparse).mpr hacceptable
    obtain ⟨-, -, -, doc', hdocument', hparsed⟩ := parse_eq_true hparse
    obtain rfl : doc = doc' := Option.some.inj (hdocument.symm.trans hdocument')
    exact configWritten_iff hparsed hacceptable.keys
  constructor
  · intro hlossless
    obtain ⟨ret, hparse, hwritten⟩ := hlossless
    refine ⟨hdecides.defined_iff.mp ⟨ret, hparse⟩, ?_⟩
    intro hacceptable
    exact (hmade ret hparse hacceptable).mp
      (hwritten ((hdecides.accepts_iff ret hparse).mpr hacceptable))
  · intro hboth
    obtain ⟨ret, hparse⟩ := hdecides.defined_iff.mpr hboth.1
    refine ⟨ret, hparse, ?_⟩
    intro haccepted
    have hacceptable := (hdecides.accepts_iff ret hparse).mp haccepted
    exact (hmade ret hparse hacceptable).mpr (hboth.2 hacceptable)

/-- A document with one freshness value and a session counter of that many bits. -/
def counterDocument (bits : Int) : Json :=
  documentOf [broadcastElement 1 "FV_SESSION_SENDER" bits] []

theorem plainSignal_signalDocument {signal : String} (hsignal : NullFree signal) :
    PlainSignal (signalDocument signal) where
  frame := ⟨_, rfl, ⟨"FRAME", rfl, by decide +kernel⟩,
    ⟨"10.0.0.1", rfl, by decide +kernel⟩, ⟨"10.0.0.2", rfl, by decide +kernel⟩⟩
  pdu := ⟨_, rfl, "PDU", rfl, by decide +kernel⟩
  signal := ⟨_, rfl, signal, rfl, hsignal⟩

theorem parse_lossless_eight_bits :
    Lossless (fun _ => some (counterDocument 8)) "document" (counterDocument 8) := by
  have hschema : Schema.fvmConfigSchema (counterDocument 8) = true := by decide +kernel
  have hparse : construct.parse (fun _ => some (counterDocument 8)) "document" default =
      .ok (true, { mSchema := true }, configurationOf (counterDocument 8)) :=
    parse_eq_configurationOf (by decide +kernel)
  have hdecides : Decides (construct.parse (fun _ => some (counterDocument 8)) "document" default)
      (FitsDocument (counterDocument 8)) (Acceptable (counterDocument 8)) :=
    decides_parse (by decide) rfl hschema
  refine (parse_lossless_iff (by decide) rfl hschema).mpr
    ⟨hdecides.defined_iff.mp ⟨_, hparse⟩, fun _ => ?_⟩
  exact {
    ecuName := ⟨"SINK", rfl, by decide +kernel⟩
    networkInterface := ⟨"eth0", rfl, by decide +kernel⟩
    broadcast := ⟨_, rfl, by
      intro element hmem
      rw [List.mem_singleton.mp hmem]
      exact ⟨8, rfl⟩⟩
    challenges := ⟨_, rfl, nofun⟩
    unAuth := ⟨_, rfl, plainSignal_signalDocument (by decide +kernel)⟩
    challenge := ⟨_, rfl, plainSignal_signalDocument (by decide +kernel)⟩
    value := ⟨_, rfl, plainSignal_signalDocument (by decide +kernel)⟩
    signature := ⟨_, rfl, plainSignal_signalDocument (by decide +kernel)⟩
    clients := ⟨_, rfl, nofun⟩ }

/-- A session counter of 264 bits is accepted as one of 8 bits. -/
theorem parse_cuts_the_counter_length :
    ¬ ∀ (document : String → Option Json) (text : String) (doc : Json), text ≠ "" →
      document text = some doc → Schema.fvmConfigSchema doc = true →
      Lossless document text doc := by
  intro hall
  have hlossless := hall (fun _ => some (counterDocument 264)) "document" (counterDocument 264)
    (by decide) rfl (by decide +kernel)
  obtain ⟨ret, hparse, hwritten⟩ := hlossless
  have haccepted : (construct.parse (fun _ => some (counterDocument 264)) "document" default).map
      Prod.fst = .ok true := by decide +kernel
  rw [hparse] at haccepted
  have hconfig := hwritten (Except.ok.inj haccepted)
  obtain ⟨elements, hget, entries, hentries, -⟩ := hconfig.mAuthBroadcastConfig
  cases hget
  obtain ⟨entry, -, hentry⟩ := hentries.exists_right List.mem_cons_self
  have hlength : (264 : Int) = entry.2.sessionCounterLength.toNat :=
    Json.integer.inj (Except.ok.inj hentry.sessionCounterLength)
  have hlt := entry.2.sessionCounterLength.toNat_lt
  omega

end FvmConfigParser

end Sok.Fvm
