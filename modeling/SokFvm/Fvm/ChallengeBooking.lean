import SokFvm.Library.CaptureSearch
import SokFvm.Fvm.ConfigParser
import SokFvm.Fvm.ResponseBinding

/-!
# For whom a challenge is booked

The server subscribes the challenge signal of each client, and books a challenge for
the client whose name it finds in the name of the signal.  The two agree when the name
of the signal says the name of the client, in the way in which the regular expression
reads it.

* `clientOfSignal_eq_some_iff` says what the regular expression finds, without the
  loops: the reading of the name that `CaptureSearch.Chosen` describes.
* `challenge_booked_iff` is the condition under which the challenges of a configured
  client are booked for it, in every state of a run.
-/

namespace Sok.Fvm

open Sok.Common StateMachine CaptureSearch FreshnessValueManagerImplServer

/-! ## What the regular expression finds -/

/-- `SOK_Zeit_(\w+)_Challenge`. -/
def clientPattern : Pattern Char where
  opening := "SOK_Zeit_".toList
  inClass := isWordChar
  closing := "_Challenge".toList

/-- The largest number up to `k`, from `1`, that passes a test. -/
theorem find?_countdown {p : Nat → Bool} {k n : Nat} :
    ((List.range k).map (· + 1)).reverse.find? p = some n ↔
      1 ≤ n ∧ n ≤ k ∧ p n = true ∧ ∀ m, n < m → m ≤ k → p m = false := by
  induction k with
  | zero =>
    refine iff_of_false nofun ?_
    rintro ⟨hlow, hhigh, -⟩
    omega
  | succ k ih =>
    rw [List.range_succ, List.map_append, List.map_singleton, List.reverse_append,
      List.reverse_singleton, List.singleton_append, List.find?_cons]
    cases hlast : p (k + 1) with
    | true =>
      dsimp only
      rw [Option.some.injEq]
      constructor
      · intro heq
        subst heq
        exact ⟨by omega, by omega, hlast, fun m hm hm' => by omega⟩
      · rintro ⟨-, hhigh, -, hnone⟩
        by_contra hne
        have hfalse := hnone (k + 1) (by omega) (by omega)
        rw [hlast] at hfalse
        cases hfalse
    | false =>
      dsimp only
      rw [ih]
      constructor
      · rintro ⟨hlow, hhigh, htest, hnone⟩
        refine ⟨hlow, by omega, htest, ?_⟩
        intro m hm hm'
        by_cases hmk : m = k + 1
        · rw [hmk, hlast]
        · exact hnone m hm (by omega)
      · rintro ⟨hlow, hhigh, htest, hnone⟩
        have hne : n ≠ k + 1 := by
          intro heq
          rw [heq, hlast] at htest
          cases htest
        exact ⟨hlow, by omega, htest, fun m hm hm' => hnone m hm (by omega)⟩

/-- The characters before a place are of a class exactly when the run of the class
reaches it. -/
theorem forall_mem_take_iff {α : Type} {p : α → Bool} {cs : List α} {n : Nat}
    (hn : n ≤ cs.length) :
    (∀ c ∈ cs.take n, p c = true) ↔ n ≤ (cs.takeWhile p).length := by
  induction cs generalizing n with
  | nil =>
    have hzero : n = 0 := by simpa using hn
    simp [hzero]
  | cons c cs ih =>
    cases n with
    | zero => simp
    | succ n =>
      rw [List.take_succ_cons, List.forall_mem_cons, List.takeWhile_cons]
      have hrest := ih (n := n) (by simpa using hn)
      cases hc : p c with
      | true => simp [hrest]
      | false => simp

/-- The captures behind the opening, by their lengths. -/
theorem matchesHere_iff {cs capture : List Char} :
    MatchesHere clientPattern (clientPattern.opening ++ cs) capture ↔
      1 ≤ capture.length ∧ capture.length ≤ (cs.takeWhile isWordChar).length ∧
        "_Challenge".toList.isPrefixOf (cs.drop capture.length) = true ∧
        capture = cs.take capture.length := by
  constructor
  · rintro ⟨after, htext, hnonempty, hclass⟩
    rw [List.nil_append] at htext
    have hcs : cs = capture ++ ("_Challenge".toList ++ after) := List.append_cancel_left htext
    have hlength : capture.length ≤ cs.length := by
      rw [hcs, List.length_append]
      omega
    have htake : capture = cs.take capture.length := by
      rw [hcs]
      exact (List.take_left' rfl).symm
    refine ⟨List.length_pos_iff.mpr hnonempty, ?_, ?_, htake⟩
    · rw [← forall_mem_take_iff hlength, ← htake]
      exact hclass
    · rw [List.isPrefixOf_iff_prefix]
      refine ⟨after, ?_⟩
      rw [hcs]
      exact (List.drop_left' rfl).symm
  · rintro ⟨hlow, hhigh, hclosing, htake⟩
    rw [List.isPrefixOf_iff_prefix] at hclosing
    obtain ⟨after, hafter⟩ := hclosing
    have hlength : capture.length ≤ cs.length :=
      Nat.le_trans hhigh (List.takeWhile_sublist _).length_le
    refine ⟨after, ?_, List.length_pos_iff.mp hlow, ?_⟩
    · show _ = [] ++ (_ ++ (capture ++ ("_Challenge".toList ++ after)))
      have hsplit := List.take_append_drop capture.length cs
      rw [← htake] at hsplit
      rw [hafter, List.nil_append, hsplit]
    · rw [htake, forall_mem_take_iff hlength]
      exact hhigh

/-- `captureClient` finds the longest capture behind the opening. -/
theorem captureClient_eq_some_iff {cs capture : List Char} :
    captureClient cs = some capture ↔
      LongestHere clientPattern (clientPattern.opening ++ cs) capture := by
  unfold captureClient
  dsimp only
  rw [Option.map_eq_some_iff]
  constructor
  · rintro ⟨n, hfind, htake⟩
    obtain ⟨hlow, hhigh, hclosing, hnone⟩ := find?_countdown.mp hfind
    have hlength : n ≤ cs.length :=
      Nat.le_trans hhigh (List.takeWhile_sublist _).length_le
    have hcapture : capture.length = n := by
      rw [← htake, List.length_take]
      omega
    refine ⟨?_, ?_⟩
    · rw [matchesHere_iff, hcapture]
      exact ⟨hlow, hhigh, hclosing, htake.symm⟩
    · intro other hother
      obtain ⟨-, hreach, hclosing', -⟩ := matchesHere_iff.mp hother
      by_contra hlonger
      rw [hcapture, Nat.not_le] at hlonger
      rw [hnone other.length hlonger hreach] at hclosing'
      cases hclosing'
  · rintro ⟨hhere, hlongest⟩
    obtain ⟨hlow, hhigh, hclosing, htake⟩ := matchesHere_iff.mp hhere
    refine ⟨capture.length, ?_, htake.symm⟩
    rw [find?_countdown]
    refine ⟨hlow, hhigh, hclosing, ?_⟩
    intro m hm hm'
    by_contra hclosing'
    rw [Bool.not_eq_false] at hclosing'
    have hlength : m ≤ cs.length :=
      Nat.le_trans hm' (List.takeWhile_sublist _).length_le
    have hother : (cs.take m).length = m := by
      rw [List.length_take]
      omega
    have hmatches : MatchesHere clientPattern (clientPattern.opening ++ cs) (cs.take m) := by
      rw [matchesHere_iff, hother]
      exact ⟨by omega, hm', hclosing', rfl⟩
    have hle := hlongest (cs.take m) hmatches
    omega

theorem findsLongest_matchClient : FindsLongest clientPattern matchClient := by
  intro text capture
  unfold matchClient
  by_cases hopening : "SOK_Zeit_".toList.isPrefixOf text = true
  · rw [if_pos hopening]
    rw [List.isPrefixOf_iff_prefix] at hopening
    obtain ⟨cs, hcs⟩ := hopening
    have hdrop : text.drop "SOK_Zeit_".length = cs := by
      rw [← hcs]
      exact List.drop_left' rfl
    rw [hdrop, captureClient_eq_some_iff]
    show LongestHere clientPattern ("SOK_Zeit_".toList ++ cs) capture ↔ _
    rw [hcs]
  · rw [if_neg hopening]
    refine iff_of_false nofun ?_
    rintro ⟨⟨after, htext, -, -⟩, -⟩
    apply hopening
    rw [List.isPrefixOf_iff_prefix]
    exact ⟨_, htext.symm⟩

/-- The client in the name of a signal is the chosen reading of the name. -/
theorem clientOfSignal_eq_some_iff {signal client : String} :
    clientOfSignal signal = some client ↔
      Chosen clientPattern signal.toList client.toList := by
  have hsearch : ∀ text, searchClient text = search matchClient text := by
    intro text
    induction text with
    | nil => rfl
    | cons c cs ih => rw [searchClient, search, ih]
  unfold clientOfSignal
  rw [hsearch, ← search_eq_some_iff findsLongest_matchClient, Option.map_eq_some_iff]
  constructor
  · rintro ⟨capture, hcapture, hclient⟩
    rw [← hclient, String.toList_ofList]
    exact hcapture
  · intro hcapture
    exact ⟨client.toList, hcapture, String.ofList_toList⟩

/-! ## The booking -/

variable {s s₀ : FreshnessValueManagerImplServer} {h : List RoundEvent}
variable {P : Guard FreshnessValueManagerImplServer ServerOp RoundEvent}
variable {signal client : String} {challenge : ByteVector}

/-- The pending challenge of a client. -/
def pendingOf (s : FreshnessValueManagerImplServer) (client : String) : Option ByteVector :=
  s.mResponsePendingChallenges.lookup client

/-- A challenge on a signal is booked for a client and for nobody else. -/
structure BooksFor (s : FreshnessValueManagerImplServer) (signal client : String)
    (challenge : ByteVector) : Prop where
  recorded : (s.incomingAuthFvChallengeSignalsCb signal challenge).2 =
    [.recorded client challenge]
  pending : pendingOf (s.incomingAuthFvChallengeSignalsCb signal challenge).1 client =
    some challenge
  others : ∀ other, other ≠ client →
    pendingOf (s.incomingAuthFvChallengeSignalsCb signal challenge).1 other = pendingOf s other

/-- It is booked for a known client exactly when the signal says its name. -/
theorem booksFor_iff (hknown : client ∈ s.mClientNameToKeyId) :
    BooksFor s signal client challenge ↔ clientOfSignal signal = some client := by
  constructor
  · rintro ⟨hrecorded, -, -⟩
    rcases s.incomingAuthFvChallengeSignalsCb_cases signal challenge with
      heq | ⟨found, hfound, -, heq⟩
    · rw [heq] at hrecorded
      cases hrecorded
    · rw [heq] at hrecorded
      cases hrecorded
      exact hfound
  · intro hclient
    have hbooked : s.incomingAuthFvChallengeSignalsCb signal challenge =
        ({ s with
          mResponsePendingChallenges := s.mResponsePendingChallenges.insert client challenge },
          [.recorded client challenge]) := by
      unfold incomingAuthFvChallengeSignalsCb
      rw [hclient]
      exact if_neg (not_not_intro hknown)
    constructor
    · rw [hbooked]
    · rw [hbooked]
      exact AList.lookup_insert _
    · intro other hother
      rw [hbooked]
      exact AList.lookup_insert_ne hother

/-- **For whom a challenge is booked.**  In every state of a run of an initialised
server, a challenge on the signal of a configured client is booked for that client and
for nobody else, exactly when the name of the client is the chosen reading of the name
of its signal. -/
theorem challenge_booked_iff {conf : SokFvClientConfigArrayInstance} (hfirst : s₀.FirstInit)
    (hrun : Run roundStep P s₀ [] s h)
    (hconf : s.mFvmConfAccessor.getClientsConfigMap.lookup client = some conf) :
    BooksFor s conf.clientChallengeSignal.name client challenge ↔
      Chosen clientPattern conf.clientChallengeSignal.name.toList client.toList := by
  obtain ⟨htable, -, -⟩ := binding_of_run hfirst hrun
  have hkey := htable.keys client
  rw [hconf] at hkey
  have hknown : client ∈ s.mClientNameToKeyId :=
    AList.lookup_isSome.mp (Option.isSome_of_eq_some hkey)
  rw [booksFor_iff hknown, clientOfSignal_eq_some_iff]

/-- The document of a server with one client and the name of its challenge signal. -/
def clientDocument (client signal : String) : Json :=
  match FvmConfigParser.documentOf [] [FvmConfigParser.challengeElement 0 "CHALLENGE" "CR"] with
  | .object members => .object (members.map fun entry =>
      if entry.1 = "clients_signals_config" then
        (entry.1, .array [.object
          [("client_ecu_name", .string client), ("key_id", .integer 132),
            ("challenge_signal", FvmConfigParser.signalDocument signal),
            ("response_value_signal", FvmConfigParser.signalDocument "VALUE"),
            ("response_signature_signal", FvmConfigParser.signalDocument "SIGNATURE")]])
      else entry)
  | json => json

/-- The server of that document after its first `Init`. -/
def serverOfClient (client signal : String) : FreshnessValueManagerImplServer :=
  FreshnessValueManagerImplServer.derivedClass.initialised
    (reliableInit (FvmConfigParser.configurationOf (clientDocument client signal)))
    (.construct .construct)

theorem firstInit_serverOfClient {client signal : String}
    (hcode : (FreshnessValueManagerImplServer.derivedClass.init
      (reliableInit (FvmConfigParser.configurationOf (clientDocument client signal)))
      (.construct .construct)).map Prod.fst = .ok .kSuccess) :
    (serverOfClient client signal).FirstInit :=
  ⟨reliableInit (FvmConfigParser.configurationOf (clientDocument client signal)),
    DerivedClass.init_eq_initialised hcode⟩

/-- The name of the challenge signal that a server has for a client. -/
def challengeSignalOf (s : FreshnessValueManagerImplServer) (client : String) : Option String :=
  (s.mFvmConfAccessor.getClientsConfigMap.lookup client).map (·.clientChallengeSignal.name)

theorem challenge_booked_conventional_name :
    BooksFor (serverOfClient "ECU1" "SOK_Zeit_ECU1_Challenge") "SOK_Zeit_ECU1_Challenge" "ECU1"
      (.replicate 8 7) := by
  have hsignal : challengeSignalOf (serverOfClient "ECU1" "SOK_Zeit_ECU1_Challenge") "ECU1" =
      some "SOK_Zeit_ECU1_Challenge" := by decide +kernel
  obtain ⟨conf, hconf, hname⟩ := Option.map_eq_some_iff.mp hsignal
  have hiff : BooksFor _ conf.clientChallengeSignal.name "ECU1" (.replicate 8 7) ↔ _ :=
    challenge_booked_iff (P := Anything) (firstInit_serverOfClient (by decide +kernel)) .refl hconf
  rw [hname, ← clientOfSignal_eq_some_iff] at hiff
  exact hiff.mpr (by decide +kernel)

/-- No two clients have challenge signals of the same name. -/
def DistinctChallengeSignals (clients : FmServerClientsConfigMap) : Prop :=
  ∀ client client' conf conf', clients.lookup client = some conf →
    clients.lookup client' = some conf' →
    conf.clientChallengeSignal.name = conf'.clientChallengeSignal.name → client = client'

theorem distinctChallengeSignals_of_keys {clients : FmServerClientsConfigMap} {client : String}
    (hkeys : clients.keys = [client]) : DistinctChallengeSignals clients := by
  have honly : ∀ other conf, clients.lookup other = some conf → other = client := by
    intro other conf hconf
    have hmem : other ∈ clients.keys :=
      AList.mem_keys.mp (AList.lookup_isSome.mp (Option.isSome_of_eq_some hconf))
    rw [hkeys] at hmem
    exact List.mem_singleton.mp hmem
  intro c c' conf conf' hconf hconf' _
  rw [honly c conf hconf, honly c' conf' hconf']

/-- A client with a hyphen in its name is accepted, subscribed and never heard. -/
theorem challenge_of_hyphenated_client_is_not_booked :
    ¬ ∀ (document : String → Option Json) (self self' : FvmConfigParser) (json : String)
      (config : SokFmConfig) (s₀ s : FreshnessValueManagerImplServer) (h : List RoundEvent)
      (client : String) (conf : SokFvClientConfigArrayInstance) (challenge : ByteVector),
      FvmConfigParser.parse document self json config =
        .ok (true, self', s₀.mFvmConfAccessor.mConfig) →
      DistinctChallengeSignals s₀.mFvmConfAccessor.getClientsConfigMap →
      s₀.FirstInit → Run roundStep Anything s₀ [] s h →
      s.mFvmConfAccessor.getClientsConfigMap.lookup client = some conf →
      BooksFor s conf.clientChallengeSignal.name client challenge := by
  intro hall
  have hsignal : challengeSignalOf (serverOfClient "ECU-1" "SOK_Zeit_ECU-1_Challenge") "ECU-1" =
      some "SOK_Zeit_ECU-1_Challenge" := by decide +kernel
  obtain ⟨conf, hconf, hname⟩ := Option.map_eq_some_iff.mp hsignal
  have hparse : FvmConfigParser.parse
      (fun _ => some (clientDocument "ECU-1" "SOK_Zeit_ECU-1_Challenge")) .construct "document"
        default = .ok (true, { mSchema := true },
          FvmConfigParser.configurationOf (clientDocument "ECU-1" "SOK_Zeit_ECU-1_Challenge")) :=
    FvmConfigParser.parse_eq_configurationOf (by decide +kernel)
  have hconfig : (serverOfClient "ECU-1" "SOK_Zeit_ECU-1_Challenge").mFvmConfAccessor.mConfig =
      FvmConfigParser.configurationOf (clientDocument "ECU-1" "SOK_Zeit_ECU-1_Challenge") := by
    rfl
  rw [← hconfig] at hparse
  have hkeys : AList.keys (serverOfClient "ECU-1"
      "SOK_Zeit_ECU-1_Challenge").mFvmConfAccessor.getClientsConfigMap = ["ECU-1"] := by
    decide +kernel
  have hbooks : BooksFor _ conf.clientChallengeSignal.name "ECU-1" [] :=
    hall _ _ _ _ _ _ _ _ _ _ _ hparse (distinctChallengeSignals_of_keys hkeys)
      (firstInit_serverOfClient (by decide +kernel)) .refl hconf
  rw [hname] at hbooks
  have hnothing : ((serverOfClient "ECU-1" "SOK_Zeit_ECU-1_Challenge")
      |>.incomingAuthFvChallengeSignalsCb "SOK_Zeit_ECU-1_Challenge" []).2 = [] := by
    decide +kernel
  have hrecorded := hbooks.recorded
  rw [hnothing] at hrecorded
  cases hrecorded

end Sok.Fvm
