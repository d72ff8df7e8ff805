import SokFvm.Library.Refinement
import SokFvm.Fvm.ResponseService

/-!
# The server with its threads

The main thread of a server calls `MainFunction`, and any number of signal threads
run `incomingAuthFvChallengeSignalsCb`.  What they share is the map of the pending
challenges, and `mChallengesMutex` protects it: a call-back searches the signal name
without the mutex and books the challenge under it, and `sendAuthenticFvResponses`
holds the mutex over its whole loop, in which it walks through the map and publishes.

`serverThreadStep` is the server with its threads.  The main function is cut where
other threads can come between: after the broadcast, before and after each response
of the loop, and before the clock moves on.  A call-back is cut at its lock.

* `Linearises` relates a state of the threaded server to a state of the sequential
  one, in which every call of the main function happens at once, at the moment where
  it gives the mutex back or finds that no response is due.
* `server_threads_linearise` says that every threaded run is matched by a run of the
  sequential server.  The broadcasts, the signatures and the publications come in the
  same order in both, and so do the bookings and the rounds.
* `threads_answer_last_booked` takes a result about the sequential server back to
  the threads.
-/

namespace Sok.Fvm

open Sok.Common StateMachine FreshnessValueManagerImplServer

/-! ## The threads -/

/-- Where the main thread of a server stands. -/
inductive ServerMainThread
  /-- Between two calls of `MainFunction`. -/
  | outside
  /-- The broadcast is over. -/
  | broadcasted (services : ServerServices) (ret : FvmErrorCode)
  /-- In the loop of `sendAuthenticFvResponses`, with the mutex. -/
  | inRound (services : ServerServices) (ret : FvmErrorCode)
      (rest : List (Σ _ : String, ByteVector))
  /-- No response is due, or the mutex has been given back. -/
  | responded (ret : FvmErrorCode)

/-- Where a signal thread stands. -/
inductive SignalThread
  /-- Not in a call-back. -/
  | outside
  /-- In a call-back that has accepted its signal, before it takes the mutex. -/
  | atLock (signal client : String) (challenge : ByteVector)

structure ThreadedServer (τ : Type) where
  server : FreshnessValueManagerImplServer
  main : ServerMainThread
  signals : τ → SignalThread

/-- The next step of a thread. -/
inductive ServerThreadOp (τ : Type)
  /-- The main thread goes on in `MainFunction`, or enters it. -/
  | main (services : ServerServices)
  /-- The main thread makes another call to the manager. -/
  | call (call : ManagerCall)
  /-- A signal thread enters the call-back. -/
  | signal (thread : τ) (signal : String) (challenge : ByteVector)
  /-- A signal thread goes on in the call-back. -/
  | proceed (thread : τ)

/-- The next step of the main thread in `MainFunction`. -/
def serverMainNext {τ : Type} (services : ServerServices) (s : ThreadedServer τ) :
    Except Fault (ThreadedServer τ × List RoundEvent) :=
  match s.main with
  | .outside =>
    if !s.server.mInitialized then .ok (s, [.server (.mainFunctionCompleted .kNotInitialized)])
    else
      let broadcast := s.server.broadcastIfNeeded services.broadcastSignals
      .ok ({ s with server := broadcast.2.1, main := .broadcasted services broadcast.1 },
        broadcast.2.2.map .server)
  | .broadcasted services ret =>
    if s.server.mNeedToSendAuthFvResponses then
      let entries := services.order.arrange s.server.mResponsePendingChallenges.entries
      .ok ({ s with main := .inRound services ret entries }, [.round])
    else .ok ({ s with main := .responded ret }, [])
  | .inRound services ret (entry :: rest) =>
    (s.server.sendAuthenticFvResponse services entry).map fun events =>
      ({ s with main := .inRound services ret rest }, events.map .server)
  | .inRound _ ret [] =>
    .ok ({ s with
      server := { s.server with
        mResponsePendingChallenges := ∅
        mNeedToSendAuthFvResponses := false }
      main := .responded ret }, [])
  | .responded ret =>
    .ok ({ s with server := s.server.advanceClock, main := .outside },
      [.server (.mainFunctionCompleted ret)])

/-- `incomingAuthFvChallengeSignalsCb` up to its lock. -/
def signalUpToLock (s : FreshnessValueManagerImplServer) (signal : String)
    (challenge : ByteVector) : SignalThread :=
  match clientOfSignal signal with
  | none => .outside
  | some client =>
    if client ∉ s.mClientNameToKeyId then .outside else .atLock signal client challenge

/-- The mutex is free. -/
def ServerMainThread.unlocked : ServerMainThread → Bool
  | .inRound _ _ _ => false
  | _ => true

/-- The server with its threads. A thread that cannot go on waits. -/
def serverThreadStep {τ : Type} [DecidableEq τ] :
    Machine (ThreadedServer τ) (ServerThreadOp τ) RoundEvent Fault := fun s op =>
  match op with
  | .main services => serverMainNext services s
  | .call call =>
    match s.main with
    | .outside => .ok ({ s with server := { s.server with toAFreshnessValueManagerImpl :=
        (managerNext s.server.toAFreshnessValueManagerImpl call.1).1 } }, [])
    | _ => .ok (s, [])
  | .signal thread signal challenge =>
    match s.signals thread with
    | .outside => .ok ({ s with
        signals := Function.update s.signals thread (signalUpToLock s.server signal challenge) },
        [])
    | .atLock _ _ _ => .ok (s, [])
  | .proceed thread =>
    match s.signals thread with
    | .outside => .ok (s, [])
    | .atLock _ client challenge =>
      if s.main.unlocked then
        .ok ({ s with
          server := { s.server with mResponsePendingChallenges :=
            s.server.mResponsePendingChallenges.insert client challenge }
          signals := Function.update s.signals thread .outside },
          [.server (.recorded client challenge)])
      else .ok (s, [])

/-! ## What the threads do, one after the other -/

/-- The bookings of challenges, and the rounds that take what is booked. -/
def RoundEvent.isBooking : RoundEvent → Bool
  | .round => true
  | .server (.recorded _ _) => true
  | .server _ => false

/-- The bookings and the rounds of a history. -/
def bookings (h : List RoundEvent) : List RoundEvent :=
  h.filter RoundEvent.isBooking

/-- Everything else: the broadcasts, the signatures, the publications and the
completed calls. -/
def mainEvents (h : List RoundEvent) : List RoundEvent :=
  h.filter fun e => !e.isBooking

/-- A challenge is booked. -/
def FreshnessValueManagerImplServer.book (s : FreshnessValueManagerImplServer) (client : String)
    (challenge : ByteVector) : FreshnessValueManagerImplServer :=
  { s with mResponsePendingChallenges := s.mResponsePendingChallenges.insert client challenge }

variable {s s' t t' : FreshnessValueManagerImplServer} {services : ServerServices}
variable {client signal : String} {challenge : ByteVector} {ret : FvmErrorCode}
variable {es : List ServerEvent} {h g : List RoundEvent}

@[simp] theorem bookings_append : bookings (h ++ g) = bookings h ++ bookings g :=
  List.filter_append ..

@[simp] theorem mainEvents_append : mainEvents (h ++ g) = mainEvents h ++ mainEvents g :=
  List.filter_append ..

@[simp] theorem bookings_completed :
    bookings (.server (.mainFunctionCompleted ret) :: h) = bookings h :=
  rfl

@[simp] theorem mainEvents_completed : mainEvents (.server (.mainFunctionCompleted ret) :: h) =
    .server (.mainFunctionCompleted ret) :: mainEvents h :=
  rfl

@[simp] theorem bookings_recorded : bookings (.server (.recorded client challenge) :: h) =
    .server (.recorded client challenge) :: bookings h :=
  rfl

@[simp] theorem mainEvents_recorded :
    mainEvents (.server (.recorded client challenge) :: h) = mainEvents h :=
  rfl

@[simp] theorem bookings_round : bookings (.round :: h) = .round :: bookings h := rfl

@[simp] theorem mainEvents_round : mainEvents (.round :: h) = mainEvents h := rfl

/-- No challenge is among the events. -/
def NoneBooked (es : List ServerEvent) : Prop :=
  ∀ e ∈ es, (RoundEvent.server e).isBooking = false

theorem NoneBooked.bookings_map (hnone : NoneBooked es) : bookings (es.map .server) = [] := by
  apply List.filter_eq_nil_iff.mpr
  intro e hmem
  obtain ⟨e', hmem', rfl⟩ := List.mem_map.mp hmem
  rw [hnone e' hmem']
  exact Bool.false_ne_true

theorem NoneBooked.mainEvents_map (hnone : NoneBooked es) :
    mainEvents (es.map .server) = es.map .server := by
  apply List.filter_eq_self.mpr
  intro e hmem
  obtain ⟨e', hmem', rfl⟩ := List.mem_map.mp hmem
  rw [hnone e' hmem']
  rfl

theorem noneBooked_broadcastIfNeeded (signals : ISignalManager) :
    NoneBooked (s.broadcastIfNeeded signals).2.2 := by
  intro e hmem
  obtain ⟨value, hvalue⟩ := client_broadcastIfNeeded signals e hmem
  rw [hvalue]
  rfl

theorem noneBooked_response (hresponse : Response s services client challenge es) :
    NoneBooked es := by
  intro e hmem
  have hclient := hresponse.client_eq e hmem
  cases e with
  | recorded client' c =>
    have heq : client' = client := Option.some.inj hclient
    subst heq
    exact absurd hmem hresponse.recorded_not_mem
  | broadcast | answered | valuePublished | signaturePublished | mainFunctionCompleted => rfl

/-- The broadcast and a booking do not touch the same members. -/
theorem broadcastIfNeeded_book (signals : ISignalManager) :
    (s.book client challenge).broadcastIfNeeded signals =
      ((s.broadcastIfNeeded signals).1, (s.broadcastIfNeeded signals).2.1.book client challenge,
        (s.broadcastIfNeeded signals).2.2) := by
  unfold broadcastIfNeeded unauthenticatedBroadcast book
  dsimp only
  split
  · split
    · rfl
    · rfl
  · rfl

/-- Nor do the clock and a booking. -/
theorem advanceClock_book :
    (s.book client challenge).advanceClock = s.advanceClock.book client challenge := by
  unfold advanceClock book
  dsimp only
  split
  · split
    · rfl
    · rfl
  · split
    · rfl
    · rfl

/-- The main function, from what its round of responses does. -/
theorem mainFunction_of_respondIfNeeded (hinit : s.mInitialized = true)
    (hrespond : (s.broadcastIfNeeded services.broadcastSignals).2.1.respondIfNeeded services =
      .ok (.kSuccess, t, es)) :
    s.mainFunction services = .ok ((s.broadcastIfNeeded services.broadcastSignals).1,
      t.advanceClock, .mainFunctionCompleted (s.broadcastIfNeeded services.broadcastSignals).1 ::
        (es ++ (s.broadcastIfNeeded services.broadcastSignals).2.2)) := by
  have hgo : ¬ (!s.mInitialized) = true := by simp [hinit]
  unfold mainFunction
  rw [if_neg hgo]
  dsimp only
  rw [hrespond]
  rfl

theorem roundStep_mainFunction (hresult : s.mainFunction services = .ok (ret, s', es)) :
    roundStep s (.mainFunction services) =
      .ok (s', es.map .server ++ roundMark s (.mainFunction services)) := by
  unfold roundStep serverStep
  dsimp only
  rw [hresult]
  rfl

theorem roundStep_signal (hclient : clientOfSignal signal = some client)
    (hknown : client ∈ s.mClientNameToKeyId) (challenge : ByteVector) :
    roundStep s (.incomingAuthFvChallengeSignal signal challenge) =
      .ok (s.book client challenge, [.server (.recorded client challenge)]) := by
  unfold roundStep serverStep incomingAuthFvChallengeSignalsCb
  dsimp only
  rw [hclient]
  dsimp only
  rw [if_neg (not_not.mpr hknown)]
  rfl

/-! ## The sequential server that a threaded one stands for -/

/-- The sequential server does the whole of a call of the main function at the moment
where the threaded one gives the mutex back, or finds that no response is due.
Before this moment it stands where the call began, and after it at the end of the
call. -/
inductive Linearises {τ : Type} (c : ThreadedServer τ) (h : List RoundEvent)
    (s : FreshnessValueManagerImplServer) (g : List RoundEvent) : Prop
  | outside (hmain : c.main = .outside) (hserver : c.server = s)
      (hbookings : bookings h = bookings g) (hevents : mainEvents h = mainEvents g)
  | broadcasted {services : ServerServices} {ret : FvmErrorCode} {sent : List ServerEvent}
      (hmain : c.main = .broadcasted services ret) (hinit : s.mInitialized = true)
      (hserver : s.broadcastIfNeeded services.broadcastSignals = (ret, c.server, sent))
      (hbookings : bookings h = bookings g)
      (hevents : mainEvents h = sent.map .server ++ mainEvents g)
  /-- `made` is what the loop has made so far. -/
  | inRound {services : ServerServices} {ret : FvmErrorCode}
      {rest : List (Σ _ : String, ByteVector)} {sent made : List ServerEvent}
      (hmain : c.main = .inRound services ret rest) (hinit : s.mInitialized = true)
      (hserver : s.broadcastIfNeeded services.broadcastSignals = (ret, c.server, sent))
      (hneed : c.server.mNeedToSendAuthFvResponses = true)
      (hrest : rest <:+ services.order.arrange c.server.mResponsePendingChallenges.entries)
      (hround : ∀ later, c.server.sendResponses services rest = .ok later →
        c.server.sendResponses services (services.order.arrange
          c.server.mResponsePendingChallenges.entries) = .ok (later ++ made))
      (hbookings : bookings h = .round :: bookings g)
      (hevents : mainEvents h = (made ++ sent).map .server ++ mainEvents g)
  | responded {ret : FvmErrorCode} (hmain : c.main = .responded ret)
      (hserver : c.server.advanceClock = s) (hbookings : bookings h = bookings g)
      (hevents : mainEvents g = .server (.mainFunctionCompleted ret) :: mainEvents h)

/-- A thread that waits for the mutex has found the client of its signal among the
clients of the server. -/
def Checked {τ : Type} (c : ThreadedServer τ) : Prop :=
  ∀ thread signal client challenge, c.signals thread = .atLock signal client challenge →
    clientOfSignal signal = some client ∧ client ∈ c.server.mClientNameToKeyId

theorem noneBooked_sendResponses {entries : List (Σ _ : String, ByteVector)}
    (hevents : s.sendResponses services entries = .ok es) : NoneBooked es := by
  induction entries generalizing es with
  | nil =>
    cases hevents
    exact List.forall_mem_nil _
  | cons entry rest ih =>
    rw [sendResponses] at hevents
    split at hevents
    · cases hevents
    · rename_i first hfirst
      split at hevents
      · cases hevents
      · rename_i later hlater
        rw [← Except.ok.inj hevents]
        intro e hmem
        rcases List.mem_append.mp hmem with hmem | hmem
        · exact ih hlater e hmem
        · exact noneBooked_response (response_of_sendAuthenticFvResponse hfirst) e hmem

/-- The broadcast leaves the flag of the round and the clients alone. -/
theorem kept_of_broadcast {sent : List ServerEvent}
    (hbroadcast : s.broadcastIfNeeded services.broadcastSignals = (ret, t, sent)) :
    t.mNeedToSendAuthFvResponses = s.mNeedToSendAuthFvResponses ∧
      t.mClientNameToKeyId = s.mClientNameToKeyId ∧ t.mInitialized = s.mInitialized := by
  have ht : t = (s.broadcastIfNeeded services.broadcastSignals).2.1 := by rw [hbroadcast]
  rw [ht, broadcastIfNeeded_eq]
  exact ⟨rfl, rfl, rfl⟩

section Steps

variable {τ : Type} {c c' : ThreadedServer τ} {new : List RoundEvent}

/-- The sequential server makes the whole call. -/
theorem run_of_call {sent made : List ServerEvent} (hinit : s.mInitialized = true)
    (hbroadcast : s.broadcastIfNeeded services.broadcastSignals = (ret, t, sent))
    (hrespond : t.respondIfNeeded services = .ok (.kSuccess, t', made)) (hmade : NoneBooked made) :
    ∃ g', Run roundStep Anything s g t'.advanceClock g' ∧
      bookings g' = (if t.mNeedToSendAuthFvResponses then [.round] else []) ++ bookings g ∧
      mainEvents g' = .server (.mainFunctionCompleted ret) ::
        ((made ++ sent).map .server ++ mainEvents g) := by
  have hsent : NoneBooked sent := by
    have hnone := noneBooked_broadcastIfNeeded (s := s) services.broadcastSignals
    rw [hbroadcast] at hnone
    exact hnone
  have hresult : s.mainFunction services =
      .ok (ret, t'.advanceClock, .mainFunctionCompleted ret :: (made ++ sent)) := by
    have hrespond' : (s.broadcastIfNeeded services.broadcastSignals).2.1.respondIfNeeded services =
        .ok (.kSuccess, t', made) := by
      rw [hbroadcast]
      exact hrespond
    have hmain := mainFunction_of_respondIfNeeded hinit hrespond'
    rw [hbroadcast] at hmain
    exact hmain
  have hmark : roundMark s (.mainFunction services) =
      if t.mNeedToSendAuthFvResponses then [.round] else [] := by
    unfold roundMark opensRound
    rw [hinit, (kept_of_broadcast hbroadcast).1]
    rfl
  refine ⟨_, .single trivial (roundStep_mainFunction hresult), ?_, ?_⟩
  · rw [hmark]
    simp only [List.map_cons, List.map_append, List.cons_append, bookings_completed,
      bookings_append, hmade.bookings_map, hsent.bookings_map, List.nil_append]
    split
    · rfl
    · rfl
  · rw [hmark]
    simp only [List.map_cons, List.map_append, List.cons_append, mainEvents_completed,
      mainEvents_append, hmade.mainEvents_map, hsent.mainEvents_map]
    split
    · simp [mainEvents, RoundEvent.isBooking]
    · simp [mainEvents]

/-- A step of the main thread in `MainFunction`. -/
theorem Linearises.main {services' : ServerServices} (hlin : Linearises c h s g)
    (hnext : serverMainNext services' c = .ok (c', new)) :
    ∃ s' g', Run roundStep Anything s g s' g' ∧ Linearises c' (new ++ h) s' g' := by
  unfold serverMainNext at hnext
  cases hlin with
  | outside hmain hserver hbookings hevents =>
    rw [hmain] at hnext
    dsimp only at hnext
    split at hnext
    · rename_i hinit
      cases hnext
      have hinit' : s.mInitialized = false := by
        rw [← hserver]
        simpa using hinit
      have hresult : s.mainFunction services' =
          .ok (.kNotInitialized, s, [.mainFunctionCompleted .kNotInitialized]) := by
        unfold mainFunction
        rw [hinit']
        rfl
      have hmark : roundMark s (.mainFunction services') = [] := by
        unfold roundMark opensRound
        rw [hinit']
        rfl
      refine ⟨s, _, .single trivial (roundStep_mainFunction hresult), ?_⟩
      rw [hmark]
      refine .outside hmain hserver hbookings ?_
      show _ :: mainEvents h = _ :: mainEvents g
      rw [hevents]
    · rename_i hinit
      cases hnext
      have hnone := noneBooked_broadcastIfNeeded (s := c.server) services'.broadcastSignals
      have hinit' : s.mInitialized = true := by
        rw [← hserver]
        simpa using hinit
      refine ⟨s, g, .refl, .broadcasted rfl hinit' (by rw [← hserver]) ?_ ?_⟩
      · rw [bookings_append, hnone.bookings_map]
        exact hbookings
      · rw [mainEvents_append, hnone.mainEvents_map, hevents]
  | @broadcasted services ret sent hmain hinit hserver hbookings hevents =>
    rw [hmain] at hnext
    dsimp only at hnext
    split at hnext
    · rename_i hneed
      cases hnext
      have hround : ∀ later, c.server.sendResponses services (services.order.arrange
            c.server.mResponsePendingChallenges.entries) = .ok later →
          c.server.sendResponses services (services.order.arrange
            c.server.mResponsePendingChallenges.entries) = .ok (later ++ []) := by
        intro later hlater
        rw [hlater, List.append_nil]
      refine ⟨s, g, .refl, .inRound rfl hinit hserver hneed List.suffix_rfl hround ?_ hevents⟩
      rw [List.singleton_append, bookings_round, hbookings]
    · rename_i hidle
      cases hnext
      have hrespond : c.server.respondIfNeeded services = .ok (.kSuccess, c.server, []) := by
        unfold respondIfNeeded
        rw [if_neg hidle]
      obtain ⟨g', hrun, hbookings', hevents'⟩ :=
        run_of_call (g := g) hinit hserver hrespond (List.forall_mem_nil _)
      refine ⟨_, g', hrun, .responded rfl rfl ?_ ?_⟩
      · rw [hbookings', if_neg hidle]
        exact hbookings
      · rw [hevents', List.nil_append, ← hevents]
        rfl
  | @inRound services ret rest sent made hmain hinit hserver hneed hrest hround hbookings hevents =>
    rw [hmain] at hnext
    cases rest with
    | nil =>
      cases hnext
      have hall := hround [] rfl
      have hrespond : c.server.respondIfNeeded services = .ok (.kSuccess, { c.server with
          mResponsePendingChallenges := ∅
          mNeedToSendAuthFvResponses := false }, made) := by
        unfold respondIfNeeded sendAuthenticFvResponses
        rw [if_pos hneed, hall]
        rfl
      obtain ⟨g', hrun, hbookings', hevents'⟩ :=
        run_of_call (g := g) hinit hserver hrespond (noneBooked_sendResponses hall)
      refine ⟨_, g', hrun, .responded rfl rfl ?_ ?_⟩
      · rw [hbookings', if_pos hneed]
        exact hbookings
      · rw [hevents', ← hevents]
        rfl
    | cons entry rest =>
      obtain ⟨events, hsent, heq⟩ := exists_of_map_ok hnext
      cases heq
      have hnone := noneBooked_response (response_of_sendAuthenticFvResponse hsent)
      have hround' : ∀ later, c.server.sendResponses services rest = .ok later →
          c.server.sendResponses services (services.order.arrange
            c.server.mResponsePendingChallenges.entries) = .ok (later ++ (events ++ made)) := by
        intro later hlater
        have hmore : c.server.sendResponses services (entry :: rest) = .ok (later ++ events) := by
          rw [sendResponses, hsent]
          dsimp only
          rw [hlater]
        rw [hround _ hmore, List.append_assoc]
      refine ⟨s, g, .refl, .inRound rfl hinit hserver hneed
        ((List.suffix_cons entry rest).trans hrest) hround' ?_ ?_⟩
      · rw [bookings_append, hnone.bookings_map]
        exact hbookings
      · rw [mainEvents_append, hnone.mainEvents_map, hevents, List.map_append, List.map_append,
          List.map_append, List.append_assoc, List.append_assoc, List.append_assoc]
  | responded hmain hserver hbookings hevents =>
    rw [hmain] at hnext
    cases hnext
    refine ⟨s, g, .refl, .outside rfl hserver hbookings ?_⟩
    rw [hevents]
    rfl

/-- A booking, wherever the main thread stands outside its round. -/
theorem Linearises.book (hlin : Linearises c h s g) (hunlocked : c.main.unlocked = true)
    (hclient : clientOfSignal signal = some client)
    (hknown : client ∈ c.server.mClientNameToKeyId) (challenge : ByteVector)
    (signals : τ → SignalThread) :
    ∃ s' g', Run roundStep Anything s g s' g' ∧
      Linearises { c with server := c.server.book client challenge, signals := signals }
        (.server (.recorded client challenge) :: h) s' g' := by
  cases hlin with
  | outside hmain hserver hbookings hevents =>
    rw [hserver] at hknown
    refine ⟨_, _, .single trivial (roundStep_signal hclient hknown challenge), ?_⟩
    refine .outside hmain (by rw [hserver]) ?_ hevents
    rw [List.singleton_append, bookings_recorded, bookings_recorded, hbookings]
  | broadcasted hmain hinit hserver hbookings hevents =>
    rw [(kept_of_broadcast hserver).2.1] at hknown
    refine ⟨_, _, .single trivial (roundStep_signal hclient hknown challenge), ?_⟩
    refine .broadcasted hmain hinit ?_ ?_ hevents
    · rw [broadcastIfNeeded_book, hserver]
    · rw [List.singleton_append, bookings_recorded, bookings_recorded, hbookings]
  | inRound hmain =>
    rw [hmain] at hunlocked
    cases hunlocked
  | responded hmain hserver hbookings hevents =>
    have hknown' : client ∈ s.mClientNameToKeyId := by
      rw [← hserver, advanceClock_responses.2.1]
      exact hknown
    refine ⟨_, _, .single trivial (roundStep_signal hclient hknown' challenge), ?_⟩
    refine .responded hmain ?_ ?_ hevents
    · rw [← hserver]
      exact advanceClock_book
    · rw [List.singleton_append, bookings_recorded, bookings_recorded, hbookings]

/-- Where a signal thread stands does not matter to the sequential server. -/
theorem Linearises.withSignals (hlin : Linearises c h s g) (signals : τ → SignalThread) :
    Linearises { c with signals := signals } h s g := by
  cases hlin with
  | outside hmain hserver hbookings hevents => exact .outside hmain hserver hbookings hevents
  | broadcasted hmain hinit hserver hbookings hevents =>
    exact .broadcasted hmain hinit hserver hbookings hevents
  | inRound hmain hinit hserver hneed hrest hround hbookings hevents =>
    exact .inRound hmain hinit hserver hneed hrest hround hbookings hevents
  | responded hmain hserver hbookings hevents =>
    exact .responded hmain hserver hbookings hevents

/-- Another call to the manager. -/
theorem Linearises.call (hlin : Linearises c h s g) (hmain : c.main = .outside)
    (call : ManagerCall) :
    ∃ s' g', Run roundStep Anything s g s' g' ∧
      Linearises { c with server := { c.server with toAFreshnessValueManagerImpl :=
        (managerNext c.server.toAFreshnessValueManagerImpl call.1).1 } } h s' g' := by
  cases hlin with
  | outside _ hserver hbookings hevents =>
    have hstep : roundStep s (.call call) = .ok ({ s with toAFreshnessValueManagerImpl :=
        (managerNext s.toAFreshnessValueManagerImpl call.1).1 }, []) := rfl
    refine ⟨_, _, .single trivial hstep, .outside hmain ?_ hbookings hevents⟩
    rw [hserver]
  | broadcasted hmain' | inRound hmain' | responded hmain' =>
    rw [hmain] at hmain'
    cases hmain'

/-! ## Every threaded run has a sequential one -/

theorem keys_serverMainNext (hnext : serverMainNext services c = .ok (c', new)) :
    c'.server.mClientNameToKeyId = c.server.mClientNameToKeyId ∧ c'.signals = c.signals := by
  unfold serverMainNext at hnext
  split at hnext
  · split at hnext
    · cases hnext
      exact ⟨rfl, rfl⟩
    · cases hnext
      dsimp only
      rw [broadcastIfNeeded_eq]
      exact ⟨rfl, rfl⟩
  · split at hnext
    · cases hnext
      exact ⟨rfl, rfl⟩
    · cases hnext
      exact ⟨rfl, rfl⟩
  · obtain ⟨events, -, heq⟩ := exists_of_map_ok hnext
    cases heq
    exact ⟨rfl, rfl⟩
  · cases hnext
    exact ⟨rfl, rfl⟩
  · cases hnext
    exact ⟨advanceClock_responses.2.1, rfl⟩

variable [DecidableEq τ] {op : ServerThreadOp τ}

/-- What a thread has checked stays true. -/
theorem Checked.step (hchecked : Checked c) (hstep : serverThreadStep c op = .ok (c', new)) :
    Checked c' := by
  have hkept : c'.server.mClientNameToKeyId = c.server.mClientNameToKeyId →
      c'.signals = c.signals → Checked c' := by
    intro hkeys hsignals thread signal client challenge hat
    rw [hsignals] at hat
    rw [hkeys]
    exact hchecked thread signal client challenge hat
  unfold serverThreadStep at hstep
  cases op with
  | main services =>
    obtain ⟨hkeys, hsignals⟩ := keys_serverMainNext hstep
    exact hkept hkeys hsignals
  | call call =>
    dsimp only at hstep
    split at hstep
    · cases hstep
      exact hkept rfl rfl
    · cases hstep
      exact hchecked
  | signal thread signal challenge =>
    dsimp only at hstep
    split at hstep
    · cases hstep
      intro thread' signal' client challenge' hat
      dsimp only at hat ⊢
      by_cases hthread : thread' = thread
      · rw [hthread, Function.update_self] at hat
        unfold signalUpToLock at hat
        split at hat
        · cases hat
        · rename_i client' hclient
          split at hat
          · cases hat
          · rename_i hknown
            cases hat
            exact ⟨hclient, not_not.mp hknown⟩
      · rw [Function.update_of_ne hthread] at hat
        exact hchecked thread' signal' client challenge' hat
    · cases hstep
      exact hchecked
  | proceed thread =>
    dsimp only at hstep
    split at hstep
    · cases hstep
      exact hchecked
    · split at hstep
      · cases hstep
        intro thread' signal' client' challenge' hat
        dsimp only at hat ⊢
        by_cases hthread : thread' = thread
        · rw [hthread, Function.update_self] at hat
          cases hat
        · rw [Function.update_of_ne hthread] at hat
          exact hchecked thread' signal' client' challenge' hat
      · cases hstep
        exact hchecked

/-- A step of any thread. -/
theorem Linearises.step (hlin : Linearises c h s g) (hchecked : Checked c)
    (hstep : serverThreadStep c op = .ok (c', new)) :
    ∃ s' g', Run roundStep Anything s g s' g' ∧ Linearises c' (new ++ h) s' g' := by
  unfold serverThreadStep at hstep
  cases op with
  | main services => exact hlin.main hstep
  | call call =>
    dsimp only at hstep
    split at hstep
    · rename_i hmain
      cases hstep
      exact hlin.call hmain call
    · cases hstep
      exact ⟨s, g, .refl, hlin⟩
  | signal thread signal challenge =>
    dsimp only at hstep
    split at hstep
    · cases hstep
      exact ⟨s, g, .refl, hlin.withSignals _⟩
    · cases hstep
      exact ⟨s, g, .refl, hlin⟩
  | proceed thread =>
    dsimp only at hstep
    split at hstep
    · cases hstep
      exact ⟨s, g, .refl, hlin⟩
    · rename_i signal client challenge hat
      split at hstep
      · rename_i hunlocked
        cases hstep
        obtain ⟨hclient, hknown⟩ := hchecked thread signal client challenge hat
        exact hlin.book hunlocked hclient hknown challenge _
      · cases hstep
        exact ⟨s, g, .refl, hlin⟩

/-- Every run of the threads is a run of the sequential server. -/
theorem linearises_of_run {P : Guard (ThreadedServer τ) (ServerThreadOp τ) RoundEvent}
    {c₀ : ThreadedServer τ} {h₀ g₀ : List RoundEvent} {s₀ : FreshnessValueManagerImplServer}
    (hlin : Linearises c₀ h₀ s₀ g₀) (hchecked : Checked c₀)
    (hrun : Run serverThreadStep P c₀ h₀ c h) :
    ∃ s g, Run roundStep Anything s₀ g₀ s g ∧ Linearises c h s g ∧ Checked c := by
  refine hrun.refine (fun c h s g => Linearises c h s g ∧ Checked c) ⟨hlin, hchecked⟩ ?_
  intro c h s g op c' new ⟨hlin, hchecked⟩ _ hstep
  obtain ⟨s', g', hmatched, hlin'⟩ := hlin.step hchecked hstep
  exact ⟨s', g', hmatched, hlin', hchecked.step hstep⟩

/-- Nothing is under way in a threaded server. -/
structure Idle (c : ThreadedServer τ) : Prop where
  main : c.main = .outside
  signals : ∀ thread, c.signals thread = .outside

omit [DecidableEq τ] in
theorem Idle.checked (hidle : Idle c) : Checked c := by
  intro thread signal client challenge hat
  rw [hidle.signals thread] at hat
  cases hat

omit [DecidableEq τ] in
/-- Between two calls the two servers are the same. -/
theorem Linearises.of_outside (hlin : Linearises c h s g) (hmain : c.main = .outside) :
    c.server = s ∧ bookings h = bookings g ∧ mainEvents h = mainEvents g := by
  cases hlin with
  | outside _ hserver hbookings hevents => exact ⟨hserver, hbookings, hevents⟩
  | broadcasted hmain' | inRound hmain' | responded hmain' =>
    rw [hmain] at hmain'
    cases hmain'

/-- **A server with threads is the sequential server.**  Take any run of the main
thread and the signal threads, and two moments of it between calls of the main
function.  The sequential server has a run through the same two states, with the same
broadcasts, signatures and publications in the same order, and the same bookings and
rounds in the same order. -/
theorem server_threads_linearise {P : Guard (ThreadedServer τ) (ServerThreadOp τ) RoundEvent}
    {c₀ c₁ c₂ : ThreadedServer τ} {h₁ h₂ : List RoundEvent} (hidle : Idle c₀)
    (hfirst : Run serverThreadStep P c₀ [] c₁ h₁) (hmain₁ : c₁.main = .outside)
    (hsecond : Run serverThreadStep P c₁ h₁ c₂ h₂) (hmain₂ : c₂.main = .outside) :
    ∃ g₁ g₂, Run roundStep Anything c₀.server [] c₁.server g₁ ∧
      Run roundStep Anything c₁.server g₁ c₂.server g₂ ∧
      mainEvents h₁ = mainEvents g₁ ∧ bookings h₁ = bookings g₁ ∧
      mainEvents h₂ = mainEvents g₂ ∧ bookings h₂ = bookings g₂ := by
  obtain ⟨s₁, g₁, hrun₁, hlin₁, hchecked₁⟩ :=
    linearises_of_run (.outside hidle.main rfl rfl rfl) hidle.checked hfirst
  obtain ⟨s₂, g₂, hrun₂, hlin₂, -⟩ := linearises_of_run hlin₁ hchecked₁ hsecond
  obtain ⟨hserver₁, hbookings₁, hevents₁⟩ := hlin₁.of_outside hmain₁
  obtain ⟨hserver₂, hbookings₂, hevents₂⟩ := hlin₂.of_outside hmain₂
  rw [hserver₁, hserver₂]
  exact ⟨g₁, g₂, hrun₁, hrun₂, hevents₁, hbookings₁, hevents₂, hbookings₂⟩

end Steps

/-- The main thread is between two calls. -/
def ServerMainThread.isOutside : ServerMainThread → Bool
  | .outside => true
  | _ => false

theorem outside_of_isOutside {main : ServerMainThread} (hmain : main.isOutside = true) :
    main = .outside := by
  cases main with
  | outside => rfl
  | broadcasted | inRound | responded => cases hmain

/-- A server after its first `Init`, with two signal threads. -/
def firstThreadedServer : ThreadedServer Bool :=
  ⟨firstServer, .outside, fun _ => .outside⟩

theorem idle_firstThreadedServer : Idle firstThreadedServer :=
  ⟨rfl, fun _ => rfl⟩

/-- Twenty calls in which no response is due. One signal thread comes to the lock. -/
def quietCalls : List (ServerThreadOp Bool) :=
  .signal true "SOK_Zeit_SINK_Challenge" (.replicate 8 7) ::
    List.replicate 60 (.main reliableServices)

/-- The call of the round. A challenge is booked after its broadcast, and another one
has to wait until the round is over. -/
def contestedRound : List (ServerThreadOp Bool) :=
  [.main reliableServices, .proceed true, .main reliableServices,
    .signal false "SOK_Zeit_SINK_Challenge" (.replicate 8 9), .proceed false,
    .main reliableServices, .main reliableServices, .proceed false, .main reliableServices]

/-- The theorem at the two parts of this run. -/
theorem server_threads_linearise_contested :
    ∃ c₁ h₁ c₂ h₂, Run serverThreadStep Anything firstThreadedServer [] c₁ h₁ ∧
      Run serverThreadStep Anything c₁ h₁ c₂ h₂ ∧
      bookings h₂ = [.server (.recorded "SINK" (.replicate 8 9)), .round,
        .server (.recorded "SINK" (.replicate 8 7))] ∧
      ∃ g₁ g₂, Run roundStep Anything firstServer [] c₁.server g₁ ∧
        Run roundStep Anything c₁.server g₁ c₂.server g₂ ∧
        mainEvents h₁ = mainEvents g₁ ∧ bookings h₁ = bookings g₁ ∧
        mainEvents h₂ = mainEvents g₂ ∧ bookings h₂ = bookings g₂ := by
  have hquiet := Run.of_execState (m := serverThreadStep) (P := Anything)
    (s := firstThreadedServer) (h := []) quietCalls (execMeets_anything _) (by decide +kernel)
  have hround := Run.of_execState (m := serverThreadStep) (P := Anything)
    (s := (execState serverThreadStep firstThreadedServer [] quietCalls).1)
    (h := (execState serverThreadStep firstThreadedServer [] quietCalls).2) contestedRound
    (execMeets_anything _) (by decide +kernel)
  refine ⟨_, _, _, _, hquiet, hround, by decide +kernel, ?_⟩
  exact server_threads_linearise idle_firstThreadedServer hquiet
    (outside_of_isOutside (by decide +kernel)) hround (outside_of_isOutside (by decide +kernel))

/-! ## Back to the threads -/

section Answers

variable {τ : Type} {c c' : ThreadedServer τ} {new : List RoundEvent}

/-- What is booked since the last round can be read off the bookings alone. -/
theorem lastChallenge_bookings (client : String) (h : List RoundEvent) :
    lastChallenge client (since RoundEvent.isRound (bookings h)) =
      lastChallenge client (since RoundEvent.isRound h) := by
  induction h with
  | nil => rfl
  | cons e h ih =>
    cases hbooking : e.isBooking with
    | true =>
      have hcons : bookings (e :: h) = e :: bookings h := List.filter_cons_of_pos hbooking
      rw [hcons]
      cases hround : e.isRound with
      | true => rw [since_cons_of_mark hround, since_cons_of_mark hround]
      | false =>
        rw [since_cons_of_not_mark hround, since_cons_of_not_mark hround]
        unfold lastChallenge at ih ⊢
        rw [List.findSome?_cons, List.findSome?_cons, ih]
    | false =>
      have hskip : bookings (e :: h) = bookings h :=
        List.filter_cons_of_neg (by rw [hbooking]; exact Bool.false_ne_true)
      rw [hskip, ih]
      cases e with
      | round => cases hbooking
      | server e =>
        rw [since_cons_of_not_mark rfl]
        have hnone : (RoundEvent.server e).challengeOf client = none := by
          cases e with
          | recorded => cases hbooking
          | broadcast | answered | valuePublished | signaturePublished | mainFunctionCompleted =>
            rfl
        unfold lastChallenge
        rw [List.findSome?_cons, hnone]

variable [DecidableEq τ] {op : ServerThreadOp τ}

/-- An answer is signed in the loop of the main thread. -/
theorem answered_of_serverThreadStep {keyId : UInt16} {fv : UInt64} {data mac : ByteVector}
    (hstep : serverThreadStep c op = .ok (c', new))
    (hanswered : .server (.answered client keyId challenge fv data mac) ∈ new) :
    ∃ services ret entry rest events, c.main = .inRound services ret (entry :: rest) ∧
      c.server.sendAuthenticFvResponse services entry = .ok events ∧
      .answered client keyId challenge fv data mac ∈ events := by
  unfold serverThreadStep at hstep
  cases op with
  | main services' =>
    dsimp only at hstep
    unfold serverMainNext at hstep
    split at hstep
    · split at hstep
      · cases hstep
        simp at hanswered
      · cases hstep
        obtain ⟨e, hmem, heq⟩ := List.mem_map.mp hanswered
        have hbroadcast := (event_broadcastIfNeeded _ e hmem).2
        rw [hbroadcast] at heq
        cases heq
    · split at hstep
      · cases hstep
        simp at hanswered
      · cases hstep
        simp at hanswered
    · rename_i services ret entry rest hmain
      obtain ⟨events, hsent, heq⟩ := exists_of_map_ok hstep
      cases heq
      obtain ⟨e, hmem, heq⟩ := List.mem_map.mp hanswered
      rw [RoundEvent.server.inj heq] at hmem
      exact ⟨services, ret, entry, rest, events, hmain, hsent, hmem⟩
    · cases hstep
      simp at hanswered
    · cases hstep
      simp at hanswered
  | call call =>
    dsimp only at hstep
    split at hstep
    · cases hstep
      simp at hanswered
    · cases hstep
      simp at hanswered
  | signal thread signal challenge' =>
    dsimp only at hstep
    split at hstep
    · cases hstep
      simp at hanswered
    · cases hstep
      simp at hanswered
  | proceed thread =>
    dsimp only at hstep
    split at hstep
    · cases hstep
      simp at hanswered
    · split at hstep
      · cases hstep
        simp at hanswered
      · cases hstep
        simp at hanswered

/-- **The answers of a server with threads.**  When the main thread signs an answer, no
challenge has been booked since the round began; the answer is to the challenge that
its client booked last since the round before, and it is over the freshness value of
the server. -/
theorem threads_answer_last_booked
    {P : Guard (ThreadedServer τ) (ServerThreadOp τ) RoundEvent} {c₀ : ThreadedServer τ}
    {keyId : UInt16} {fv : UInt64} {data mac : ByteVector} (hinit : c₀.server.FirstInit)
    (hidle : Idle c₀) (hrun : Run serverThreadStep P c₀ [] c h)
    (hstep : serverThreadStep c op = .ok (c', new))
    (hanswered : .server (.answered client keyId challenge fv data mac) ∈ new) :
    ∃ newer older, h = newer ++ .round :: older ∧ (∀ e ∈ newer, e.isBooking = false) ∧
      lastChallenge client (since RoundEvent.isRound older) = some challenge ∧
      fv = c.server.mFV ∧ data = challenge ++ serializedFv c.server := by
  obtain ⟨s, g, hsequential, hlin, -⟩ :=
    linearises_of_run (.outside hidle.main rfl rfl rfl) hidle.checked hrun
  obtain ⟨-, hbooked⟩ := roundClock_of_run hinit hsequential
  obtain ⟨services, ret, entry, rest, events, hmain, hsent, hmem⟩ :=
    answered_of_serverThreadStep hstep hanswered
  obtain ⟨hentry, hfv, hdata, -⟩ := answered_of_sendAuthenticFvResponse hsent hmem
  cases hlin with
  | outside hmain' | broadcasted hmain' | responded hmain' =>
    rw [hmain] at hmain'
    cases hmain'
  | inRound hmain' hready hserver hneed hrest hround hbookings hevents =>
    rw [hmain] at hmain'
    cases hmain'
    -- The entry is one of the map, and the map is that of the sequential server.
    have hlookup : c.server.mResponsePendingChallenges.lookup client = some challenge := by
      apply AList.mem_lookup_iff.mpr
      apply (services.order.perm _).mem_iff.mp
      rw [← hentry]
      exact hrest.subset List.mem_cons_self
    have hpending : c.server.mResponsePendingChallenges = s.mResponsePendingChallenges := by
      have hc : c.server = (s.broadcastIfNeeded services.broadcastSignals).2.1 := by rw [hserver]
      rw [hc, broadcastIfNeeded_eq]
    obtain ⟨newer, older, hsplit, hnewer, -, holder⟩ := List.filter_eq_cons_iff.mp hbookings
    refine ⟨newer, older, hsplit, ?_, ?_, hfv, ?_⟩
    · intro e hmem'
      exact Bool.eq_false_of_not_eq_true (hnewer e hmem')
    · have hold : bookings older = bookings g := holder
      rw [← lastChallenge_bookings, hold, lastChallenge_bookings, ← hbooked.lookup, ← hpending]
      exact hlookup
    · rw [hdata, hfv]
      rfl

/-- The theorem at the round with a challenge that comes late. -/
theorem threads_answer_last_booked_contested :
    ∃ c h newer older, Run serverThreadStep Anything firstThreadedServer [] c h ∧
      h = newer ++ .round :: older ∧ (∀ e ∈ newer, e.isBooking = false) ∧
      lastChallenge "SINK" (since RoundEvent.isRound older) = some (.replicate 8 7) ∧
      0x07070707070708 = c.server.mFV ∧
      .replicate 8 7 ++ [7, 7, 7, 7, 7, 7, 8] = .replicate 8 7 ++ serializedFv c.server := by
  obtain ⟨c, h, hrun, c', new, hstep, hmem⟩ :
      ∃ c h, Run serverThreadStep Anything firstThreadedServer [] c h ∧
        Emits serverThreadStep c (.main reliableServices)
          (.server (.answered "SINK" 132 (.replicate 8 7) 0x07070707070708
            (.replicate 8 7 ++ [7, 7, 7, 7, 7, 7, 8]) (.replicate 8 0))) :=
    Run.exists_of_exec (quietCalls ++ contestedRound.take 5) (by decide +kernel)
  obtain ⟨newer, older, hanswer⟩ := threads_answer_last_booked firstInit_firstServer
    idle_firstThreadedServer hrun hstep hmem
  exact ⟨c, h, newer, older, hrun, hanswer⟩

end Answers

end Sok.Fvm
