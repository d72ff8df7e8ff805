import SokFvm.Fvm.SignalManagerSci

/-!
# The event handlers of `SignalManagerSci`

`Subscribe` begins with a look into `mInSignals` for the name of the signal, and logs
"Already subscribed" if it is there.  `Publish` has the same look-up in `mOutSignals`,
and enters the signals it creates.  `Subscribe` does not: it creates the signal, hands
SCI a handler for it and keeps the handler, but `mInSignals` stays empty.

`subscribeStep` is the manager as the callers of `Subscribe` drive it.  `Registered` is
the invariant of all its runs: the names of the handlers are the names for which a
call was successful, whatever SCI answered and wherever a creation broke off.
`OneHandlerEach` is what the look-up is there for, and `one_handler_iff` says that it
holds in a run for as long as nobody subscribes to a name that has a handler.

Which handlers SCI calls at a change is a parameter, `notified`, with the assumption
`CallsHandlers`.
-/

namespace Sok.Fvm

open Sok.Common StateMachine

/-- SCI calls the handlers that were registered for the signal. -/
def CallsHandlers (notified : List SignalConfig → ReceivedSignal → List SignalConfig) : Prop :=
  ∀ handlers signal,
    notified handlers signal = handlers.filter fun handler => handler.name = signal.name

namespace SignalManagerSci

/-- A call of `Subscribe`. -/
structure Subscription where
  signalConfig : SignalConfig
  code : FvmErrorCode
  /-- The handlers that the call has registered. -/
  registered : List SignalConfig
  deriving DecidableEq

/-- The manager under calls of `Subscribe`. With each call comes how SCI answers it. -/
def subscribeStep : Machine SignalManagerSci (ISignalClient × SignalConfig) Subscription Fault :=
  fun self call =>
    let ret := self.subscribe call.1 call.2
    .ok (ret.2, [{
      signalConfig := call.2
      code := ret.1
      registered := ret.2.mSignalEventHandlers.drop self.mSignalEventHandlers.length }])

/-- A call for the name was successful. -/
def Subscribed (h : List Subscription) (name : String) : Prop :=
  ∃ e ∈ h, e.code = .kSuccess ∧ e.signalConfig.name = name

instance (h : List Subscription) (name : String) : Decidable (Subscribed h name) :=
  inferInstanceAs (Decidable (∃ e ∈ h, e.code = .kSuccess ∧ e.signalConfig.name = name))

/-- There is a handler for the name. -/
def Handled (self : SignalManagerSci) (name : String) : Prop :=
  ∃ handler ∈ self.mSignalEventHandlers, handler.name = name

instance (self : SignalManagerSci) (name : String) : Decidable (self.Handled name) :=
  inferInstanceAs (Decidable (∃ handler ∈ self.mSignalEventHandlers, handler.name = name))

/-- The call-backs that run when a signal has changed. -/
def callbacks (notified : List SignalConfig → ReceivedSignal → List SignalConfig)
    (self : SignalManagerSci) (signal : ReceivedSignal) : List (String × ByteVector) :=
  (notified self.mSignalEventHandlers signal).filterMap fun _ => onEvent .kOnChange signal

/-- One handler per signal that was subscribed to. -/
structure OneHandlerEach (notified : List SignalConfig → ReceivedSignal → List SignalConfig)
    (manager : SignalManagerSci) (h : List Subscription) : Prop where
  turnedDown : EachEvent (fun e past => Subscribed past e.signalConfig.name →
    e.code = .kAlreadyInitialized ∧ e.registered = []) h
  atMostOne : ∀ name, (manager.mSignalEventHandlers.filter fun handler =>
    handler.name = name).length ≤ 1
  oneCallback : ∀ signal : ReceivedSignal, Subscribed h signal.name →
    (onEvent .kOnChange signal).isSome → (manager.callbacks notified signal).length = 1

/-- The name of the call has no handler yet. -/
def NotHandled : Guard SignalManagerSci (ISignalClient × SignalConfig) Subscription :=
  fun self _ call => ¬ self.Handled call.2.name

instance (self : SignalManagerSci) (h : List Subscription) :
    DecidablePred (NotHandled self h) :=
  fun call => inferInstanceAs (Decidable (¬ self.Handled call.2.name))

/-! ## What a call does -/

variable {self self' : SignalManagerSci}
variable {call : ISignalClient × SignalConfig} {h es : List Subscription} {name : String}

/-- A call is successful and keeps a handler, or it fails and keeps none. -/
theorem subscribe_cases (self : SignalManagerSci) (client : ISignalClient)
    (signalConfig : SignalConfig) :
    ((self.subscribe client signalConfig).1 = .kSuccess ∧
      (self.subscribe client signalConfig).2.mSignalEventHandlers =
        self.mSignalEventHandlers ++ [signalConfig]) ∨
    ((self.subscribe client signalConfig).1 ≠ .kSuccess ∧
      (self.subscribe client signalConfig).2.mSignalEventHandlers =
        self.mSignalEventHandlers) := by
  unfold subscribe
  dsimp only
  split
  · right
    exact ⟨by simp, rfl⟩
  · split
    · right
      exact ⟨by simp, rfl⟩
    · split
      · right
        exact ⟨by simp, rfl⟩
      · rename_i signal hcreated
        split
        · right
          exact ⟨by simp, rfl⟩
        · left
          rw [SciCaches.eq_of_createSignal hcreated]
          exact ⟨rfl, rfl⟩

/-- The step of a successful call, and of a call that fails. -/
theorem subscribeStep_cases (hstep : subscribeStep self call = .ok (self', es)) :
    self'.mInSignals = self.mInSignals ∧ ∃ code,
      (self.mInSignals = ∅ → code ≠ .kAlreadyInitialized) ∧
      ((code = .kSuccess ∧ es = [⟨call.2, code, [call.2]⟩] ∧
          self'.mSignalEventHandlers = self.mSignalEventHandlers ++ [call.2]) ∨
        (code ≠ .kSuccess ∧ es = [⟨call.2, code, []⟩] ∧
          self'.mSignalEventHandlers = self.mSignalEventHandlers)) := by
  cases Except.ok.inj hstep
  refine ⟨mInSignals_subscribe, (self.subscribe call.1 call.2).1, subscribe_ne_of_mInSignals, ?_⟩
  rcases self.subscribe_cases call.1 call.2 with ⟨hcode, hkept⟩ | ⟨hcode, hkept⟩
  · left
    refine ⟨hcode, ?_, hkept⟩
    rw [hkept, List.drop_left]
  · right
    refine ⟨hcode, ?_, hkept⟩
    rw [hkept, List.drop_length]

/-! ## The invariant of all runs -/

/-- The handlers against the past. -/
structure Registered (manager : SignalManagerSci) (h : List Subscription) : Prop where
  mInSignals : manager.mInSignals = ∅
  handled_iff : ∀ name, manager.Handled name ↔ Subscribed h name

theorem registered_constructed (sciFound : Bool) : (constructed sciFound).Registered [] := by
  refine ⟨rfl, ?_⟩
  intro name
  constructor
  · rintro ⟨handler, hmem, -⟩
    cases hmem
  · rintro ⟨e, hmem, -⟩
    cases hmem

theorem subscribed_cons {e : Subscription} : Subscribed (e :: h) name ↔
    (e.code = .kSuccess ∧ e.signalConfig.name = name) ∨ Subscribed h name := by
  unfold Subscribed
  rw [List.exists_mem_cons_iff]

/-- Step lemma. -/
theorem Registered.step (hregistered : self.Registered h)
    (hstep : subscribeStep self call = .ok (self', es)) : self'.Registered (es ++ h) := by
  obtain ⟨hempty, code, -, hcases⟩ := subscribeStep_cases hstep
  refine ⟨hempty.trans hregistered.mInSignals, ?_⟩
  intro name
  rcases hcases with ⟨hcode, rfl, hkept⟩ | ⟨hcode, rfl, hkept⟩
  · have hhandled : self'.Handled name ↔ self.Handled name ∨ call.2.name = name := by
      unfold Handled
      rw [hkept]
      simp only [List.mem_append, List.mem_singleton, or_and_right, exists_or, exists_eq_left]
    rw [hhandled, hregistered.handled_iff, List.singleton_append, subscribed_cons]
    constructor
    · rintro (hold | hname)
      · right
        exact hold
      · left
        exact ⟨hcode, hname⟩
    · rintro (⟨-, hname⟩ | hold)
      · right
        exact hname
      · left
        exact hold
  · have hhandled : self'.Handled name ↔ self.Handled name := by
      unfold Handled
      rw [hkept]
    rw [hhandled, hregistered.handled_iff, List.singleton_append, subscribed_cons]
    constructor
    · intro hold
      right
      exact hold
    · rintro (⟨hsuccess, -⟩ | hold)
      · exact absurd hsuccess hcode
      · exact hold

/-- Run lemma. -/
theorem registered_of_run {P : Guard SignalManagerSci (ISignalClient × SignalConfig) Subscription}
    {sciFound : Bool} (hrun : Run subscribeStep P (constructed sciFound) [] self h) :
    self.Registered h :=
  hrun.invariant Registered (registered_constructed sciFound)
    fun _ _ _ _ _ hregistered _ hstep => hregistered.step hstep

/-! ## Runs without a second subscription -/

variable {notified : List SignalConfig → ReceivedSignal → List SignalConfig}

/-- The handlers for a name are those of its first call. -/
theorem atMostOne_step (hone : (self.mSignalEventHandlers.filter fun handler =>
      handler.name = name).length ≤ 1) (hmeets : NotHandled self h call)
    (hstep : subscribeStep self call = .ok (self', es)) :
    (self'.mSignalEventHandlers.filter fun handler => handler.name = name).length ≤ 1 := by
  obtain ⟨-, code, -, ⟨-, -, hkept⟩ | ⟨-, -, hkept⟩⟩ := subscribeStep_cases hstep
  · rw [hkept, List.filter_append, List.length_append]
    by_cases hname : call.2.name = name
    · have hnone : (self.mSignalEventHandlers.filter fun handler => handler.name = name) = [] := by
        rw [List.filter_eq_nil_iff]
        intro handler hmem hhandler
        exact hmeets ⟨handler, hmem, (of_decide_eq_true hhandler).trans hname.symm⟩
      rw [hnone]
      exact Nat.le_trans (Nat.add_le_add_left (List.length_filter_le _ _) _) (by simp)
    · rw [List.filter_singleton, decide_eq_false hname]
      exact hone
  · rw [hkept]
    exact hone

/-- A signal with one handler has one call-back for each change. -/
theorem callbacks_length (hsci : CallsHandlers notified) (hhandled : self.Handled name)
    (hone : (self.mSignalEventHandlers.filter fun handler => handler.name = name).length ≤ 1)
    {signal : ReceivedSignal} (hname : signal.name = name)
    (hvalue : (onEvent .kOnChange signal).isSome) :
    (self.callbacks notified signal).length = 1 := by
  obtain ⟨value, hvalue⟩ := Option.isSome_iff_exists.mp hvalue
  obtain ⟨handler, hmem, hhandler⟩ := hhandled
  have hpos : 0 < (self.mSignalEventHandlers.filter fun handler => handler.name = name).length :=
    List.length_pos_of_mem (List.mem_filter.mpr ⟨hmem, decide_eq_true hhandler⟩)
  have hall : (self.callbacks notified signal).length =
      (self.mSignalEventHandlers.filter fun handler => handler.name = name).length := by
    unfold callbacks
    rw [hvalue, hsci, hname, List.filterMap_eq_map', List.length_map]
  omega

/-- The property holds of every run without a second subscription to a name. -/
theorem oneHandlerEach_of_run (hsci : CallsHandlers notified) {sciFound : Bool}
    (hrun : Run subscribeStep NotHandled (constructed sciFound) [] self h) :
    OneHandlerEach notified self h := by
  have hregistered := registered_of_run hrun
  have hone : ∀ name, (self.mSignalEventHandlers.filter fun handler =>
      handler.name = name).length ≤ 1 := by
    intro name
    refine hrun.stateInvariant (fun self => (self.mSignalEventHandlers.filter fun handler =>
      handler.name = name).length ≤ 1) (Nat.zero_le _) ?_
    intro self h call self' es hone hmeets hstep
    exact atMostOne_step hone hmeets hstep
  refine ⟨?_, hone, ?_⟩
  · have hinv : self.Registered h ∧ EachEvent (fun e past => Subscribed past e.signalConfig.name →
        e.code = .kAlreadyInitialized ∧ e.registered = []) h := by
      refine hrun.invariant (fun self h => self.Registered h ∧ EachEvent (fun e past =>
        Subscribed past e.signalConfig.name →
          e.code = .kAlreadyInitialized ∧ e.registered = []) h)
        ⟨registered_constructed sciFound, trivial⟩ ?_
      rintro self h call self' es ⟨hregistered, heach⟩ hmeets hstep
      refine ⟨hregistered.step hstep, ?_⟩
      have hnew : ¬ Subscribed h call.2.name := by
        rw [← hregistered.handled_iff]
        exact hmeets
      obtain ⟨-, code, -, ⟨-, rfl, -⟩ | ⟨-, rfl, -⟩⟩ := subscribeStep_cases hstep
      · exact ⟨fun hsubscribed => absurd hsubscribed hnew, heach⟩
      · exact ⟨fun hsubscribed => absurd hsubscribed hnew, heach⟩
    exact hinv.2
  · intro signal hsubscribed hvalue
    exact callbacks_length hsci ((hregistered.handled_iff _).mpr hsubscribed) (hone _) rfl hvalue

/-! ## The second subscription -/

/-- A call for a name that has a handler breaks the property, whatever SCI answers. -/
theorem not_oneHandlerEach_of_handled (hregistered : self.Registered h)
    (hhandled : self.Handled call.2.name)
    (hstep : subscribeStep self call = .ok (self', es)) :
    ¬ OneHandlerEach notified self' (es ++ h) := by
  intro hone
  have hsubscribed : Subscribed h call.2.name := (hregistered.handled_iff _).mp hhandled
  obtain ⟨-, code, hcode, ⟨-, rfl, -⟩ | ⟨-, rfl, -⟩⟩ := subscribeStep_cases hstep
  · exact hcode hregistered.mInSignals (hone.turnedDown.1 hsubscribed).1
  · exact hcode hregistered.mInSignals (hone.turnedDown.1 hsubscribed).1

/-- There is one handler per signal in every run in which nobody subscribes to a name
that has a handler, and every call for such a name ends that. -/
theorem one_handler_iff (sciFound : Bool)
    (notified : List SignalConfig → ReceivedSignal → List SignalConfig)
    (hsci : CallsHandlers notified) :
    (∀ self h, Run subscribeStep NotHandled (constructed sciFound) [] self h →
      OneHandlerEach notified self h) ∧
    ∀ self h call self' es, Run subscribeStep Anything (constructed sciFound) [] self h →
      ¬ NotHandled self h call → subscribeStep self call = .ok (self', es) →
        ¬ OneHandlerEach notified self' (es ++ h) := by
  constructor
  · intro self h hrun
    exact oneHandlerEach_of_run hsci hrun
  · intro self h call self' es hrun hsecond hstep
    exact not_oneHandlerEach_of_handled (registered_of_run hrun) (not_not.mp hsecond) hstep

/-- SCI that calls every handler of a signal. -/
def callsEach (handlers : List SignalConfig) (signal : ReceivedSignal) : List SignalConfig :=
  handlers.filter fun handler => handler.name = signal.name

/-- A subscription for which SCI takes no handler, its retry, and one to another signal:
each of the two signals has one call-back. -/
theorem one_handler_of_retry :
    ∃ self h, Run subscribeStep NotHandled (constructed true) [] self h ∧
      h.map (fun e => (e.signalConfig.name, e.code == .kSuccess)) =
        [("SOK_Signatur", true), ("SOK_Zeit", true), ("SOK_Zeit", false)] ∧
      OneHandlerEach callsEach self h ∧
      (self.callbacks callsEach ⟨"SOK_Zeit", none, some 1⟩).length = 1 ∧
      (self.callbacks callsEach ⟨"SOK_Signatur", some [2], none⟩).length = 1 := by
  let zeit : SignalConfig := { (default : SignalConfig) with name := "SOK_Zeit" }
  let signatur : SignalConfig := { (default : SignalConfig) with name := "SOK_Signatur" }
  obtain ⟨self, h, hrun, hcalls, hzeit, hsignatur⟩ : ∃ self h,
      Run subscribeStep NotHandled (constructed true) [] self h ∧
        h.map (fun e => (e.signalConfig.name, e.code == .kSuccess)) =
          [("SOK_Signatur", true), ("SOK_Zeit", true), ("SOK_Zeit", false)] ∧
        Subscribed h "SOK_Zeit" ∧ Subscribed h "SOK_Signatur" :=
    Run.exists_of_exec_of_meets
      [({ reliableClient with registerEventHandler := fun _ => false }, zeit),
        (reliableClient, zeit), (reliableClient, signatur)]
      (by decide +kernel) (by decide +kernel)
  have hone : OneHandlerEach callsEach self h :=
    (one_handler_iff true callsEach fun _ _ => rfl).1 self h hrun
  exact ⟨self, h, hrun, hcalls, hone, hone.oneCallback ⟨"SOK_Zeit", none, some 1⟩ hzeit rfl,
    hone.oneCallback ⟨"SOK_Signatur", some [2], none⟩ hsignatur rfl⟩

/-- Two subscriptions to one signal: both are successful, and there are two handlers. -/
theorem subscribes_twice :
    ¬ ∀ sciFound notified, CallsHandlers notified → ∀ self h,
      Run subscribeStep Anything (constructed sciFound) [] self h →
        OneHandlerEach notified self h := by
  intro hall
  obtain ⟨self, h, hrun, htwo⟩ := Run.exists_of_exec (m := subscribeStep) (s := constructed true)
    (h := []) (p := fun self _ => (self.mSignalEventHandlers.filter fun handler =>
      handler.name = "SOK_Zeit").length = 2)
    (.replicate 2 (reliableClient, { (default : SignalConfig) with name := "SOK_Zeit" }))
    (by decide +kernel)
  have hone := (hall true callsEach (fun _ _ => rfl) self h hrun).atMostOne "SOK_Zeit"
  omega

end SignalManagerSci

end Sok.Fvm
