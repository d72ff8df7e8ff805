import SokFvm.Fvm.ConfigParser
import SokFvm.Fvm.Lifecycle

/-!
# Calling `Init` again after it has failed

`FreshnessValueManagerConfigAccessor::Init` opens the configuration file, reads it
and hands the text to the parser, which is a member of the accessor and keeps its
schema document from one call to the next.  `initFromFile` is `Init` over the file.

Two members say that something was done already and are never taken back: the schema
document of the parser, and the flag of the accessor.  An object with either of them
is `Spent`: `Init` fails whatever it meets, and changes nothing.  The first attempt
that finds a file which is not empty spends the object, at whichever stage it ends.
`init_retry_iff` is what follows for attempts in a row.
-/

namespace Sok.Fvm

open Sok.Common StateMachine

/-- What one call of `Init` meets. -/
structure InitEnvironment where
  mCsmAccessor : ICsmAccessor
  mSignalManager : ISignalManager
  order : UnorderedMap.VisitOrder (Σ _ : String, SokFvClientConfigArrayInstance)
  /-- The text of the configuration file, if it can be opened. -/
  configFile : Option String

/-- The environment after the file was read and parsed. -/
def InitEnvironment.services (env : InitEnvironment) (parsed : Bool × SokFmConfig) :
    InitServices :=
  { mCsmAccessor := env.mCsmAccessor
    mSignalManager := env.mSignalManager
    parse := fun _ => parsed
    order := env.order }

/-- A manager and the parser of its accessor. -/
structure WithParser (σ : Type) where
  object : σ
  mParser : FvmConfigParser

namespace WithParser

variable {σ : Type} (cls : DerivedClass σ) (document : String → Option Json)

/-- The accessor of the manager. -/
def accessor (self : WithParser σ) : FreshnessValueManagerConfigAccessor :=
  (cls.base self.object).mFvmConfAccessor

/-- `Init` from the result of the parser on. -/
def initParsed (env : InitEnvironment) (self : WithParser σ) (mParser : FvmConfigParser)
    (parsed : Bool × SokFmConfig) : Except (Fault ⊕ Json.Misuse) (FvmErrorCode × WithParser σ) :=
  match cls.init (env.services parsed) self.object with
  | .error fault => .error (.inl fault)
  | .ok ret => .ok (ret.1, { object := ret.2, mParser := mParser })

/-- `Init`. The file is read only if neither the manager nor its accessor is
initialised. -/
def initFromFile (env : InitEnvironment) (self : WithParser σ) :
    Except (Fault ⊕ Json.Misuse) (FvmErrorCode × WithParser σ) :=
  let acc := self.accessor cls
  if (cls.base self.object).mInitialized || acc.mInitialized then
    self.initParsed cls env self.mParser (false, acc.mConfig)
  else
    match env.configFile with
    | none => self.initParsed cls env self.mParser (false, acc.mConfig)
    | some text =>
      match self.mParser.parse document text acc.mConfig with
      | .error misuse => .error (.inr misuse)
      | .ok (succeeded, mParser, config) => self.initParsed cls env mParser (succeeded, config)

/-- Attempts in a row, each with the code it returned. -/
def initStep : Machine (WithParser σ) InitEnvironment (InitEnvironment × FvmErrorCode)
    (Fault ⊕ Json.Misuse) := fun self env =>
  (self.initFromFile cls document env).map fun ret => (ret.2, [(env, ret.1)])

/-- A manager that was just constructed, with its parser. -/
structure Fresh (s : WithParser σ) : Prop where
  object : cls.base s.object = .construct
  mParser : s.mParser = .construct

/-- The parser has its schema, or the accessor is initialised. -/
def Spent (self : WithParser σ) : Prop :=
  self.mParser.mSchema = true ∨ (self.accessor cls).mInitialized = true

/-- The attempt found no file or an empty one. -/
def NoText (env : InitEnvironment) : Prop :=
  env.configFile = none ∨ env.configFile = some ""

instance (env : InitEnvironment) : Decidable (NoText env) :=
  inferInstanceAs (Decidable (_ ∨ _))

variable {cls : DerivedClass σ} {document : String → Option Json} {env : InitEnvironment}
variable {self self' s₀ s₁ s : WithParser σ} {code : FvmErrorCode}
variable {h : List (InitEnvironment × FvmErrorCode)}

/-! ## One attempt -/

/-- A manager that is initialised refuses. -/
theorem initParsed_of_initialised (hinit : (cls.base self.object).mInitialized = true)
    (parsed : Bool × SokFmConfig) :
    self.initParsed cls env self.mParser parsed = .ok (.kAlreadyInitialized, self) := by
  unfold initParsed DerivedClass.init
  rw [hinit]
  rfl

/-- An attempt whose accessor fails changes nothing. -/
theorem initParsed_of_failed (hinit : (cls.base self.object).mInitialized = false) :
    self.initParsed cls env self.mParser (false, (self.accessor cls).mConfig) =
      .ok (.kGeneralError, self) := by
  have haccessor : (self.accessor cls).init (fun _ => (false, (self.accessor cls).mConfig)) =
      (false, self.accessor cls) := by
    unfold FreshnessValueManagerConfigAccessor.init
    split
    · rfl
    · rename_i hfresh
      rw [Bool.not_eq_true] at hfresh
      cases hacc : self.accessor cls with
      | mk config initialised =>
        rw [hacc] at hfresh
        dsimp only at hfresh
        rw [hfresh]
  have hsame : cls.withBase self.object { cls.base self.object with
      mFvmConfAccessor := self.accessor cls } = self.object := cls.withBase_base _
  unfold initParsed DerivedClass.init InitEnvironment.services
  rw [hinit]
  unfold accessor at haccessor hsame
  dsimp only
  unfold accessor
  rw [haccessor]
  simp [hsame]

/-- The parser does not parse a second text, nor an empty one. -/
theorem parse_refused {mParser : FvmConfigParser} {text : String} (config : SokFmConfig)
    (hrefused : mParser.mSchema = true ∨ text = "") :
    mParser.parse document text config = .ok (false, mParser, config) := by
  unfold FvmConfigParser.parse
  rcases hrefused with hschema | hempty
  · rw [hschema]
    simp
  · rw [if_pos hempty]

/-- A parser that was given a text has its schema. -/
theorem mSchema_of_parse {mParser mParser' : FvmConfigParser} {text : String}
    {config config' : SokFmConfig} {succeeded : Bool} (htext : text ≠ "")
    (hparse : mParser.parse document text config = .ok (succeeded, mParser', config')) :
    mParser'.mSchema = true := by
  unfold FvmConfigParser.parse at hparse
  rw [if_neg htext] at hparse
  split at hparse
  · rename_i hschema
    cases hparse
    exact hschema
  · dsimp only at hparse
    split at hparse
    · cases hparse
      rfl
    · split at hparse
      · cases hparse
        rfl
      · split at hparse
        · cases hparse
          rfl
        · obtain ⟨version, -, hrest⟩ := Json.exists_of_bind_ok hparse
          split at hrest
          · cases hrest
            rfl
          · obtain ⟨ret, -, hret⟩ := Json.exists_of_bind_ok hrest
            cases hret
            rfl

/-- An attempt without a text, or on an object that is spent, fails and changes
nothing. -/
theorem initFromFile_of_spent (hspent : self.Spent cls ∨ NoText env) :
    ∃ code, code ≠ .kSuccess ∧ self.initFromFile cls document env = .ok (code, self) := by
  unfold initFromFile
  dsimp only
  cases hinit : (cls.base self.object).mInitialized with
  | true =>
    refine ⟨.kAlreadyInitialized, by simp, ?_⟩
    exact initParsed_of_initialised hinit _
  | false =>
    refine ⟨.kGeneralError, by simp, ?_⟩
    have hfails : self.initParsed cls env self.mParser (false, (self.accessor cls).mConfig) =
        .ok (.kGeneralError, self) := initParsed_of_failed hinit
    rw [Bool.false_or]
    split
    · exact hfails
    · rename_i hacc
      split
      · exact hfails
      · rename_i text htext
        have hrefused : self.mParser.mSchema = true ∨ text = "" := by
          rcases hspent with (hschema | hacc') | hnone | hempty
          · exact Or.inl hschema
          · exact absurd hacc' hacc
          · rw [htext] at hnone
            cases hnone
          · rw [htext] at hempty
            exact Or.inr (Option.some.inj hempty)
        rw [parse_refused _ hrefused]
        exact hfails

/-- The first attempt with a text spends the object, however it ends. -/
theorem Fresh.spent (hfresh : self.Fresh cls) (htext : ¬ NoText env)
    (hattempt : self.initFromFile cls document env = .ok (code, self')) : self'.Spent cls := by
  unfold initFromFile at hattempt
  dsimp only at hattempt
  have haccessor : (self.accessor cls).mInitialized = false := by
    unfold accessor
    rw [hfresh.object]
    rfl
  rw [hfresh.object, haccessor] at hattempt
  unfold NoText at htext
  cases hfile : env.configFile with
  | none => exact absurd (Or.inl hfile) htext
  | some text =>
    rw [hfile] at hattempt
    have hsome : text ≠ "" := by
      rintro rfl
      exact htext (Or.inr hfile)
    have hread : (match self.mParser.parse document text (self.accessor cls).mConfig with
        | .error misuse => Except.error (Sum.inr misuse)
        | .ok (succeeded, mParser, config) =>
          self.initParsed cls env mParser (succeeded, config)) = .ok (code, self') := hattempt
    cases hparse : self.mParser.parse document text (self.accessor cls).mConfig with
    | error misuse =>
      rw [hparse] at hread
      cases hread
    | ok parsed =>
      obtain ⟨succeeded, mParser, config⟩ := parsed
      rw [hparse] at hread
      dsimp only at hread
      unfold initParsed at hread
      split at hread
      · cases hread
      · cases hread
        exact Or.inl (mSchema_of_parse hsome hparse)

/-! ## Attempts in a row -/

/-- What is known after some attempts: either none of them had a text, and nothing
has happened, or the object is spent. -/
structure Attempted (cls : DerivedClass σ) (s₀ s : WithParser σ)
    (h : List (InitEnvironment × FvmErrorCode)) : Prop where
  unread : (∀ e ∈ h, NoText e.1) → s = s₀
  spent : (∃ e ∈ h, ¬ NoText e.1) → s.Spent cls

theorem Attempted.step {es : List (InitEnvironment × FvmErrorCode)}
    (hattempted : Attempted cls s₀ s h) (hfresh : s₀.Fresh cls)
    (hstep : initStep cls document s env = .ok (self', es)) :
    Attempted cls s₀ self' (es ++ h) := by
  obtain ⟨⟨code, after⟩, hattempt, hret⟩ := exists_of_map_ok hstep
  cases hret
  have hunchanged : s.Spent cls ∨ NoText env → after = s := by
    intro hspent
    obtain ⟨code', -, hsame⟩ :
        ∃ code, code ≠ .kSuccess ∧ s.initFromFile cls document env = .ok (code, s) :=
      initFromFile_of_spent hspent
    rw [hattempt] at hsame
    cases hsame
    rfl
  by_cases hbefore : ∃ e ∈ h, ¬ NoText e.1
  · have hspent := hattempted.spent hbefore
    have hsame := hunchanged (Or.inl hspent)
    refine ⟨?_, ?_⟩
    · intro hall
      obtain ⟨e, hmem, htext⟩ := hbefore
      exact absurd (hall e (List.mem_cons_of_mem _ hmem)) htext
    · intro _
      rw [hsame]
      exact hspent
  · have hnone : ∀ e ∈ h, NoText e.1 := by
      intro e hmem
      by_contra htext
      exact hbefore ⟨e, hmem, htext⟩
    have hs : s = s₀ := hattempted.unread hnone
    subst hs
    refine ⟨?_, ?_⟩
    · intro hall
      exact hunchanged (Or.inr (hall _ List.mem_cons_self))
    · rintro ⟨e, hmem, htext⟩
      rcases List.mem_cons.mp hmem with rfl | hmem
      · exact hfresh.spent htext hattempt
      · exact absurd (hnone e hmem) htext

/-- Run lemma. -/
theorem attempted_of_run (hfresh : s₀.Fresh cls)
    (hrun : Run (initStep cls document) Anything s₀ [] s h) : Attempted cls s₀ s h := by
  refine hrun.invariant (Attempted cls s₀) ⟨fun _ => rfl, ?_⟩ ?_
  · rintro ⟨e, hmem, -⟩
    cases hmem
  · intro s h env s' es hattempted _ hstep
    exact hattempted.step hfresh hstep

/-- **When `Init` can be retried.**  Where `Init` of a fresh manager is successful, it
is successful after earlier attempts too, with the same manager, accessor and
attribute table, if and only if none of the attempts found a text to parse. -/
theorem init_retry_iff (hfresh : s₀.Fresh cls)
    (hrun : Run (initStep cls document) Anything s₀ [] s h)
    (hgood : s₀.initFromFile cls document env = .ok (.kSuccess, s₁)) :
    s.initFromFile cls document env = .ok (.kSuccess, s₁) ↔ ∀ e ∈ h, NoText e.1 := by
  have hattempted := attempted_of_run hfresh hrun
  constructor
  · intro hretry
    by_contra hnot
    have htext : ∃ e ∈ h, ¬ NoText e.1 := by
      by_contra hnone
      apply hnot
      intro e hmem
      by_contra htext
      exact hnone ⟨e, hmem, htext⟩
    obtain ⟨code, hfailed, hsame⟩ :
        ∃ code, code ≠ .kSuccess ∧ s.initFromFile cls document env = .ok (code, s) :=
      initFromFile_of_spent (Or.inl (hattempted.spent htext))
    rw [hretry] at hsame
    cases hsame
    exact hfailed rfl
  · intro hall
    rw [hattempted.unread hall]
    exact hgood

/-! ## Attempts on concrete inputs -/

/-- The library's parser for two texts. -/
def twoTexts (text : String) : Option Json :=
  if text = "good" then
    some (FvmConfigParser.documentOf [] [FvmConfigParser.challengeElement 0 "RESPONSE" "CR"])
  else none

/-- An attempt without failures, for a file with this text. -/
def attemptWith (configFile : Option String) : InitEnvironment :=
  { mCsmAccessor := zeroDigestCsm
    mSignalManager := reliableSignals
    order := .asListed
    configFile := configFile }

/-- A participant that was just constructed. -/
def newParticipant : WithParser FreshnessValueManagerImplParticipant :=
  { object := .construct .construct, mParser := .construct }

theorem fresh_newParticipant :
    newParticipant.Fresh FreshnessValueManagerImplParticipant.derivedClass :=
  ⟨rfl, rfl⟩

/-- The file cannot be opened, then it is empty, and then it is there. -/
theorem init_retry_after_unread :
    ∃ s h s₁, Run (initStep FreshnessValueManagerImplParticipant.derivedClass twoTexts) Anything
        newParticipant [] s h ∧ h.length = 2 ∧
      s.initFromFile FreshnessValueManagerImplParticipant.derivedClass twoTexts
        (attemptWith (some "good")) = .ok (.kSuccess, s₁) := by
  obtain ⟨s, h, hrun, hlength, hall⟩ : ∃ s h,
      Run (initStep FreshnessValueManagerImplParticipant.derivedClass twoTexts) Anything
        newParticipant [] s h ∧ h.length = 2 ∧
        ∀ e ∈ h, NoText e.1 :=
    Run.exists_of_exec [attemptWith none, attemptWith (some "")] (by decide +kernel)
  have hcode : (newParticipant.initFromFile FreshnessValueManagerImplParticipant.derivedClass
      twoTexts (attemptWith (some "good"))).map Prod.fst = .ok .kSuccess := by
    decide +kernel
  obtain ⟨⟨code, s₁⟩, hgood, hret⟩ := exists_of_map_ok hcode
  cases hret
  exact ⟨s, h, s₁, hrun, hlength, (init_retry_iff fresh_newParticipant hrun hgood).mpr hall⟩

/-- The file does not parse, and then it is repaired. -/
theorem init_retry_after_bad_file :
    newParticipant.Fresh FreshnessValueManagerImplParticipant.derivedClass ∧
    (newParticipant.initFromFile FreshnessValueManagerImplParticipant.derivedClass twoTexts
        (attemptWith (some "good"))).map Prod.fst = .ok .kSuccess ∧
      ∃ s h, Run (initStep FreshnessValueManagerImplParticipant.derivedClass twoTexts) Anything
        newParticipant [] s h ∧
        h.map Prod.snd = [.kGeneralError] ∧
        (s.initFromFile FreshnessValueManagerImplParticipant.derivedClass twoTexts
          (attemptWith (some "good"))).map Prod.fst = .ok .kGeneralError :=
  ⟨fresh_newParticipant, by decide +kernel,
    Run.exists_of_exec [attemptWith (some "bad")] (by decide +kernel)⟩

end WithParser

end Sok.Fvm
