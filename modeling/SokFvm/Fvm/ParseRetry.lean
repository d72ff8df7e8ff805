import SokFvm.Fvm.ConfigDocument
import SokFvm.Fvm.InitRetry

/-!
# Calling `Parse` again

A parser keeps its schema document from the first text that is not empty, and the test
that builds the document fails from then on.  What is left in the configuration by a part
that failed is never looked at again, because nothing is parsed again.

`parse_again_iff` is what this means for a sequence of texts: the last one has the result
that a fresh parser gives it only if nothing but empty texts came before, or if a fresh
parser refuses it too.  `refused_iff` says which texts those are.
-/

namespace Sok.Fvm

open Sok.Common StateMachine Verdict

namespace FvmConfigParser

variable {document : String → Option Json} {text : String}

/-- A parser and the configuration that it fills. -/
abbrev Parsing := FvmConfigParser × SokFmConfig

/-- Both as they are at first. -/
def freshParsing : Parsing := (construct, default)

/-- Calls of `Parse` for one configuration, each with its text and its result. -/
def parseStep (document : String → Option Json) :
    Machine Parsing String (String × Bool) Json.Misuse := fun s text =>
  (s.1.parse document text s.2).map fun ret => (ret.2, [(text, ret.1)])

/-- The call has the result that a fresh parser gives it for a fresh configuration and, if
it succeeds, the configuration too. -/
structure AsFresh (document : String → Option Json) (s : Parsing) (text : String) : Prop where
  result : (s.1.parse document text s.2).map Prod.fst =
    (construct.parse document text default).map Prod.fst
  config : ∀ parser config parser' config',
    s.1.parse document text s.2 = .ok (true, parser, config) →
    construct.parse document text default = .ok (true, parser', config') → config = config'

/-! ## The texts that are refused -/

/-- The text is empty or none of the library, or it is a document that the schema does not
admit, or one that is read and is not to be accepted. -/
inductive Refused (document : String → Option Json) (text : String) : Prop
  | empty (hempty : text = "")
  | unparsed (hunparsed : document text = none)
  | schema (doc : Json) (hdocument : document text = some doc)
      (hschema : Schema.fvmConfigSchema doc = false)
  | content (doc : Json) (hdocument : document text = some doc) (hfits : FitsDocument doc)
      (hcontent : ¬ Acceptable doc)

/-- A document that the schema does not admit is refused before anything is read. -/
theorem parse_of_not_schema {doc : Json} (htext : text ≠ "") (hdocument : document text = some doc)
    (hschema : Schema.fvmConfigSchema doc = false) :
    construct.parse document text default = .ok (false, { mSchema := true }, default) := by
  have hfresh : ¬ construct.mSchema = true := by decide
  unfold parse
  rw [if_neg htext, if_neg hfresh, hdocument]
  dsimp only
  cases doc.isObject with
  | false => rfl
  | true =>
    rw [hschema]
    rfl

/-- A text that is refused is one that a fresh parser refuses. -/
theorem refused_iff :
    Refused document text ↔
      ∃ ret, construct.parse document text default = .ok (false, ret) := by
  by_cases htext : text = ""
  · exact iff_of_true (.empty htext) ⟨_, WithParser.parse_refused default (Or.inr htext)⟩
  have hfresh : ¬ construct.mSchema = true := by decide
  cases hdocument : document text with
  | none =>
    refine iff_of_true (.unparsed hdocument) ?_
    unfold parse
    rw [if_neg htext, if_neg hfresh, hdocument]
    exact ⟨_, rfl⟩
  | some doc =>
    cases hschema : Schema.fvmConfigSchema doc with
    | false =>
      exact iff_of_true (.schema doc hdocument hschema)
        ⟨_, parse_of_not_schema htext hdocument hschema⟩
    | true =>
      rw [(decides_parse htext hdocument hschema).refused_iff]
      constructor
      · intro hrefused
        cases hrefused with
        | empty hempty => exact absurd hempty htext
        | unparsed hunparsed =>
          rw [hdocument] at hunparsed
          cases hunparsed
        | schema doc' hdocument' hschema' =>
          obtain rfl : doc = doc' := Option.some.inj (hdocument.symm.trans hdocument')
          rw [hschema] at hschema'
          cases hschema'
        | content doc' hdocument' hfits hcontent =>
          obtain rfl : doc = doc' := Option.some.inj (hdocument.symm.trans hdocument')
          exact ⟨hfits, hcontent⟩
      · intro hboth
        exact .content doc hdocument hboth.1 hboth.2

/-! ## Texts in a row -/

variable {s s' : Parsing} {h : List (String × Bool)}

/-- What is known after some texts: either all of them were empty, and nothing has
happened, or the parser has its schema. -/
structure Tried (s : Parsing) (h : List (String × Bool)) : Prop where
  untouched : (∀ e ∈ h, e.1 = "") → s = freshParsing
  spent : (∃ e ∈ h, e.1 ≠ "") → s.1.mSchema = true

theorem Tried.step {es : List (String × Bool)} (htried : Tried s h)
    (hstep : parseStep document s text = .ok (s', es)) : Tried s' (es ++ h) := by
  obtain ⟨⟨accepted, parser, config⟩, hparse, hret⟩ := exists_of_map_ok hstep
  cases hret
  refine ⟨?_, ?_⟩
  · intro hall
    have htext : text = "" := hall _ List.mem_cons_self
    rw [WithParser.parse_refused _ (Or.inr htext)] at hparse
    cases hparse
    exact htried.untouched fun e hmem => hall e (List.mem_cons_of_mem _ hmem)
  · intro hsome
    by_cases htext : text = ""
    · rw [WithParser.parse_refused _ (Or.inr htext)] at hparse
      cases hparse
      obtain ⟨e, hmem, hne⟩ := hsome
      rcases List.mem_cons.mp hmem with rfl | hmem
      · exact absurd htext hne
      · exact htried.spent ⟨e, hmem, hne⟩
    · exact WithParser.mSchema_of_parse htext hparse

/-- Run lemma. -/
theorem tried_of_run (hrun : Run (parseStep document) Anything freshParsing [] s h) :
    Tried s h := by
  refine hrun.invariant Tried ⟨fun _ => rfl, ?_⟩ ?_
  · intro hsome
    obtain ⟨e, hmem, -⟩ := hsome
    cases hmem
  · intro s h text s' es htried _ hstep
    exact htried.step hstep

theorem asFresh_fresh (document : String → Option Json) (text : String) :
    AsFresh document freshParsing text where
  result := rfl
  config parser config parser' config' hparse hparse' := by
    have hsame := hparse.symm.trans hparse'
    cases hsame
    rfl

/-- A parser that has its schema agrees with a fresh one on the texts that are refused. -/
theorem asFresh_of_spent_iff (hspent : s.1.mSchema = true) :
    AsFresh document s text ↔ Refused document text := by
  have hparse : s.1.parse document text s.2 = .ok (false, s.1, s.2) :=
    WithParser.parse_refused _ (Or.inl hspent)
  rw [refused_iff]
  constructor
  · intro hfresh
    have hresult := hfresh.result
    rw [hparse] at hresult
    obtain ⟨⟨accepted, ret⟩, hret, haccepted⟩ := exists_of_map_ok hresult.symm
    cases haccepted
    exact ⟨ret, hret⟩
  · intro hrefused
    obtain ⟨ret, hret⟩ := hrefused
    refine ⟨by rw [hparse, hret]; rfl, ?_⟩
    intro parser config parser' config' htrue
    rw [hparse] at htrue
    cases htrue

/-- **When earlier texts leave no trace**: when all of them were empty, or when the last one
is to be refused. -/
theorem parse_again_iff (hrun : Run (parseStep document) Anything freshParsing [] s h) :
    AsFresh document s text ↔ (∀ e ∈ h, e.1 = "") ∨ Refused document text := by
  have htried := tried_of_run hrun
  by_cases hall : ∀ e ∈ h, e.1 = ""
  · rw [htried.untouched hall]
    exact iff_of_true (asFresh_fresh document text) (Or.inl hall)
  · have hsome : ∃ e ∈ h, e.1 ≠ "" := by
      by_contra hnone
      apply hall
      intro e hmem
      by_contra hne
      exact hnone ⟨e, hmem, hne⟩
    rw [asFresh_of_spent_iff (htried.spent hsome)]
    exact ⟨Or.inr, fun hcase => hcase.resolve_left hall⟩

/-- Two empty texts, and then a good one. -/
theorem parse_again_after_empty :
    ∃ s h, Run (parseStep WithParser.twoTexts) Anything freshParsing [] s h ∧
      h = [("", false), ("", false)] ∧ AsFresh WithParser.twoTexts s "good" := by
  obtain ⟨s, h, hrun, hh⟩ : ∃ s h,
      Run (parseStep WithParser.twoTexts) Anything freshParsing [] s h ∧
        h = [("", false), ("", false)] :=
    Run.exists_of_exec ["", ""] (by decide +kernel)
  refine ⟨s, h, hrun, hh, (parse_again_iff hrun).mpr (Or.inl ?_)⟩
  rw [hh]
  decide

/-- A good text is refused after a bad one. -/
theorem parse_again_after_bad :
    ¬ ∀ (document : String → Option Json) (s : Parsing) (h : List (String × Bool))
      (text : String), Run (parseStep document) Anything freshParsing [] s h →
      (∀ e ∈ h, e.2 = false) → AsFresh document s text := by
  intro hall
  obtain ⟨s, h, hrun, hrejected, hrefused⟩ : ∃ s h,
      Run (parseStep WithParser.twoTexts) Anything freshParsing [] s h ∧
        (∀ e ∈ h, e.2 = false) ∧
        (s.1.parse WithParser.twoTexts "good" s.2).map Prod.fst = .ok false :=
    Run.exists_of_exec ["bad"] (by decide +kernel)
  have haccepted :
      (construct.parse WithParser.twoTexts "good" default).map Prod.fst = .ok true := by
    decide +kernel
  have hsame := (hall WithParser.twoTexts s h "good" hrun hrejected).result
  rw [hrefused, haccepted] at hsame
  cases hsame

end FvmConfigParser

end Sok.Fvm
