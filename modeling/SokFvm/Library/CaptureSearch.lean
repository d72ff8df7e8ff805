import Mathlib.Data.List.Basic

/-!
# The leftmost capture of a pattern

A pattern is an opening, a run of at least one character of a class, and a closing; the
run is captured.  A text can be read as such a pattern in several ways: at several
places, and at one place with runs of several lengths, because the closing may consist
of characters of the class.

A search chooses one of the readings, `Chosen`: the leftmost one, and of those that
begin there the one with the longest run.  This is what a backtracking matcher with a
greedy repetition finds.  `search` tries one place after the other, with a matcher for
a single place as its parameter, and `search_eq_some_iff` says that it finds the chosen
reading when its matcher finds the longest run.
-/

namespace CaptureSearch

variable {α : Type*}

/-- An opening, a captured run of characters of a class, and a closing. -/
structure Pattern (α : Type*) where
  opening : List α
  inClass : α → Bool
  closing : List α

variable {pat : Pattern α} {text before capture after : List α}

/-- A way to read a text as the pattern, with something before and after. -/
structure Occurs (pat : Pattern α) (text before capture after : List α) : Prop where
  text_eq : text = before ++ (pat.opening ++ (capture ++ (pat.closing ++ after)))
  nonempty : capture ≠ []
  inClass : ∀ c ∈ capture, pat.inClass c = true

/-- The pattern can be read at the start of the text. -/
def MatchesHere (pat : Pattern α) (text capture : List α) : Prop :=
  ∃ after, Occurs pat text [] capture after

/-- The longest run with which the pattern can be read at the start of the text. -/
structure LongestHere (pat : Pattern α) (text capture : List α) : Prop where
  here : MatchesHere pat text capture
  longest : ∀ other, MatchesHere pat text other → other.length ≤ capture.length

/-- The reading that a search chooses: no other one begins further left, or begins at
the same place and captures more. -/
def Chosen (pat : Pattern α) (text capture : List α) : Prop :=
  ∃ before after, Occurs pat text before capture after ∧
    ∀ before' capture' after', Occurs pat text before' capture' after' →
      before.length ≤ before'.length ∧
        (before'.length = before.length → capture'.length ≤ capture.length)

/-! ## The readings of a text -/

theorem not_occurs_nil : ¬ Occurs pat [] before capture after := by
  intro hoccurs
  have hlength := congrArg List.length hoccurs.text_eq
  have hcapture := List.length_pos_iff.mpr hoccurs.nonempty
  simp only [List.length_nil, List.length_append] at hlength
  omega

/-- A reading begins at the first character or behind it. -/
theorem occurs_cons_iff {x : α} :
    Occurs pat (x :: text) before capture after ↔
      (before = [] ∧ Occurs pat (x :: text) [] capture after) ∨
        ∃ before', before = x :: before' ∧ Occurs pat text before' capture after := by
  constructor
  · intro hoccurs
    cases before with
    | nil =>
      left
      exact ⟨rfl, hoccurs⟩
    | cons y before =>
      obtain ⟨htext, hnonempty, hclass⟩ := hoccurs
      rw [List.cons_append, List.cons.injEq] at htext
      right
      rw [htext.1]
      exact ⟨before, rfl, htext.2, hnonempty, hclass⟩
  · rintro (⟨hbefore, hoccurs⟩ | ⟨before', hbefore, hoccurs⟩)
    · rw [hbefore]
      exact hoccurs
    · rw [hbefore]
      refine ⟨?_, hoccurs.nonempty, hoccurs.inClass⟩
      rw [List.cons_append, ← hoccurs.text_eq]

/-- Two readings that begin at one place and capture equally much are the same. -/
theorem Occurs.capture_eq {before' capture' after' : List α}
    (first : Occurs pat text before capture after)
    (second : Occurs pat text before' capture' after')
    (hbefore : before.length = before'.length) (hcapture : capture.length = capture'.length) :
    capture = capture' := by
  have htext := first.text_eq.symm.trans second.text_eq
  have hrest := List.append_inj_right htext hbefore
  exact List.append_inj_left (List.append_cancel_left hrest) hcapture

/-- A search chooses one capture. -/
theorem Chosen.unique {capture' : List α} (first : Chosen pat text capture)
    (second : Chosen pat text capture') : capture = capture' := by
  obtain ⟨before, after, hoccurs, hchosen⟩ := first
  obtain ⟨before', after', hoccurs', hchosen'⟩ := second
  have hle := hchosen before' capture' after' hoccurs'
  have hge := hchosen' before capture after hoccurs
  have hbefore : before.length = before'.length := by omega
  apply hoccurs.capture_eq hoccurs' hbefore
  have hless := hle.2 hbefore.symm
  have hmore := hge.2 hbefore
  omega

/-- What is found at the start of the text is chosen. -/
theorem LongestHere.chosen (hhere : LongestHere pat text capture) : Chosen pat text capture := by
  obtain ⟨⟨after, hoccurs⟩, hlongest⟩ := hhere
  refine ⟨[], after, hoccurs, ?_⟩
  intro before' capture' after' hoccurs'
  refine ⟨Nat.zero_le _, ?_⟩
  intro hlength
  have hnil := List.eq_nil_of_length_eq_zero hlength
  rw [hnil] at hoccurs'
  exact hlongest capture' ⟨after', hoccurs'⟩

/-- Where nothing can be read at the start, the choice is made behind it. -/
theorem chosen_cons_iff {x : α} (hnone : ∀ other, ¬ MatchesHere pat (x :: text) other) :
    Chosen pat (x :: text) capture ↔ Chosen pat text capture := by
  have hbehind : ∀ before capture after, Occurs pat (x :: text) before capture after →
      ∃ before', before = x :: before' ∧ Occurs pat text before' capture after := by
    intro before capture after hoccurs
    rcases occurs_cons_iff.mp hoccurs with ⟨-, hhere⟩ | hbehind
    · exact absurd ⟨after, hhere⟩ (hnone capture)
    · exact hbehind
  constructor
  · rintro ⟨before, after, hoccurs, hchosen⟩
    obtain ⟨before₁, hbefore, hoccurs₁⟩ := hbehind _ _ _ hoccurs
    refine ⟨before₁, after, hoccurs₁, ?_⟩
    intro before' capture' after' hoccurs'
    have hboth := hchosen (x :: before') capture' after'
      (occurs_cons_iff.mpr (Or.inr ⟨before', rfl, hoccurs'⟩))
    rw [hbefore, List.length_cons, List.length_cons] at hboth
    exact ⟨by omega, fun heq => hboth.2 (by omega)⟩
  · rintro ⟨before, after, hoccurs, hchosen⟩
    refine ⟨x :: before, after, occurs_cons_iff.mpr (Or.inr ⟨before, rfl, hoccurs⟩), ?_⟩
    intro before' capture' after' hoccurs'
    obtain ⟨before₁, hbefore, hoccurs₁⟩ := hbehind _ _ _ hoccurs'
    have hboth := hchosen before₁ capture' after' hoccurs₁
    rw [hbefore, List.length_cons, List.length_cons]
    exact ⟨by omega, fun heq => hboth.2 (by omega)⟩

/-! ## The search -/

/-- Try a matcher at one place after the other, from the left. -/
def search (matchHere : List α → Option (List α)) : List α → Option (List α)
  | [] => none
  | x :: text => (matchHere (x :: text)).or (search matchHere text)

/-- A matcher that finds the longest run at its place. -/
def FindsLongest (pat : Pattern α) (matchHere : List α → Option (List α)) : Prop :=
  ∀ text capture, matchHere text = some capture ↔ LongestHere pat text capture

/-- Such a matcher finds something wherever the pattern can be read. -/
theorem FindsLongest.not_matchesHere {matchHere : List α → Option (List α)}
    (hfinds : FindsLongest pat matchHere) (hnone : matchHere text = none) (other : List α) :
    ¬ MatchesHere pat text other := by
  -- a reading with the longest run exists if there is any reading
  have hclimb : ∀ n other, MatchesHere pat text other → text.length ≤ other.length + n → False := by
    intro n
    induction n with
    | zero =>
      intro other hother hlength
      obtain ⟨after, hoccurs⟩ := hother
      have hlongest : LongestHere pat text other := by
        refine ⟨⟨after, hoccurs⟩, ?_⟩
        rintro longer ⟨after', hoccurs'⟩
        have htext := congrArg List.length hoccurs'.text_eq
        simp only [List.length_append, List.length_nil] at htext
        omega
      rw [(hfinds text other).mpr hlongest] at hnone
      cases hnone
    | succ n ih =>
      intro other hother hlength
      by_cases hlonger : ∃ longer, MatchesHere pat text longer ∧ other.length < longer.length
      · obtain ⟨longer, hmatches, hlt⟩ := hlonger
        exact ih longer hmatches (by omega)
      · have hlongest : LongestHere pat text other := by
          refine ⟨hother, ?_⟩
          intro longer hmatches
          by_contra hlt
          exact hlonger ⟨longer, hmatches, by omega⟩
        rw [(hfinds text other).mpr hlongest] at hnone
        cases hnone
  intro hother
  exact hclimb text.length other hother (by omega)

/-- The search finds the chosen reading. -/
theorem search_eq_some_iff {matchHere : List α → Option (List α)}
    (hfinds : FindsLongest pat matchHere) :
    search matchHere text = some capture ↔ Chosen pat text capture := by
  induction text with
  | nil =>
    refine iff_of_false nofun ?_
    rintro ⟨before, after, hoccurs, -⟩
    exact not_occurs_nil hoccurs
  | cons x text ih =>
    rw [search]
    cases hhere : matchHere (x :: text) with
    | none =>
      rw [Option.none_or, ih, chosen_cons_iff (hfinds.not_matchesHere hhere)]
    | some found =>
      have hchosen := ((hfinds _ _).mp hhere).chosen
      rw [Option.some_or, Option.some.injEq]
      constructor
      · intro heq
        rw [← heq]
        exact hchosen
      · exact hchosen.unique

end CaptureSearch
