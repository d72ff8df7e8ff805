import Mathlib.Data.List.Forall2

/-!
# Lists related element by element

`List.Forall₂ R xs ys` pairs two lists off, in order.  The lemmas find the second list
where every element has a partner, find the partner of an element, and carry a relation
between the elements of one list over to the other.
-/

namespace List

variable {α β : Type*} {R : α → β → Prop} {xs : List α} {ys : List β}

/-- A list of partners exists if each element has one. -/
theorem exists_forall₂ (hall : ∀ x ∈ xs, ∃ y, R x y) : ∃ ys, Forall₂ R xs ys := by
  induction xs with
  | nil => exact ⟨[], .nil⟩
  | cons x xs ih =>
    obtain ⟨y, hy⟩ := hall x mem_cons_self
    obtain ⟨ys, hys⟩ := ih fun x' hx' => hall x' (mem_cons_of_mem _ hx')
    exact ⟨y :: ys, .cons hy hys⟩

theorem Forall₂.exists_right {x : α} (hall : Forall₂ R xs ys) (hmem : x ∈ xs) :
    ∃ y ∈ ys, R x y := by
  induction hall with
  | nil => cases hmem
  | cons hxy _ ih =>
    rcases mem_cons.mp hmem with rfl | hmem
    · exact ⟨_, mem_cons_self, hxy⟩
    · obtain ⟨y, hy, hR⟩ := ih hmem
      exact ⟨y, mem_cons_of_mem _ hy, hR⟩

theorem Forall₂.exists_left {y : β} (hall : Forall₂ R xs ys) (hmem : y ∈ ys) :
    ∃ x ∈ xs, R x y :=
  exists_right hall.flip hmem

/-- What holds between the elements of one list holds between their partners, if it
implies it pair by pair. -/
theorem Forall₂.pairwise {P : α → α → Prop} {Q : β → β → Prop} (hall : Forall₂ R xs ys)
    (hpairwise : xs.Pairwise P) (himp : ∀ x x' y y', R x y → R x' y' → P x x' → Q y y') :
    ys.Pairwise Q := by
  induction hall with
  | nil => exact .nil
  | cons hxy hall ih =>
    obtain ⟨hfirst, hothers⟩ := pairwise_cons.mp hpairwise
    refine .cons ?_ (ih hothers)
    intro y' hy'
    obtain ⟨x', hx', hR⟩ := hall.exists_left hy'
    exact himp _ _ _ _ hxy hR (hfirst x' hx')

end List
