/-!
# Computations that answer with a verdict

A computation that reads its input step by step can meet something it has no meaning
for, which is an error, or it can refuse the input, or accept it.  `Decides` says of such
a computation when it has a meaning at all and, if so, when it accepts.

`Decides.read` and `Decides.andThen` are the rules for one step after another.  A step
after the first is taken only if the first accepted, so what the second one needs is
needed only then.
-/

namespace Verdict

variable {ε α β γ : Type}

/-- The computation is defined if and only if `defined` holds, and then it accepts if and
only if `accepts` does. -/
structure Decides (ret : Except ε (Bool × β)) (defined accepts : Prop) : Prop where
  defined_iff : (∃ r, ret = .ok r) ↔ defined
  accepts_iff : ∀ r, ret = .ok r → (r.1 = true ↔ accepts)

theorem Decides.accepting (b : β) : Decides (.ok (true, b) : Except ε (Bool × β)) True True where
  defined_iff := iff_of_true ⟨_, rfl⟩ trivial
  accepts_iff := by
    intro r hr
    cases hr
    exact iff_of_true rfl trivial

theorem Decides.refusing (b : β) : Decides (.ok (false, b) : Except ε (Bool × β)) True False where
  defined_iff := iff_of_true ⟨_, rfl⟩ trivial
  accepts_iff := by
    intro r hr
    cases hr
    exact iff_of_false Bool.false_ne_true id

theorem Decides.congr {ret : Except ε (Bool × β)} {defined accepts defined' accepts' : Prop}
    (hdecides : Decides ret defined accepts) (hdefined : defined ↔ defined')
    (haccepts : accepts ↔ accepts') : Decides ret defined' accepts' where
  defined_iff := hdecides.defined_iff.trans hdefined
  accepts_iff r hr := (hdecides.accepts_iff r hr).trans haccepts

theorem Decides.refused_iff {ret : Except ε (Bool × β)} {defined accepts : Prop}
    (hdecides : Decides ret defined accepts) :
    (∃ b, ret = .ok (false, b)) ↔ defined ∧ ¬ accepts := by
  constructor
  · intro hrefused
    obtain ⟨b, hret⟩ := hrefused
    refine ⟨hdecides.defined_iff.mp ⟨_, hret⟩, ?_⟩
    intro haccepts
    exact Bool.false_ne_true ((hdecides.accepts_iff _ hret).mpr haccepts)
  · intro hboth
    obtain ⟨⟨accepted, b⟩, hret⟩ := hdecides.defined_iff.mpr hboth.1
    cases accepted with
    | true => exact absurd ((hdecides.accepts_iff _ hret).mp rfl) hboth.2
    | false => exact ⟨b, hret⟩

/-- The verdict is kept and the rest of the answer is changed. -/
theorem Decides.map {ret : Except ε (Bool × β)} {defined accepts : Prop}
    (hdecides : Decides ret defined accepts) (f : β → γ) :
    Decides (ret >>= fun r => .ok (r.1, f r.2)) defined accepts := by
  cases ret with
  | error e =>
    refine ⟨Iff.trans ?_ hdecides.defined_iff, nofun⟩
    exact iff_of_false (fun hdefined => nomatch hdefined) fun hdefined => nomatch hdefined
  | ok r =>
    refine ⟨Iff.trans ?_ hdecides.defined_iff, ?_⟩
    · exact iff_of_true ⟨_, rfl⟩ ⟨_, rfl⟩
    · intro r' hr'
      cases hr'
      exact hdecides.accepts_iff r rfl

/-- Something is read first, without a verdict. -/
theorem Decides.read {first : Except ε α} {rest : α → Except ε (Bool × β)}
    {readable defined accepts : Prop} (hfirst : (∃ a, first = .ok a) ↔ readable)
    (hrest : ∀ a, first = .ok a → Decides (rest a) defined accepts) :
    Decides (first >>= rest) (readable ∧ defined) accepts := by
  cases first with
  | error e =>
    have hunreadable : ¬ readable := by
      rw [← hfirst]
      intro hread
      obtain ⟨a, ha⟩ := hread
      cases ha
    refine ⟨iff_of_false ?_ fun hboth => hunreadable hboth.1, ?_⟩
    · intro hdefined
      obtain ⟨r, hr⟩ := hdefined
      cases hr
    · intro r hr
      cases hr
  | ok a =>
    have hdecides := hrest a rfl
    refine ⟨hdecides.defined_iff.trans ?_, hdecides.accepts_iff⟩
    exact ⟨fun hdefined => ⟨hfirst.mp ⟨a, rfl⟩, hdefined⟩, fun hboth => hboth.2⟩

/-- A second computation follows where the first one accepts. -/
theorem Decides.andThen {first : Except ε (Bool × β)} {rest : β → Except ε (Bool × γ)}
    {stop : β → γ} {defined accepts defined' accepts' : Prop}
    (hfirst : Decides first defined accepts)
    (hrest : ∀ b, first = .ok (true, b) → Decides (rest b) defined' accepts') :
    Decides (first >>= fun ret => if ret.1 then rest ret.2 else .ok (false, stop ret.2))
      (defined ∧ (accepts → defined')) (accepts ∧ accepts') := by
  cases first with
  | error e =>
    have hundefined : ¬ defined := by
      rw [← hfirst.defined_iff]
      intro hdefined
      obtain ⟨r, hr⟩ := hdefined
      cases hr
    refine ⟨iff_of_false ?_ fun hboth => hundefined hboth.1, ?_⟩
    · intro hdefined
      obtain ⟨r, hr⟩ := hdefined
      cases hr
    · intro r hr
      cases hr
  | ok ret =>
    obtain ⟨accepted, b⟩ := ret
    have hdefined : defined := hfirst.defined_iff.mp ⟨_, rfl⟩
    cases accepted with
    | true =>
      have haccepts : accepts := (hfirst.accepts_iff _ rfl).mp rfl
      refine (hrest b rfl).congr ?_ ?_
      · exact ⟨fun hdefined' => ⟨hdefined, fun _ => hdefined'⟩, fun hboth => hboth.2 haccepts⟩
      · exact ⟨fun haccepts' => ⟨haccepts, haccepts'⟩, fun hboth => hboth.2⟩
    | false =>
      have hrefuses : ¬ accepts := fun haccepts =>
        Bool.false_ne_true ((hfirst.accepts_iff _ rfl).mpr haccepts)
      refine (Decides.refusing (stop b)).congr ?_ ?_
      · exact iff_of_true trivial ⟨hdefined, fun haccepts => absurd haccepts hrefuses⟩
      · exact iff_of_false id fun hboth => hrefuses hboth.1

end Verdict
