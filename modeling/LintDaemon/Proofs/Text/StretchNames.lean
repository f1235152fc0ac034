import LintDaemon.Text.Pattern
import Mathlib.Data.List.Basic
import Mathlib.Tactic.SplitIfs

/-!
# The names of stretches

* `Pattern.names`: the names that a pattern gives to stretches.
* `Pattern.name_mem_of_mem_all`: the stretches that a pattern finds have no other names.
-/

namespace LintDaemon.Text

/-- The names that a pattern gives to stretches. -/
def Pattern.names : Pattern → List String
  | .empty | .char _ | .wordEdge _ | .notAfter _ => []
  | .seq first second | .either first second => first.names ++ second.names
  | .times _ _ _ body => body.names
  | .named name body => name :: body.names

/-- A course that adds only stretches whose names are among some names. -/
def Course.Adds (names : List String) (go : Course) : Prop :=
  ∀ a b, go a = some b → ∀ s ∈ b.found, s ∈ a.found ∨ s.name ∈ names

namespace Course.Adds

variable {names : List String} {go other : Course}

/-- The course that is at its end adds nothing. -/
theorem done : Course.Adds names some := by
  rintro a b ⟨⟩ s hs
  exact Or.inl hs

/-- The first of two courses that goes on. -/
theorem orElse (h : Course.Adds names go) (hother : Course.Adds names other) :
    Course.Adds names fun a => (go a).orElse fun () => other a := by
  intro a b hb
  dsimp only at hb
  cases hgo : go a with
  | none =>
    rw [hgo] at hb
    exact hother a b hb
  | some point =>
    rw [hgo] at hb
    exact h a b (hgo.trans hb)

/-- A step taken several times adds what the step adds. -/
theorem repeatedly {step : Course → Course}
    (hstep : ∀ go, Course.Adds names go → Course.Adds names (step go)) (reluctant : Bool)
    (least most : Nat) (h : Course.Adds names go) :
    Course.Adds names (repeatedly step reluctant least most go) := by
  induction most generalizing least go with
  | zero =>
    cases least with
    | zero => exact h
    | succ least => exact fun a b hb => by cases hb
  | succ most ih =>
    cases least with
    | succ least => exact hstep _ (ih least h)
    | zero =>
      intro a b hb
      -- a step that leads nowhere is not taken, so the course behind a step looks back at `a`
      have hfurther : Course.Adds names (step fun b =>
          if a.offset < b.offset then LintDaemon.Text.repeatedly step reluctant 0 most go b
          else none) := by
        refine hstep _ fun c d hd => ?_
        split_ifs at hd
        exact ih 0 h c d hd
      cases reluctant with
      | true => exact h.orElse hfurther a b hb
      | false => exact hfurther.orElse h a b hb

end Course.Adds

namespace Pattern

/-- A stretch that fits adds the names of its pattern to those of the course behind it. -/
theorem andThen_adds (p : Pattern) {names : List String} (hnames : p.names ⊆ names) {go : Course}
    (h : Course.Adds names go) : Course.Adds names (p.andThen go) := by
  induction p generalizing go with
  | empty => exact h
  | char p =>
    intro a b hb s hs
    obtain ⟨next, hnext, hgo⟩ := Option.bind_eq_some_iff.mp hb
    have hfound : next.found = a.found := by
      unfold Point.next? at hnext
      split at hnext
      · cases hnext
      · split_ifs at hnext
        cases hnext
        rfl
    rw [← hfound]
    exact h next b hgo s hs
  | seq first second ihfirst ihsecond =>
    obtain ⟨hfirst, hsecond⟩ := List.append_subset.mp hnames
    exact ihfirst hfirst (ihsecond hsecond h)
  | either first second ihfirst ihsecond =>
    obtain ⟨hfirst, hsecond⟩ := List.append_subset.mp hnames
    exact (ihfirst hfirst h).orElse (ihsecond hsecond h)
  | times reluctant least most body ih =>
    intro a b hb
    exact Course.Adds.repeatedly (fun go hgo => ih hnames hgo) reluctant least _ h a b hb
  | named name body ih =>
    obtain ⟨hname, hbody⟩ := List.cons_subset.mp hnames
    intro a b hb
    have hafter : Course.Adds names fun b =>
        go { b with found := ⟨name, a.offset, b.offset⟩ :: b.found } := by
      intro c d hd s hs
      rcases h _ d hd s hs with hmem | hmem
      · rcases List.mem_cons.mp hmem with rfl | hmem
        · exact Or.inr hname
        · exact Or.inl hmem
      · exact Or.inr hmem
    exact ih hbody hafter a b hb
  | wordEdge atWord =>
    intro a b hb
    unfold andThen at hb
    split_ifs at hb
    exact h a b hb
  | notAfter p =>
    intro a b hb
    unfold andThen at hb
    split_ifs at hb
    exact h a b hb

/-- **The stretches that a pattern finds have the names that it gives.** -/
theorem name_mem_of_mem_all {p : Pattern} {s : List Char} {stretch : NamedStretch}
    (h : stretch ∈ p.all s) : stretch.name ∈ p.names := by
  have hfrom : ∀ (rest : List Char) (offset : Nat) (before : Option Char) (skip : Nat),
      ∀ stretch ∈ p.allFrom offset before skip rest, stretch.name ∈ p.names := by
    intro rest
    induction rest with
    | nil =>
      intro offset before skip stretch hmem
      cases skip <;> cases hmem
    | cons c rest ih =>
      intro offset before skip stretch hmem
      cases skip with
      | succ skip => exact ih _ _ _ stretch hmem
      | zero =>
        unfold allFrom at hmem
        split at hmem
        · exact ih _ _ _ stretch hmem
        · rename_i stop hstop
          rcases List.mem_append.mp hmem with hmem | hmem
          · have hadds := p.andThen_adds (List.Subset.refl _) Course.Adds.done _ _ hstop
              stretch (List.mem_reverse.mp hmem)
            exact hadds.resolve_left List.not_mem_nil
          · exact ih _ _ _ stretch hmem
  exact hfrom s 0 none 0 stretch h

end Pattern

end LintDaemon.Text
