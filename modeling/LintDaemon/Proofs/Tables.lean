import Mathlib.Tactic.SplitIfs

/-!
# Tables

A table is a list of keys with what they stand for. The first entry of a key is the one that counts.

* `mem_of_lookup_eq_some`: what is looked up in a table is an entry of it.
* `lookup_cons_eq`: the first entry goes before the others.
* `lookup_filter`: the entries of some keys are kept, and all else is gone.
-/

namespace LintDaemon.Tables

variable {α β : Type} [BEq α] [LawfulBEq α]

/-- What is looked up is an entry of the table. -/
theorem mem_of_lookup_eq_some {l : List (α × β)} {a : α} {b : β} (h : l.lookup a = some b) :
    (a, b) ∈ l := by
  obtain ⟨before, after, rfl, -⟩ := List.lookup_eq_some_iff.mp h
  exact List.mem_append_right before List.mem_cons_self

/-- What the first entry stands for is looked up under its key, and all else in the others. -/
theorem lookup_cons_eq [DecidableEq α] (key : α) (b : β) (l : List (α × β)) (a : α) :
    ((key, b) :: l).lookup a = if a = key then some b else l.lookup a := by
  rw [List.lookup_cons]
  split_ifs with ha
  · rw [ha, beq_self_eq_true]
  · rw [beq_false_of_ne ha]

/-- Where the entries of some keys are kept, what these stand for is as it was. -/
theorem lookup_filter (kept : α → Bool) (l : List (α × β)) (a : α) :
    (l.filter fun entry => kept entry.1).lookup a = if kept a = true then l.lookup a else none := by
  classical
  induction l with
  | nil => exact (ite_self _).symm
  | cons entry rest ih =>
    obtain ⟨key, b⟩ := entry
    rw [List.filter_cons, lookup_cons_eq]
    dsimp only
    by_cases hkept : kept key = true
    · rw [if_pos hkept, lookup_cons_eq, ih]
      by_cases ha : a = key
      · rw [if_pos ha, if_pos ha, ha, if_pos hkept]
      · rw [if_neg ha, if_neg ha]
    · rw [if_neg hkept, ih]
      by_cases ha : a = key
      · rw [ha, if_neg hkept, if_neg hkept]
      · rw [if_neg ha]

end LintDaemon.Tables
