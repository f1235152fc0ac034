import LintDaemon.Text.Blank
import LintDaemon.Text.Word
import Mathlib.Data.List.Basic

/-!
# Decimal digits

* `decimalValue?_lt`: the value of a digit of any script is less than ten.
* `decimalValue?_of_isDigit`: that of an ASCII digit.
* `isDecimalDigit_of_isBlank`: white space is no digit.
-/

namespace LintDaemon.Text

/-- The value of a digit is less than ten. -/
theorem decimalValue?_lt {c : Char} {v : Nat} (h : decimalValue? c = some v) : v < 10 := by
  obtain ⟨first, hfind, rfl⟩ := Option.map_eq_some_iff.mp h
  have hrange := List.find?_some hfind
  simp only [Bool.and_eq_true, decide_eq_true_eq] at hrange
  omega

/-- What has a value is a digit. -/
theorem isDecimalDigit_of_eq_some {c : Char} {v : Nat} (h : decimalValue? c = some v) :
    isDecimalDigit c = true := by
  rw [isDecimalDigit, h]
  rfl

/-- What has no value is none. -/
theorem isDecimalDigit_of_eq_none {c : Char} (h : decimalValue? c = none) :
    isDecimalDigit c = false := by
  rw [isDecimalDigit, h]
  rfl

/-- An ASCII digit is the decimal digit of its value. -/
theorem decimalValue?_of_isDigit {c : Char} (h : c.isDigit = true) :
    decimalValue? c = some (c.toNat - 48) ∧ Nat.digitChar (c.toNat - 48) = c := by
  have hrange : 48 ≤ c.toNat ∧ c.toNat ≤ 57 := by
    simpa [Char.isDigit, UInt32.le_iff_toNat_le] using h
  constructor
  · have hfind : digitZeros.find? (fun z => z ≤ c.toNat && c.toNat < z + 10) = some 48 := by
      unfold digitZeros
      refine List.find?_cons_of_pos ?_
      simp only [Bool.and_eq_true, decide_eq_true_eq]
      omega
    unfold decimalValue?
    rw [hfind]
    rfl
  · have hdigits : ∀ d < 10, Nat.digitChar d = Char.ofNat (48 + d) := by decide
    rw [hdigits _ (by omega), Nat.add_sub_cancel' hrange.1, Char.ofNat_toNat]

/-- White space is no digit. -/
theorem isDecimalDigit_of_isBlank {c : Char} (h : isBlank c = true) : isDecimalDigit c = false := by
  have hdigits : ∀ z ∈ digitZeros, ∀ d < 10, isBlank (Char.ofNat (z + d)) = false := by decide
  unfold isDecimalDigit
  rw [Option.isSome_eq_false_iff, Option.isNone_iff_eq_none]
  unfold decimalValue?
  rw [Option.map_eq_none_iff, List.find?_eq_none]
  intro z hz hrange
  simp only [Bool.and_eq_true, decide_eq_true_eq] at hrange
  have hblank := hdigits z hz (c.toNat - z) (by omega)
  rw [Nat.add_sub_cancel' hrange.1, Char.ofNat_toNat, h] at hblank
  cases hblank

end LintDaemon.Text
