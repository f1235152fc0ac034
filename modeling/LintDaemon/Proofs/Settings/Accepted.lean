import LintDaemon.Settings.Basic
import Mathlib.Tactic.SplitIfs

/-!
# Settings that are accepted

* `Settings.ofValues_eq_ok`: the values that settings are read from.
* `Settings.port_mem_of_ofValues`: the port of settings that are accepted is one.
* `Settings.readSeconds_eq_ok_iff`: a time that is accepted is the default, or a number of any size.
-/

namespace LintDaemon.Settings

open LintDaemon.Text

variable {environment values : Values} {settings : Settings} {name text : String}

/-- The port and the times of settings that are accepted are read from the texts that count. -/
theorem ofValues_eq_ok (h : ofValues environment values = .ok settings) :
    readPort (effective environment values "port") = .ok settings.port ∧
      readSeconds "read_timeout" (effective environment values "read_timeout")
        defaultReadTimeout = .ok settings.readTimeout ∧
      readSeconds "compile_timeout" (effective environment values "compile_timeout")
        defaultCompileTimeout = .ok settings.compileTimeout := by
  unfold ofValues at h
  dsimp only at h
  cases hport : readPort (effective environment values "port") with
  | error e =>
    rw [hport] at h
    cases h
  | ok port =>
    cases hread : readSeconds "read_timeout" (effective environment values "read_timeout")
        defaultReadTimeout with
    | error e =>
      rw [hport, hread] at h
      cases h
    | ok readTimeout =>
      cases hcompile : readSeconds "compile_timeout"
          (effective environment values "compile_timeout") defaultCompileTimeout with
      | error e =>
        rw [hport, hread, hcompile] at h
        cases h
      | ok compileTimeout =>
        rw [hport, hread, hcompile] at h
        cases h
        exact ⟨rfl, rfl, rfl⟩

/-- A port that is read is one. -/
theorem port_mem_of_readPort {port : Int} (h : readPort text = .ok port) :
    0 ≤ port ∧ port ≤ 65535 := by
  unfold readPort at h
  split_ifs at h
  · cases h
    decide
  · split at h
    · cases h
    · split_ifs at h with hrange
      cases h
      exact hrange

/-- The port of settings that are accepted is one. -/
theorem port_mem_of_ofValues (h : ofValues environment values = .ok settings) :
    0 ≤ settings.port ∧ settings.port ≤ 65535 :=
  port_mem_of_readPort (ofValues_eq_ok h).1

/-- A time that is accepted is the default where none is set, and otherwise the number that is
written, of any size and sign, or none at all. -/
theorem readSeconds_eq_ok_iff {default seconds : Binary64} :
    readSeconds name text default = .ok seconds ↔
      (isUnset text = true ∧ seconds = default) ∨
        (isUnset text = false ∧ Numeral.float? text = some seconds) := by
  unfold readSeconds
  cases isUnset text with
  | true => simp [eq_comm]
  | false =>
    rw [if_neg Bool.false_ne_true]
    cases Numeral.float? text <;> simp

end LintDaemon.Settings
