import LintDaemon.Proofs.Json.Printable
import LintDaemon.Protocol.Reply

/-!
# Reply lines read back

A reply is one printable line, and what it reports can be read from it.

* `Reply.diagnosticMembers`: the texts that report a diagnostic.
* `Reply.diagnosticsLine_printable`, `Reply.errorLine_printable`: replies are printable.
* `Reply.read_diagnosticsLine`, `Reply.read_errorLine`: they are read as what they report.
-/

namespace LintDaemon.Reply

open LintDaemon.Json LintDaemon.Text

/-- The members of the object that reports a diagnostic. -/
def diagnosticMembers (d : Diagnostic) : List (String × String) :=
  [("message", d.message), ("line", position d.line), ("position", position d.column),
    ("type", d.severity.name)]

/-- Diagnostics are reported by a list of objects of texts. -/
theorem diagnosticsValue_eq (ds : List Diagnostic) :
    diagnosticsValue ds = .array ((ds.map diagnosticMembers).map textObject) := by
  unfold diagnosticsValue
  rw [List.map_map]
  rfl

/-- An error is reported by an object of texts. -/
theorem errorValue_eq (message : String) : errorValue message = textObject [("error", message)] :=
  rfl

/-- The object of a diagnostic is read back. -/
theorem isRecord_diagnosticMembers (d : Diagnostic) : IsRecord (diagnosticMembers d) :=
  ⟨List.cons_ne_nil _ _, by simp [diagnosticMembers]⟩

/-- The object of an error is read back. -/
theorem isRecord_error (message : String) : IsRecord [("error", message)] :=
  ⟨List.cons_ne_nil _ _, by simp⟩

/-- A line that reports diagnostics is printable. -/
theorem diagnosticsLine_printable (ds : List Diagnostic) :
    IsPrintable (diagnosticsLine ds).toList := by
  unfold diagnosticsLine render
  rw [String.toList_ofList, diagnosticsValue_eq]
  exact write_textObjects_printable _

/-- A line that reports an error is printable. -/
theorem errorLine_printable (message : String) : IsPrintable (errorLine message).toList := by
  unfold errorLine render
  rw [String.toList_ofList, errorValue_eq]
  exact write_textObject_printable _

/-- A line that reports diagnostics, with white space behind it, reads back. -/
theorem read_diagnosticsLine (ds : List Diagnostic) {tail : List Char}
    (htail : ∀ c ∈ tail, isSpace c = true) :
    read ((diagnosticsLine ds).toList ++ tail) = .ok (diagnosticsValue ds) := by
  unfold diagnosticsLine render
  rw [String.toList_ofList, diagnosticsValue_eq]
  refine read_write_textObjects (fun members hmembers => ?_) htail
  obtain ⟨d, -, rfl⟩ := List.mem_map.mp hmembers
  exact isRecord_diagnosticMembers d

/-- A line that reports an error, with white space behind it, reads back. -/
theorem read_errorLine (message : String) {tail : List Char}
    (htail : ∀ c ∈ tail, isSpace c = true) :
    read ((errorLine message).toList ++ tail) = .ok (errorValue message) := by
  unfold errorLine render
  rw [String.toList_ofList, errorValue_eq]
  exact read_write_textObject (isRecord_error message) htail

end LintDaemon.Reply
