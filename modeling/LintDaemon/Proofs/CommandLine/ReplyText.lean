import LintDaemon.CommandLine.Run
import LintDaemon.Proofs.Client.Refinement

/-!
# The text of a reply

A reply is one text in three places: the daemon writes it, a client reads it, and a command that
shows replies as they are prints it.

* `Text.withoutEscapes_of_isPrintable`: a printable text holds nothing that tells a terminal
  anything.
* `Display.reportsError_diagnosticObjects`: the status of a lint is read off the same reply.
* `Reply.text_lossless`: reading a reply loses nothing, and printing it gives its text back.
-/

namespace LintDaemon

/-! ## Printed lines -/

namespace Text

/-- A text without the escape character is kept, whatever stands behind it. -/
theorem withoutEscapesFrom_append {s : List Char} (h : '\x1b' ∉ s) (t : List Char) :
    withoutEscapesFrom 0 (s ++ t) = s ++ withoutEscapesFrom 0 t := by
  induction s with
  | nil => rfl
  | cons c rest ih =>
    obtain ⟨hc, hrest⟩ := not_or.mp fun hmem => h (List.mem_cons.mpr hmem)
    have hlength : escapeLength? (c :: (rest ++ t)) = none := by
      unfold escapeLength?
      split
      · rename_i heq
        exact absurd (List.cons.inj heq).1.symm hc
      · rfl
    rw [List.cons_append, withoutEscapesFrom, hlength]
    exact congrArg (c :: ·) (ih hrest)

/-- A text without the escape character holds no escape sequence. -/
theorem withoutEscapesFrom_of_not_mem {s : List Char} (h : '\x1b' ∉ s) :
    withoutEscapesFrom 0 s = s := by
  have happend := withoutEscapesFrom_append h []
  rwa [withoutEscapesFrom, List.append_nil] at happend

/-- A printable text is left as it is. -/
theorem withoutEscapes_of_isPrintable {s : String} (h : Json.IsPrintable s.toList) :
    withoutEscapes s = s := by
  have hescape : '\x1b' ∉ s.toList := fun hmem => absurd (h _ hmem) (by decide)
  unfold withoutEscapes
  rw [withoutEscapesFrom_of_not_mem hescape, String.ofList_toList]

end Text

/-- A printable text is said as it is. -/
theorem spokenLine_of_isPrintable {s : String} (h : Json.IsPrintable s.toList) :
    spokenLine s = s ++ "\n" := by
  unfold spokenLine
  rw [Text.withoutEscapes_of_isPrintable h]

/-! ## Diagnostics as a client gets them -/

namespace Display

open LintDaemon.Json

/-- The object of a diagnostic tells whether it is one of an error. -/
theorem isErrorElement_diagnosticObject (d : Diagnostic) :
    isErrorElement (diagnosticObject d) = .ok (d.severity == .error) := by
  have hmember : memberOr "type" .null (diagnosticObject d) = .ok (.string d.severity.name) := rfl
  unfold isErrorElement
  rw [hmember]
  cases d.severity <;> rfl

/-- Whether one of some diagnostics is an error is read off their objects. -/
theorem reportsError_diagnosticObjects (ds : List Diagnostic) :
    reportsError (.array (ds.map diagnosticObject)) = .ok (ds.any (·.severity == .error)) := by
  have hany : anyError (ds.map diagnosticObject) = .ok (ds.any (·.severity == .error)) := by
    induction ds with
    | nil => rfl
    | cons d rest ih =>
      rw [List.map_cons, anyError, isErrorElement_diagnosticObject, List.any_cons]
      cases d.severity == .error with
      | true => rfl
      | false => exact ih
  exact hany

end Display

namespace Surroundings

variable (s : Surroundings) (settings : Settings) (name : String)

/-- A lint that shows the reply as it is prints what the reply is rendered as. -/
theorem showAnswer_diagnosticObjects (ds : List Diagnostic) :
    s.showAnswer settings name true (.ok (.array (ds.map diagnosticObject))) =
      .ended s (if ds.any (·.severity == .error) then findingStatus else 0)
        (spokenLine (Json.render (.array (ds.map diagnosticObject)))) "" := by
  unfold showAnswer lintStatus
  dsimp only
  rw [if_pos rfl, Display.reportsError_diagnosticObjects]

end Surroundings

/-! ## Reading and writing replies -/

namespace Reply

open LintDaemon.Json

/-- The line of diagnostics is what their objects are rendered as. -/
theorem render_diagnosticObjects (ds : List Diagnostic) :
    render (.array (ds.map diagnosticObject)) = diagnosticsLine ds := by
  rw [← diagnosticsValue_eq_map]
  rfl

/-- **The text of a reply loses nothing, in either direction.** Diagnostics whose places can be
written are reported by one line of printable ASCII; reading it gives the list of their objects, in
their order, with the exact messages, the decimal places or -1, and the names of the severities; and
a lint that shows the reply as it is prints that very line again. An error is reported, read and
shown in the same way, whatever its message is. -/
theorem text_lossless (ds : List Diagnostic) (hwritable : isWritable ds = true) (message : String)
    (s : Surroundings) (settings : Settings) (name : String) :
    (∃ line, Session.report ds = .ok (.ofLine line) ∧ IsPrintable line.toList ∧
      read line.toList = .ok (.array (ds.map diagnosticObject)) ∧
      render (.array (ds.map diagnosticObject)) = line ∧
      (s.showAnswer settings name true (.ok (.array (ds.map diagnosticObject)))).stdout =
        .text (line ++ "\n")) ∧
    ∃ line, errorLine message = line ∧ IsPrintable line.toList ∧
      read line.toList = .ok (.object [("error", .string message)]) ∧
      render (.object [("error", .string message)]) = line ∧
      (s.showAnswer settings name true (.error (.reported (.string message)))).stderr =
        .text (line ++ "\n") := by
  refine ⟨⟨diagnosticsLine ds, ?_, diagnosticsLine_printable ds, ?_,
    render_diagnosticObjects ds, ?_⟩,
    errorLine message, rfl, errorLine_printable message, ?_, rfl, ?_⟩
  · unfold Session.report
    rw [if_pos hwritable]
  · have hread : read ((diagnosticsLine ds).toList ++ []) = .ok (diagnosticsValue ds) :=
      read_diagnosticsLine ds (by simp)
    rw [List.append_nil, diagnosticsValue_eq_map] at hread
    exact hread
  · rw [s.showAnswer_diagnosticObjects, render_diagnosticObjects,
      spokenLine_of_isPrintable (diagnosticsLine_printable ds)]
    rfl
  · have hread : read ((errorLine message).toList ++ []) = .ok (errorValue message) :=
      read_errorLine message (by simp)
    rw [List.append_nil] at hread
    exact hread
  · exact congrArg Printed.text (spokenLine_of_isPrintable (errorLine_printable message))

/-- Two diagnostics with an escape of each kind and a place of each kind. -/
def sampleDiagnostics : List Diagnostic :=
  [⟨"\"\\\n\x7fé😀", some 12, none, .error⟩, ⟨"", some (-3), some 0, .note⟩]

/-- A command on a machine without files, with nobody to talk to. -/
def sampleSurroundings : Surroundings where
  machine :=
    ⟨⟨[]⟩, [], [], [], "user", Path.ofString "/settings", "/tmp/work", false, .zero false⟩
  peer := ⟨resolveAsGiven, .nobody⟩
  binding := .portOutOfRange
  arrivals := []

/-- The line that reports them. -/
def sampleLine : String :=
  "[\x7b\"message\":\"\\\"\\\\\\n\\u007f\\u00e9\\ud83d\\ude00\",\"line\":\"12\"," ++
    "\"position\":\"-1\",\"type\":\"ERROR\"\x7d," ++
    "\x7b\"message\":\"\",\"line\":\"-3\",\"position\":\"0\",\"type\":\"NOTE\"\x7d]"

/-- The sample is read from its line, and shown as its line. -/
theorem text_lossless_sampleDiagnostics :
    isWritable sampleDiagnostics = true ∧
      read sampleLine.toList = .ok (.array (sampleDiagnostics.map diagnosticObject)) ∧
      (sampleSurroundings.showAnswer .default "Bar" true
        (.ok (.array (sampleDiagnostics.map diagnosticObject)))).stdout =
          .text (sampleLine ++ "\n") := by
  have hwritable : isWritable sampleDiagnostics = true := by decide
  obtain ⟨⟨line, -, -, hread, hrender, hshown⟩, -⟩ :=
    text_lossless sampleDiagnostics hwritable "" sampleSurroundings .default "Bar"
  have hline : render (.array (sampleDiagnostics.map diagnosticObject)) = sampleLine := by
    decide +kernel
  rw [← hline, hrender]
  exact ⟨hwritable, hread, hshown⟩

end Reply

end LintDaemon
