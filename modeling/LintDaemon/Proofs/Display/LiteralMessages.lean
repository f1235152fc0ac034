import LintDaemon.Display.DiagnosticsTable
import LintDaemon.Proofs.Client.Refinement
import LintDaemon.Proofs.SourceUnit
import LintDaemon.Proofs.Terminal.TaggedText

/-!
# Messages that are shown as they are

The cells of a table are marked-up texts. That of a type is made to be one, but that of a message is
the message itself.

* `rowOf`, `diagnosticsTable_diagnosticObjects`: the table of diagnostics that a daemon reports.
* `ShowsLiterally`: diagnostics are shown, each with its very message.
* `showsLiterally_iff`: they are exactly if all messages are literal.
-/

namespace LintDaemon.Display

open LintDaemon.Json LintDaemon.Terminal

/-! ## Places -/

/-- A place as it is shown: one that is not known is a dash. -/
def placeShown (place : Option Int) : String :=
  if placeText place = "-1" then "-" else placeText place

/-- The text of a place consists of digits, behind a dash if it is negative or not known. -/
theorem toList_placeText (place : Option Int) :
    (∃ n, (placeText place).toList = Nat.toDigits 10 n) ∨
      ∃ n, (placeText place).toList = '-' :: Nat.toDigits 10 n := by
  rw [← Reply.position_eq]
  rcases place with _ | ⟨n | n⟩
  · exact Or.inr ⟨1, rfl⟩
  · exact Or.inl ⟨n, String.toList_ofList⟩
  · exact Or.inr ⟨n + 1, String.toList_ofList⟩

/-- The text of a place is not empty. -/
theorem placeText_ne_empty (place : Option Int) : placeText place ≠ "" := by
  intro hempty
  rcases toList_placeText place with ⟨n, heq⟩ | ⟨n, heq⟩
  · rw [hempty] at heq
    exact Nat.toDigits_ne_nil heq.symm
  · rw [hempty] at heq
    cases heq

/-- The cell of a place shows it. -/
theorem placeCell_placeText (place : Option Int) :
    placeCell (.string (placeText place)) = .string (placeShown place) := by
  unfold placeCell placeShown
  split
  · rename_i heq
    injection heq with hempty
    exact absurd hempty (placeText_ne_empty place)
  · rename_i heq
    injection heq with hunknown
    rw [if_pos hunknown]
  · rename_i _ hknown
    rw [if_neg fun heq => hknown (congrArg Value.string heq)]

/-- A place is literal. -/
theorem isLiteral_placeShown (place : Option Int) :
    Markup.IsLiteral (placeShown place).toList := by
  have hmarkers : ∀ c ∈ Markup.markers, c ≠ '-' ∧ c.isDigit = false :=
    List.all_iff_forall_prop.mp (by decide)
  have hdigits (n : Nat) {c : Char} (hc : c ∈ Markup.markers) : c ∉ Nat.toDigits 10 n := by
    intro hmem
    have hdigit := Nat.isDigit_of_mem_toDigits (by decide) (by decide) hmem
    exact absurd hdigit (Bool.eq_false_iff.mp (hmarkers c hc).2)
  refine Markup.isLiteral_of_not_mem fun c hc => ?_
  unfold placeShown
  split_ifs
  · exact fun hmem => (hmarkers c hc).1 (List.mem_singleton.mp hmem)
  · rcases toList_placeText place with ⟨n, heq⟩ | ⟨n, heq⟩
    · rw [heq]
      exact hdigits n hc
    · rw [heq]
      exact List.not_mem_cons_of_ne_of_not_mem (hmarkers c hc).1 (hdigits n hc)

/-! ## Types -/

/-- A severity in its style, as markup. -/
def severityMarkup : Severity → String
  | .error => "[bold red]ERROR[/]"
  | .warning => "[yellow]WARNING[/]"
  | .note => "[cyan]NOTE[/]"
  | .other => "[dim]OTHER[/]"

/-- The cell of a type shows the severity in its style. -/
theorem typeCell_name (severity : Severity) :
    typeCell (.string severity.name) = .ok (.string (severityMarkup severity)) := by
  cases severity <;> rfl

/-- A severity is read as its name in its style. -/
theorem read_severityMarkup (severity : Severity) :
    ∃ style, '(' ∉ style ∧ Markup.read [] (severityMarkup severity).toList =
      .ok ⟨severity.name.toList, [], [⟨0, severity.name.length, style⟩]⟩ := by
  cases severity with
  | error => exact ⟨"bold red".toList, by decide +kernel, by decide +kernel⟩
  | warning => exact ⟨"yellow".toList, by decide +kernel, by decide +kernel⟩
  | note => exact ⟨"cyan".toList, by decide +kernel, by decide +kernel⟩
  | other => exact ⟨"dim".toList, by decide +kernel, by decide +kernel⟩

/-- A severity can be shown. -/
theorem canBeShown_severityMarkup (severity : Severity) :
    Markup.CanBeShown [] (severityMarkup severity).toList := by
  obtain ⟨style, hstyle, hread⟩ := read_severityMarkup severity
  exact Markup.canBeShown_of_read hread List.not_mem_nil
    (List.forall_mem_singleton.mpr hstyle)

/-! ## The table -/

/-- The row of a diagnostic. -/
def rowOf (d : Diagnostic) : List (List Char) :=
  [(placeShown d.line).toList, (placeShown d.column).toList, (severityMarkup d.severity).toList,
    d.message.toList]

/-- The row of a diagnostic that a daemon reports. -/
theorem diagnosticRow_diagnosticObject (d : Diagnostic) :
    diagnosticRow (diagnosticObject d) = .ok (rowOf d) := by
  have hkind : memberOr "type" (.string "OTHER") (diagnosticObject d) =
      .ok (.string d.severity.name) := rfl
  have hline : memberOr "line" (.string "") (diagnosticObject d) =
      .ok (.string (placeText d.line)) := rfl
  have hcolumn : memberOr "position" (.string "") (diagnosticObject d) =
      .ok (.string (placeText d.column)) := rfl
  have hmessage : memberOr "message" (.string "") (diagnosticObject d) =
      .ok (.string d.message) := rfl
  unfold diagnosticRow
  rw [hkind, hline, hcolumn, hmessage]
  dsimp only [bind, Except.bind]
  rw [typeCell_name, placeCell_placeText, placeCell_placeText]
  rfl

/-- The table of diagnostics that a daemon reports. -/
def tableOf (title : String) (ds : List Diagnostic) : Table :=
  ⟨if title = "" then none else some title.toList, diagnosticColumns, ds.map rowOf⟩

/-- Diagnostics that a daemon reports have a table. -/
theorem diagnosticsTable_diagnosticObjects (title : String) (ds : List Diagnostic) :
    diagnosticsTable title (ds.map diagnosticObject) = .ok (tableOf title ds) := by
  have hrows : (ds.map diagnosticObject).mapM diagnosticRow = .ok (ds.map rowOf) := by
    rw [Result.mapM_eq_ok_iff, List.forall₂_map_left_iff, List.forall₂_map_right_iff,
      List.forall₂_same]
    exact fun d _ => diagnosticRow_diagnosticObject d
  unfold diagnosticsTable
  rw [hrows]
  rfl

/-- The table can be shown if its title and the messages can. -/
theorem canBeShown_tableOf {title : String} {ds : List Diagnostic}
    (htitle : Markup.CanBeShown Table.titleStyle title.toList)
    (hmessages : ∀ d ∈ ds, Markup.CanBeShown [] d.message.toList) :
    (tableOf title ds).CanBeShown where
  title := by
    intro shown hshown
    unfold tableOf at hshown
    split_ifs at hshown
    · cases hshown
    · cases hshown
      exact htitle
  headers := by
    have hplain : ∀ column ∈ diagnosticColumns, Markup.IsLiteral column.header := by decide +kernel
    exact fun column hcolumn => (hplain column hcolumn).canBeShown List.not_mem_nil
  cells := by
    intro row hrow
    obtain ⟨d, hd, rfl⟩ := List.mem_map.mp hrow
    have hplace (place : Option Int) : Markup.CanBeShown [] (placeShown place).toList :=
      (isLiteral_placeShown place).canBeShown List.not_mem_nil
    simp only [rowOf, List.forall_mem_cons]
    exact ⟨hplace d.line, hplace d.column, canBeShown_severityMarkup d.severity, hmessages d hd,
      fun _ hcell => absurd hcell List.not_mem_nil⟩

/-- Diagnostics are shown on every screen if the title and the messages can be shown. -/
theorem exists_showReply_diagnosticObjects {title : String} {ds : List Diagnostic} (hne : ds ≠ [])
    (htitle : Markup.CanBeShown Table.titleStyle title.toList)
    (hmessages : ∀ d ∈ ds, Markup.CanBeShown [] d.message.toList) (screen : Screen) :
    ∃ text, showReply screen title (.array (ds.map diagnosticObject)) = .ok text := by
  have hvoid : (Value.array (ds.map diagnosticObject)).isVoid = false := by
    cases ds with
    | nil => exact absurd rfl hne
    | cons d rest => rfl
  obtain ⟨text, htext⟩ := screen.exists_showTable (canBeShown_tableOf htitle hmessages)
  refine ⟨text, ?_⟩
  unfold showReply
  rw [if_neg (by rw [hvoid]; decide), elements]
  dsimp only [bind, Except.bind]
  rw [diagnosticsTable_diagnosticObjects]
  dsimp only
  rw [htext]
  rfl

/-! ## Titles -/

/-- The characters of names are plain. -/
theorem isLiteral_of_isUnitName {name : String} (h : isUnitName name = true) :
    Markup.IsLiteral name.toList := by
  have hmarkers : ∀ c ∈ Markup.markers, isNamePart c = false ∧ c ≠ '.' :=
    List.all_iff_forall_prop.mp (by decide +kernel)
  exact Markup.isLiteral_of_not_mem fun c hc => not_mem_name h (hmarkers c hc).1 (hmarkers c hc).2

/-- A unit's name can be a title. -/
theorem canBeShown_title {name : String} (h : name = "" ∨ isUnitName name = true) :
    Markup.CanBeShown Table.titleStyle name.toList := by
  have hliteral : Markup.IsLiteral name.toList := by
    rcases h with rfl | hname
    · decide
    · exact isLiteral_of_isUnitName hname
  exact hliteral.canBeShown (by decide)

/-- The text that says that there are no diagnostics. -/
theorem isSelfContained_noProblems {title : String} (h : title = "" ∨ isUnitName title = true) :
    Markup.IsSelfContained
      ("No problems found" ++ (if title = "" then "" else " in " ++ title)).toList := by
  have hmarkers : ∀ c ∈ '\\' :: Markup.markers, isNamePart c = false ∧ c ≠ '.' ∧
      c ∉ "No problems found".toList ∧ c ∉ " in ".toList :=
    List.all_iff_forall_prop.mp (by decide +kernel)
  have hplain : ∀ c ∈ '\\' :: Markup.markers,
      c ∉ ("No problems found" ++ (if title = "" then "" else " in " ++ title)).toList := by
    intro c hc
    obtain ⟨hpart, hpoint, htext, hin⟩ := hmarkers c hc
    split_ifs with htitle
    · simpa using htext
    · simp only [String.toList_append, List.mem_append, not_or]
      exact ⟨htext, hin, not_mem_name (h.resolve_left htitle) hpart hpoint⟩
  exact ⟨Markup.isLiteral_of_not_mem fun c hc => hplain c (List.mem_cons_of_mem _ hc),
    fun hlast => hplain '\\' List.mem_cons_self (List.mem_of_getLast? hlast)⟩

/-- That there are no diagnostics can be shown. -/
theorem canBeShown_noProblems {title : String} (h : title = "" ∨ isUnitName title = true) :
    Markup.CanBeShown [] (noProblems title) := by
  have htagged : noProblems title = [] ++ Markup.tagged "green".toList
      ("No problems found" ++ (if title = "" then "" else " in " ++ title)).toList := by
    simp [noProblems, Markup.tagged]
  rw [htagged]
  exact Markup.canBeShown_tagged (by decide +kernel) (by decide) (isSelfContained_noProblems h)

/-! ## Messages -/

/-- The column of messages. -/
def messageColumn : Nat := 3

/-- The text that a row shows in the column of messages, before it is put on lines. -/
def messageShown? (row : List (List Char)) : Option (List Char) :=
  row[messageColumn]?.bind fun cell => (Markup.read [] cell).toOption.map (·.chars)

/-- Diagnostics are shown as they are. -/
structure ShowsLiterally (title : String) (ds : List Diagnostic) : Prop where
  /-- They are shown on every screen. -/
  shown : ∀ screen : Screen, ∃ text,
    showReply screen title (.array (ds.map diagnosticObject)) = .ok text
  /-- Each has a row, which shows its very message. -/
  messages : ∃ table, diagnosticsTable title (ds.map diagnosticObject) = .ok table ∧
    table.rows.map messageShown? = ds.map fun d => some d.message.toList

/-- A row shows the very message exactly if that is literal. -/
theorem messageShown?_rowOf_iff {d : Diagnostic} :
    messageShown? (rowOf d) = some d.message.toList ↔ Markup.IsLiteral d.message.toList := by
  have hcell : messageShown? (rowOf d) =
      (Markup.read [] d.message.toList).toOption.map (·.chars) := rfl
  rw [hcell, ← Markup.exists_read_chars_eq_iff [], Option.map_eq_some_iff]
  cases Markup.read [] d.message.toList with
  | error e => simp [Except.toOption]
  | ok text => simp [Except.toOption]

/-- **Diagnostics are shown as they are exactly if all messages are literal.** A message with a
tag, an escaped bracket, the code of an emoji or a character that moves the cursor is changed, or
keeps the whole list from being shown. -/
theorem showsLiterally_iff {title : String} {ds : List Diagnostic} (hne : ds ≠ [])
    (htitle : Markup.CanBeShown Table.titleStyle title.toList) :
    ShowsLiterally title ds ↔ ∀ d ∈ ds, Markup.IsLiteral d.message.toList := by
  constructor
  · rintro ⟨-, table, htable, hrows⟩ d hd
    rw [diagnosticsTable_diagnosticObjects] at htable
    cases htable
    rw [tableOf, List.map_map, List.map_inj_left] at hrows
    exact messageShown?_rowOf_iff.mp (hrows d hd)
  · intro hliteral
    refine ⟨exists_showReply_diagnosticObjects hne htitle fun d hd =>
      (hliteral d hd).canBeShown List.not_mem_nil, tableOf title ds,
      diagnosticsTable_diagnosticObjects title ds, ?_⟩
    rw [tableOf, List.map_map, List.map_inj_left]
    exact fun d hd => messageShown?_rowOf_iff.mpr (hliteral d hd)

/-- What a compiler says of an array: its brackets hold nothing, so that they are no tag. -/
def arrayDiagnostic : Diagnostic :=
  ⟨"incompatible types: Object[] cannot be converted to int[]", some 3, some 20, .error⟩

/-- The array is shown as it is. -/
theorem showsLiterally_iff_arrayDiagnostic :
    [arrayDiagnostic] ≠ [] ∧ Markup.CanBeShown Table.titleStyle "Bar".toList ∧
      ShowsLiterally "Bar" [arrayDiagnostic] := by
  have hne : [arrayDiagnostic] ≠ [] := List.cons_ne_nil _ _
  have htitle : Markup.CanBeShown Table.titleStyle "Bar".toList :=
    canBeShown_title (Or.inr (by decide))
  refine ⟨hne, htitle, (showsLiterally_iff hne htitle).mpr ?_⟩
  rw [List.forall_mem_singleton]
  decide +kernel

/-- What a compiler says of a deprecated constructor, with the name of the lint in brackets. -/
def removalDiagnostic : Diagnostic :=
  ⟨"[removal] Integer(int) in Integer has been deprecated", some 1, some 1, .warning⟩

example : messageShown? (rowOf removalDiagnostic) =
    some " Integer(int) in Integer has been deprecated".toList := by decide +kernel

/-- Some diagnostics are not shown as they are: the name of a lint in brackets is left out. -/
theorem not_forall_showsLiterally :
    ¬ ∀ (title : String) (ds : List Diagnostic), ds ≠ [] → ShowsLiterally title ds := by
  intro hall
  obtain ⟨-, table, htable, hrows⟩ := hall "" [removalDiagnostic] (List.cons_ne_nil _ _)
  rw [diagnosticsTable_diagnosticObjects] at htable
  cases htable
  have hshown :
      messageShown? (rowOf removalDiagnostic) ≠ some removalDiagnostic.message.toList := by
    decide +kernel
  exact hshown (List.cons.inj hrows).1

end LintDaemon.Display
