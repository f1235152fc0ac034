import LintDaemon.Proofs.Terminal.KnownStyles
import LintDaemon.Proofs.Terminal.LiteralText
import LintDaemon.Terminal.Table

/-!
# What can be shown

A text is put on lines by cutting, padding and joining it. None of this asks for a style that the
text did not ask for before, so that texts and tables can be shown if they can be read and ask for
styles that are known.

* `StyledText.IsStyledBy`: texts all of whose styles have a property.
* `StyledText.IsStyledBy.wrap`: the lines of such a text are such texts.
* `Markup.CanBeShown`: marked-up texts that can be read, with styles that are known.
* `Screen.exists_showMarkup`: such texts are shown on every screen.
* `Table.CanBeShown`, `Screen.exists_showTable`: tables of such texts are shown on every screen.
-/

namespace LintDaemon.Terminal

/-! ## Styles of lines -/

namespace StyledText

/-- All styles that a text asks for have a property. -/
structure IsStyledBy (p : List Char → Prop) (t : StyledText) : Prop where
  /-- The style of the whole has it. -/
  base : t.base ≠ [] → p t.base
  /-- The styles of the stretches have it. -/
  spans : ∀ s ∈ t.spans, p s.style

namespace IsStyledBy

variable {p : List Char → Prop} {t : StyledText}

/-- Styles do not depend on the characters. -/
theorem withChars (h : t.IsStyledBy p) (chars : List Char) :
    IsStyledBy p { t with chars } :=
  ⟨h.base, h.spans⟩

/-- Stretches that are changed, or left out, keep their styles. -/
theorem filterMap (h : t.IsStyledBy p) (chars : List Char) {f : Span → Option Span}
    (hf : ∀ s s', f s = some s' → s'.style = s.style) :
    IsStyledBy p { t with chars, spans := t.spans.filterMap f } := by
  refine ⟨h.base, fun s' hs' => ?_⟩
  obtain ⟨s, hs, heq⟩ := List.mem_filterMap.mp hs'
  rw [hf s s' heq]
  exact h.spans s hs

/-- Stretches that are moved keep their styles. -/
theorem map (h : t.IsStyledBy p) (chars : List Char) {f : Span → Span}
    (hf : ∀ s, (f s).style = s.style) :
    IsStyledBy p { t with chars, spans := t.spans.map f } := by
  refine ⟨h.base, fun s' hs' => ?_⟩
  obtain ⟨s, hs, rfl⟩ := List.mem_map.mp hs'
  rw [hf s]
  exact h.spans s hs

/-- Other characters under the styles of a text. -/
theorem retype (h : t.IsStyledBy p) (chars : List Char) : (t.retype chars).IsStyledBy p := by
  unfold StyledText.retype
  split_ifs
  · refine h.filterMap chars fun s s' hs => ?_
    unfold Span.within? at hs
    split_ifs at hs
    cases hs
    rfl
  · exact h.withChars chars

/-- A piece of a text. -/
theorem piece (h : t.IsStyledBy p) (start : Nat) (chars : List Char) :
    (t.piece start chars).IsStyledBy p := by
  refine h.filterMap chars fun s s' hs => ?_
  unfold Span.between? at hs
  dsimp only at hs
  split_ifs at hs
  cases hs
  rfl

/-- Spaces in front of a text. -/
theorem indent (h : t.IsStyledBy p) (n : Nat) : (t.indent n).IsStyledBy p :=
  h.map _ fun _ => rfl

/-- Spaces behind a text. -/
theorem pad (h : t.IsStyledBy p) (n : Nat) : (t.pad n).IsStyledBy p :=
  h.withChars _

/-- Spaces behind a text, under its styles. -/
theorem prolong (h : t.IsStyledBy p) (n : Nat) : (t.prolong n).IsStyledBy p := by
  refine h.map _ fun s => ?_
  split_ifs <;> rfl

/-- All styles of a text are those of the whole and of the stretches. -/
theorem allSpans (h : t.IsStyledBy p) : ∀ s ∈ t.allSpans, p s.style := by
  unfold StyledText.allSpans
  split_ifs with hbase
  · exact h.spans
  · exact List.forall_mem_cons.mpr ⟨h.base hbase, h.spans⟩

/-- The pieces of a text that is cut. -/
theorem piecesFrom (h : t.IsStyledBy p) (start : Nat) (chars : List Char) (offsets : List Nat) :
    ∀ part ∈ t.piecesFrom start chars offsets, part.IsStyledBy p := by
  induction offsets generalizing start chars with
  | nil => exact List.forall_mem_singleton.mpr (h.piece start chars)
  | cons offset rest ih => exact List.forall_mem_cons.mpr ⟨h.piece start _, ih _ _⟩

/-- The parts of a text that is cut. -/
theorem cutAt (h : t.IsStyledBy p) (offsets : List Nat) :
    ∀ part ∈ t.cutAt offsets, part.IsStyledBy p := by
  unfold StyledText.cutAt
  split_ifs
  · exact List.forall_mem_singleton.mpr h
  · exact h.piecesFrom 0 _ offsets

/-- The pieces between line feeds. -/
theorem linesFrom (h : t.IsStyledBy p) (start : Nat) (chars : List Char) (feeds : List Nat) :
    ∀ line ∈ t.linesFrom start chars feeds, line.IsStyledBy p := by
  induction feeds generalizing start chars with
  | nil => exact List.forall_mem_singleton.mpr (h.piece start chars)
  | cons feed rest ih => exact List.forall_mem_cons.mpr ⟨h.piece start _, ih _ _⟩

/-- The lines of a text. -/
theorem splitLines (h : t.IsStyledBy p) : ∀ line ∈ t.splitLines, line.IsStyledBy p := by
  unfold StyledText.splitLines
  split
  · exact List.forall_mem_singleton.mpr h
  · exact h.linesFrom 0 _ _

/-- Parts of a line whose tabs become spaces. -/
theorem expandParts {parts : List StyledText} (h : ∀ part ∈ parts, part.IsStyledBy p)
    (column : Nat) : ∀ part ∈ expandParts column parts, part.IsStyledBy p := by
  induction parts generalizing column with
  | nil => exact fun _ hpart => absurd hpart List.not_mem_nil
  | cons part rest ih =>
    obtain ⟨hpart, hrest⟩ := List.forall_mem_cons.mp h
    unfold StyledText.expandParts
    split_ifs
    · exact List.forall_mem_cons.mpr ⟨(hpart.withChars _).prolong _, ih hrest _⟩
    · exact List.forall_mem_cons.mpr ⟨hpart, ih hrest _⟩

/-- Texts put behind each other. -/
theorem joinFrom {parts : List StyledText} (h : ∀ part ∈ parts, part.IsStyledBy p)
    (offset : Nat) : ∀ s ∈ (joinFrom offset parts).2, p s.style := by
  induction parts generalizing offset with
  | nil => exact fun _ hs => absurd hs List.not_mem_nil
  | cons part rest ih =>
    obtain ⟨hpart, hrest⟩ := List.forall_mem_cons.mp h
    intro s hs
    rcases List.mem_append.mp hs with hs | hs
    · obtain ⟨s', hs', rfl⟩ := List.mem_map.mp hs
      exact hpart.allSpans s' hs'
    · exact ih hrest _ s hs

/-- A line whose tabs become spaces. -/
theorem expandTabs (h : t.IsStyledBy p) : t.expandTabs.IsStyledBy p := by
  unfold StyledText.expandTabs
  split
  · exact h
  · refine ⟨h.base, joinFrom (expandParts ?_ 0) 0⟩
    exact fun part hpart => h.cutAt _ part (List.mem_filter.mp hpart).1

/-- A line without white space at its end. -/
theorem trimEnd (h : t.IsStyledBy p) : t.trimEnd.IsStyledBy p :=
  h.retype _

/-- A line cut to a width. -/
theorem truncate (h : t.IsStyledBy p) (width : Nat) (overflow : Overflow) :
    (t.truncate width overflow).IsStyledBy p := by
  unfold StyledText.truncate
  split_ifs
  · exact h
  · cases overflow with
    | fold => exact h.retype _
    | ellipsis => exact h.retype _

/-- A line placed in a width. -/
theorem align (h : t.IsStyledBy p) (width : Nat) (overflow : Overflow) (alignment : Alignment) :
    (t.align width overflow alignment).IsStyledBy p := by
  cases alignment with
  | natural => exact h
  | left => exact (h.truncate width overflow).pad _
  | center => exact ((h.trimEnd.truncate width overflow).indent _).pad _
  | right => exact (h.trimEnd.truncate width overflow).indent _

/-- **The lines of a text ask for no other styles than the text.** -/
theorem wrap (h : t.IsStyledBy p) (width : Nat) (overflow : Overflow) (alignment : Alignment) :
    ∀ line ∈ t.wrap width overflow alignment, line.IsStyledBy p := by
  intro line hline
  obtain ⟨unbroken, hunbroken, hline⟩ := List.mem_flatMap.mp hline
  obtain ⟨part, hpart, rfl⟩ := List.mem_map.mp hline
  have hunbroken := (h.splitLines unbroken hunbroken).expandTabs
  exact (((hunbroken.cutAt _ part hpart).retype _).align width overflow alignment).truncate
    width overflow

end IsStyledBy

end StyledText

/-- A text can be cut into segments if its styles are known. -/
theorem StyledText.IsStyledBy.exists_segments {t : StyledText} (h : t.IsStyledBy Theme.IsKnown) :
    ∃ segments, t.segments = .ok segments := by
  have hstyles : ∀ s ∈ t.allSpans,
      ∃ styled, ((Theme.styleOf s.style).map fun style => (s, style)) = .ok styled := by
    intro s hs
    obtain ⟨style, hstyle⟩ := h.allSpans s hs
    exact ⟨(s, style), by rw [hstyle]; rfl⟩
  obtain ⟨styles, hmap⟩ := Result.exists_mapM_eq_ok hstyles
  exact Result.exists_bind_eq_ok hmap ⟨_, rfl⟩

/-- The lines of a text can be cut into segments if the styles of the text are known. -/
theorem StyledText.IsStyledBy.exists_wrap {t : StyledText} (h : t.IsStyledBy Theme.IsKnown)
    (width : Nat) (overflow : Overflow) (alignment : Alignment) :
    ∃ lines, (t.wrap width overflow alignment).mapM
      (fun line => line.segments.mapError Markup.Error.number) = .ok lines :=
  Result.exists_mapM_eq_ok fun line hline =>
    Result.exists_mapError_eq_ok_iff.mpr
      (h.wrap width overflow alignment line hline).exists_segments

/-! ## Texts -/

/-- A marked-up text that can be read, and whose styles are known. -/
def Markup.CanBeShown (base s : List Char) : Prop :=
  ∃ t, Markup.read base s = .ok t ∧ t.IsStyledBy Theme.IsKnown

/-- What a text is read as tells whether it can be shown. -/
theorem Markup.canBeShown_of_read {base s : List Char} {t : StyledText}
    (h : read base s = .ok t) (hbase : '(' ∉ t.base) (hspans : ∀ span ∈ t.spans, '(' ∉ span.style) :
    CanBeShown base s :=
  ⟨t, h, fun _ => Theme.isKnown_of_not_mem hbase,
    fun span hspan => Theme.isKnown_of_not_mem (hspans span hspan)⟩

/-- A literal text can be shown. -/
theorem Markup.IsLiteral.canBeShown {base s : List Char} (h : IsLiteral s) (hbase : '(' ∉ base) :
    CanBeShown base s :=
  canBeShown_of_read (h.read_eq base) hbase fun _ hspan => absurd hspan List.not_mem_nil

/-- **A text that can be shown is shown on every screen.** -/
theorem Screen.exists_showMarkup (screen : Screen) {s : List Char}
    (h : Markup.CanBeShown [] s) : ∃ text, screen.showMarkup s = .ok text := by
  obtain ⟨t, hread, hstyles⟩ := h
  refine Result.exists_bind_eq_ok hread ?_
  dsimp only
  split_ifs
  · exact ⟨"", rfl⟩
  · have hshown : StyledText.IsStyledBy Theme.IsKnown
        { t with spans := highlights t.chars ++ t.spans } := by
      refine ⟨hstyles.base, fun span hspan => ?_⟩
      rcases List.mem_append.mp hspan with hspan | hspan
      · exact isKnown_highlights t.chars span hspan
      · exact hstyles.spans span hspan
    obtain ⟨lines, hlines⟩ := hshown.exists_wrap screen.width .fold .natural
    exact Result.exists_bind_eq_ok hlines ⟨_, rfl⟩

/-! ## Tables -/

namespace Table

/-- A table whose texts can be shown. -/
structure CanBeShown (t : Table) : Prop where
  /-- The title can. -/
  title : ∀ title ∈ t.title, Markup.CanBeShown titleStyle title
  /-- The headers can. -/
  headers : ∀ column ∈ t.columns, Markup.CanBeShown [] column.header
  /-- The cells can. -/
  cells : ∀ row ∈ t.rows, ∀ cell ∈ row, Markup.CanBeShown [] cell

variable {t : Table}

/-- The room that a text takes can be found. -/
theorem exists_cellWidth {cell : List Char} (h : Markup.CanBeShown [] cell) (room : Nat) :
    ∃ width, cellWidth room cell = .ok width := by
  obtain ⟨text, htext, -⟩ := h
  unfold cellWidth
  split_ifs
  · exact ⟨room, rfl⟩
  · exact Result.exists_map_eq_ok_iff.mpr ⟨text, htext⟩

/-- The room that a column takes can be found. -/
theorem CanBeShown.exists_columnWidth (h : t.CanBeShown) (room index : Nat) {column : Column}
    (hcolumn : column ∈ t.columns) : ∃ width, t.columnWidth room index column = .ok width := by
  unfold columnWidth
  split_ifs
  · exact ⟨0, rfl⟩
  cases column.width with
  | some width => exact ⟨_, rfl⟩
  | none =>
    obtain ⟨widths, hwidths⟩ := Result.exists_mapM_eq_ok (f := cellWidth room)
      (l := column.header :: t.rows.filterMap (·[index]?)) <| by
        refine List.forall_mem_cons.mpr ⟨exists_cellWidth (h.headers column hcolumn) room, ?_⟩
        intro cell hcell
        obtain ⟨row, hrow, hget⟩ := List.mem_filterMap.mp hcell
        exact exists_cellWidth (h.cells row hrow cell (List.mem_of_getElem? hget)) room
    exact Result.exists_bind_eq_ok hwidths ⟨_, rfl⟩

/-- The room that all columns take can be found. -/
theorem CanBeShown.exists_columnWidthsIn (h : t.CanBeShown) (rooms : List Nat) :
    ∃ widths, t.columnWidthsIn rooms = .ok widths := by
  refine Result.exists_mapM_eq_ok ?_
  rintro ⟨⟨column, room⟩, index⟩ hmem
  have hzip : (column, room) ∈ t.columns.zip rooms := List.fst_mem_of_mem_zipIdx hmem
  exact h.exists_columnWidth room index (List.of_mem_zip hzip).1

/-- The widths of the columns can be found. -/
theorem CanBeShown.exists_columnWidths (h : t.CanBeShown) (room : Nat) :
    ∃ widths, t.columnWidths room = .ok widths := by
  obtain ⟨wanted, hwanted⟩ := h.exists_columnWidthsIn (t.columns.map fun _ => room)
  unfold columnWidths
  rw [hwanted]
  dsimp only [bind, Except.bind]
  by_cases hfits : totalCells (wanted.map (max 1)) ≤ room
  · exact ⟨_, if_pos hfits⟩
  · rw [if_neg hfits]
    exact h.exists_columnWidthsIn _

/-- A cell can be put on lines. -/
theorem exists_cellLines {cell : List Char} (h : Markup.CanBeShown [] cell) (alignment : Alignment)
    (style : Style) (width : Nat) : ∃ lines, cellLines alignment style width cell = .ok lines := by
  obtain ⟨text, htext, hstyles⟩ := h
  unfold cellLines
  split_ifs
  · exact ⟨[], rfl⟩
  · obtain ⟨lines, hlines⟩ := hstyles.exists_wrap (width - margins) .ellipsis alignment
    exact Result.exists_bind_eq_ok htext (Result.exists_bind_eq_ok hlines ⟨_, rfl⟩)

/-- A row of cells can be put on lines. -/
theorem exists_rowLines (t : Table) {row : List (List Char)}
    (h : ∀ cell ∈ row, Markup.CanBeShown [] cell) (widths : List Nat) (isHeader : Bool) :
    ∃ lines, t.rowLines widths isHeader row = .ok lines := by
  have hcells : ∀ entry ∈ (t.columns.zip widths).zip row, ∃ lines,
      cellLines entry.1.1.alignment (if isHeader then Style.ofAttribute .bold else entry.1.1.style)
        entry.1.2 entry.2 = .ok lines := by
    rintro ⟨⟨column, width⟩, cell⟩ hmem
    exact exists_cellLines (h cell (List.of_mem_zip hmem).2) _ _ width
  obtain ⟨cells, hcells⟩ := Result.exists_mapM_eq_ok hcells
  exact Result.exists_bind_eq_ok hcells ⟨_, rfl⟩

/-- The title can be put on lines. -/
theorem CanBeShown.exists_titleLines (h : t.CanBeShown) (width : Nat) :
    ∃ lines, t.titleLines width = .ok lines := by
  unfold titleLines
  cases htitle : t.title with
  | none => exact ⟨[], rfl⟩
  | some title =>
    obtain ⟨text, htext, hstyles⟩ := h.title title htitle
    dsimp only
    rw [htext]
    exact hstyles.exists_wrap width .fold .center

/-- A table of texts that can be shown can be put on lines. -/
theorem CanBeShown.exists_lines (h : t.CanBeShown) (width : Nat) :
    ∃ lines, t.lines width = .ok lines := by
  obtain ⟨widths, hwidths⟩ := h.exists_columnWidths (width - t.borders)
  obtain ⟨title, htitle⟩ := h.exists_titleLines (totalCells widths + t.borders)
  obtain ⟨header, hheader⟩ := t.exists_rowLines (List.forall_mem_map.mpr h.headers) widths true
  obtain ⟨rows, hrows⟩ := Result.exists_mapM_eq_ok fun row hrow =>
    t.exists_rowLines (h.cells row hrow) widths false
  refine Result.exists_bind_eq_ok hwidths (Result.exists_bind_eq_ok htitle ?_)
  exact Result.exists_bind_eq_ok hheader (Result.exists_bind_eq_ok hrows ⟨_, rfl⟩)

end Table

/-- **A table of texts that can be shown is shown on every screen.** -/
theorem Screen.exists_showTable (screen : Screen) {t : Table} (h : t.CanBeShown) :
    ∃ text, screen.showTable t = .ok text := by
  unfold showTable
  split_ifs
  · exact ⟨"", rfl⟩
  · exact Result.exists_map_eq_ok_iff.mpr (h.exists_lines screen.width)

end LintDaemon.Terminal
