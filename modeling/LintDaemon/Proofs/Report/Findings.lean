import LintDaemon.Proofs.Report.Blocks
import LintDaemon.Proofs.SourceUnit
import LintDaemon.Proofs.Text.Lines

/-!
# Findings as they are printed

What the compiler prints of its findings, and what it takes that the reader of a report gets them
back.

* `Finding`, `Finding.printed`, `print`: a finding as the compiler prints it, with the line of the
  source that it echoes, and a whole report.
* `Finding.opens_header`, `Finding.isPlain_caretLine`, `Finding.isPlain_detail`: what the reader
  makes of the lines that are not the user's.
* `blocksOf_reportLines`: if no line under a header opens anything, there is one block for each
  finding.
* `Finding.IsRecovered`, `read_print_eq_iff`: a report is read back as its findings iff no line
  under a header opens anything, and the lines up to the next summary make up the finding.
-/

namespace LintDaemon.Report

open LintDaemon.Text

/-! ## What the compiler prints -/

/-- A text on one line, without white space at its end. -/
structure IsTrimmedLine (s : List Char) : Prop where
  /-- No character ends a line. -/
  unbroken : IsUnbroken s
  /-- The last character is no white space. -/
  trimmed : ∀ c ∈ s.getLast?, isBlank c = false

/-- Whether a text is a trimmed line can be computed. -/
instance (s : List Char) : Decidable (IsTrimmedLine s) :=
  decidable_of_iff (IsUnbroken s ∧ s.getLast?.all (!isBlank ·) = true)
    ⟨fun h => ⟨h.1, by simpa [Option.all_eq_true] using h.2⟩,
      fun h => ⟨h.unbroken, by simpa [Option.all_eq_true] using h.trimmed⟩⟩

/-- A line of details. -/
structure IsDetail (s : List Char) : Prop extends IsTrimmedLine s where
  /-- It is indented. -/
  indented : ∃ c ∈ s.head?, isBlank c = true

/-- A finding of the compiler, and what it prints of it. -/
structure Finding where
  /-- The parts of the path of the unit. -/
  parts : List (List Char)
  /-- The path is that of a unit. -/
  isPath : ∃ name, pathParts? name = some parts
  /-- The number of the line. -/
  number : Nat
  /-- Whether it is a warning; else it is an error. -/
  warns : Bool
  /-- The message. -/
  message : List Char
  /-- The message is one line. -/
  isMessage : IsTrimmedLine message
  /-- The line of the source. -/
  echo : List Char
  /-- It is one line of the source. -/
  isEcho : IsOneLine echo
  /-- What stands before the caret. -/
  margin : List Char
  /-- Only white space stands before the caret. -/
  isMargin : ∀ c ∈ margin, isBlank c = true
  /-- No line ends there. -/
  isUnbroken : IsUnbroken margin
  /-- The lines behind the caret. -/
  details : List (List Char)
  /-- They are details. -/
  areDetails : ∀ d ∈ details, IsDetail d

namespace Finding

/-- How severe a finding is. -/
def severity (f : Finding) : Severity :=
  if f.warns then .warning else .error

/-- The label of its severity. -/
def label (f : Finding) : List Char :=
  if f.warns then "warning: ".toList else "error: ".toList

/-- The digits of its line number. -/
def digits (f : Finding) : List Char :=
  Nat.toDigits 10 f.number

/-- The line with its place and message. -/
def header (f : Finding) : List Char :=
  join ['/'] f.parts ++ ':' :: (f.digits ++ (": ".toList ++ (f.label ++ f.message)))

/-- The line that points at its column. -/
def caretLine (f : Finding) : List Char :=
  f.margin ++ ['^']

/-- The lines that are printed of a finding. -/
def printed (f : Finding) : List (List Char) :=
  f.header :: f.echo :: f.caretLine :: f.details

/-- The diagnostic that the compiler means by them. -/
def diagnostic (f : Finding) : Diagnostic where
  message := String.ofList (join ['\n'] (f.message :: f.details))
  line := some f.number
  column := some (f.margin.length + 1 : Nat)
  severity := f.severity

end Finding

/-- A number of errors or warnings at the end of a report. -/
structure Count where
  /-- The number. -/
  number : Nat
  /-- Whether warnings are counted; else errors are. -/
  warns : Bool

/-- The line that is printed of a count. -/
def Count.printed (c : Count) : List Char :=
  Nat.toDigits 10 c.number ++
    match c.warns, decide (c.number = 1) with
    | false, true => " error".toList
    | false, false => " errors".toList
    | true, true => " warning".toList
    | true, false => " warnings".toList

/-- Lines put together, each ended by a line feed. -/
def printLines (ls : List (List Char)) : List Char :=
  ls.flatMap (· ++ ['\n'])

/-- What the compiler prints of findings, with counts of them behind. -/
def print (fs : List Finding) (counts : List Count) : List Char :=
  printLines (fs.flatMap Finding.printed ++ counts.map Count.printed)

/-! ## Numbers and marks in lines -/

/-- A number as it is printed. -/
theorem isNumber_toDigits (n : Nat) : IsNumber (Nat.toDigits 10 n) := by
  refine ⟨Nat.toDigits_ne_nil, fun c hc => ?_⟩
  have hdigit := Nat.isDigit_of_mem_toDigits (by decide) (by decide) hc
  unfold isDecimalDigit
  rw [(decimalValue?_of_isDigit hdigit).1]
  rfl

/-- A number that is printed has its value. -/
theorem numberOf_toDigits (n : Nat) : numberOf (Nat.toDigits 10 n) = n := by
  have hascii : (Nat.toDigits 10 n).map Numeral.asciiDigit = Nat.toDigits 10 n := by
    refine (List.map_congr_left fun c hc => ?_).trans (List.map_id _)
    have hdigit := Nat.isDigit_of_mem_toDigits (by decide) (by decide) hc
    obtain ⟨hvalue, hchar⟩ := decimalValue?_of_isDigit hdigit
    unfold Numeral.asciiDigit
    rw [hvalue]
    exact hchar
  rw [numberOf_eq (isNumber_toDigits n).decimal, hascii]
  exact Nat.ofDigitChars_toDigits (by decide) (by decide)

/-- What ends a line is white space. -/
theorem isBlank_of_isLineBreak {c : Char} (h : isLineBreak c = true) : isBlank c = true := by
  simp only [isLineBreak, isBlank, Bool.or_eq_true, Bool.and_eq_true, decide_eq_true_eq,
    beq_iff_eq] at h ⊢
  omega

/-- A digit ends no line. -/
theorem isLineBreak_of_isDecimalDigit {c : Char} (h : isDecimalDigit c = true) :
    isLineBreak c = false := by
  rw [← Bool.not_eq_true]
  intro hbreak
  rw [isDecimalDigit_of_isBlank (isBlank_of_isLineBreak hbreak)] at h
  cases h

/-- A character of a name ends no line. -/
theorem isLineBreak_of_isNamePart {c : Char} (h : isNamePart c = true) : isLineBreak c = false := by
  have hbreaks : ∀ n ∈ [10, 11, 12, 13, 28, 29, 30, 0x85, 0x2028, 0x2029],
      isNamePart (Char.ofNat n) = false := by decide +kernel
  rw [← Bool.not_eq_true]
  intro hbreak
  have hmem : c.toNat ∈ [10, 11, 12, 13, 28, 29, 30, 0x85, 0x2028, 0x2029] := by
    simp only [isLineBreak, Bool.or_eq_true, Bool.and_eq_true, decide_eq_true_eq,
      beq_iff_eq] at hbreak
    simp only [List.mem_cons, List.not_mem_nil, or_false]
    omega
  have hname := hbreaks _ hmem
  rw [Char.ofNat_toNat, h] at hname
  cases hname

/-- A line that opens something has a colon. -/
theorem Opens.colon_mem {s : List Char} {o : Opener} (h : Opens s o) : ':' ∈ s := by
  cases h with
  | located h =>
    obtain ⟨⟨-, tail, rfl, -, label, -, rfl⟩, -⟩ := h
    simp
  | note hunplaced h =>
    subst h
    simp
  | general hunplaced hnote h => cases h <;> simp

/-- A line without a place that opens something begins with a letter. -/
theorem Opens.exists_letter {s : List Char} {o : Opener} (h : Opens s o) (hunplaced : Unplaced s) :
    ∃ c ∈ s.head?, isBlank c = false := by
  cases h with
  | located h => exact absurd h.places (hunplaced _ _ _ _)
  | note _ h =>
    subst h
    exact ⟨'N', rfl, rfl⟩
  | general _ _ h =>
    cases h
    · exact ⟨'e', rfl, rfl⟩
    · exact ⟨'w', rfl, rfl⟩

/-- A summary begins with a digit, and has neither a colon nor a caret. -/
theorem IsSummary.exists_digit {s : List Char} (h : IsSummary s) :
    (∃ c ∈ s.head?, isDecimalDigit c = true) ∧ ':' ∉ s ∧ '^' ∉ s := by
  obtain ⟨digits, words, ⟨hne, hdecimal⟩, hmem, rfl⟩ := h
  have hwords : ∀ w ∈ summaryWords, ':' ∉ w ∧ '^' ∉ w := by decide
  have hmark : ∀ c, isDecimalDigit c = false → c ∉ digits := by
    intro c hc hin
    rw [hdecimal c hin] at hc
    cases hc
  refine ⟨?_, ?_, ?_⟩
  · cases digits with
    | nil => exact absurd rfl hne
    | cons d ds => exact ⟨d, rfl, hdecimal d List.mem_cons_self⟩
  · exact fun hin => (List.mem_append.mp hin).elim (hmark _ (by decide)) (hwords _ hmem).1
  · exact fun hin => (List.mem_append.mp hin).elim (hmark _ (by decide)) (hwords _ hmem).2

/-- Whether a line has a place can be computed. -/
instance (s : List Char) : Decidable (Unplaced s) :=
  decidable_of_iff (located? s = none) located?_eq_none_iff

/-- A line that the reader of openers passes over has no place. -/
theorem unplaced_of_opener?_eq_none {s : List Char} (h : opener? s = none) : Unplaced s := by
  refine located?_eq_none_iff.mp ?_
  unfold opener? at h
  cases hlocated : located? s with
  | none => rfl
  | some o =>
    rw [hlocated] at h
    cases h

/-! ## The lines of a finding -/

/-- Lines without a line boundary are cut into themselves. -/
theorem flatMap_lines_of_unbroken {ls : List (List Char)}
    (h : ∀ l ∈ ls, IsUnbroken l) :
    (ls.flatMap fun l => lines (l ++ ['\n'])) = ls := by
  induction ls with
  | nil => rfl
  | cons l ls ih =>
    rw [List.flatMap_cons, lines_of_unbroken (h l List.mem_cons_self),
      ih fun l' hl' => h l' (List.mem_cons_of_mem l hl')]
    rfl

/-- The first occurrence of a mark comes no later than any other. -/
theorem length_le_of_append_eq {mark : Char} {a b s t : List Char} (ha : mark ∉ a)
    (h : a ++ mark :: s = b ++ mark :: t) : a.length ≤ b.length := by
  induction a generalizing b with
  | nil => exact Nat.zero_le _
  | cons c a ih =>
    cases b with
    | nil => exact absurd ((List.cons.inj h).1 ▸ List.mem_cons_self) ha
    | cons d b =>
      exact Nat.succ_le_succ (ih (fun hin => ha (List.mem_cons_of_mem c hin)) (List.cons.inj h).2)

namespace Finding

variable (f : Finding)

/-- The opener that the header of a finding is. -/
def opener : Opener :=
  .located f.digits f.severity f.message

/-- The label is that of the severity. -/
theorem labelled_message : Labelled (f.label ++ f.message) f.severity f.message := by
  unfold label severity
  cases f.warns with
  | false => exact .error f.message
  | true => exact .warning f.message

/-- The header opens the finding: no shorter path has a colon behind it. -/
theorem opens_header : Opens f.header f.opener := by
  obtain ⟨name, hname⟩ := f.isPath
  obtain ⟨stem, hne, hchars, hjoin⟩ := exists_stem_of_pathParts? hname
  have hcolon : ':' ∉ stem ++ sourceSuffix := by
    intro hin
    rcases List.mem_append.mp hin with hin | hin
    · exact absurd (hchars _ hin) (by decide)
    · exact absurd hin (by decide)
  have hheader : f.header =
      (stem ++ sourceSuffix) ++ ':' :: (f.digits ++ (": ".toList ++ (f.label ++ f.message))) := by
    unfold header
    rw [hjoin]
  have htail : IsTail (".java:".toList ++ (f.digits ++ (": ".toList ++ (f.label ++ f.message))))
      f.digits f.severity f.message :=
    ⟨isNumber_toDigits _, _, f.labelled_message, rfl⟩
  refine .located ⟨⟨hne, _, ?_, htail⟩, ?_⟩
  · rw [hheader]
    simp [sourceSuffix]
  · rintro path' digits' severity' message' ⟨-, tail, htail, -, label', -, rfl⟩
    have hsame : (stem ++ sourceSuffix) ++
          ':' :: (f.digits ++ (": ".toList ++ (f.label ++ f.message))) =
        (path' ++ sourceSuffix) ++ ':' :: (digits' ++ (": ".toList ++ label')) := by
      rw [← hheader, htail]
      simp [sourceSuffix]
    have hlength := length_le_of_append_eq hcolon hsame
    simp only [List.length_append] at hlength
    omega

/-- The header is one line. -/
theorem unbroken_header : IsUnbroken f.header := by
  obtain ⟨name, hname⟩ := f.isPath
  obtain ⟨stem, -, hchars, hjoin⟩ := exists_stem_of_pathParts? hname
  have hstem : IsUnbroken stem := by
    intro c hc
    rcases hchars c hc with rfl | hpart
    · rfl
    · exact isLineBreak_of_isNamePart hpart
  have hsuffix : IsUnbroken sourceSuffix := by decide
  have hdigits : IsUnbroken f.digits := fun c hc =>
    isLineBreak_of_isDecimalDigit ((isNumber_toDigits f.number).decimal c hc)
  have hlabel : IsUnbroken f.label := by
    unfold label
    cases f.warns <;> decide
  have hbefore : IsUnbroken ":".toList := by decide
  have hbehind : IsUnbroken ": ".toList := by decide
  unfold header
  rw [hjoin]
  exact (hstem.append hsuffix).append (hbefore.append
    (hdigits.append (hbehind.append (hlabel.append f.isMessage.unbroken))))

/-- The caret line is one line. -/
theorem unbroken_caretLine : IsUnbroken f.caretLine := by
  have hcaret : IsUnbroken ['^'] := by decide
  exact f.isUnbroken.append hcaret

/-- The caret line is one, and its caret stands behind the margin. -/
theorem isCaretLine_caretLine :
    isCaretLine f.caretLine = true ∧ f.caretLine.idxOf '^' = f.margin.length := by
  have hmargin : f.margin.filter (fun c => !isBlank c) = [] :=
    List.filter_eq_nil_iff.mpr fun c hc => by simp [f.isMargin c hc]
  have hcaret : '^' ∉ f.margin := fun hin => absurd (f.isMargin _ hin) (by decide)
  constructor
  · unfold isCaretLine caretLine
    rw [List.filter_append, hmargin]
    rfl
  · unfold caretLine
    rw [List.idxOf_append, if_neg hcaret]
    exact Nat.zero_add _

/-- The caret line opens nothing and is no summary. -/
theorem isPlain_caretLine : IsPlain f.caretLine := by
  constructor
  · intro o h
    rcases List.mem_append.mp h.colon_mem with hin | hin
    · exact absurd (f.isMargin _ hin) (by decide)
    · exact absurd hin (by decide)
  · intro h
    exact h.exists_digit.2.2 (List.mem_append_right _ List.mem_cons_self)

/-- A detail opens something only if it has a place, and is no summary. -/
theorem isPlain_detail {d : List Char} (hd : IsDetail d) (hunplaced : Unplaced d) : IsPlain d := by
  obtain ⟨c, hc, hblank⟩ := hd.indented
  constructor
  · intro o h
    obtain ⟨c', hc', hblank'⟩ := h.exists_letter hunplaced
    rw [Option.mem_unique hc hc', hblank'] at hblank
    cases hblank
  · intro h
    obtain ⟨⟨c', hc', hdigit⟩, -⟩ := h.exists_digit
    rw [← Option.mem_unique hc hc', isDecimalDigit_of_isBlank hblank] at hdigit
    cases hdigit

/-- The lines behind the header, as the reader of the report cuts them. -/
def behind : List (List Char) :=
  lines (f.echo ++ ['\n']) ++ f.caretLine :: f.details

/-- What is printed of a finding, cut into lines again. -/
theorem lines_printed :
    f.printed.flatMap (fun l => lines (l ++ ['\n'])) = f.header :: f.behind := by
  have hdetails := flatMap_lines_of_unbroken fun d hd => (f.areDetails d hd).unbroken
  unfold printed behind
  simp only [List.flatMap_cons]
  rw [lines_of_unbroken f.unbroken_header, lines_of_unbroken f.unbroken_caretLine, hdetails]
  rfl

end Finding

/-! ## The lines of a report -/

/-- The line of a count is a summary. -/
theorem Count.isSummary_printed (c : Count) : IsSummary c.printed := by
  refine ⟨_, _, isNumber_toDigits c.number, ?_, rfl⟩
  split <;> decide

/-- The line of a count is one line. -/
theorem Count.unbroken_printed (c : Count) : IsUnbroken c.printed := by
  obtain ⟨digits, words, ⟨-, hdecimal⟩, hmem, hprinted⟩ := c.isSummary_printed
  have hdigits : IsUnbroken digits := fun d hd => isLineBreak_of_isDecimalDigit (hdecimal d hd)
  have hwords : ∀ w ∈ summaryWords, IsUnbroken w := by decide
  rw [hprinted]
  exact hdigits.append (hwords words hmem)

/-- Lines put together are cut again one by one. -/
theorem lines_printLines (ls : List (List Char)) :
    lines (printLines ls) = ls.flatMap fun l => lines (l ++ ['\n']) := by
  induction ls with
  | nil => rfl
  | cons l ls ih =>
    unfold printLines at ih ⊢
    rw [List.flatMap_cons, List.flatMap_cons, List.append_assoc, List.singleton_append,
      lines_newline, ih]

/-- The lines of a report. -/
def reportLines (fs : List Finding) (counts : List Count) : List (List Char) :=
  (fs.flatMap fun f => f.header :: f.behind) ++ counts.map Count.printed

/-- The lines of what the compiler prints. -/
theorem lines_print (fs : List Finding) (counts : List Count) :
    lines (print fs counts) = reportLines fs counts := by
  have hcounts : (counts.map Count.printed).flatMap (fun l => lines (l ++ ['\n'])) =
      counts.map Count.printed := by
    refine flatMap_lines_of_unbroken fun l hl => ?_
    obtain ⟨c, -, rfl⟩ := List.mem_map.mp hl
    exact c.unbroken_printed
  unfold print reportLines
  rw [lines_printLines, List.flatMap_append, List.flatMap_assoc, hcounts]
  simp only [Finding.lines_printed]

/-- No line of a count is an opener. -/
theorem Count.opener?_printed (c : Count) : opener? c.printed = none :=
  opener?_eq_none_iff.mpr fun _ h => c.isSummary_printed.exists_digit.2.1 h.colon_mem

/-- The openers of a report are the headers, and what lines behind them open. -/
theorem filterMap_opener?_reportLines (fs : List Finding) (counts : List Count) :
    (reportLines fs counts).filterMap opener? =
      fs.flatMap fun f => f.opener :: f.behind.filterMap opener? := by
  have hcounts : (counts.map Count.printed).filterMap opener? = [] := by
    rw [List.filterMap_eq_nil_iff]
    intro l hl
    obtain ⟨c, -, rfl⟩ := List.mem_map.mp hl
    exact c.opener?_printed
  have hheader : ∀ f : Finding, (f.header :: f.behind).filterMap opener? =
      f.opener :: f.behind.filterMap opener? := fun f =>
    List.filterMap_cons_some (opener?_eq_some_iff.mpr f.opens_header)
  unfold reportLines
  rw [List.filterMap_append, hcounts, List.append_nil, List.filterMap_flatMap]
  simp only [hheader]

/-- If there are no more openers than findings, the lines behind the headers open nothing. -/
theorem opener?_behind_of_length {fs : List Finding}
    (h : (fs.flatMap fun f => f.opener :: f.behind.filterMap opener?).length ≤ fs.length) :
    ∀ f ∈ fs, ∀ s ∈ f.behind, opener? s = none := by
  induction fs with
  | nil => nofun
  | cons f fs ih =>
    have hmore : ∀ fs : List Finding,
        fs.length ≤ (fs.flatMap fun f => f.opener :: f.behind.filterMap opener?).length := by
      intro fs
      induction fs with
      | nil => exact Nat.zero_le _
      | cons f fs ih =>
        simp only [List.flatMap_cons, List.length_append, List.length_cons]
        omega
    have hrest := hmore fs
    simp only [List.flatMap_cons, List.length_append, List.length_cons] at h
    intro g hg
    rcases List.mem_cons.mp hg with rfl | hg
    · have hnil : g.behind.filterMap opener? = [] := List.length_eq_zero_iff.mp (by omega)
      exact List.filterMap_eq_nil_iff.mp hnil
    · exact ih (by omega) g hg

/-- A report goes on with nothing before its first header. -/
theorem takeWhile_goesOn_reportLines (fs : List Finding) (counts : List Count) :
    (reportLines fs counts).takeWhile goesOn = [] := by
  have hstop : ∀ (s : List Char) (rest : List (List Char)), ¬ IsPlain s →
      (s :: rest).takeWhile goesOn = [] := fun s rest hs =>
    List.takeWhile_cons_of_neg fun hgoes => hs (goesOn_iff.mp hgoes)
  cases fs with
  | cons f fs => exact hstop _ _ fun h => h.1 _ f.opens_header
  | nil =>
    cases counts with
    | nil => rfl
    | cons c counts => exact hstop _ _ fun h => h.2 c.isSummary_printed

/-- The block of a finding: its header, and the lines up to the next summary. -/
def Finding.block (f : Finding) : Block :=
  ⟨f.opener, f.behind.takeWhile goesOn⟩

/-- If the lines behind the headers open nothing, a report has the blocks of its findings. -/
theorem blocksOf_reportLines {fs : List Finding} (counts : List Count)
    (h : ∀ f ∈ fs, ∀ s ∈ f.behind, opener? s = none) :
    blocksOf (reportLines fs counts) = fs.map Finding.block := by
  induction fs with
  | nil =>
    have hcounts : ∀ s ∈ counts.map Count.printed, opener? s = none := by
      intro s hs
      obtain ⟨c, -, rfl⟩ := List.mem_map.mp hs
      exact c.opener?_printed
    have hempty := blocksOf_append_of_opener? hcounts []
    rw [List.append_nil] at hempty
    exact hempty
  | cons f fs ih =>
    have hrest := ih fun g hg => h g (List.mem_cons_of_mem f hg)
    have hcons : reportLines (f :: fs) counts =
        f.header :: (f.behind ++ reportLines fs counts) := by
      simp [reportLines]
    have hstop : (f.behind ++ reportLines fs counts).takeWhile goesOn =
        f.behind.takeWhile goesOn := by
      rw [List.takeWhile_append, takeWhile_goesOn_reportLines, List.append_nil]
      split_ifs with hall
      · exact ((List.takeWhile_prefix _).eq_of_length hall).symm
      · rfl
    rw [hcons, blocksOf, opener?_eq_some_iff.mpr f.opens_header]
    dsimp only
    rw [hstop, blocksOf_append_of_opener? (h f List.mem_cons_self), hrest]
    rfl

/-! ## Reading a report -/

/-- What it takes that a finding is read back. -/
structure Finding.IsRecovered (f : Finding) : Prop where
  /-- Its line number is not too long. -/
  numbered : f.digits.length ≤ Numeral.maxDigits
  /-- No line behind its header opens anything. -/
  opens_nothing : ∀ s ∈ f.behind, ∀ o, ¬ Opens s o
  /-- The lines up to the next summary make up its diagnostic. -/
  diagnostic_block : f.block.diagnostic = f.diagnostic

/-- A report is read back as its findings iff each of them is. -/
theorem read_print_eq_iff (fs : List Finding) (counts : List Count) :
    (readChars (print fs counts)).result = .ok (fs.map Finding.diagnostic) ↔
      ∀ f ∈ fs, f.IsRecovered := by
  have hnone : (∀ f ∈ fs, ∀ s ∈ f.behind, opener? s = none) ↔
      ∀ f ∈ fs, ∀ s ∈ f.behind, ∀ o, ¬ Opens s o := by
    simp only [opener?_eq_none_iff]
  unfold readChars
  rw [lines_print, readLines_none_eq_ok_iff]
  constructor
  · rintro ⟨hdigits, hread⟩
    have hlength : (fs.flatMap fun f => f.opener :: f.behind.filterMap opener?).length ≤
        fs.length := by
      have hopeners := congrArg List.length (map_opener_blocksOf (reportLines fs counts))
      have hblocks := congrArg List.length hread
      rw [filterMap_opener?_reportLines, List.length_map] at hopeners
      rw [List.length_map, List.length_map] at hblocks
      omega
    have hopens := opener?_behind_of_length hlength
    rw [blocksOf_reportLines counts hopens, List.map_map] at hread
    intro f hf
    have hheader : f.header ∈ reportLines fs counts :=
      List.mem_append_left _ (List.mem_flatMap.mpr ⟨f, hf, List.mem_cons_self⟩)
    exact ⟨hdigits _ hheader _ _ _ f.opens_header, hnone.mp hopens f hf,
      List.map_inj_left.mp hread f hf⟩
  · intro h
    have hopens := hnone.mpr fun f hf => (h f hf).opens_nothing
    constructor
    · intro s hs digits severity message hplaced
      have hopener := opener?_eq_some_iff.mpr hplaced
      rcases List.mem_append.mp hs with hs | hs
      · obtain ⟨f, hf, hs⟩ := List.mem_flatMap.mp hs
        rcases List.mem_cons.mp hs with rfl | hs
        · rw [opener?_eq_some_iff.mpr f.opens_header, Option.some.injEq] at hopener
          cases hopener
          exact (h f hf).numbered
        · rw [hopens f hf s hs] at hopener
          cases hopener
      · obtain ⟨c, -, rfl⟩ := List.mem_map.mp hs
        rw [c.opener?_printed] at hopener
        cases hopener
    · rw [blocksOf_reportLines counts hopens, List.map_map]
      exact List.map_inj_left.mpr fun f hf => (h f hf).diagnostic_block

end LintDaemon.Report
