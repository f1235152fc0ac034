import LintDaemon.Proofs.Protocol.ReplyLines
import LintDaemon.Proofs.Report.Findings
import LintDaemon.Proofs.Results
import Mathlib.Data.List.DropRight

/-!
# Reports on the wire

What every diagnostic of a report has in common, and that this is enough to tell reports apart by
the reply lines that are written for them. A place that is not known is written as -1, which no
place of a report is.

* `Diagnostic.IsReported`: diagnostics as reports give them.
* `Pending.IsSound`: what a pending diagnostic holds at every moment; the invariant that carries
  the reader through the lines.
* `Pending.IsSound.feed`, `isReported_of_readLines`: one more line keeps it, and so do all.
* `Json.writeInt_injective`, `Reply.position_eq_iff`: numbers are told apart by their digits.
* `diagnosticsLine_unambiguous`: reports with the same reply line have the same diagnostics.
-/

namespace LintDaemon

open LintDaemon.Text

/-- A diagnostic as a report gives it. -/
structure Diagnostic.IsReported (d : Diagnostic) : Prop where
  /-- Its line, if it has one, is no negative number. -/
  line_nonneg : ∀ n ∈ d.line, 0 ≤ n
  /-- Columns count from 1. -/
  column_pos : ∀ n ∈ d.column, 1 ≤ n
  /-- There is no column without a line. -/
  column_eq_none : d.line = none → d.column = none
  /-- A note has no place. -/
  note_unplaced : d.severity = .note → d.line = none ∧ d.column = none
  /-- It is an error, a warning or a note. -/
  severity_ne_other : d.severity ≠ .other
  /-- Its message does not end in white space. -/
  trimmed : ∀ c ∈ d.message.toList.getLast?, isBlank c = false
  /-- The lines of its message end at line feeds only. -/
  line_feeds : ∀ c ∈ d.message.toList, isLineBreak c = true → c = '\n'

namespace Report

variable {s : List Char} {o : Opener} {p : Pending}

/-! ## Pending diagnostics -/

/-- What a pending diagnostic holds at every moment. -/
structure Pending.IsSound (p : Pending) : Prop where
  /-- Columns count from 1. -/
  column_pos : ∀ n ∈ p.column, 1 ≤ n
  /-- There is no column without a line. -/
  column_eq_none : p.line = none → p.column = none
  /-- A note has no line. -/
  line_eq_none : p.severity = .note → p.line = none
  /-- It is an error, a warning or a note. -/
  severity_ne_other : p.severity ≠ .other
  /-- Its lines are lines. -/
  unbroken : ∀ t ∈ p.message ++ p.context, IsUnbroken t

/-- A label names an error or a warning. -/
theorem Labelled.severity_eq {severity : Severity} {message : List Char}
    (h : Labelled s severity message) : severity = .error ∨ severity = .warning := by
  cases h with
  | error message => exact Or.inl rfl
  | warning message => exact Or.inr rfl

/-- The message of a label ends the line. -/
theorem Labelled.isSuffix {severity : Severity} {message : List Char}
    (h : Labelled s severity message) : message <:+ s := by
  cases h with
  | error message => exact List.suffix_append _ message
  | warning message => exact List.suffix_append _ message

/-- The message of an opener ends its line. -/
theorem Opens.isSuffix (h : Opens s o) : o.message <:+ s := by
  cases h with
  | located h =>
    obtain ⟨⟨-, tail, rfl, -, label, hlabel, rfl⟩, -⟩ := h
    refine hlabel.isSuffix.trans ?_
    simp only [← List.append_assoc]
    exact List.suffix_append _ label
  | note hunplaced h =>
    rw [h]
    exact List.suffix_append _ _
  | general hunplaced hnote h => exact h.isSuffix

/-- A pending diagnostic that an opener begins is sound. -/
theorem Opens.isSound_of_begin (h : Opens s o) (hs : IsUnbroken s) (hbegin : o.begin = .ok p) :
    p.IsSound := by
  have hmessage : ∀ t ∈ [o.message] ++ [], IsUnbroken t := by
    intro t ht
    rw [List.append_nil, List.mem_singleton] at ht
    rw [ht]
    exact fun c hc => hs c (h.isSuffix.subset hc)
  cases h with
  | @located path digits severity message h =>
    obtain ⟨⟨-, tail, -, -, label, hlabel, -⟩, -⟩ := h
    unfold Opener.begin at hbegin
    dsimp only at hbegin
    split_ifs at hbegin
    cases hbegin
    rcases hlabel.severity_eq with rfl | rfl <;> exact ⟨nofun, nofun, nofun, nofun, hmessage⟩
  | note hunplaced h =>
    cases hbegin
    exact ⟨nofun, fun _ => rfl, fun _ => rfl, nofun, hmessage⟩
  | general hunplaced hnote h =>
    cases hbegin
    rcases h.severity_eq with rfl | rfl <;>
      exact ⟨nofun, fun _ => rfl, fun _ => rfl, nofun, hmessage⟩

/-- One more line keeps a pending diagnostic sound. -/
theorem Pending.IsSound.feed (h : p.IsSound) (hs : IsUnbroken s) : (p.feed s).IsSound := by
  have hlines : ∀ t ∈ p.message ++ p.context ++ [s], IsUnbroken t := by
    intro t ht
    rcases List.mem_append.mp ht with ht | ht
    · exact h.unbroken t ht
    · rw [List.mem_singleton.mp ht]
      exact hs
  unfold Pending.feed
  split
  · -- the caret: it gives a column, and the line above it is dropped
    next line column hline hcolumn hcaret =>
    refine ⟨?_, fun hnone => ?_, h.line_eq_none, h.severity_ne_other, fun t ht => ?_⟩
    · rw [caretColumn?_eq] at hcaret
      split_ifs at hcaret
      rintro n ⟨⟩
      cases hcaret
      exact Nat.le_add_left 1 _
    · rw [hline] at hnone
      cases hnone
    · refine h.unbroken t ?_
      rw [List.append_nil] at ht
      rcases List.mem_append.mp ht with ht | ht
      · exact List.mem_append_left _ ht
      · exact List.mem_append_right _ (List.dropLast_subset _ ht)
  · refine ⟨h.column_pos, h.column_eq_none, h.line_eq_none, h.severity_ne_other, fun t ht => ?_⟩
    refine hlines t ?_
    simp only [List.mem_append] at ht ⊢
    tauto
  · refine ⟨h.column_pos, h.column_eq_none, h.line_eq_none, h.severity_ne_other, fun t ht => ?_⟩
    refine hlines t ?_
    rw [← List.append_assoc] at ht
    exact ht

/-- A text that is trimmed does not end in white space. -/
theorem isBlank_of_mem_getLast?_trimEnd (s : List Char) :
    ∀ c ∈ (trimEnd s).getLast?, isBlank c = false := by
  intro c hc
  obtain ⟨hne, rfl⟩ := List.mem_getLast?_eq_getLast hc
  exact Bool.eq_false_iff.mpr (List.rdropWhile_last_not isBlank s hne)

/-- Sound pending diagnostics make diagnostics of reports. -/
theorem Pending.IsSound.isReported_build (h : p.IsSound) : p.build.IsReported where
  line_nonneg := by
    intro n hn
    obtain ⟨line, -, rfl⟩ := Option.map_eq_some_iff.mp hn
    exact Int.natCast_nonneg line
  column_pos := by
    intro n hn
    obtain ⟨column, hcolumn, rfl⟩ := Option.map_eq_some_iff.mp hn
    exact Int.ofNat_le.mpr (h.column_pos column hcolumn)
  column_eq_none := by
    intro hline
    exact Option.map_eq_none_iff.mpr (h.column_eq_none (Option.map_eq_none_iff.mp hline))
  note_unplaced := by
    intro hnote
    have hline := h.line_eq_none hnote
    exact ⟨Option.map_eq_none_iff.mpr hline, Option.map_eq_none_iff.mpr (h.column_eq_none hline)⟩
  severity_ne_other := h.severity_ne_other
  trimmed := by
    unfold Pending.build
    rw [String.toList_ofList]
    exact isBlank_of_mem_getLast?_trimEnd _
  line_feeds := by
    unfold Pending.build
    rw [String.toList_ofList]
    intro c hc hbreak
    have hshorter := List.rdropWhile_prefix isBlank (join ['\n'] (p.message ++ p.context))
    rcases mem_or_exists_mem_of_mem_join (hshorter.subset hc) with hfeed | ⟨t, ht, hct⟩
    · exact List.mem_singleton.mp hfeed
    · rw [h.unbroken t ht c hct] at hbreak
      cases hbreak

/-! ## Reading on -/

/-- A pending diagnostic comes before those of the lines behind it. -/
theorem isReported_of_after {pending : Option Pending} {outcome : Outcome} {ds : List Diagnostic}
    (hpending : ∀ p ∈ pending, p.IsSound)
    (hrest : ∀ ds, outcome.result = .ok ds → ∀ d ∈ ds, d.IsReported)
    (h : (outcome.after pending).result = .ok ds) : ∀ d ∈ ds, d.IsReported := by
  cases pending with
  | none => exact hrest ds h
  | some p =>
    obtain ⟨more, hmore, rfl⟩ := Result.map_eq_ok_iff.mp h
    exact List.forall_mem_cons.mpr ⟨(hpending p rfl).isReported_build, hrest more hmore⟩

/-- Lines read behind a sound pending diagnostic give diagnostics of reports. -/
theorem isReported_of_readLines {pending : Option Pending} {ls : List (List Char)}
    {ds : List Diagnostic} (hpending : ∀ p ∈ pending, p.IsSound) (hls : ∀ t ∈ ls, IsUnbroken t)
    (h : (readLines pending ls).result = .ok ds) : ∀ d ∈ ds, d.IsReported := by
  induction ls generalizing pending ds with
  | nil =>
    refine isReported_of_after hpending ?_ h
    rintro _ ⟨⟩
    exact List.forall_mem_nil _
  | cons s rest ih =>
    obtain ⟨hs, hrest⟩ := List.forall_mem_cons.mp hls
    have hnone : ∀ ds, (readLines none rest).result = .ok ds → ∀ d ∈ ds, d.IsReported :=
      fun ds => ih (fun p hp => absurd hp (Option.not_mem_none p)) hrest
    unfold readLines at h
    cases hkind : Line.ofChars s with
    | blank =>
      rw [hkind] at h
      refine ih (fun p hp => ?_) hrest h
      obtain ⟨before, hbefore, rfl⟩ := Option.map_eq_some_iff.mp hp
      exact (hpending before hbefore).feed hs
    | summary =>
      rw [hkind] at h
      exact isReported_of_after hpending hnone h
    | opener o =>
      rw [hkind] at h
      dsimp only at h
      cases hbegin : o.begin with
      | error e =>
        rw [hbegin] at h
        cases h
      | ok next =>
        rw [hbegin] at h
        have hnext := (ofChars_eq_opener_iff.mp hkind).isSound_of_begin hs hbegin
        refine isReported_of_after hpending (fun ds => ih ?_ hrest) h
        rintro _ ⟨⟩
        exact hnext
    | other =>
      rw [hkind] at h
      cases pending with
      | none => exact hnone ds h
      | some p =>
        refine ih ?_ hrest h
        rintro _ ⟨⟩
        exact (hpending p rfl).feed hs

/-- The diagnostics of a report are diagnostics of reports. -/
theorem isReported_of_read {output : String} {ds : List Diagnostic}
    (h : (read output).result = .ok ds) : ∀ d ∈ ds, d.IsReported :=
  isReported_of_readLines (fun p hp => absurd hp (Option.not_mem_none p))
    (fun _ => isUnbroken_of_mem_lines) h

end Report

/-! ## Replies -/

/-- Whole numbers are told apart by what is written for them. -/
theorem Json.writeInt_injective : Function.Injective Json.writeInt := by
  have hdigits : Function.Injective (Nat.toDigits 10) := by
    intro m n h
    calc m = Nat.ofDigitChars 10 (Nat.toDigits 10 m) 0 := Nat.ofDigitChars_ten_toDigits.symm
      _ = Nat.ofDigitChars 10 (Nat.toDigits 10 n) 0 := by rw [h]
      _ = n := Nat.ofDigitChars_ten_toDigits
  have hminus : ∀ (m : Nat) (rest : List Char), Nat.toDigits 10 m ≠ '-' :: rest := by
    intro m rest h
    have hdigit := Nat.isDigit_of_mem_toDigits (b := 10) (by decide) (by decide)
      (h ▸ List.mem_cons_self : '-' ∈ Nat.toDigits 10 m)
    exact absurd hdigit (by decide)
  intro m n h
  cases m with
  | ofNat m =>
    cases n with
    | ofNat n => exact congrArg Int.ofNat (hdigits h)
    | negSucc n => exact absurd h (hminus m _)
  | negSucc m =>
    cases n with
    | ofNat n => exact absurd h.symm (hminus n _)
    | negSucc n => exact congrArg Int.negSucc (Nat.succ.inj (hdigits (List.cons.inj h).2))

namespace Reply

open LintDaemon.Json

/-- Places are told apart on the wire, but for the number -1 and the place that is not known. -/
theorem position_eq_iff {a b : Option Int} : position a = position b ↔ a.getD (-1) = b.getD (-1) :=
  String.ofList_inj.trans writeInt_injective.eq_iff

/-- A place that is no negative number is told from all others. -/
theorem position_inj {a b : Option Int} (ha : ∀ n ∈ a, 0 ≤ n) (hb : ∀ n ∈ b, 0 ≤ n)
    (h : position a = position b) : a = b := by
  have hget := position_eq_iff.mp h
  cases a with
  | none =>
    cases b with
    | none => rfl
    | some n =>
      have hn : 0 ≤ n := hb n rfl
      rw [Option.getD_none, Option.getD_some] at hget
      omega
  | some m =>
    have hm : 0 ≤ m := ha m rfl
    cases b with
    | none =>
      rw [Option.getD_none, Option.getD_some] at hget
      omega
    | some n => exact congrArg some hget

end Reply

/-- The name of a severity tells it. -/
theorem Severity.name_injective : Function.Injective Severity.name := by
  intro a b h
  cases a <;> cases b <;> first | rfl | exact absurd h (by decide)

namespace Diagnostic.IsReported

variable {d e : Diagnostic}

/-- Columns are no negative numbers. -/
theorem column_nonneg (h : d.IsReported) : ∀ n ∈ d.column, 0 ≤ n := fun n hn =>
  Int.le_trans (by decide) (h.column_pos n hn)

/-- Diagnostics of reports are told apart by their objects. -/
theorem eq_of_diagnosticValue_eq (hd : d.IsReported) (he : e.IsReported)
    (h : Reply.diagnosticValue d = Reply.diagnosticValue e) : d = e := by
  unfold Reply.diagnosticValue at h
  simp only [Json.Value.object.injEq, List.cons.injEq, Prod.mk.injEq, Json.Value.string.injEq,
    true_and, and_true] at h
  obtain ⟨hmessage, hline, hcolumn, hseverity⟩ := h
  have hline := Reply.position_inj hd.line_nonneg he.line_nonneg hline
  have hcolumn := Reply.position_inj hd.column_nonneg he.column_nonneg hcolumn
  have hseverity := Severity.name_injective hseverity
  cases d
  cases e
  cases hmessage
  cases hline
  cases hcolumn
  cases hseverity
  rfl

end Diagnostic.IsReported

/-- The value that a reply line writes can be read from it. -/
theorem Reply.diagnosticsValue_eq_of_diagnosticsLine_eq {ds es : List Diagnostic}
    (h : diagnosticsLine ds = diagnosticsLine es) : diagnosticsValue ds = diagnosticsValue es := by
  have hspace : ∀ c ∈ ([] : List Char), Json.isSpace c = true := List.forall_mem_nil _
  have hds := read_diagnosticsLine ds hspace
  rw [h, read_diagnosticsLine es hspace] at hds
  exact (Except.ok.inj hds).symm

/-- Lists of diagnostics of reports are told apart by their reply lines. -/
theorem Reply.diagnosticsLine_inj {ds es : List Diagnostic} (hds : ∀ d ∈ ds, d.IsReported)
    (hes : ∀ e ∈ es, e.IsReported) (h : diagnosticsLine ds = diagnosticsLine es) : ds = es := by
  have hvalues : ds.map diagnosticValue = es.map diagnosticValue :=
    Json.Value.array.inj (diagnosticsValue_eq_of_diagnosticsLine_eq h)
  clear h
  induction ds generalizing es with
  | nil => exact (List.map_eq_nil_iff.mp hvalues.symm).symm
  | cons d ds ih =>
    obtain ⟨e, es, rfl, hvalue, hrest⟩ := List.map_eq_cons_iff.mp hvalues.symm
    obtain ⟨hd, hds⟩ := List.forall_mem_cons.mp hds
    obtain ⟨he, hes⟩ := List.forall_mem_cons.mp hes
    rw [hd.eq_of_diagnosticValue_eq he hvalue.symm, ih hds hes hrest.symm]

namespace Report

/-- **The wire never confuses two reports.** A report whose line numbers can be read gives
diagnostics whose places, severities and messages have the form of a report. A place is written as
-1 exactly if it is not known, and of the reports with the same reply line all give the same
diagnostics. -/
theorem diagnosticsLine_unambiguous (output : String)
    (hshort : HasShortNumbers (lines output.toList)) :
    ∃ ds, (read output).result = .ok ds ∧ (∀ d ∈ ds, d.IsReported) ∧
      (∀ d ∈ ds, (Reply.position d.line = "-1" ↔ d.line = none) ∧
        (Reply.position d.column = "-1" ↔ d.column = none)) ∧
      ∀ other ds', (read other).result = .ok ds' →
        Reply.diagnosticsLine ds = Reply.diagnosticsLine ds' → ds = ds' := by
  have hread : (read output).result = .ok _ := readLines_none_result hshort
  have hunknown {place : Option Int} (hplace : ∀ n ∈ place, 0 ≤ n) :
      Reply.position place = "-1" ↔ place = none :=
    ⟨fun h => Reply.position_inj hplace (fun _ hn => absurd hn (Option.not_mem_none _)) h,
      fun h => h ▸ rfl⟩
  refine ⟨_, hread, isReported_of_read hread, fun d hd => ?_, fun other ds' hother hline => ?_⟩
  · have hd := isReported_of_read hread d hd
    exact ⟨hunknown hd.line_nonneg, hunknown hd.column_nonneg⟩
  · exact Reply.diagnosticsLine_inj (isReported_of_read hread) (isReported_of_read hother) hline

/-- A report of an error without a caret, in a line that is written as zero, and of an error without
a place and with the same message. -/
def placelessReport : String :=
  "Bar.java:0: error: -1\n  -1\nerror: -1\n  -1\n"

/-- The two errors are told apart, and no report with the same reply line confuses their places. -/
theorem diagnosticsLine_unambiguous_placelessReport :
    HasShortNumbers (lines placelessReport.toList) ∧
      (read placelessReport).result =
        .ok [⟨"-1\n  -1", some 0, none, .error⟩, ⟨"-1\n  -1", none, none, .error⟩] ∧
      ∀ other ds, (read other).result = .ok ds →
        Reply.diagnosticsLine [⟨"-1\n  -1", some 0, none, .error⟩,
          ⟨"-1\n  -1", none, none, .error⟩] = Reply.diagnosticsLine ds →
        ds.map Diagnostic.line = [some 0, none] := by
  have hshort : ∀ s ∈ lines placelessReport.toList, s.length ≤ Numeral.maxDigits := by decide
  have hnumbers : HasShortNumbers (lines placelessReport.toList) :=
    fun s hs _ _ _ h => h.digits_length_le.trans (hshort s hs)
  have hread : (read placelessReport).result =
      .ok [⟨"-1\n  -1", some 0, none, .error⟩, ⟨"-1\n  -1", none, none, .error⟩] := by rfl
  obtain ⟨ds, hds, -, -, hsame⟩ := diagnosticsLine_unambiguous placelessReport hnumbers
  cases hread.symm.trans hds
  refine ⟨hnumbers, hread, fun other ds' hother hline => ?_⟩
  rw [← hsame other ds' hother hline]
  rfl

end Report

end LintDaemon
