import LintDaemon.Proofs.Text.Lines
import LintDaemon.Report.Line
import Mathlib.Data.List.TakeWhile

/-!
# What the lines of a report say

The kinds of lines as relations, and that the line reader finds exactly them.

* `Places s path digits severity message`: the line `s` reads as a path with the suffix of source
  files, a number, a severity and a message. A line may read so in several ways.
* `Opens s o`: the line opens the diagnostic `o`. Of several paths the shortest counts, and a line
  with a place is nothing else.
* `opener?_eq_some_iff`: the reader finds an opener iff the line opens it.
* `IsSummary s`, `isSummary_iff`: a number and one of the words for errors or warnings.
* `IsPlain s`: a line that is neither.
* `ofChars_eq_opener_iff`, `ofChars_eq_summary_iff`: what kind the reader makes of each line.

The relations do not mention the reader: they cut a line by `++`, where the reader walks over it.
-/

namespace LintDaemon.Report

open LintDaemon.Text

/-! ## Cutting a line -/

/-- `Labelled s severity message`: a severity label, a colon, a space and a message. -/
inductive Labelled : List Char → Severity → List Char → Prop
  /-- An error. -/
  | error (message : List Char) : Labelled ("error: ".toList ++ message) .error message
  /-- A warning. -/
  | warning (message : List Char) : Labelled ("warning: ".toList ++ message) .warning message

/-- The reader of labels finds exactly the labels. -/
theorem labelled?_eq_some_iff {s : List Char} {severity : Severity} {message : List Char} :
    labelled? s = some (severity, message) ↔ Labelled s severity message := by
  constructor
  · intro h
    unfold labelled? at h
    cases herror : dropPrefix? "error: ".toList s with
    | some rest =>
      rw [herror] at h
      cases h
      rw [dropPrefix?_eq_some_iff.mp herror]
      exact .error message
    | none =>
      rw [herror] at h
      obtain ⟨rest, hwarning, heq⟩ := Option.map_eq_some_iff.mp h
      cases heq
      rw [dropPrefix?_eq_some_iff.mp hwarning]
      exact .warning message
  · rintro (_ | _) <;> rfl

/-- Decimal digits of any script, at least one. -/
structure IsNumber (digits : List Char) : Prop where
  /-- There is a digit. -/
  ne_nil : digits ≠ []
  /-- All are digits. -/
  decimal : ∀ c ∈ digits, isDecimalDigit c = true

/-- The digits in front of a character that is none are cut off. -/
theorem spanDecimal_append {digits rest : List Char}
    (hdigits : ∀ c ∈ digits, isDecimalDigit c = true)
    (hrest : ∀ c ∈ rest.head?, isDecimalDigit c = false) :
    spanDecimal (digits ++ rest) = (digits, rest) := by
  unfold spanDecimal
  have hstop : rest.takeWhile isDecimalDigit = [] ∧ rest.dropWhile isDecimalDigit = rest := by
    cases rest with
    | nil => exact ⟨rfl, rfl⟩
    | cons c rest => simp [hrest c rfl]
  rw [List.takeWhile_append_of_pos hdigits, List.dropWhile_append_of_pos hdigits, hstop.1, hstop.2,
    List.append_nil]

/-- What is cut off are digits, and the text is not changed. -/
theorem spanDecimal_eq {s digits rest : List Char} (h : spanDecimal s = (digits, rest)) :
    (∀ c ∈ digits, isDecimalDigit c = true) ∧ s = digits ++ rest := by
  unfold spanDecimal at h
  obtain ⟨rfl, rfl⟩ := Prod.mk.inj h
  exact ⟨fun c hc => List.mem_takeWhile_imp hc, List.takeWhile_append_dropWhile.symm⟩

/-! ## Lines with a place -/

/-- What stands behind the path in a line with a place. -/
structure IsTail (s digits : List Char) (severity : Severity) (message : List Char) : Prop where
  /-- The line number is one. -/
  number : IsNumber digits
  /-- The parts in their order. -/
  reads : ∃ label, Labelled label severity message ∧
    s = ".java:".toList ++ (digits ++ (": ".toList ++ label))

/-- `Places s path digits severity message`: a path of at least one character, and its tail. -/
def Places (s path digits : List Char) (severity : Severity) (message : List Char) : Prop :=
  path ≠ [] ∧ ∃ tail, s = path ++ tail ∧ IsTail tail digits severity message

/-- The reader of tails finds exactly the tails. -/
theorem locatedTail?_eq_some_iff {s : List Char} {o : Opener} :
    locatedTail? s = some o ↔
      ∃ digits severity message, IsTail s digits severity message ∧
        o = .located digits severity message := by
  constructor
  · intro h
    unfold locatedTail? at h
    split at h
    · cases h
    · rename_i afterSuffix hsuffix
      split at h
      · cases h
      · rename_i digits rest hne hspan
        split at h
        · rename_i severity message hlabel
          cases h
          obtain ⟨label, hcolon, hlabelled⟩ := Option.bind_eq_some_iff.mp hlabel
          obtain ⟨hdecimal, rfl⟩ := spanDecimal_eq hspan
          obtain rfl := dropPrefix?_eq_some_iff.mp hsuffix
          obtain rfl := dropPrefix?_eq_some_iff.mp hcolon
          have hnumber : IsNumber digits := ⟨hne, hdecimal⟩
          exact ⟨digits, severity, message,
            ⟨hnumber, label, labelled?_eq_some_iff.mp hlabelled, rfl⟩, rfl⟩
        · cases h
  · rintro ⟨digits, severity, message, ⟨⟨hne, hdecimal⟩, label, hlabel, rfl⟩, rfl⟩
    have hcolon : ∀ c ∈ (": ".toList ++ label).head?, isDecimalDigit c = false := by
      intro c hc
      cases hc
      decide
    unfold locatedTail?
    rw [dropPrefix?_eq_some_iff.mpr rfl]
    dsimp only
    rw [spanDecimal_append hdecimal hcolon]
    cases digits with
    | nil => exact absurd rfl hne
    | cons d ds =>
      dsimp only
      rw [dropPrefix?_eq_some_iff.mpr rfl, Option.bind_some, labelled?_eq_some_iff.mpr hlabel]

/-- Where the reader of tails finds nothing there is no tail. -/
theorem not_isTail_of_locatedTail?_eq_none {s : List Char} (h : locatedTail? s = none)
    (digits : List Char) (severity : Severity) (message : List Char) :
    ¬ IsTail s digits severity message := by
  intro htail
  rw [locatedTail?_eq_some_iff.mpr ⟨_, _, _, htail, rfl⟩] at h
  cases h

/-- A path is the first character, if a tail follows it, or goes on behind the first character. -/
theorem places_cons_iff {c : Char} {s path digits : List Char} {severity : Severity}
    {message : List Char} :
    Places (c :: s) path digits severity message ↔
      (path = [c] ∧ IsTail s digits severity message) ∨
        ∃ rest, path = c :: rest ∧ Places s rest digits severity message := by
  constructor
  · rintro ⟨hne, tail, hs, htail⟩
    cases path with
    | nil => exact absurd rfl hne
    | cons d rest =>
      obtain ⟨rfl, rfl⟩ := List.cons.inj hs
      cases rest with
      | nil => exact Or.inl ⟨rfl, htail⟩
      | cons e rest => exact Or.inr ⟨e :: rest, rfl, List.cons_ne_nil e rest, tail, rfl, htail⟩
  · rintro (⟨rfl, htail⟩ | ⟨rest, rfl, -, tail, rfl, htail⟩)
    · exact ⟨List.cons_ne_nil c [], s, rfl, htail⟩
    · exact ⟨List.cons_ne_nil c rest, tail, rfl, htail⟩

/-- `FirstPlace s path digits severity message`: a reading of the line with the shortest path. -/
structure FirstPlace (s path digits : List Char) (severity : Severity) (message : List Char) :
    Prop where
  /-- The line reads so. -/
  places : Places s path digits severity message
  /-- No reading has a shorter path. -/
  shortest : ∀ path' digits' severity' message',
    Places s path' digits' severity' message' → path.length ≤ path'.length

/-- The reader of places finds nothing iff the line has no place. -/
theorem located?_eq_none_iff {s : List Char} :
    located? s = none ↔
      ∀ path digits severity message, ¬ Places s path digits severity message := by
  induction s with
  | nil =>
    refine ⟨fun _ path digits severity message => ?_, fun _ => rfl⟩
    rintro ⟨hne, tail, hs, -⟩
    exact hne (List.append_eq_nil_iff.mp hs.symm).1
  | cons c s ih =>
    rw [located?]
    cases htail : locatedTail? s with
    | some o =>
      obtain ⟨digits, severity, message, h, -⟩ := locatedTail?_eq_some_iff.mp htail
      constructor
      · intro hsome
        cases hsome
      · intro hnone
        exact absurd (places_cons_iff.mpr (Or.inl ⟨rfl, h⟩)) (hnone _ _ _ _)
    | none =>
      dsimp only
      rw [ih]
      constructor
      · intro hnone path digits severity message h
        rcases places_cons_iff.mp h with ⟨-, h⟩ | ⟨rest, -, h⟩
        · exact absurd h (not_isTail_of_locatedTail?_eq_none htail _ _ _)
        · exact hnone _ _ _ _ h
      · intro hnone path digits severity message h
        exact hnone _ _ _ _ (places_cons_iff.mpr (Or.inr ⟨path, rfl, h⟩))

/-- The reader of places finds the reading with the shortest path. -/
theorem located?_eq_some_iff {s : List Char} {o : Opener} :
    located? s = some o ↔
      ∃ path digits severity message, FirstPlace s path digits severity message ∧
        o = .located digits severity message := by
  induction s with
  | nil =>
    constructor
    · intro h
      cases h
    · rintro ⟨path, digits, severity, message, ⟨⟨hne, tail, hs, -⟩, -⟩, -⟩
      exact absurd (List.append_eq_nil_iff.mp hs.symm).1 hne
  | cons c s ih =>
    rw [located?]
    cases htail : locatedTail? s with
    | some found =>
      obtain ⟨digits, severity, message, h, rfl⟩ := locatedTail?_eq_some_iff.mp htail
      constructor
      · rintro ⟨⟩
        refine ⟨[c], digits, severity, message, ⟨places_cons_iff.mpr (Or.inl ⟨rfl, h⟩), ?_⟩, rfl⟩
        intro path' digits' severity' message' h'
        exact List.length_pos_iff.mpr h'.1
      · rintro ⟨path, digits', severity', message', ⟨hplaces, hshortest⟩, rfl⟩
        -- the one-character path is there, so that the shortest path is that one
        have hlen := hshortest _ _ _ _ (places_cons_iff.mpr (Or.inl ⟨rfl, h⟩))
        rcases places_cons_iff.mp hplaces with ⟨-, h'⟩ | ⟨rest, rfl, h'⟩
        · rw [← htail, locatedTail?_eq_some_iff.mpr ⟨_, _, _, h', rfl⟩]
        · have hpos := List.length_pos_iff.mpr h'.1
          simp only [List.length_cons, List.length_nil] at hlen
          omega
    | none =>
      have hnot := not_isTail_of_locatedTail?_eq_none htail
      dsimp only
      rw [ih]
      constructor
      · rintro ⟨path, digits, severity, message, ⟨hplaces, hshortest⟩, rfl⟩
        refine ⟨c :: path, digits, severity, message,
          ⟨places_cons_iff.mpr (Or.inr ⟨path, rfl, hplaces⟩), ?_⟩, rfl⟩
        intro path' digits' severity' message' h'
        rcases places_cons_iff.mp h' with ⟨-, htail'⟩ | ⟨rest, rfl, hrest⟩
        · exact absurd htail' (hnot _ _ _)
        · exact Nat.succ_le_succ (hshortest _ _ _ _ hrest)
      · rintro ⟨path, digits, severity, message, ⟨hplaces, hshortest⟩, rfl⟩
        rcases places_cons_iff.mp hplaces with ⟨-, h'⟩ | ⟨rest, rfl, h'⟩
        · exact absurd h' (hnot _ _ _)
        · refine ⟨rest, digits, severity, message, ⟨h', ?_⟩, rfl⟩
          intro path' digits' severity' message' h''
          exact Nat.le_of_succ_le_succ
            (hshortest _ _ _ _ (places_cons_iff.mpr (Or.inr ⟨path', rfl, h''⟩)))

/-! ## Openers and summaries -/

/-- A line has no place. -/
def Unplaced (s : List Char) : Prop :=
  ∀ path digits severity message, ¬ Places s path digits severity message

/-- `Opens s o`: the line `s` opens the diagnostic `o`. A place counts before a note, and a note
before a bare severity. -/
inductive Opens (s : List Char) : Opener → Prop
  /-- The line has a place. -/
  | located {path digits : List Char} {severity : Severity} {message : List Char}
    (h : FirstPlace s path digits severity message) : Opens s (.located digits severity message)
  /-- The line is a note. -/
  | note {message : List Char} (hunplaced : Unplaced s) (h : s = "Note: ".toList ++ message) :
    Opens s (.note message)
  /-- The line is a severity with a message. -/
  | general {severity : Severity} {message : List Char} (hunplaced : Unplaced s)
    (hnote : ∀ m, s ≠ "Note: ".toList ++ m) (h : Labelled s severity message) :
    Opens s (.general severity message)

/-- The reader of openers finds exactly what the line opens. -/
theorem opener?_eq_some_iff {s : List Char} {o : Opener} : opener? s = some o ↔ Opens s o := by
  unfold opener?
  cases hlocated : located? s with
  | some found =>
    obtain ⟨path, digits, severity, message, h, rfl⟩ := located?_eq_some_iff.mp hlocated
    constructor
    · rintro ⟨⟩
      exact .located h
    · rintro (⟨h'⟩ | ⟨hunplaced, -⟩ | ⟨hunplaced, -, -⟩)
      · rw [← hlocated, located?_eq_some_iff.mpr ⟨_, _, _, _, h', rfl⟩]
      · exact absurd h.places (hunplaced _ _ _ _)
      · exact absurd h.places (hunplaced _ _ _ _)
  | none =>
    have hunplaced : Unplaced s := located?_eq_none_iff.mp hlocated
    cases hnote : dropPrefix? "Note: ".toList s with
    | some m =>
      have hs := dropPrefix?_eq_some_iff.mp hnote
      constructor
      · rintro ⟨⟩
        exact .note hunplaced hs
      · rintro (⟨h⟩ | ⟨-, h⟩ | ⟨-, h, -⟩)
        · exact absurd h.places (hunplaced _ _ _ _)
        · rw [hs] at h
          rw [List.append_cancel_left h]
        · exact absurd hs (h m)
    | none =>
      have hnotNote : ∀ m, s ≠ "Note: ".toList ++ m := by
        intro m hm
        rw [dropPrefix?_eq_some_iff.mpr hm] at hnote
        cases hnote
      dsimp only
      rw [Option.map_eq_some_iff]
      constructor
      · rintro ⟨⟨severity, message⟩, h, rfl⟩
        exact .general hunplaced hnotNote (labelled?_eq_some_iff.mp h)
      · rintro (⟨h⟩ | ⟨-, h⟩ | ⟨-, -, h⟩)
        · exact absurd h.places (hunplaced _ _ _ _)
        · exact absurd h (hnotNote _)
        · exact ⟨(_, _), labelled?_eq_some_iff.mpr h, rfl⟩

/-- The reader of openers finds nothing iff the line opens nothing. -/
theorem opener?_eq_none_iff {s : List Char} : opener? s = none ↔ ∀ o, ¬ Opens s o := by
  simp only [Option.eq_none_iff_forall_ne_some, ne_eq, opener?_eq_some_iff]

/-- The words behind the number of a summary. -/
def summaryWords : List (List Char) :=
  [" error".toList, " errors".toList, " warning".toList, " warnings".toList]

/-- A number of errors or warnings. -/
def IsSummary (s : List Char) : Prop :=
  ∃ digits words, IsNumber digits ∧ words ∈ summaryWords ∧ s = digits ++ words

/-- The reader of summaries finds exactly the summaries. -/
theorem isSummary_iff {s : List Char} : isSummary s = true ↔ IsSummary s := by
  have hwords : ∀ rest, (rest == " error".toList || rest == " errors".toList ||
      rest == " warning".toList || rest == " warnings".toList) = true ↔ rest ∈ summaryWords := by
    intro rest
    simp [summaryWords, or_assoc]
  constructor
  · intro h
    unfold isSummary at h
    split at h
    · cases h
    · rename_i digits rest hne hspan
      obtain ⟨hdecimal, rfl⟩ := spanDecimal_eq hspan
      exact ⟨digits, rest, ⟨hne, hdecimal⟩, (hwords rest).mp h, rfl⟩
  · rintro ⟨digits, words, ⟨hne, hdecimal⟩, hmem, rfl⟩
    have hstop : ∀ c ∈ words.head?, isDecimalDigit c = false := by
      simp only [summaryWords, List.mem_cons, List.not_mem_nil, or_false] at hmem
      rcases hmem with rfl | rfl | rfl | rfl <;>
        · rintro c ⟨⟩
          decide
    unfold isSummary
    rw [spanDecimal_append hdecimal hstop]
    cases digits with
    | nil => exact absurd rfl hne
    | cons d ds => exact (hwords words).mpr hmem

/-! ## The kinds of lines -/

/-- A line that opens nothing and is no summary. -/
def IsPlain (s : List Char) : Prop :=
  (∀ o, ¬ Opens s o) ∧ ¬ IsSummary s

/-- A label is not all white space. -/
theorem Labelled.not_allBlank {s message : List Char} {severity : Severity}
    (h : Labelled s severity message) : allBlank s = false := by
  cases h <;> rfl

/-- A line that opens a diagnostic is not all white space. -/
theorem Opens.not_allBlank {s : List Char} {o : Opener} (h : Opens s o) : allBlank s = false := by
  cases h with
  | located h =>
    obtain ⟨⟨-, tail, rfl, -, label, -, rfl⟩, -⟩ := h
    simp [allBlank, isBlank]
  | note hunplaced h =>
    subst h
    rfl
  | general hunplaced hnote h => exact h.not_allBlank

/-- A summary is not all white space. -/
theorem IsSummary.not_allBlank {s : List Char} (h : IsSummary s) : allBlank s = false := by
  obtain ⟨digits, words, -, hmem, rfl⟩ := h
  have hwords : ∀ w ∈ summaryWords, allBlank w = false := by decide
  unfold allBlank at *
  rw [List.all_append, hwords words hmem, Bool.and_false]

/-- A line is of the kind of an opener iff it opens it. -/
theorem ofChars_eq_opener_iff {s : List Char} {o : Opener} :
    Line.ofChars s = .opener o ↔ Opens s o := by
  rw [← opener?_eq_some_iff]
  unfold Line.ofChars
  constructor
  · intro h
    cases hopener : opener? s with
    | some found =>
      rw [hopener] at h
      dsimp only at h
      split_ifs at h with hblank
      cases h
      rfl
    | none =>
      rw [hopener] at h
      split_ifs at h
  · intro h
    rw [if_neg (by rw [(opener?_eq_some_iff.mp h).not_allBlank]; exact Bool.false_ne_true), h]

/-- A line that opens nothing is of the kind of a summary iff it is one. -/
theorem ofChars_eq_summary_iff {s : List Char} (hopens : ∀ o, ¬ Opens s o) :
    Line.ofChars s = .summary ↔ IsSummary s := by
  rw [← isSummary_iff]
  unfold Line.ofChars
  rw [opener?_eq_none_iff.mpr hopens]
  constructor
  · intro h
    split_ifs at h with hblank hsummary
    exact hsummary
  · intro h
    rw [if_neg (by rw [(isSummary_iff.mp h).not_allBlank]; exact Bool.false_ne_true), if_pos h]

end LintDaemon.Report
