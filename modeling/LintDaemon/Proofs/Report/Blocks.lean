import LintDaemon.Proofs.Report.Openers
import LintDaemon.Proofs.Text.Digits
import LintDaemon.Report.Reading

/-!
# A report is its blocks

The lines of a report, cut into blocks of an opener and the plain lines behind it, and that the
line reader gives one diagnostic for each block.

* `Blocks ls bs`: the lines `ls` fall into the blocks `bs`, and into lines that belong to none.
* `Block.diagnostic`: the diagnostic of a block, by where its first caret line stands.
* `Pending.foldl_feed_open`, `Pending.foldl_feed_closed`: what the pending diagnostic holds before
  and behind the caret; the invariants that carry the reader.
* `HasShortNumbers`: reports that are read without a fault.
* `read_eq_blocks`: the diagnostics of a report are those of its blocks, and the blocks are one
  for each opener.
-/

namespace LintDaemon.Report

open LintDaemon.Text

/-! ## Blocks -/

/-- An opener and the lines that go on with it. -/
structure Block where
  /-- What its first line opens. -/
  opener : Opener
  /-- The lines behind the first, blank ones included. -/
  continuation : List (List Char)

/-- `Continues rest c`: of the lines `rest`, those in `c` come before the next opener or
summary. -/
def Continues (rest c : List (List Char)) : Prop :=
  ∃ after, rest = c ++ after ∧ (∀ s ∈ c, IsPlain s) ∧ ∀ s ∈ after.head?, ¬ IsPlain s

/-- `Blocks ls bs`: the lines `ls` have the blocks `bs`, one at each opener and in their order. -/
inductive Blocks : List (List Char) → List Block → Prop
  /-- No lines, no blocks. -/
  | nil : Blocks [] []
  /-- A line that opens nothing begins no block. -/
  | skip {s : List Char} {rest : List (List Char)} {bs : List Block} (h : ∀ o, ¬ Opens s o)
    (hrest : Blocks rest bs) : Blocks (s :: rest) bs
  /-- An opener begins a block. -/
  | block {s : List Char} {o : Opener} {rest c : List (List Char)} {bs : List Block}
    (h : Opens s o) (hc : Continues rest c) (hrest : Blocks rest bs) :
    Blocks (s :: rest) (⟨o, c⟩ :: bs)

/-- The number that decimal digits of any script write. -/
def numberOf (digits : List Char) : Nat :=
  digits.foldl (fun n c => 10 * n + (decimalValue? c).getD 0) 0

/-- A line whose only character that is not white space is a caret. -/
def isCaretLine (s : List Char) : Bool :=
  s.filter (fun c => !isBlank c) == ['^']

/-- The number of the line that an opener names. -/
def Opener.line? : Opener → Option Nat
  | .located digits _ _ => some (numberOf digits)
  | .note _ => none
  | .general _ _ => none

/-- How severe the diagnostic of an opener is. -/
def Opener.severity : Opener → Severity
  | .located _ severity _ => severity
  | .note _ => .note
  | .general severity _ => severity

/-- The first line of the message of an opener. -/
def Opener.message : Opener → List Char
  | .located _ _ message => message
  | .note message => message
  | .general _ message => message

/-- Where the first caret line of a block stands, counted from zero. Only under a place does a
caret point at anything. -/
def Block.caret? (b : Block) : Option Nat :=
  match b.opener with
  | .located _ _ _ => b.continuation.findIdx? isCaretLine
  | .note _ => none
  | .general _ _ => none

/-- The column that the caret points at. -/
def Block.column? (b : Block) : Option Nat :=
  b.caret?.map fun i => (b.continuation.getD i []).idxOf '^' + 1

/-- The lines of the message: all, or all but the caret line and the line above it. -/
def Block.messageLines (b : Block) : List (List Char) :=
  match b.caret? with
  | none => b.opener.message :: b.continuation
  | some i => b.opener.message :: (b.continuation.take (i - 1) ++ b.continuation.drop (i + 1))

/-- The diagnostic of a block. -/
def Block.diagnostic (b : Block) : Diagnostic where
  message := String.ofList (trimEnd (join ['\n'] b.messageLines))
  line := b.opener.line?.map Int.ofNat
  column := b.column?.map Int.ofNat
  severity := b.opener.severity

/-! ## Cutting into blocks -/

/-- Whether a line goes on with what stands before it. -/
def goesOn (s : List Char) : Bool :=
  match Line.ofChars s with
  | .blank => true
  | .other => true
  | .opener _ => false
  | .summary => false

/-- The lines that go on are the plain ones. -/
theorem goesOn_iff {s : List Char} : goesOn s = true ↔ IsPlain s := by
  unfold goesOn
  constructor
  · intro h
    have hopens : ∀ o, ¬ Opens s o := by
      intro o ho
      rw [ofChars_eq_opener_iff.mpr ho] at h
      cases h
    refine ⟨hopens, fun hsummary => ?_⟩
    rw [(ofChars_eq_summary_iff hopens).mpr hsummary] at h
    cases h
  · rintro ⟨hopens, hsummary⟩
    cases hkind : Line.ofChars s with
    | blank => rfl
    | other => rfl
    | opener o => exact absurd (ofChars_eq_opener_iff.mp hkind) (hopens o)
    | summary => exact absurd ((ofChars_eq_summary_iff hopens).mp hkind) hsummary

/-- The lines that continue a block are those up to the first that does not go on. -/
theorem continues_iff {rest c : List (List Char)} :
    Continues rest c ↔ c = rest.takeWhile goesOn := by
  constructor
  · rintro ⟨after, rfl, hplain, hstop⟩
    have hafter : after.takeWhile goesOn = [] := by
      cases after with
      | nil => rfl
      | cons s after =>
        have hs : goesOn s = false := by
          rw [← Bool.not_eq_true, goesOn_iff]
          exact hstop s rfl
        rw [List.takeWhile_cons_of_neg (by rw [hs]; exact Bool.false_ne_true)]
    rw [List.takeWhile_append_of_pos fun s hs => goesOn_iff.mpr (hplain s hs), hafter,
      List.append_nil]
  · rintro rfl
    refine ⟨rest.dropWhile goesOn, List.takeWhile_append_dropWhile.symm, ?_, ?_⟩
    · intro s hs
      exact goesOn_iff.mp (List.mem_takeWhile_imp hs)
    · intro s hs hplain
      have hstop := List.head?_dropWhile_not goesOn rest
      rw [hs] at hstop
      exact absurd (goesOn_iff.mpr hplain) (Bool.eq_false_iff.mp hstop)

/-- The blocks of lines. -/
def blocksOf : List (List Char) → List Block
  | [] => []
  | s :: rest =>
    match opener? s with
    | some o => ⟨o, rest.takeWhile goesOn⟩ :: blocksOf rest
    | none => blocksOf rest

/-- Lines have one list of blocks, the one they are cut into. -/
theorem blocks_iff {ls : List (List Char)} {bs : List Block} : Blocks ls bs ↔ bs = blocksOf ls := by
  induction ls generalizing bs with
  | nil =>
    constructor
    · rintro ⟨⟩
      rfl
    · rintro rfl
      exact .nil
  | cons s rest ih =>
    rw [blocksOf]
    constructor
    · rintro (_ | ⟨h, hrest⟩ | ⟨h, hc, hrest⟩)
      · rw [opener?_eq_none_iff.mpr h]
        exact ih.mp hrest
      · rw [opener?_eq_some_iff.mpr h, continues_iff.mp hc, ih.mp hrest]
    · rintro rfl
      cases hopener : opener? s with
      | some o => exact .block (opener?_eq_some_iff.mp hopener) (continues_iff.mpr rfl) (ih.mpr rfl)
      | none => exact .skip (opener?_eq_none_iff.mp hopener) (ih.mpr rfl)

/-- Lines that open nothing begin no block. -/
theorem blocksOf_append_of_opener? {ls : List (List Char)} (h : ∀ s ∈ ls, opener? s = none)
    (rest : List (List Char)) : blocksOf (ls ++ rest) = blocksOf rest := by
  induction ls with
  | nil => rfl
  | cons s ls ih =>
    rw [List.cons_append, blocksOf, h s List.mem_cons_self]
    exact ih fun t ht => h t (List.mem_cons_of_mem s ht)

/-- There is one block for each line that opens something. -/
theorem map_opener_blocksOf (ls : List (List Char)) :
    (blocksOf ls).map Block.opener = ls.filterMap opener? := by
  induction ls with
  | nil => rfl
  | cons s rest ih =>
    rw [blocksOf, List.filterMap_cons]
    cases opener? s with
    | some o => exact congrArg (o :: ·) ih
    | none => exact ih

/-! ## The number and the column -/

/-- Digits write the same number in their own script and in ASCII. -/
theorem numberOf_eq {digits : List Char} (hdigits : ∀ c ∈ digits, isDecimalDigit c = true) :
    numberOf digits = Numeral.value (digits.map Numeral.asciiDigit) := by
  have hfold : ∀ n, digits.foldl (fun n c => 10 * n + (decimalValue? c).getD 0) n =
      Nat.ofDigitChars 10 (digits.map Numeral.asciiDigit) n := by
    induction digits with
    | nil => exact fun n => rfl
    | cons c digits ih =>
      intro n
      obtain ⟨v, hv⟩ := Option.isSome_iff_exists.mp (hdigits c List.mem_cons_self)
      have hascii : Numeral.asciiDigit c = Nat.digitChar v := by
        unfold Numeral.asciiDigit
        rw [hv]
      rw [List.foldl_cons, List.map_cons, hascii,
        Nat.ofDigitChars_cons_digitChar_of_lt_ten (decimalValue?_lt hv), hv, Option.getD_some]
      exact ih (fun d hd => hdigits d (List.mem_cons_of_mem c hd)) _
  exact hfold 0

/-- Only a caret line points at a column, the one behind as many characters as come before its
caret. -/
theorem caretColumn?_eq (s : List Char) :
    caretColumn? s = if isCaretLine s then some (s.idxOf '^' + 1) else none := by
  induction s with
  | nil => rfl
  | cons c s ih =>
    cases hblank : isBlank c with
    | true =>
      have hne : c ≠ '^' := by
        rintro rfl
        cases hblank
      have hshift : caretColumn? (c :: s) = (caretColumn? s).map (· + 1) := by
        unfold caretColumn?
        rw [List.dropWhile_cons_of_pos hblank, List.takeWhile_cons_of_pos hblank]
        split
        · split_ifs <;> rfl
        · rfl
      have hcaret : isCaretLine (c :: s) = isCaretLine s := by
        unfold isCaretLine
        rw [List.filter_cons_of_neg (by simp [hblank])]
      rw [hshift, ih, hcaret, List.idxOf_cons, beq_false_of_ne hne, cond_false]
      split_ifs <;> rfl
    | false =>
      have hcaret : isCaretLine (c :: s) = (c == '^' && allBlank s) := by
        unfold isCaretLine allBlank
        rw [List.filter_cons_of_pos (by simp [hblank])]
        rw [Bool.eq_iff_iff]
        simp
      unfold caretColumn?
      rw [List.dropWhile_cons_of_neg (by simp [hblank]),
        List.takeWhile_cons_of_neg (by simp [hblank]), hcaret]
      split
      · rename_i rest heq
        obtain ⟨rfl, rfl⟩ := List.cons.inj heq
        simp
      · rename_i hne
        have : c ≠ '^' := fun h => hne s (by rw [h])
        simp [this]

/-! ## What the pending diagnostic holds -/

/-- Before the first caret under a place, and always without a place, the lines are kept back. -/
theorem Pending.foldl_feed_open (p : Pending) {c : List (List Char)} (hcolumn : p.column = none)
    (hcaret : p.line = none ∨ ∀ s ∈ c, isCaretLine s = false) :
    c.foldl Pending.feed p = { p with context := p.context ++ c } := by
  induction c generalizing p with
  | nil => simp
  | cons s c ih =>
    have hfeed : p.feed s = { p with context := p.context ++ [s] } := by
      unfold Pending.feed
      rcases hcaret with hline | hcaret
      · rw [hcolumn, hline]
      · rw [hcolumn, caretColumn?_eq, hcaret s List.mem_cons_self]
        cases p.line <;> rfl
    have hrest : p.line = none ∨ ∀ t ∈ c, isCaretLine t = false :=
      hcaret.imp_right fun h t ht => h t (List.mem_cons_of_mem s ht)
    rw [List.foldl_cons, hfeed, ih { p with context := p.context ++ [s] } hcolumn hrest]
    simp

/-- Behind the first caret all lines belong to the message. -/
theorem Pending.foldl_feed_closed (p : Pending) {c : List (List Char)}
    (hcolumn : p.column.isSome) :
    c.foldl Pending.feed p = { p with message := p.message ++ c } := by
  induction c generalizing p with
  | nil => simp
  | cons s c ih =>
    obtain ⟨column, hcolumn'⟩ := Option.isSome_iff_exists.mp hcolumn
    have hfeed : p.feed s = { p with message := p.message ++ [s] } := by
      unfold Pending.feed
      rw [hcolumn']
      cases p.line <;> rfl
    rw [List.foldl_cons, hfeed, ih { p with message := p.message ++ [s] } hcolumn]
    simp

/-- The first caret under a place takes over all but the last of the lines before it, and the lines
behind it follow. -/
theorem Pending.foldl_feed_caret (p : Pending) {before : List (List Char)} {s : List Char}
    (hline : p.line.isSome) (hcolumn : p.column = none)
    (hbefore : ∀ t ∈ before, isCaretLine t = false) (hcaret : isCaretLine s = true)
    (after : List (List Char)) :
    (before ++ s :: after).foldl Pending.feed p =
      { p with
        column := some (s.idxOf '^' + 1)
        message := p.message ++ (p.context ++ before).dropLast ++ after
        context := [] } := by
  obtain ⟨line, hline⟩ := Option.isSome_iff_exists.mp hline
  rw [List.foldl_append, Pending.foldl_feed_open p hcolumn (Or.inr hbefore), List.foldl_cons]
  have hfeed : Pending.feed { p with context := p.context ++ before } s =
      { p with
        column := some (s.idxOf '^' + 1)
        message := p.message ++ (p.context ++ before).dropLast
        context := [] } := by
    unfold Pending.feed
    dsimp only
    rw [hline, hcolumn, caretColumn?_eq, if_pos hcaret]
  rw [hfeed, Pending.foldl_feed_closed _ rfl]

/-- The pending diagnostic that an opener begins, if its line number is not too long. -/
def Opener.pending (o : Opener) : Pending :=
  ⟨o.severity, o.line?, none, [o.message], []⟩

/-- A pending diagnostic that was fed the continuation of a block is the diagnostic of the
block. -/
theorem build_foldl_feed (b : Block) :
    (b.continuation.foldl Pending.feed b.opener.pending).build = b.diagnostic := by
  obtain ⟨o, ls⟩ := b
  cases o with
  | note message =>
    rw [Pending.foldl_feed_open _ rfl (Or.inl rfl)]
    rfl
  | general severity message =>
    rw [Pending.foldl_feed_open _ rfl (Or.inl rfl)]
    rfl
  | located digits severity message =>
    cases hfind : ls.findIdx? isCaretLine with
    | none =>
      have hcaret : ∀ s ∈ ls, isCaretLine s = false := List.findIdx?_eq_none_iff.mp hfind
      rw [Pending.foldl_feed_open _ rfl (Or.inr hcaret)]
      simp [Pending.build, Block.diagnostic, Block.messageLines, Block.column?, Block.caret?, hfind,
        Opener.pending]
    | some i =>
      obtain ⟨hi, hcaret, hbefore⟩ := List.findIdx?_eq_some_iff_getElem.mp hfind
      have hopen : ∀ s ∈ ls.take i, isCaretLine s = false := by
        intro s hs
        obtain ⟨j, hj, rfl⟩ := List.mem_take_iff_getElem.mp hs
        exact Bool.eq_false_iff.mpr (hbefore j (by omega))
      have hsplit : ls = ls.take i ++ ls[i] :: ls.drop (i + 1) := by
        rw [← List.drop_eq_getElem_cons hi, List.take_append_drop]
      have hfed : ls.foldl Pending.feed (Opener.located digits severity message).pending =
          ⟨severity, some (numberOf digits), some (ls[i].idxOf '^' + 1),
            message :: (ls.take (i - 1) ++ ls.drop (i + 1)), []⟩ := by
        calc ls.foldl Pending.feed (Opener.located digits severity message).pending
            = (ls.take i ++ ls[i] :: ls.drop (i + 1)).foldl Pending.feed
                (Opener.located digits severity message).pending := by rw [← hsplit]
          _ = _ := Pending.foldl_feed_caret _ rfl rfl hopen hcaret _
          _ = _ := by
              rw [← List.dropLast_take hi]
              rfl
      rw [hfed]
      simp [Pending.build, Block.diagnostic, Block.messageLines, Block.column?, Block.caret?, hfind,
        Opener.line?, Opener.severity, Opener.message, hi]

/-! ## Reading a report -/

/-- A pending diagnostic takes the lines up to the first that does not go on, and stands before the
diagnostics of the lines behind it. -/
theorem readLines_some_result (p : Pending) (ls : List (List Char)) :
    (readLines (some p) ls).result =
      (readLines none ls).result.map (((ls.takeWhile goesOn).foldl Pending.feed p).build :: ·) := by
  induction ls generalizing p with
  | nil => rfl
  | cons s rest ih =>
    have hgoes : goesOn s = match Line.ofChars s with
      | .blank => true
      | .other => true
      | .opener _ => false
      | .summary => false := rfl
    unfold readLines
    cases hkind : Line.ofChars s with
    | blank =>
      rw [hkind] at hgoes
      rw [List.takeWhile_cons_of_pos hgoes, List.foldl_cons]
      exact ih _
    | other =>
      rw [hkind] at hgoes
      rw [List.takeWhile_cons_of_pos hgoes, List.foldl_cons]
      exact ih _
    | summary =>
      rw [hkind] at hgoes
      rw [List.takeWhile_cons_of_neg (by rw [hgoes]; exact Bool.false_ne_true)]
      rfl
    | opener o =>
      rw [hkind] at hgoes
      rw [List.takeWhile_cons_of_neg (by rw [hgoes]; exact Bool.false_ne_true)]
      dsimp only
      cases o.begin with
      | ok next => rfl
      | error e => rfl

/-- An opener whose line number is not too long begins its pending diagnostic. -/
theorem Opens.begin_eq {s : List Char} {o : Opener} (h : Opens s o)
    (hdigits : ∀ digits severity message, o = .located digits severity message →
      digits.length ≤ Numeral.maxDigits) : o.begin = .ok o.pending := by
  cases h with
  | located h =>
    obtain ⟨⟨-, tail, -, hnumber, -⟩, -⟩ := h
    unfold Opener.begin
    dsimp only
    rw [if_pos (hdigits _ _ _ rfl), ← numberOf_eq hnumber.decimal]
    rfl
  | note hunplaced h => rfl
  | general hunplaced hnote h => rfl

/-- A line number has no more digits than the line has characters. -/
theorem Opens.digits_length_le {s digits message : List Char} {severity : Severity}
    (h : Opens s (.located digits severity message)) : digits.length ≤ s.length := by
  obtain ⟨⟨-, tail, rfl, -, label, -, rfl⟩, -⟩ := h
  simp only [List.length_append]
  omega

/-- No line has a place with a number that is too long to be read. -/
def HasShortNumbers (ls : List (List Char)) : Prop :=
  ∀ s ∈ ls, ∀ digits severity message, Opens s (.located digits severity message) →
    digits.length ≤ Numeral.maxDigits

/-- Lines whose line numbers are not too long give the diagnostics of their blocks. -/
theorem readLines_none_result {ls : List (List Char)}
    (hdigits : ∀ s ∈ ls, ∀ digits severity message, Opens s (.located digits severity message) →
      digits.length ≤ Numeral.maxDigits) :
    (readLines none ls).result = .ok ((blocksOf ls).map Block.diagnostic) := by
  induction ls with
  | nil => rfl
  | cons s rest ih =>
    have hrest := ih fun t ht => hdigits t (List.mem_cons_of_mem s ht)
    unfold readLines blocksOf
    cases hopener : opener? s with
    | some o =>
      have hopens := opener?_eq_some_iff.mp hopener
      have hbegin : o.begin = .ok o.pending := by
        refine hopens.begin_eq fun digits severity message ho => ?_
        rw [ho] at hopens
        exact hdigits s List.mem_cons_self _ _ _ hopens
      rw [ofChars_eq_opener_iff.mpr hopens]
      dsimp only
      rw [hbegin]
      dsimp only [Outcome.after]
      rw [readLines_some_result, hrest, List.map_cons, ← build_foldl_feed]
      rfl
    | none =>
      cases hkind : Line.ofChars s with
      | blank => exact hrest
      | other => exact hrest
      | summary => exact hrest
      | opener o =>
        exact absurd (ofChars_eq_opener_iff.mp hkind) (opener?_eq_none_iff.mp hopener o)

/-- Lines are read without a fault only if no line number in them is too long. -/
theorem digits_length_le_of_readLines_none {ls : List (List Char)} {ds : List Diagnostic}
    (hread : (readLines none ls).result = .ok ds) :
    ∀ s ∈ ls, ∀ digits severity message, Opens s (.located digits severity message) →
      digits.length ≤ Numeral.maxDigits := by
  induction ls generalizing ds with
  | nil => nofun
  | cons s rest ih =>
    have hmem : ∀ {ds : List Diagnostic}, (readLines none rest).result = .ok ds →
        (∀ digits severity message, Opens s (.located digits severity message) →
          digits.length ≤ Numeral.maxDigits) →
        ∀ t ∈ s :: rest, ∀ digits severity message, Opens t (.located digits severity message) →
          digits.length ≤ Numeral.maxDigits := by
      intro ds hrest hs t ht
      rcases List.mem_cons.mp ht with rfl | ht
      · exact hs
      · exact ih hrest t ht
    unfold readLines at hread
    cases hkind : Line.ofChars s with
    | opener o =>
      rw [hkind] at hread
      dsimp only at hread
      cases hbegin : o.begin with
      | error e =>
        rw [hbegin] at hread
        cases hread
      | ok next =>
        rw [hbegin] at hread
        dsimp only [Outcome.after] at hread
        rw [readLines_some_result] at hread
        cases hrest : (readLines none rest).result with
        | error e =>
          rw [hrest] at hread
          cases hread
        | ok more =>
          refine hmem hrest fun digits severity message hopens => ?_
          have hkind' := ofChars_eq_opener_iff.mpr hopens
          rw [hkind, Line.opener.injEq] at hkind'
          rw [hkind', Opener.begin] at hbegin
          split_ifs at hbegin with hdigits
          exact hdigits
    | _ =>
      rw [hkind] at hread
      refine hmem hread fun digits severity message hopens => ?_
      rw [ofChars_eq_opener_iff.mpr hopens] at hkind
      cases hkind

/-- Lines are read without a fault iff no line number in them is too long, and then they give the
diagnostics of their blocks. -/
theorem readLines_none_eq_ok_iff {ls : List (List Char)} {ds : List Diagnostic} :
    (readLines none ls).result = .ok ds ↔
      (∀ s ∈ ls, ∀ digits severity message, Opens s (.located digits severity message) →
        digits.length ≤ Numeral.maxDigits) ∧ (blocksOf ls).map Block.diagnostic = ds := by
  constructor
  · intro hread
    have hdigits := digits_length_le_of_readLines_none hread
    rw [readLines_none_result hdigits] at hread
    exact ⟨hdigits, Except.ok.inj hread⟩
  · rintro ⟨hdigits, rfl⟩
    exact readLines_none_result hdigits

/-- The diagnostics of a report are those of its blocks, of which there is one list, with one block
for each line that opens something, in the order of the lines. -/
theorem read_eq_blocks (output : String)
    (hdigits : ∀ s ∈ lines output.toList, ∀ digits severity message,
      Opens s (.located digits severity message) → digits.length ≤ Numeral.maxDigits) :
    ∃ bs, (∀ bs', Blocks (lines output.toList) bs' ↔ bs' = bs) ∧
      bs.map Block.opener = (lines output.toList).filterMap opener? ∧
      (read output).result = .ok (bs.map Block.diagnostic) :=
  ⟨blocksOf (lines output.toList), fun _ => blocks_iff, map_opener_blocksOf _,
    readLines_none_result hdigits⟩

/-- A report of one error with its echo and caret, of a note, and of the summary between them. -/
def sampleReport : String :=
  "Bar.java:2: error: expected\n    int x\n         ^\n1 error\nlost\nNote: Recompile.\n"

/-- The sample report has the diagnostics of its blocks, a located one and a note. -/
theorem read_eq_blocks_sampleReport :
    (∃ bs, (∀ bs', Blocks (lines sampleReport.toList) bs' ↔ bs' = bs) ∧
      bs.map Block.opener = (lines sampleReport.toList).filterMap opener? ∧
      (read sampleReport).result = .ok (bs.map Block.diagnostic)) ∧
    (read sampleReport).result =
      .ok [⟨"expected", some 2, some 10, .error⟩, ⟨"Recompile.", none, none, .note⟩] := by
  have hshort : ∀ s ∈ lines sampleReport.toList, s.length ≤ Numeral.maxDigits := by decide
  refine ⟨read_eq_blocks sampleReport ?_, by rfl⟩
  intro s hs digits severity message h
  exact h.digits_length_le.trans (hshort s hs)

end LintDaemon.Report
