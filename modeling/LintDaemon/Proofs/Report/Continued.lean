import LintDaemon.Proofs.Report.Echoes

/-!
# Reports that go on

What more lines behind a report do to its diagnostics. A diagnostic takes up the plain lines behind
it until another one begins or a count of errors or warnings stands in between, so more lines leave
the diagnostics as they are if such a count stands behind the last of them, or if what would be
taken up is blank.

* `IsSettled`: lines whose diagnostics wait for nothing more.
* `blocksOf_append`: more lines only add blocks behind those of settled lines.
* `Block.diagnostic_append_iff`: a block takes up nothing but blank lines without a change.
* `isPrefix_diagnostics_iff`: when the diagnostics of a report stay those with which it goes on.
-/

namespace LintDaemon.Report

open LintDaemon.Text

variable {ls before more plains : List (List Char)} {s : List Char} {o : Opener}

/-- Behind each line that opens something stands a count of errors or warnings. -/
def IsSettled (ls : List (List Char)) : Prop :=
  ∀ before s after o, ls = before ++ s :: after → Opens s o → ∃ t ∈ after, IsSummary t

/-! ## Lines that do not go on -/

/-- A count of errors or warnings opens nothing. -/
theorem IsSummary.not_opens (h : IsSummary s) (o : Opener) : ¬ Opens s o := by
  intro hopens
  have hcolon := hopens.colon_mem
  obtain ⟨digits, words, hnumber, hwords, rfl⟩ := h
  have hnone : ∀ words ∈ summaryWords, ':' ∉ words := by decide
  rcases List.mem_append.mp hcolon with hdigits | hmem
  · cases hnumber.decimal ':' hdigits
  · exact hnone words hwords hmem

/-- A line that opens something does not go on. -/
theorem Opens.goesOn_eq_false (h : Opens s o) : goesOn s = false := by
  rw [← Bool.not_eq_true, goesOn_iff]
  exact fun hplain => hplain.1 o h

/-- A count of errors or warnings does not go on. -/
theorem IsSummary.goesOn_eq_false (h : IsSummary s) : goesOn s = false := by
  rw [← Bool.not_eq_true, goesOn_iff]
  exact fun hplain => hplain.2 h

/-- What stands behind a line that does not go on is not taken up. -/
theorem takeWhile_goesOn_append_cons (hs : goesOn s = false) (before after : List (List Char)) :
    (before ++ s :: after).takeWhile goesOn = before.takeWhile goesOn := by
  induction before with
  | nil => simp [hs]
  | cons t before ih => simp [List.takeWhile_cons, ih]

/-- Blocks end where a line does not go on. -/
theorem blocksOf_append_cons (hs : goesOn s = false) (before after : List (List Char)) :
    blocksOf (before ++ s :: after) = blocksOf before ++ blocksOf (s :: after) := by
  induction before with
  | nil => rfl
  | cons t before ih =>
    rw [List.cons_append, blocksOf, ih, takeWhile_goesOn_append_cons hs,
      blocksOf.eq_def (t :: before)]
    dsimp only
    cases opener? t <;> rfl

/-- There are no blocks exactly if no line opens anything. -/
theorem blocksOf_eq_nil_iff : blocksOf ls = [] ↔ ∀ t ∈ ls, ∀ o, ¬ Opens t o := by
  rw [← List.map_eq_nil_iff, map_opener_blocksOf, List.filterMap_eq_nil_iff]
  simp only [opener?_eq_none_iff]

/-! ## Settled lines -/

/-- Without lines nothing waits for more. -/
theorem isSettled_nil : IsSettled [] := by
  intro before s after o hls
  simp at hls

/-- Lines are settled one by one. -/
theorem isSettled_cons_iff : IsSettled (s :: ls) ↔
    (∀ o, Opens s o → ∃ t ∈ ls, IsSummary t) ∧ IsSettled ls := by
  constructor
  · intro h
    refine ⟨fun o hopens => h [] s ls o rfl hopens, ?_⟩
    intro before t after o hls hopens
    exact h (s :: before) t after o (congrArg (s :: ·) hls) hopens
  · rintro ⟨hfirst, hrest⟩ before t after o hls hopens
    cases before with
    | nil =>
      obtain ⟨rfl, rfl⟩ := List.cons.inj hls
      exact hfirst o hopens
    | cons u before => exact hrest before t after o (List.cons.inj hls).2 hopens

/-- One more line leaves lines settled if it opens nothing, and settles them if it is a count. -/
theorem isSettled_concat_iff : IsSettled (ls ++ [s]) ↔
    (∀ o, ¬ Opens s o) ∧ (IsSummary s ∨ IsSettled ls) := by
  induction ls with
  | nil =>
    rw [List.nil_append, isSettled_cons_iff]
    simp [isSettled_nil]
  | cons t ls ih =>
    rw [List.cons_append, isSettled_cons_iff, isSettled_cons_iff, ih]
    simp only [List.mem_append, List.mem_singleton, or_and_right, exists_or, exists_eq_left]
    by_cases hsummary : IsSummary s
    · simp [hsummary]
    · simp only [hsummary, or_false, false_or]
      exact and_left_comm

/-- More lines only add blocks behind those of settled lines. -/
theorem blocksOf_append (h : IsSettled ls) (more : List (List Char)) :
    blocksOf (ls ++ more) = blocksOf ls ++ blocksOf more := by
  induction ls with
  | nil => rfl
  | cons s ls ih =>
    obtain ⟨hfirst, hrest⟩ := isSettled_cons_iff.mp h
    rw [List.cons_append, blocksOf, blocksOf, ih hrest]
    cases hopener : opener? s with
    | none => rfl
    | some o =>
      obtain ⟨t, ht, hsummary⟩ := hfirst o (opener?_eq_some_iff.mp hopener)
      have hstop := hsummary.goesOn_eq_false
      obtain ⟨first, last, rfl⟩ := List.append_of_mem ht
      rw [List.append_assoc, List.cons_append, takeWhile_goesOn_append_cons hstop,
        takeWhile_goesOn_append_cons hstop]
      rfl

/-- Lines are settled, or the last one that opens something has only plain ones behind it. -/
theorem isSettled_or_open (ls : List (List Char)) :
    IsSettled ls ∨ ∃ before s o plains, ls = before ++ s :: plains ∧ Opens s o ∧
      ∀ t ∈ plains, IsPlain t := by
  induction ls with
  | nil => exact Or.inl isSettled_nil
  | cons s ls ih =>
    rcases ih with hsettled | ⟨before, t, o, plains, rfl, hopens, hplains⟩
    · by_cases hcounted : ∃ t ∈ ls, IsSummary t
      · exact Or.inl (isSettled_cons_iff.mpr ⟨fun _ _ => hcounted, hsettled⟩)
      · cases hopener : opener? s with
        | none =>
          refine Or.inl (isSettled_cons_iff.mpr ⟨fun o hopens => ?_, hsettled⟩)
          exact absurd hopens (opener?_eq_none_iff.mp hopener o)
        | some o =>
          refine Or.inr ⟨[], s, o, ls, rfl, opener?_eq_some_iff.mp hopener, fun t ht => ?_⟩
          refine ⟨fun other hopens => hcounted ?_, fun hsummary => hcounted ⟨t, ht, hsummary⟩⟩
          -- behind another opener there would be a count
          obtain ⟨first, last, rfl⟩ := List.append_of_mem ht
          obtain ⟨u, hu, hsummary⟩ := hsettled first t last other rfl hopens
          exact ⟨u, by simp [hu], hsummary⟩
    · exact Or.inr ⟨s :: before, t, o, plains, rfl, hopens, hplains⟩

/-- The blocks of lines of which the last that opens something waits for more. -/
theorem blocksOf_open (hopens : Opens s o) (hplains : ∀ t ∈ plains, IsPlain t)
    (before more : List (List Char)) :
    blocksOf (before ++ s :: plains ++ more) =
      blocksOf before ++ ⟨o, plains ++ more.takeWhile goesOn⟩ :: blocksOf more := by
  have hgoes : ∀ t ∈ plains, goesOn t = true := fun t ht => goesOn_iff.mpr (hplains t ht)
  have hnone : ∀ t ∈ plains, opener? t = none := fun t ht =>
    opener?_eq_none_iff.mpr (hplains t ht).1
  rw [List.append_assoc, List.cons_append, blocksOf_append_cons hopens.goesOn_eq_false, blocksOf,
    opener?_eq_some_iff.mpr hopens]
  dsimp only
  rw [List.takeWhile_append_of_pos hgoes, blocksOf_append_of_opener? hnone]

/-! ## Blocks that take up more lines -/

/-- Trimming takes away only white space. -/
theorem filter_trimEnd (s : List Char) :
    (trimEnd s).filter (!isBlank ·) = s.filter (!isBlank ·) := by
  have hblank : (s.reverse.takeWhile isBlank).reverse.filter (!isBlank ·) = [] := by
    rw [List.filter_eq_nil_iff]
    intro c hc
    simp [List.mem_takeWhile_imp (List.mem_reverse.mp hc)]
  have hsplit : trimEnd s ++ (s.reverse.takeWhile isBlank).reverse = s :=
    dropEndWhile_append_takeWhile isBlank s
  have hfiltered := congrArg (List.filter (!isBlank ·)) hsplit
  rwa [List.filter_append, hblank, List.append_nil] at hfiltered

/-- White space at the end is trimmed. -/
theorem trimEnd_append_of_allBlank {t : List Char} (ht : allBlank t = true) (s : List Char) :
    trimEnd (s ++ t) = trimEnd s :=
  dropEndWhile_append_of_pos (List.all_eq_true.mp ht)

/-- Of a text of lines only the lines hold what is no white space. -/
theorem filter_join (ls : List (List Char)) :
    (join ['\n'] ls).filter (!isBlank ·) = ls.flatMap (·.filter (!isBlank ·)) := by
  cases ls with
  | nil => rfl
  | cons s ls =>
    have hfeed : ∀ t : List Char,
        ('\n' :: t).filter (!isBlank ·) = t.filter (!isBlank ·) := fun t => rfl
    rw [join_cons, List.filter_append, List.filter_flatMap, List.flatMap_cons]
    simp only [hfeed]

/-- Nothing but white space is in a text iff filtering leaves nothing. -/
theorem filter_eq_nil_iff_allBlank : s.filter (!isBlank ·) = [] ↔ allBlank s = true := by
  rw [List.filter_eq_nil_iff, allBlank, List.all_eq_true]
  simp

/-- A blank line is no caret line. -/
theorem isCaretLine_of_allBlank (h : allBlank s = true) : isCaretLine s = false := by
  rw [isCaretLine, filter_eq_nil_iff_allBlank.mpr h]
  rfl

/-- Blank lines behind a text are trimmed. -/
theorem trimEnd_join_append {k : List (List Char)} (hk : ∀ t ∈ k, allBlank t = true)
    (c : List (List Char)) (s : List Char) :
    trimEnd (join ['\n'] (s :: c ++ k)) = trimEnd (join ['\n'] (s :: c)) := by
  have hfeeds : allBlank (k.flatMap ('\n' :: ·)) = true := by
    rw [allBlank, List.all_flatMap, List.all_eq_true]
    intro t ht
    rw [List.all_cons]
    exact hk t ht
  rw [List.cons_append, join_cons, join_cons, List.flatMap_append, ← List.append_assoc,
    trimEnd_append_of_allBlank hfeeds]

namespace Block

variable {c k : List (List Char)}

/-- The first caret line of a block stays the first when more lines follow. -/
theorem caret?_append_of_some {i : Nat} (h : (Block.mk o c).caret? = some i) :
    (Block.mk o (c ++ k)).caret? = some i ∧ i < c.length := by
  cases o with
  | located digits severity message =>
    have hfind : c.findIdx? isCaretLine = some i := h
    refine ⟨?_, (List.findIdx?_eq_some_iff_findIdx_eq.mp hfind).1⟩
    show (c ++ k).findIdx? isCaretLine = some i
    rw [List.findIdx?_append, hfind, Option.some_or]
  | note message => cases h
  | general severity message => cases h

/-- Blank lines bring no caret line. -/
theorem caret?_append (hk : ∀ t ∈ k, allBlank t = true) :
    (Block.mk o (c ++ k)).caret? = (Block.mk o c).caret? := by
  cases o with
  | located digits severity message =>
    have hnone : k.findIdx? isCaretLine = none :=
      List.findIdx?_eq_none_iff.mpr fun t ht => isCaretLine_of_allBlank (hk t ht)
    show (c ++ k).findIdx? isCaretLine = c.findIdx? isCaretLine
    rw [List.findIdx?_append, hnone, Option.map_none, Option.or_none]
  | note message => rfl
  | general severity message => rfl

/-- More lines are taken up behind those of the message, unless one of them is the first caret line
of the block. -/
theorem messageLines_append (hcaret : (Block.mk o (c ++ k)).caret? = (Block.mk o c).caret?) :
    (Block.mk o (c ++ k)).messageLines = (Block.mk o c).messageLines ++ k := by
  unfold messageLines
  rw [hcaret]
  cases hfirst : (Block.mk o c).caret? with
  | none => rfl
  | some i =>
    have hi := (caret?_append_of_some (k := k) hfirst).2
    dsimp only
    rw [List.take_append_of_le_length (by omega), List.drop_append_of_le_length (by omega)]
    simp

/-- More lines do not move the column, unless one of them is the first caret line of the block. -/
theorem column?_append (hcaret : (Block.mk o (c ++ k)).caret? = (Block.mk o c).caret?) :
    (Block.mk o (c ++ k)).column? = (Block.mk o c).column? := by
  unfold column?
  rw [hcaret]
  cases hfirst : (Block.mk o c).caret? with
  | none => rfl
  | some i =>
    have hi := (caret?_append_of_some (k := k) hfirst).2
    simp only [Option.map_some, List.getD_eq_getElem?_getD, List.getElem?_append_left hi]

/-- The message begins with what the opener says. -/
theorem exists_messageLines_eq (b : Block) :
    ∃ rest, b.messageLines = b.opener.message :: rest := by
  unfold messageLines
  cases b.caret? <;> exact ⟨_, rfl⟩

/-- **A block takes up nothing but blank lines without a change.** -/
theorem diagnostic_append_iff :
    (Block.mk o (c ++ k)).diagnostic = (Block.mk o c).diagnostic ↔
      ∀ t ∈ k, allBlank t = true := by
  constructor
  · intro h
    have hcaret : (Block.mk o (c ++ k)).caret? = (Block.mk o c).caret? := by
      cases hfirst : (Block.mk o c).caret? with
      | some i => exact (caret?_append_of_some hfirst).1
      | none =>
        -- a caret line among the lines that are taken up would point at a column
        have hcolumn : (Block.mk o (c ++ k)).column?.map Int.ofNat =
            (Block.mk o c).column?.map Int.ofNat := congrArg Diagnostic.column h
        rw [column?, column?, hfirst] at hcolumn
        simpa using hcolumn
    have hmessage : String.ofList (trimEnd (join ['\n'] (Block.mk o (c ++ k)).messageLines)) =
        String.ofList (trimEnd (join ['\n'] (Block.mk o c).messageLines)) :=
      congrArg Diagnostic.message h
    have hsolid := congrArg (List.filter (!isBlank ·)) (String.ofList_inj.mp hmessage)
    rw [filter_trimEnd, filter_trimEnd, messageLines_append hcaret, filter_join, filter_join,
      List.flatMap_append] at hsolid
    have hnothing : k.flatMap (·.filter (!isBlank ·)) = [] :=
      List.append_cancel_left (hsolid.trans (List.append_nil _).symm)
    intro t ht
    exact filter_eq_nil_iff_allBlank.mp (List.flatMap_eq_nil_iff.mp hnothing t ht)
  · intro h
    have hcaret := @caret?_append o c k h
    obtain ⟨rest, hlines⟩ := (Block.mk o c).exists_messageLines_eq
    unfold diagnostic
    rw [messageLines_append hcaret, column?_append hcaret, hlines, trimEnd_join_append h]

end Block

/-! ## Diagnostics that stay -/

/-- **The diagnostics of lines stay those with which longer lines begin** iff they wait for nothing
more, or if what the last of them takes up is blank. -/
theorem isPrefix_diagnostics_iff :
    (blocksOf ls).map Block.diagnostic <+: (blocksOf (ls ++ more)).map Block.diagnostic ↔
      IsSettled ls ∨ ∀ t ∈ more.takeWhile goesOn, allBlank t = true := by
  rcases isSettled_or_open ls with hsettled | ⟨before, s, o, plains, rfl, hopens, hplains⟩
  · rw [blocksOf_append hsettled, List.map_append]
    exact iff_of_true (List.prefix_append _ _) (Or.inl hsettled)
  · have hunsettled : ¬ IsSettled (before ++ s :: plains) := by
      intro hsettled
      obtain ⟨t, ht, hsummary⟩ := hsettled before s plains o rfl hopens
      exact (hplains t ht).2 hsummary
    have halone := blocksOf_open hopens hplains before []
    rw [List.append_nil, List.takeWhile_nil, List.append_nil] at halone
    rw [halone, blocksOf_open hopens hplains, List.map_append, List.map_append,
      List.prefix_append_right_inj, List.map_cons, List.map_cons, List.cons_prefix_cons,
      or_iff_right hunsettled, eq_comm, Block.diagnostic_append_iff]
    exact and_iff_left List.nil_prefix

end LintDaemon.Report
