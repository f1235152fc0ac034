import LintDaemon.Proofs.Text.Utf8

/-!
# Texts that break off

What is read of the first bytes of a text, and which lines are complete in its first characters.

* `IsAscii`: texts in ASCII.
* `Utf8.scan_append`: bytes are scanned in parts.
* `Utf8.BreaksOff`, `Utf8.exists_breaksOff`: the first bytes of a text are read as its first
  characters; if they break off inside a character, a replacement stands for it, unless it is still
  waited for.
* `completeLines`: the lines of a text that have ended.
* `normalizeNewlines_isPrefix`, `completeLines_isPrefix`: what follows adds to lines, and takes none
  away.
* `flatten_completeLines`: a text is its complete lines and what stands behind them.
-/

namespace LintDaemon.Text

/-! ## Texts in ASCII -/

/-- A text in ASCII. -/
def IsAscii (s : List Char) : Prop :=
  ∀ c ∈ s, c.toNat ≤ 0x7F

/-- Whether a text is in ASCII can be computed. -/
instance (s : List Char) : Decidable (IsAscii s) :=
  decidable_of_iff (s.all (·.toNat ≤ 0x7F) = true) (by simp [IsAscii])

/-- Two texts put together are in ASCII exactly if both are. -/
theorem isAscii_append_iff {s t : List Char} : IsAscii (s ++ t) ↔ IsAscii s ∧ IsAscii t :=
  List.forall_mem_append

/-! ## Bytes -/

namespace Utf8

/-- Bytes are scanned in parts, each behind what is partial of the one before. -/
theorem scan_append (p : Option Partial) (first second : List UInt8) :
    scan p (first ++ second) =
      ((scan p first).1 ++ (scan (scan p first).2 second).1,
        (scan (scan p first).2 second).2) := by
  fun_induction scan p first with
  | case1 p => rfl
  | case2 b rest piece hlead out last hscan ih =>
    rw [hscan] at ih
    rw [List.cons_append, scan_none_of_lead_inl hlead, ih]
    rfl
  | case3 b rest q hlead ih => rw [List.cons_append, scan_none_of_lead_inr hlead, ih]
  | case4 p b rest piece hpush out last hscan ih =>
    rw [hscan] at ih
    rw [List.cons_append, scan_some_of_push_inl hpush, ih]
    rfl
  | case5 p b rest q hpush ih => rw [List.cons_append, scan_some_of_push_inr hpush, ih]
  | case6 p b rest hpush broken piece hlead out last hscan ih =>
    rw [hscan] at ih
    simp only [List.cons_append, scan, hpush, hlead, ih, broken]
  | case7 p b rest hpush broken q hlead out last hscan ih =>
    rw [hscan] at ih
    simp only [List.cons_append, scan, hpush, hlead, ih, broken]

/-- Some of the bytes of a character are no piece yet. -/
theorem scan_first {c : Char} {first last : List UInt8}
    (hc : String.utf8EncodeChar c = first ++ last) (hfirst : first ≠ []) (hlast : last ≠ []) :
    ∃ p, scan none first = ([], some p) := by
  have hwhole := scan_encodeChar_append c []
  rw [List.append_nil, hc, scan_append, scan] at hwhole
  obtain ⟨hpieces, hrest⟩ := Prod.mk.inj hwhole
  rcases hscan : scan none first with ⟨out, p⟩
  rw [hscan] at hpieces hrest
  -- a piece of the first bytes would leave none for the last ones
  cases out with
  | cons piece out =>
    obtain ⟨-, hnone⟩ := List.append_eq_nil_iff.mp (List.cons.inj hpieces).2
    exact absurd (eq_nil_of_scan_eq (Prod.ext hnone hrest)).2 hlast
  | nil =>
    cases p with
    | none => exact absurd (eq_nil_of_scan_eq hscan).2 hfirst
    | some p => exact ⟨p, rfl⟩

/-- The first bytes of a text are whole characters, or break off inside one. -/
theorem encode_eq_append_cases {text : List Char} {cut missing : List UInt8}
    (h : encode text = cut ++ missing) :
    (∃ read next, text = read ++ next ∧ cut = encode read ∧ missing = encode next) ∨
      ∃ read c next first last, text = read ++ c :: next ∧ cut = encode read ++ first ∧
        String.utf8EncodeChar c = first ++ last ∧ first ≠ [] ∧ last ≠ [] := by
  induction text generalizing cut with
  | nil =>
    obtain ⟨rfl, rfl⟩ := List.append_eq_nil_iff.mp h.symm
    exact Or.inl ⟨[], [], rfl, rfl, rfl⟩
  | cons c text ih =>
    have hencode : encode (c :: text) = String.utf8EncodeChar c ++ encode text := List.flatMap_cons
    rw [hencode] at h
    rcases List.append_eq_append_iff.mp h with ⟨rest, rfl, hrest⟩ | ⟨last, hc, rfl⟩
    · rcases ih hrest with ⟨read, next, rfl, rfl, hmissing⟩ |
        ⟨read, d, next, first, last, rfl, rfl, hd⟩
      · exact Or.inl ⟨c :: read, next, rfl, List.flatMap_cons.symm, hmissing⟩
      · refine Or.inr ⟨c :: read, d, next, first, last, rfl, ?_, hd⟩
        rw [← List.append_assoc]
        exact congrArg (· ++ first) List.flatMap_cons.symm
    · by_cases hcut : cut = []
      · subst hcut
        refine Or.inl ⟨[], c :: text, rfl, rfl, ?_⟩
        rw [hencode, hc]
        rfl
      by_cases hlast : last = []
      · subst hlast
        refine Or.inl ⟨[c], text, rfl, ?_, rfl⟩
        rw [List.append_nil] at hc
        rw [← hc]
        exact (List.flatMap_singleton _ _).symm
      · exact Or.inr ⟨[], c, text, cut, last, rfl, rfl, hc, hcut, hlast⟩

/-- A character whose bytes can break off is not in ASCII. -/
theorem ascii_lt_of_encodeChar_eq {c : Char} {first last : List UInt8}
    (hc : String.utf8EncodeChar c = first ++ last) (hfirst : first ≠ []) (hlast : last ≠ []) :
    0x7F < c.toNat := by
  refine Nat.lt_of_not_le fun hascii => ?_
  have hsize : (String.utf8EncodeChar c).length = 1 := by
    rw [String.length_utf8EncodeChar, Char.utf8Size_eq_one_iff]
    exact UInt32.le_iff_toNat_le.mpr hascii
  rw [hc, List.length_append] at hsize
  have hpos := List.length_pos_iff.mpr hfirst
  have hpos' := List.length_pos_iff.mpr hlast
  omega

/-- What is read of bytes with which a text begins: its first characters, and a replacement for one
of which only some bytes are there. -/
structure BreaksOff (text : List Char) (cut : List UInt8) (read next tail : List Char) : Prop where
  /-- Some characters are read, and the others are not. -/
  text_eq : text = read ++ next
  /-- The bytes of those that are read are there. -/
  encode_isPrefix : encode read <+: cut
  /-- While more may come nothing is replaced. -/
  heldBack_eq : decodeHeldBack cut = read
  /-- At the end there may be a replacement. -/
  lossy_eq : decodeLossy cut = read ++ tail
  /-- Either the bytes end with a character, or they break off inside one that is not in ASCII. -/
  tail_cases : (tail = [] ∧ cut = encode read) ∨
    (tail = ['\ufffd'] ∧ ∃ c rest, next = c :: rest ∧ 0x7F < c.toNat)

/-- **The first bytes of a text are read as its first characters.** If they break off inside a
character it is replaced, or left out if it is still waited for. -/
theorem exists_breaksOff {text : List Char} {cut missing : List UInt8}
    (h : encode text = cut ++ missing) :
    ∃ read next tail, BreaksOff text cut read next tail := by
  rcases encode_eq_append_cases h with ⟨read, next, htext, rfl, -⟩ |
    ⟨read, c, next, first, last, htext, rfl, hc, hfirst, hlast⟩
  · have hread := decodeHeldBack_encode_append read []
    rw [List.append_nil] at hread
    refine ⟨read, next, [], htext, List.prefix_rfl, hread.trans (List.append_nil read), ?_,
      Or.inl ⟨rfl, rfl⟩⟩
    rw [decodeLossy_encode, List.append_nil]
  · obtain ⟨p, hscan⟩ := scan_first hc hfirst hlast
    refine ⟨read, c :: next, ['\ufffd'], htext, List.prefix_append _ _, ?_, ?_,
      Or.inr ⟨rfl, c, next, rfl, ascii_lt_of_encodeChar_eq hc hfirst hlast⟩⟩
    · rw [decodeHeldBack_encode_append, decodeHeldBack, settledPieces, hscan]
      exact List.append_nil read
    · rw [decodeLossy_encode_append, decodeLossy, pieces, hscan]
      rfl

namespace BreaksOff

variable {text read next tail : List Char} {cut : List UInt8}
  (h : BreaksOff text cut read next tail)

include h

/-- Bytes do not break off inside a character in ASCII. -/
theorem tail_eq_nil {c : Char} {rest : List Char} (hnext : next = c :: rest)
    (hascii : c.toNat ≤ 0x7F) : tail = [] := by
  rcases h.tail_cases with ⟨htail, -⟩ | ⟨-, d, behind, hd, hlarge⟩
  · exact htail
  · rw [hnext] at hd
    obtain ⟨rfl, -⟩ := List.cons.inj hd
    omega

/-- Bytes do not break off inside a character of a text in ASCII. -/
theorem tail_eq_nil_of_isAscii {coming behind : List Char} (hnext : next = coming ++ behind)
    (hne : coming ≠ []) (hascii : IsAscii coming) : tail = [] := by
  obtain ⟨c, rest, rfl⟩ := List.exists_cons_of_ne_nil hne
  exact h.tail_eq_nil hnext (hascii c List.mem_cons_self)

/-- A replacement ends no line. -/
theorem isOneLine_tail : IsOneLine tail := by
  rcases h.tail_cases with ⟨rfl, -⟩ | ⟨rfl, -⟩
  · exact ⟨by decide, by decide⟩
  · exact ⟨by decide, by decide⟩

/-- The bytes begin with those of a text exactly if what is read begins with it. -/
theorem encode_isPrefix_iff {s : List Char} : encode s <+: cut ↔ s <+: read := by
  constructor
  · rintro ⟨rest, rfl⟩
    rw [← h.heldBack_eq, decodeHeldBack_encode_append]
    exact List.prefix_append _ _
  · rintro ⟨rest, rfl⟩
    refine List.IsPrefix.trans ?_ h.encode_isPrefix
    rw [encode_append]
    exact List.prefix_append _ _

end BreaksOff

/-- If more is missing of a text than the line feed at its end, then some of its line is. -/
theorem exists_breaksOff_line {line : List Char} {cut missing : List UInt8}
    (h : encode (line ++ ['\n']) = cut ++ missing) (hmissing : 2 ≤ missing.length) :
    ∃ read next tail, next ≠ [] ∧ BreaksOff line cut read next tail := by
  obtain ⟨read, next, tail, hbreak⟩ := exists_breaksOff h
  have hlong : 2 ≤ (encode next).length := by
    obtain ⟨rest, rfl⟩ := hbreak.encode_isPrefix
    rw [hbreak.text_eq, encode_append, List.append_assoc] at h
    have hnext := congrArg List.length (List.append_cancel_left h)
    rw [List.length_append] at hnext
    omega
  have hshort : (encode ['\n']).length = 1 := rfl
  rcases List.append_eq_append_iff.mp hbreak.text_eq with ⟨more, -, hmore⟩ | ⟨start, hline, rfl⟩
  · rw [hmore, encode_append, List.length_append] at hshort
    omega
  · cases start with
    | nil =>
      rw [List.nil_append] at hlong
      omega
    | cons c start =>
      refine ⟨read, c :: start, tail, List.cons_ne_nil _ _, hline, hbreak.encode_isPrefix,
        hbreak.heldBack_eq, hbreak.lossy_eq, ?_⟩
      refine hbreak.tail_cases.imp_right fun ⟨htail, d, rest, hd, hlarge⟩ => ?_
      obtain ⟨rfl, -⟩ := List.cons.inj hd
      exact ⟨htail, c, start, rfl, hlarge⟩

end Utf8

/-! ## Line feeds for carriage returns -/

/-- The beginning of a text on one line is on one line. -/
theorem IsOneLine.left {s t : List Char} (h : IsOneLine (s ++ t)) : IsOneLine s :=
  ⟨fun hmem => h.no_newline (List.mem_append_left t hmem),
    fun hmem => h.no_return (List.mem_append_left t hmem)⟩

/-- What follows a text adds to its line ends, and takes none away. -/
theorem normalizeNewlines_isPrefix (s t : List Char) :
    normalizeNewlines s <+: normalizeNewlines (s ++ t) := by
  induction s with
  | nil => exact List.nil_prefix
  | cons c s ih =>
    by_cases hc : c = '\r'
    · subst hc
      rw [List.cons_append, normalizeNewlines_return, normalizeNewlines_return]
      cases s with
      | nil =>
        -- a carriage return at the end is a line end, whether a line feed follows or not
        cases t with
        | nil => exact List.prefix_rfl
        | cons d t =>
          by_cases hd : d = '\n'
          · subst hd
            rw [List.nil_append, normalizeNewlines_cons (by decide)]
            exact ⟨normalizeNewlines t, rfl⟩
          · rw [if_neg (by simp), if_neg (by simpa using hd)]
            exact ⟨normalizeNewlines (d :: t), rfl⟩
      | cons d s =>
        rw [List.cons_append, List.head?_cons, List.head?_cons]
        split_ifs
        · exact ih
        · exact List.cons_prefix_cons.mpr ⟨rfl, ih⟩
    · rw [List.cons_append, normalizeNewlines_cons hc, normalizeNewlines_cons hc]
      exact List.cons_prefix_cons.mpr ⟨rfl, ih⟩

/-- A text without a carriage return at its end is the beginning of the text. -/
theorem withoutLastReturn_isPrefix (s : List Char) : withoutLastReturn s <+: s := by
  unfold withoutLastReturn
  split
  · exact List.dropLast_prefix s
  · exact List.prefix_rfl

/-- A character that is no line feed stays what it is behind any text. -/
theorem normalizeNewlines_concat (s : List Char) {c : Char} (hnewline : c ≠ '\n')
    (hreturn : c ≠ '\r') :
    normalizeNewlines (s ++ [c]) = normalizeNewlines s ++ [c] := by
  induction s with
  | nil => exact normalizeNewlines_cons hreturn []
  | cons d s ih =>
    by_cases hd : d = '\r'
    · subst hd
      have hhead : ((s ++ [c]).head? = some '\n') ↔ (s.head? = some '\n') := by
        cases s with
        | nil => simpa using hnewline
        | cons e s => rfl
      rw [List.cons_append, normalizeNewlines_return, normalizeNewlines_return, ih]
      simp only [hhead]
      split_ifs <;> rfl
    · rw [List.cons_append, normalizeNewlines_cons hd, normalizeNewlines_cons hd, ih]
      rfl

/-! ## Complete lines -/

/-- The lines of a text that have ended, without their line feeds. -/
def completeLines (s : List Char) : List (List Char) :=
  (fields '\n' s).dropLast

/-- What stands behind the lines of a text that have ended. -/
def lastLine (s : List Char) : List Char :=
  (fields '\n' s).getLast (fields_ne_nil '\n' s)

/-- The fields of a text are its complete lines and its last one. -/
theorem completeLines_append_lastLine (s : List Char) :
    completeLines s ++ [lastLine s] = fields '\n' s :=
  List.dropLast_concat_getLast (fields_ne_nil '\n' s)

/-- A line feed completes the last line. -/
theorem completeLines_newline (s t : List Char) :
    completeLines (s ++ '\n' :: t) = fields '\n' s ++ completeLines t := by
  unfold completeLines
  rw [fields_append, List.dropLast_append_of_ne_nil (fields_ne_nil '\n' t)]

/-- The last line of a text is that of what stands behind a line feed. -/
theorem lastLine_newline (s t : List Char) : lastLine (s ++ '\n' :: t) = lastLine t := by
  unfold lastLine
  simp only [fields_append]
  exact List.getLast_append_of_ne_nil _ (fields_ne_nil '\n' t)

/-- A text without a line feed is one line, which has not ended. -/
theorem completeLines_of_not_mem {s : List Char} (h : '\n' ∉ s) : completeLines s = [] := by
  unfold completeLines
  rw [fields_of_not_mem h]
  rfl

/-- A text without a line feed is its last line. -/
theorem lastLine_of_not_mem {s : List Char} (h : '\n' ∉ s) : lastLine s = s := by
  unfold lastLine
  simp only [fields_of_not_mem h]
  rfl

/-- A text is one line that has not ended, or has a last line feed. -/
theorem lastLine_cases (s : List Char) :
    '\n' ∉ s ∨ ∃ u l, '\n' ∉ l ∧ s = u ++ '\n' :: l := by
  induction s with
  | nil => exact Or.inl List.not_mem_nil
  | cons c s ih =>
    rcases ih with h | ⟨u, l, hl, rfl⟩
    · by_cases hc : c = '\n'
      · subst hc
        exact Or.inr ⟨[], s, h, rfl⟩
      · exact Or.inl fun hmem => (List.mem_cons.mp hmem).elim (fun heq => hc heq.symm) h
    · exact Or.inr ⟨c :: u, l, hl, rfl⟩

/-- Lines that are complete stay so. -/
theorem completeLines_isPrefix (s t : List Char) : completeLines s <+: completeLines (s ++ t) := by
  rcases lastLine_cases s with h | ⟨u, l, hl, rfl⟩
  · rw [completeLines_of_not_mem h]
    exact List.nil_prefix
  · rw [List.append_assoc, List.cons_append, completeLines_newline, completeLines_newline,
      completeLines_of_not_mem hl, List.append_nil]
    exact List.prefix_append _ _

/-- What follows without a line feed completes no line. -/
theorem completeLines_append_of_not_mem (s : List Char) {t : List Char} (ht : '\n' ∉ t) :
    completeLines (s ++ t) = completeLines s := by
  rcases lastLine_cases s with h | ⟨u, l, hl, rfl⟩
  · rw [completeLines_of_not_mem h, completeLines_of_not_mem (by simp [h, ht])]
  · rw [List.append_assoc, List.cons_append, completeLines_newline, completeLines_newline,
      completeLines_of_not_mem hl, completeLines_of_not_mem (by simp [hl, ht])]

/-- What follows without a line feed goes on the last line. -/
theorem lastLine_append_of_not_mem (s : List Char) {t : List Char} (ht : '\n' ∉ t) :
    lastLine (s ++ t) = lastLine s ++ t := by
  rcases lastLine_cases s with h | ⟨u, l, hl, rfl⟩
  · rw [lastLine_of_not_mem h, lastLine_of_not_mem (by simp [h, ht])]
  · rw [List.append_assoc, List.cons_append, lastLine_newline, lastLine_newline,
      lastLine_of_not_mem hl, lastLine_of_not_mem (by simp [hl, ht])]

/-- A whole text has an empty last line. -/
theorem IsWhole.lastLine_eq {s : List Char} (hs : IsWhole s) : lastLine s = [] := by
  rcases hs with rfl | ⟨u, rfl⟩
  · rfl
  · rw [lastLine_newline]
    rfl

/-- A text is its complete lines, each with its line feed, and its last one. -/
theorem flatten_completeLines (s : List Char) :
    ((completeLines s).map (· ++ ['\n'])).flatten ++ lastLine s = s := by
  rcases lastLine_cases s with h | ⟨u, l, hl, hs⟩
  · rw [completeLines_of_not_mem h, lastLine_of_not_mem h]
    rfl
  · have ih := flatten_completeLines u
    rw [hs, completeLines_newline, lastLine_newline, completeLines_of_not_mem hl,
      lastLine_of_not_mem hl, ← completeLines_append_lastLine]
    simp only [List.append_nil, List.map_append, List.map_cons, List.map_nil, List.flatten_append,
      List.flatten_cons, List.flatten_nil]
    rw [← List.append_assoc, ih, List.append_assoc]
    rfl
termination_by s.length
decreasing_by
  rw [hs, List.length_append, List.length_cons]
  omega

/-- No complete line has a line feed. -/
theorem not_mem_of_mem_completeLines {s line : List Char} (h : line ∈ completeLines s) :
    '\n' ∉ line :=
  not_mem_of_mem_fields (List.dropLast_subset _ h)

end LintDaemon.Text
