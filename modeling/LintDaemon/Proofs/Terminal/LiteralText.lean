import LintDaemon.Proofs.Terminal.EmojiCodes
import LintDaemon.Terminal.Markup
import Mathlib.Data.List.Infix
import Mathlib.Data.List.TakeWhile

/-!
# Texts that markup leaves as they are

* `Markup.IsTag`: what markup takes for a tag.
* `Markup.IsLiteral`: texts without tags, escapes, codes of emoji and characters that move the
  cursor.
* `Markup.tokensFrom_cases`: the tokens of a text without a tag are the text; those of any other
  text have lost characters.
* `Markup.plainText_isLeftOf`: what a stretch of text stands for is a part of it, or has lost
  colons.
* `Markup.exists_read_chars_eq_iff`: a text is shown as it is exactly if it is literal.
-/

namespace LintDaemon.Terminal.Markup

open LintDaemon.Text

/-! ## Literal texts -/

/-- What markup takes for a tag: a bracket, a character with which a tag may begin, and all up to
the next closing bracket, with no bracket before that. -/
def IsTag (tag : List Char) : Prop :=
  ∃ first body, tag = '[' :: first :: (body ++ [']']) ∧ beginsTag first = true ∧
    ∀ c ∈ body, c ≠ '[' ∧ c ≠ ']'

/-- A text that markup leaves as it is. -/
structure IsLiteral (s : List Char) : Prop where
  /-- It holds no tag. -/
  noTag : ∀ tag, IsTag tag → ¬ tag <:+: s
  /-- No backslash stands in front of a bracket. -/
  noEscape : ¬ ['\\', '['] <:+: s
  /-- No character moves the cursor. -/
  noControl : ∀ c ∈ s, isCursorControl c = false
  /-- What is read as a code in it is not the code of an emoji. -/
  noEmoji : ∀ code ∈ Emoji.codes s, emojiFor? code = none

/-! ## Tags -/

/-- What a tag holds stands between brackets. -/
theorem tagAt?_eq_some {s content : List Char} (h : tagAt? s = some content) :
    IsTag ('[' :: (content ++ [']'])) ∧ ∃ rest, s = '[' :: (content ++ ']' :: rest) := by
  unfold tagAt? at h
  split at h
  · rename_i first rest
    split_ifs at h with hfirst
    dsimp only at h
    split at h
    · rename_i after hafter
      cases h
      have hbody := List.prefix_append_drop
        (List.takeWhile_prefix (l := rest) fun c => c != '[' && c != ']')
      rw [hafter] at hbody
      refine ⟨⟨first, _, rfl, hfirst, ?_⟩, after, congrArg ('[' :: first :: ·) hbody⟩
      intro c hc
      simpa using List.mem_takeWhile_imp hc
    · cases h
  · cases h

/-- A tag is found where it begins. -/
theorem tagAt?_append {first : Char} {body : List Char} (hfirst : beginsTag first = true)
    (hbody : ∀ c ∈ body, c ≠ '[' ∧ c ≠ ']') (rest : List Char) :
    tagAt? ('[' :: first :: (body ++ ']' :: rest)) = some (first :: body) := by
  have htake : (body ++ ']' :: rest).takeWhile (fun c => c != '[' && c != ']') = body := by
    rw [List.takeWhile_append_of_pos (by simpa using hbody), List.takeWhile_cons_of_neg (by decide),
      List.append_nil]
  rw [tagAt?, if_pos hfirst]
  dsimp only
  rw [htake, List.drop_left]
  rfl

/-- A text holds no tag exactly if none begins at any of its characters. -/
theorem forall_not_isInfix_iff {s : List Char} :
    (∀ tag, IsTag tag → ¬ tag <:+: s) ↔ ∀ t, t <:+ s → tagAt? t = none := by
  constructor
  · intro h t ht
    by_contra hne
    obtain ⟨content, hcontent⟩ := Option.ne_none_iff_exists'.mp hne
    obtain ⟨htag, rest, rfl⟩ := tagAt?_eq_some hcontent
    refine h _ htag (List.IsInfix.trans ?_ ht.isInfix)
    exact ⟨[], rest, by simp⟩
  · rintro h tag ⟨first, body, rfl, hfirst, hbody⟩ ⟨before, after, rfl⟩
    have hfound := tagAt?_append hfirst hbody after
    rw [h _ ⟨before, by simp⟩] at hfound
    cases hfound

/-! ## Tokens -/

/-- The characters of a text that a token keeps. -/
def Token.written : Token → List Char
  | .text s => s
  | .tag _ _ _ => []

/-- The characters that are shown for a token. -/
def Token.shown : Token → List Char
  | .text s => plainText s
  | .tag _ _ _ => []

/-- Text is kept. -/
theorem written_textToken (reversed : List Char) :
    (textToken reversed).flatMap Token.written = reversed.reverse := by
  unfold textToken
  split_ifs with h
  · rw [h]
    rfl
  · simp [Token.written]

/-- Text is shown as what it stands for. -/
theorem shown_textToken (reversed : List Char) :
    (textToken reversed).flatMap Token.shown = plainText reversed.reverse := by
  unfold textToken
  split_ifs with h
  · rw [h]
    rfl
  · simp [Token.shown]

/-- A tag loses characters, also one that a backslash makes text. -/
theorem written_tagTokens (position backslashes : Nat) (content : List Char) :
    ((tagTokens position backslashes content).flatMap Token.written).Sublist
        (List.replicate backslashes '\\' ++ '[' :: (content ++ [']'])) ∧
      ((tagTokens position backslashes content).flatMap Token.written).length <
        backslashes + content.length + 2 := by
  have hhalf : backslashes / 2 ≤ backslashes := Nat.div_le_self _ _
  have hbackslashes : (List.replicate (backslashes / 2) '\\').Sublist
      (List.replicate backslashes '\\') := (List.replicate_sublist_replicate '\\').mpr hhalf
  unfold tagTokens
  rw [List.flatMap_append, written_textToken, List.reverse_replicate]
  split_ifs with hodd
  · constructor
    · have htag := List.Sublist.refl ('[' :: (content ++ [']']))
      simpa [Token.written] using hbackslashes.append htag
    · simp [Token.written]
      omega
  · constructor
    · simpa [Token.written] using hbackslashes.trans (List.sublist_append_left _ _)
    · simp [Token.written]
      omega

/-- Characters that belong to the tag before are passed. -/
theorem tokensFrom_eq (skip position : Nat) (before s : List Char) :
    tokensFrom skip position before s = tokensFrom 0 (position + skip) before (s.drop skip) := by
  induction s generalizing skip position with
  | nil => simp [tokensFrom]
  | cons c rest ih =>
    cases skip with
    | zero => rfl
    | succ skip =>
      rw [tokensFrom, ih, List.drop_succ_cons]
      congr 1
      omega

/-- The tokens of a text that begins with a tag, which may have backslashes in front of it. -/
theorem tokensFrom_tag {c : Char} {rest content after : List Char} (position : Nat)
    (before : List Char)
    (h : tagAt? ((c :: rest).drop ((c :: rest).takeWhile (· == '\\')).length) = some content)
    (hafter : (c :: rest).drop ((c :: rest).takeWhile (· == '\\')).length =
      '[' :: (content ++ ']' :: after)) :
    ∃ backslashes, c :: rest = List.replicate backslashes '\\' ++ '[' :: (content ++ ']' :: after) ∧
      tokensFrom 0 position before (c :: rest) =
        textToken before ++ tagTokens position backslashes content ++
          tokensFrom 0 (position + 1 + (backslashes + content.length + 1)) [] after := by
  have hsplit := List.prefix_append_drop (List.takeWhile_prefix (l := c :: rest) (· == '\\'))
  have hreplicate : (c :: rest).takeWhile (· == '\\') =
      List.replicate ((c :: rest).takeWhile (· == '\\')).length '\\' := by
    refine List.eq_replicate_of_mem fun d hd => ?_
    simpa using List.mem_takeWhile_imp hd
  rw [hreplicate, List.length_replicate, hafter] at hsplit
  have hstep : tokensFrom 0 position before (c :: rest) =
      textToken before ++ tagTokens position ((c :: rest).takeWhile (· == '\\')).length content ++
        tokensFrom (((c :: rest).takeWhile (· == '\\')).length + content.length + 1) (position + 1)
          [] rest := by
    rw [tokensFrom, h]
  generalize ((c :: rest).takeWhile (· == '\\')).length = backslashes at hsplit hstep
  refine ⟨backslashes, hsplit, ?_⟩
  have hdrop : rest.drop (backslashes + content.length + 1) = after := by
    rw [← List.drop_succ_cons (a := c), hsplit]
    have hshape : List.replicate backslashes '\\' ++ '[' :: (content ++ ']' :: after) =
        (List.replicate backslashes '\\' ++ '[' :: (content ++ [']'])) ++ after := by simp
    rw [hshape]
    exact List.drop_left' (by simp; omega)
  rw [hstep, tokensFrom_eq _ _ _ rest, hdrop]

/-- The tokens of a text without a tag are the text, and those of any other text have lost
characters. -/
theorem tokensFrom_cases (position : Nat) (before s : List Char) :
    ((∀ t, t <:+ s → tagAt? t = none) ∧
        tokensFrom 0 position before s = textToken (s.reverse ++ before)) ∨
      ((∃ t, t <:+ s ∧ tagAt? t ≠ none) ∧
        ((tokensFrom 0 position before s).flatMap Token.written).Sublist (before.reverse ++ s) ∧
        ((tokensFrom 0 position before s).flatMap Token.written).length <
          before.length + s.length) := by
  induction hn : s.length using Nat.strong_induction_on generalizing position before s with
  | _ n ih =>
    subst hn
    cases s with
    | nil => exact Or.inl ⟨by simp [tagAt?], by simp [tokensFrom]⟩
    | cons c rest =>
      cases htag : tagAt? ((c :: rest).drop ((c :: rest).takeWhile (· == '\\')).length) with
      | none =>
        have hstep : tokensFrom 0 position before (c :: rest) =
            tokensFrom 0 (position + 1) (c :: before) rest := by
          rw [tokensFrom, htag]
        rw [hstep]
        refine (ih rest.length (Nat.lt_succ_self _) (position + 1) (c :: before) rest rfl).imp
          ?_ ?_
        · rintro ⟨hnone, htokens⟩
          refine ⟨?_, by rw [htokens]; simp⟩
          intro t ht
          rcases List.suffix_cons_iff.mp ht with rfl | ht
          · -- a tag at the first character would have no backslash in front of it
            by_contra hne
            obtain ⟨content, hcontent⟩ := Option.ne_none_iff_exists'.mp hne
            obtain ⟨-, after, hafter⟩ := tagAt?_eq_some hcontent
            cases hafter
            exact hne htag
          · exact hnone t ht
        · rintro ⟨⟨t, ht, htag⟩, hsublist, hlength⟩
          refine ⟨⟨t, ht.trans (List.suffix_cons c rest), htag⟩, by simpa using hsublist, ?_⟩
          simp only [List.length_cons] at hlength ⊢
          omega
      | some content =>
        obtain ⟨-, after, hafter⟩ := tagAt?_eq_some htag
        obtain ⟨backslashes, heq, htokens⟩ := tokensFrom_tag position before htag hafter
        obtain ⟨htags, hshorter⟩ := written_tagTokens position backslashes content
        have hlength := congrArg List.length heq
        simp only [List.length_cons, List.length_append, List.length_replicate] at hlength
        have hafterward := ih after.length (by simp only [List.length_cons]; omega)
          (position + 1 + (backslashes + content.length + 1)) [] after rfl
        have hkept : ((tokensFrom 0 (position + 1 + (backslashes + content.length + 1)) []
            after).flatMap Token.written).Sublist after := by
          rcases hafterward with ⟨-, hsame⟩ | ⟨-, hsublist, -⟩
          · rw [hsame, written_textToken]
            simp
          · exact hsublist
        have hfound : ∃ t, t <:+ c :: rest ∧ tagAt? t ≠ none :=
          ⟨_, List.drop_suffix _ _, by rw [htag]; exact Option.some_ne_none content⟩
        refine Or.inr ⟨hfound, ?_⟩
        rw [htokens, heq, List.flatMap_append, List.flatMap_append, written_textToken]
        constructor
        · have hshape : List.replicate backslashes '\\' ++ '[' :: (content ++ ']' :: after) =
              (List.replicate backslashes '\\' ++ '[' :: (content ++ [']'])) ++ after := by simp
          rw [hshape, ← List.append_assoc]
          exact ((List.Sublist.refl _).append htags).append hkept
        · have hle := hkept.length_le
          simp only [List.length_append, List.length_reverse, List.length_cons,
            List.length_replicate]
          omega

/-! ## Stretches of text -/

/-- Leaving out backslashes in front of brackets only loses characters. -/
theorem unescape_sublist (s : List Char) : (unescape s).Sublist s := by
  fun_induction unescape s with
  | case1 rest ih => exact (ih.cons_cons '[').cons '\\'
  | case2 c rest _ ih => exact ih.cons_cons c
  | case3 => exact List.Sublist.refl []

/-- A text stays as it is exactly if no backslash stands in front of a bracket. -/
theorem unescape_eq_self_iff {s : List Char} : unescape s = s ↔ ¬ ['\\', '['] <:+: s := by
  fun_induction unescape s with
  | case1 rest ih =>
    refine iff_of_false ?_ (not_not.mpr ⟨[], rest, rfl⟩)
    intro heq
    have hlength := congrArg List.length heq
    have hle := (unescape_sublist rest).length_le
    simp only [List.length_cons] at hlength
    omega
  | case2 c rest hne ih =>
    rw [List.cons_inj_right, ih, List.infix_cons_iff, not_or]
    refine (and_iff_right ?_).symm
    rintro ⟨after, hafter⟩
    cases hafter
    exact hne after rfl rfl
  | case3 => exact iff_of_true rfl (by simp)

/-- What is left of a text: a part of it, or something with fewer colons. -/
def IsLeftOf (t s : List Char) : Prop :=
  t.Sublist s ∨ t.count Emoji.codeMark < s.count Emoji.codeMark

/-- What is left of a text has no more colons. -/
theorem IsLeftOf.count_le {t s : List Char} (h : IsLeftOf t s) :
    t.count Emoji.codeMark ≤ s.count Emoji.codeMark := by
  rcases h with hsublist | hfewer
  · exact hsublist.count_le _
  · exact hfewer.le

/-- What is left of two texts is left of them together. -/
theorem IsLeftOf.append {t₁ s₁ t₂ s₂ : List Char} (h₁ : IsLeftOf t₁ s₁) (h₂ : IsLeftOf t₂ s₂) :
    IsLeftOf (t₁ ++ t₂) (s₁ ++ s₂) := by
  have hle₁ := h₁.count_le
  have hle₂ := h₂.count_le
  unfold IsLeftOf
  rw [List.count_append, List.count_append]
  rcases h₁ with hsublist₁ | hfewer₁
  · rcases h₂ with hsublist₂ | hfewer₂
    · exact Or.inl (hsublist₁.append hsublist₂)
    · exact Or.inr (Nat.add_lt_add_of_le_of_lt hle₁ hfewer₂)
  · exact Or.inr (Nat.add_lt_add_of_lt_of_le hfewer₁ hle₂)

/-- What text stands for is left of it. -/
theorem plainText_isLeftOf (s : List Char) : IsLeftOf (plainText s) s := by
  have hfilter : (plainText s).Sublist (replaceEmoji (unescape s)) := List.filter_sublist
  rcases replaceEmoji_cases (unescape s) with ⟨hsame, -⟩ | ⟨hfewer, -⟩
  · rw [hsame] at hfilter
    exact Or.inl (hfilter.trans (unescape_sublist s))
  · refine Or.inr ?_
    calc (plainText s).count Emoji.codeMark
        ≤ (replaceEmoji (unescape s)).count Emoji.codeMark := hfilter.count_le _
      _ < (unescape s).count Emoji.codeMark := hfewer
      _ ≤ s.count Emoji.codeMark := (unescape_sublist s).count_le _

/-- What tokens show is left of what they keep. -/
theorem shown_isLeftOf (toks : List Token) :
    IsLeftOf (toks.flatMap Token.shown) (toks.flatMap Token.written) := by
  induction toks with
  | nil => exact Or.inl (List.Sublist.refl [])
  | cons tok rest ih =>
    rw [List.flatMap_cons, List.flatMap_cons]
    refine IsLeftOf.append ?_ ih
    cases tok with
    | text s => exact plainText_isLeftOf s
    | tag position name parameters => exact Or.inl (List.Sublist.refl [])

/-- Text stands for itself exactly if it holds no escape, no code of an emoji and no character that
moves the cursor. -/
theorem plainText_eq_self_iff {s : List Char} :
    plainText s = s ↔ ¬ ['\\', '['] <:+: s ∧ (∀ c ∈ s, isCursorControl c = false) ∧
      ∀ code ∈ Emoji.codes s, emojiFor? code = none := by
  constructor
  · intro h
    have hfilter : (plainText s).Sublist (replaceEmoji (unescape s)) := List.filter_sublist
    have hcount : (unescape s).count Emoji.codeMark ≤
        (replaceEmoji (unescape s)).count Emoji.codeMark :=
      calc (unescape s).count Emoji.codeMark ≤ s.count Emoji.codeMark :=
            (unescape_sublist s).count_le _
        _ = (plainText s).count Emoji.codeMark := by rw [h]
        _ ≤ (replaceEmoji (unescape s)).count Emoji.codeMark := hfilter.count_le _
    have hemoji : replaceEmoji (unescape s) = unescape s := replaceEmoji_eq_self_of_count hcount
    rw [h, hemoji] at hfilter
    have hescape : unescape s = s :=
      (unescape_sublist s).eq_of_length_le hfilter.length_le
    rw [hescape] at hemoji
    refine ⟨unescape_eq_self_iff.mp hescape, ?_, replaceEmoji_eq_self_iff.mp hemoji⟩
    unfold plainText at h
    rw [hescape, hemoji, List.filter_eq_self] at h
    intro c hc
    simpa using h c hc
  · rintro ⟨hescape, hcontrol, hemoji⟩
    unfold plainText
    rw [unescape_eq_self_iff.mpr hescape, replaceEmoji_eq_self_iff.mpr hemoji,
      List.filter_eq_self]
    intro c hc
    rw [hcontrol c hc]
    rfl

/-! ## Reading -/

/-- Reading a token adds the characters that it shows. -/
theorem before_push {tok : Token} {r r' : Reading} (h : r.push tok = .ok r') :
    r'.before = tok.shown.reverse ++ r.before := by
  unfold Reading.push at h
  split at h
  · cases h
    rfl
  · rename_i position closing parameters
    cases hpop : popClosed position closing parameters r.opened with
    | error e =>
      rw [hpop] at h
      cases h
    | ok popped =>
      cases hspan : popped.1.closeAt r.before.length with
      | error e =>
        simp only [hpop, bind, Except.bind, hspan] at h
        cases h
      | ok span =>
        simp only [hpop, bind, Except.bind, hspan] at h
        cases h
        rfl
  · rename_i position name parameters hname
    cases hnormal : Style.normalName name with
    | error e =>
      rw [hnormal] at h
      cases h
    | ok normal =>
      rw [hnormal] at h
      cases h
      rfl

/-- The characters of what has been read are those that the tokens show. -/
theorem before_pushAll {toks : List Token} {r r' : Reading} (h : r.pushAll toks = .ok r') :
    r'.before = (toks.flatMap Token.shown).reverse ++ r.before := by
  induction toks generalizing r with
  | nil =>
    cases h
    rfl
  | cons tok rest ih =>
    rw [Reading.pushAll] at h
    cases hpush : r.push tok with
    | error e =>
      rw [hpush] at h
      cases h
    | ok next =>
      rw [hpush] at h
      have hnext := before_push hpush
      rw [ih h, hnext, List.flatMap_cons, List.reverse_append, List.append_assoc]

/-- The characters of a text that is read are those that its tokens show. -/
theorem chars_read {base s : List Char} {t : StyledText} (h : read base s = .ok t) :
    t.chars = (tokens s).flatMap Token.shown := by
  unfold read at h
  cases hpush : Reading.pushAll ⟨[], [], []⟩ (tokens s) with
  | error e =>
    rw [hpush] at h
    cases h
  | ok r =>
    rw [hpush] at h
    cases h
    rw [before_pushAll hpush]
    simp

/-- Text that stands for itself is read as it is. -/
theorem pushAll_textToken {s : List Char} (h : plainText s = s) (r : Reading) (rest : List Token) :
    r.pushAll (textToken s.reverse ++ rest) =
      Reading.pushAll { r with before := s.reverse ++ r.before } rest := by
  unfold textToken
  split_ifs with hnil
  · rw [hnil]
    rfl
  · rw [List.reverse_reverse, List.singleton_append, Reading.pushAll, Reading.push]
    dsimp only
    rw [h]

/-- A literal text stands for itself. -/
theorem IsLiteral.plainText_eq {s : List Char} (h : IsLiteral s) : plainText s = s :=
  plainText_eq_self_iff.mpr ⟨h.noEscape, h.noControl, h.noEmoji⟩

/-- A literal text is read as it is. -/
theorem IsLiteral.read_eq {s : List Char} (h : IsLiteral s) (base : List Char) :
    read base s = .ok ⟨s, base, []⟩ := by
  have htokens : tokens s = textToken s.reverse ++ [] := by
    rcases tokensFrom_cases 0 [] s with ⟨-, htokens⟩ | ⟨⟨t, ht, htag⟩, -⟩
    · exact htokens.trans (by rw [List.append_nil, List.append_nil])
    · exact absurd (forall_not_isInfix_iff.mp h.noTag t ht) htag
  rw [read, htokens, pushAll_textToken h.plainText_eq]
  simp [Reading.pushAll, Reading.allSpans, bind, Except.bind, pure, Except.pure]

/-- **A text is shown as it is exactly if it is literal.** -/
theorem exists_read_chars_eq_iff (base s : List Char) :
    (∃ t, read base s = .ok t ∧ t.chars = s) ↔ IsLiteral s := by
  constructor
  · rintro ⟨t, hread, hchars⟩
    rw [chars_read hread] at hchars
    have hleft := shown_isLeftOf (tokens s)
    rw [hchars] at hleft
    rcases tokensFrom_cases 0 [] s with ⟨hnone, htokens⟩ | ⟨-, hkept, hlost⟩
    · have hplain : plainText s = s := by
        rw [tokens, htokens, List.append_nil, shown_textToken, List.reverse_reverse] at hchars
        exact hchars
      obtain ⟨hescape, hcontrol, hemoji⟩ := plainText_eq_self_iff.mp hplain
      exact ⟨forall_not_isInfix_iff.mpr hnone, hescape, hcontrol, hemoji⟩
    · -- what is kept of a text with a tag is too short to be left as the text
      simp only [List.length_nil, List.reverse_nil, List.nil_append, Nat.zero_add] at hkept hlost
      rcases hleft with hsublist | hfewer
      · exact absurd hsublist.length_le (not_le_of_gt hlost)
      · exact absurd (hkept.count_le Emoji.codeMark) (not_le_of_gt hfewer)
  · intro h
    exact ⟨_, h.read_eq base, rfl⟩

/-- Whether a text is literal can be computed. -/
instance (s : List Char) : Decidable (IsLiteral s) :=
  decidable_of_iff ((∀ t ∈ s.tails, tagAt? t = none) ∧ plainText s = s) <| by
    simp only [List.mem_tails]
    rw [← forall_not_isInfix_iff, plainText_eq_self_iff]
    exact ⟨fun h => ⟨h.1, h.2.1, h.2.2.1, h.2.2.2⟩,
      fun h => ⟨h.noTag, h.noEscape, h.noControl, h.noEmoji⟩⟩

/-- The characters that markup does not leave alone: opening brackets, colons, and those that move
the cursor. -/
def markers : List Char :=
  ['[', Emoji.codeMark, '\x07', '\x08', '\x0b', '\x0c', '\r']

/-- A text without such characters is literal. -/
theorem isLiteral_of_not_mem {s : List Char} (h : ∀ c ∈ markers, c ∉ s) : IsLiteral s where
  noTag := by
    rintro tag ⟨first, body, rfl, -⟩ hinside
    exact h '[' (by decide) (hinside.subset List.mem_cons_self)
  noEscape hinside := h '[' (by decide) (hinside.subset (by simp))
  noControl c hc := by
    have hmarker : ∀ n ∈ [7, 8, 11, 12, 13], Char.ofNat n ∈ markers := by decide
    rw [Bool.eq_false_iff]
    intro hcontrol
    have hmem := hmarker c.toNat (of_decide_eq_true hcontrol)
    rw [Char.ofNat_toNat] at hmem
    exact h c hmem hc
  noEmoji code hcode := by
    have hsame : replaceEmoji s = s := by
      refine replaceEmoji_eq_self_of_count ?_
      rw [List.count_eq_zero.mpr (h Emoji.codeMark (by decide))]
      exact Nat.zero_le _
    exact replaceEmoji_eq_self_iff.mp hsame code hcode

end LintDaemon.Terminal.Markup
