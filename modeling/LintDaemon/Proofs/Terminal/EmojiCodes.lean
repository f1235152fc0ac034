import LintDaemon.Proofs.Tables
import LintDaemon.Proofs.Text.LetterCase
import LintDaemon.Proofs.Text.Lines
import LintDaemon.Terminal.Emoji
import Mathlib.Data.List.Infix
import Mathlib.Tactic.SplitIfs

/-!
# Emoji codes that are replaced

* `Emoji.codes`: what is read as a code in a text, from the left to the right.
* `Emoji.not_mem_of_emojiFor?`: no emoji holds a colon, so that an emoji never stands for its own
  code.
* `replaceEmoji_cases`, `replaceEmoji_eq_self_iff`: a text stays as it is exactly if no code in it
  has an emoji; otherwise it loses colons.
-/

namespace LintDaemon.Terminal

open LintDaemon.Text

/-- The character between which codes stand. -/
def Emoji.codeMark : Char := ':'

namespace Emoji

/-- What is read as a code, behind characters that belong to the code before. -/
def codesFrom : Nat → List Char → List (List Char)
  | _, [] => []
  | skip + 1, _ :: rest => codesFrom skip rest
  | 0, c :: rest =>
    match codeAt? (c :: rest) with
    | none => codesFrom 0 rest
    | some code => code :: codesFrom (code.length + 1) rest

/-- What is read as a code in a text. The colon that ends a code begins no other one. -/
def codes (s : List Char) : List (List Char) :=
  codesFrom 0 s

/-! ## What emoji are made of -/

/-- No emoji of a table holds what ends its entries. -/
theorem not_mem_of_mem_entries {table name : String} {emoji : List Char}
    (h : (name, emoji) ∈ entries table) : codeMark ∉ emoji := by
  obtain ⟨entry, hentry, hname⟩ := List.mem_flatMap.mp h
  obtain ⟨field, hfield, rfl⟩ := List.mem_map.mp hentry
  rw [String.toList_ofList] at hname
  cases hwords : words field with
  | nil =>
    rw [hwords] at hname
    cases hname
  | cons first names =>
    rw [hwords] at hname
    obtain ⟨_, -, heq⟩ := List.mem_map.mp hname
    cases heq
    have hfirst : emoji ∈ words field := hwords ▸ List.mem_cons_self
    exact fun hmark => not_mem_of_mem_fields hfield (mem_of_mem_words hfirst hmark)

/-- No emoji of a name is a colon or holds one. -/
theorem not_mem_of_lookup_named {name : String} {emoji : List Char}
    (h : named.lookup name = some emoji) : codeMark ∉ emoji := by
  obtain ⟨table, -, hentries⟩ := List.mem_flatMap.mp (Tables.mem_of_lookup_eq_some h)
  exact not_mem_of_mem_entries hentries

/-- The letters of flags are no colons. -/
theorem not_mem_flagOf (code : List Char) : codeMark ∉ flagOf code := by
  intro hmem
  obtain ⟨c, -, hc⟩ := List.mem_map.mp hmem
  have hletter := congrArg Char.toNat hc
  have hmark : codeMark.toNat = 58 := rfl
  have hbase : '🇦'.toNat = 127462 := rfl
  rw [toNat_ofNat, hmark, hbase] at hletter
  split_ifs at hletter
  omega

/-- A skin tone is no colon. -/
theorem not_mem_inTone {tone : Char} (htone : tone ≠ codeMark) {emoji : List Char}
    (h : codeMark ∉ emoji) : codeMark ∉ inTone tone emoji := by
  unfold inTone
  split <;> simp_all [eq_comm]

/-- No emoji of a name holds a colon. -/
theorem not_mem_of_ofName? {name emoji : List Char} (h : ofName? name = some emoji) :
    codeMark ∉ emoji := by
  unfold ofName? at h
  rcases Option.or_eq_some_iff.mp h with h | ⟨-, h⟩
  · rcases Option.or_eq_some_iff.mp h with h | ⟨-, h⟩
    · exact not_mem_of_lookup_named h
    · unfold flag? at h
      obtain ⟨code, -, heq⟩ := Option.map_eq_some_iff.mp h
      rw [← heq]
      exact not_mem_flagOf code
  · obtain ⟨before, ⟨suffix, tone⟩, after, htones, htoned, -⟩ := List.findSome?_eq_some_iff.mp h
    have htone : tone ≠ codeMark := by
      have hall : ∀ entry ∈ tones, entry.2 ≠ codeMark := by decide
      exact hall (suffix, tone) (htones ▸ List.mem_append_right before List.mem_cons_self)
    dsimp only at htoned
    split at htoned
    · cases htoned
    · split_ifs at htoned
      obtain ⟨plain, hplain, heq⟩ := Option.map_eq_some_iff.mp htoned
      rw [← heq]
      exact not_mem_inTone htone (not_mem_of_lookup_named hplain)

end Emoji

/-- What selects a form of an emoji is no colon. -/
theorem not_mem_splitForm (code : List Char) : Emoji.codeMark ∉ (splitForm code emojiForms).2 := by
  unfold emojiForms splitForm
  split
  · simp [Emoji.codeMark]
  · unfold splitForm
    split
    · simp [Emoji.codeMark]
    · simp [splitForm]

/-- **No emoji of a code holds a colon.** -/
theorem Emoji.not_mem_of_emojiFor? {code emoji : List Char} (h : emojiFor? code = some emoji) :
    codeMark ∉ emoji := by
  unfold emojiFor? at h
  obtain ⟨plain, hplain, heq⟩ := Option.map_eq_some_iff.mp h
  rw [← heq, List.mem_append, not_or]
  exact ⟨not_mem_of_ofName? hplain, not_mem_splitForm code⟩

/-! ## Texts with codes -/

/-- A code stands between two colons, and holds none itself. -/
theorem codeAt?_eq_some {s code : List Char} (h : codeAt? s = some code) :
    ∃ rest, s = Emoji.codeMark :: (code ++ Emoji.codeMark :: rest) := by
  unfold codeAt? at h
  split at h
  · rename_i rest
    have hcode := List.prefix_append_drop (List.takeWhile_prefix (l := rest)
      fun c => c != ':' && !isBlank c)
    dsimp only at h
    split at h
    · rename_i after hafter
      cases h
      rw [hafter] at hcode
      exact ⟨after, congrArg (':' :: ·) hcode⟩
    · cases h
  · cases h

/-- Characters that belong to the code before are passed. -/
theorem replaceEmojiFrom_eq (skip : Nat) (s : List Char) :
    replaceEmojiFrom skip s = replaceEmoji (s.drop skip) := by
  induction s generalizing skip with
  | nil => simp [replaceEmojiFrom, replaceEmoji]
  | cons c rest ih =>
    cases skip with
    | zero => rfl
    | succ skip => exact ih skip

/-- Characters that belong to the code before are passed. -/
theorem Emoji.codesFrom_eq (skip : Nat) (s : List Char) :
    codesFrom skip s = codes (s.drop skip) := by
  induction s generalizing skip with
  | nil => simp [codesFrom, codes]
  | cons c rest ih =>
    cases skip with
    | zero => rfl
    | succ skip => exact ih skip

section Steps

variable {c : Char} {code rest : List Char}

/-- A character that begins no code stays. -/
theorem replaceEmoji_cons (h : codeAt? (c :: rest) = none) :
    replaceEmoji (c :: rest) = c :: replaceEmoji rest ∧
      Emoji.codes (c :: rest) = Emoji.codes rest := by
  rw [replaceEmoji, replaceEmojiFrom, Emoji.codes, Emoji.codesFrom, h]
  exact ⟨rfl, rfl⟩

/-- A code with an emoji is replaced, and one without stays. -/
theorem replaceEmoji_code
    (h : codeAt? (Emoji.codeMark :: (code ++ Emoji.codeMark :: rest)) = some code) :
    replaceEmoji (Emoji.codeMark :: (code ++ Emoji.codeMark :: rest)) =
        (emojiFor? code).getD (Emoji.codeMark :: (code ++ [Emoji.codeMark])) ++ replaceEmoji rest ∧
      Emoji.codes (Emoji.codeMark :: (code ++ Emoji.codeMark :: rest)) =
        code :: Emoji.codes rest := by
  have hdrop : (code ++ Emoji.codeMark :: rest).drop (code.length + 1) = rest := by simp
  rw [replaceEmoji, replaceEmojiFrom, Emoji.codes, Emoji.codesFrom, h]
  dsimp only
  rw [replaceEmojiFrom_eq, Emoji.codesFrom_eq, hdrop]
  exact ⟨rfl, rfl⟩

end Steps

/-- A text in which no code has an emoji stays as it is, and any other text loses colons. -/
theorem replaceEmoji_cases (s : List Char) :
    (replaceEmoji s = s ∧ ∀ code ∈ Emoji.codes s, emojiFor? code = none) ∨
      ((replaceEmoji s).count Emoji.codeMark < s.count Emoji.codeMark ∧
        ∃ code ∈ Emoji.codes s, emojiFor? code ≠ none) := by
  induction hn : s.length using Nat.strong_induction_on generalizing s with
  | _ n ih =>
    subst hn
    cases s with
    | nil => exact Or.inl ⟨rfl, by simp [Emoji.codes, Emoji.codesFrom]⟩
    | cons c rest =>
      cases hcode : codeAt? (c :: rest) with
      | none =>
        obtain ⟨hreplace, hcodes⟩ := replaceEmoji_cons hcode
        rw [hreplace, hcodes]
        refine (ih rest.length (Nat.lt_succ_self _) rest rfl).imp ?_ ?_
        · rintro ⟨hsame, hunknown⟩
          exact ⟨congrArg (c :: ·) hsame, hunknown⟩
        · rintro ⟨hfewer, hknown⟩
          rw [List.count_cons, List.count_cons]
          exact ⟨Nat.add_lt_add_right hfewer _, hknown⟩
      | some code =>
        obtain ⟨tail, heq⟩ := codeAt?_eq_some hcode
        have hshorter : tail.length < (c :: rest).length := by
          rw [heq]
          simp
          omega
        have htail := ih tail.length hshorter tail rfl
        rw [heq] at hcode ⊢
        obtain ⟨hreplace, hcodes⟩ := replaceEmoji_code hcode
        rw [hreplace, hcodes]
        cases hemoji : emojiFor? code with
        | none =>
          have hstays : Emoji.codeMark :: (code ++ Emoji.codeMark :: tail) =
              (Emoji.codeMark :: (code ++ [Emoji.codeMark])) ++ tail := by simp
          rw [hstays, Option.getD_none]
          refine htail.imp ?_ ?_
          · rintro ⟨hsame, hunknown⟩
            exact ⟨congrArg _ hsame, List.forall_mem_cons.mpr ⟨hemoji, hunknown⟩⟩
          · rintro ⟨hfewer, known, hmem, hknown⟩
            rw [List.count_append, List.count_append]
            exact ⟨Nat.add_lt_add_left hfewer _, known, List.mem_cons_of_mem _ hmem, hknown⟩
        | some emoji =>
          refine Or.inr ⟨?_, code, List.mem_cons_self, by simp [hemoji]⟩
          have hnone : emoji.count Emoji.codeMark = 0 :=
            List.count_eq_zero.mpr (Emoji.not_mem_of_emojiFor? hemoji)
          have hle : (replaceEmoji tail).count Emoji.codeMark ≤ tail.count Emoji.codeMark := by
            rcases htail with ⟨hsame, -⟩ | ⟨hfewer, -⟩
            · exact le_of_eq (congrArg _ hsame)
            · exact hfewer.le
          rw [Option.getD_some, List.count_append, hnone, List.count_cons_self, List.count_append,
            List.count_cons_self]
          omega

/-- A text stays as it is exactly if no code in it has an emoji. -/
theorem replaceEmoji_eq_self_iff {s : List Char} :
    replaceEmoji s = s ↔ ∀ code ∈ Emoji.codes s, emojiFor? code = none := by
  rcases replaceEmoji_cases s with ⟨hsame, hunknown⟩ | ⟨hfewer, code, hmem, hknown⟩
  · exact iff_of_true hsame hunknown
  · refine iff_of_false ?_ fun hunknown => hknown (hunknown code hmem)
    intro hsame
    rw [hsame] at hfewer
    exact lt_irrefl _ hfewer

/-- A text that keeps its colons stays as it is. -/
theorem replaceEmoji_eq_self_of_count {s : List Char}
    (h : s.count Emoji.codeMark ≤ (replaceEmoji s).count Emoji.codeMark) : replaceEmoji s = s := by
  rcases replaceEmoji_cases s with ⟨hsame, -⟩ | ⟨hfewer, -⟩
  · exact hsame
  · exact absurd h (not_le_of_gt hfewer)

end LintDaemon.Terminal
