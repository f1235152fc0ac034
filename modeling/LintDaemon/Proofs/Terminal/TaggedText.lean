import LintDaemon.Proofs.Terminal.Shown
import Mathlib.Data.Bool.AllAny

/-!
# Texts in a style

* `Markup.IsStyleTag`: names that open and close a style of their own.
* `Markup.IsSelfContained`: literal texts that leave the tag behind them a tag.
* `Markup.read_tagged`: such a text between the tags of a style is read as it is, in the style.
-/

namespace LintDaemon.Terminal.Markup

open LintDaemon.Text

/-! ## Names and texts -/

/-- A name that opens and closes a style of its own. -/
structure IsStyleTag (name : List Char) : Prop where
  /-- It begins with a letter. -/
  begins : ∃ first body, name = first :: body ∧ 'a' ≤ first ∧ first ≤ 'z'
  /-- It holds no bracket and no equals sign. -/
  plain : ∀ c ∈ name, c ≠ '[' ∧ c ≠ ']' ∧ c ≠ '=' ∧ c ≠ '('
  /-- It has no white space around it. -/
  trimmed : trim name = name
  /-- It is in its normal form. -/
  normal : Style.normalName name = .ok name

/-- Whether a text begins with a letter can be computed. -/
instance decidableBeginsWithLetter (name : List Char) :
    Decidable (∃ first body, name = first :: body ∧ 'a' ≤ first ∧ first ≤ 'z') :=
  match name with
  | [] => isFalse nofun
  | first :: body =>
    decidable_of_iff ('a' ≤ first ∧ first ≤ 'z')
      ⟨fun h => ⟨first, body, rfl, h⟩, fun ⟨_, _, heq, h⟩ => (List.cons.inj heq).1 ▸ h⟩

/-- Whether a name opens and closes a style of its own can be computed. -/
instance (name : List Char) : Decidable (IsStyleTag name) :=
  decidable_of_iff
    ((∃ first body, name = first :: body ∧ 'a' ≤ first ∧ first ≤ 'z') ∧
      (name.all fun c => c ≠ '[' ∧ c ≠ ']' ∧ c ≠ '=' ∧ c ≠ '(') ∧ trim name = name ∧
        Style.normalName name = .ok name)
    ⟨fun ⟨hbegins, hplain, htrimmed, hnormal⟩ =>
      ⟨hbegins, List.all_iff_forall_prop.mp hplain, htrimmed, hnormal⟩,
      fun h => ⟨h.begins, List.all_iff_forall_prop.mpr h.plain, h.trimmed, h.normal⟩⟩

/-- A literal text that does not end with a backslash. -/
structure IsSelfContained (t : List Char) : Prop extends IsLiteral t where
  /-- It does not. -/
  lastPlain : t.getLast? ≠ some '\\'

/-- Whether a text is self-contained can be computed. -/
instance (t : List Char) : Decidable (IsSelfContained t) :=
  decidable_of_iff (IsLiteral t ∧ t.getLast? ≠ some '\\')
    ⟨fun h => ⟨h.1, h.2⟩, fun h => ⟨h.toIsLiteral, h.lastPlain⟩⟩

/-- A text between the tags of a style. -/
def tagged (name t : List Char) : List Char :=
  '[' :: (name ++ ']' :: (t ++ '[' :: '/' :: (name ++ [']'])))

/-! ## Tokens -/

/-- A bracket behind a text completes no tag in it. -/
theorem tagAt?_append_bracket {s : List Char} (hne : s ≠ []) (h : tagAt? s = none)
    (rest : List Char) : tagAt? (s ++ '[' :: rest) = none := by
  by_contra hsome
  obtain ⟨content, hcontent⟩ := Option.ne_none_iff_exists'.mp hsome
  obtain ⟨⟨first, body, heq, hfirst, hbody⟩, after, hafter⟩ := tagAt?_eq_some hcontent
  obtain rfl : content = first :: body := List.append_cancel_right (List.cons.inj heq).2
  have hsplit : s ++ '[' :: rest = '[' :: first :: (body ++ [']']) ++ after := by simp [hafter]
  rcases List.append_eq_append_iff.mp hsplit with ⟨middle, htag, hbracket⟩ | ⟨middle, hs, -⟩
  · -- the tag would go on behind the text, and hold the bracket
    cases middle with
    | nil =>
      rw [List.append_nil] at htag
      have hfound := tagAt?_append hfirst hbody []
      rw [htag, h] at hfound
      cases hfound
    | cons d middle =>
      obtain rfl : '[' = d := (List.cons.inj hbracket).1
      cases s with
      | nil => exact hne rfl
      | cons c s =>
        have hmem : '[' ∈ first :: (body ++ [']']) := by
          rw [(List.cons.inj htag).2]
          simp
        rcases List.mem_cons.mp hmem with rfl | hmem
        · exact absurd hfirst (by decide)
        rcases List.mem_append.mp hmem with hmem | hmem
        · exact (hbody '[' hmem).1 rfl
        · exact absurd hmem (by decide)
  · have hfound := tagAt?_append hfirst hbody middle
    rw [hs] at h
    simp [hfound] at h

/-- What is left behind the backslashes at the beginning of a text. -/
theorem drop_takeWhile_append {t : List Char} (hlast : t.getLast? ≠ some '\\') (hne : t ≠ [])
    (rest : List Char) :
    ∃ u, u <:+ t ∧ u ≠ [] ∧
      (t ++ rest).drop ((t ++ rest).takeWhile (· == '\\')).length = u ++ rest := by
  have hleft : t.dropWhile (· == '\\') ≠ [] := by
    intro hnil
    have hall := List.dropWhile_eq_nil_iff.mp hnil
    refine hlast ?_
    rw [List.getLast?_eq_some_getLast hne]
    exact congrArg some (by simpa using hall _ (List.getLast_mem hne))
  refine ⟨t.dropWhile (· == '\\'), List.dropWhile_suffix _, hleft, ?_⟩
  have hdrop (l : List Char) :
      l.drop (l.takeWhile (· == '\\')).length = l.dropWhile (· == '\\') := by
    have hsplit := List.prefix_append_drop (List.takeWhile_prefix (l := l) (· == '\\'))
    exact List.append_cancel_left (hsplit.symm.trans List.takeWhile_append_dropWhile.symm)
  rw [hdrop, List.dropWhile_append, if_neg (by simpa using hleft)]

/-- Text in front of a bracket is kept until the bracket comes. -/
theorem tokensFrom_append_bracket {t : List Char} (h : ∀ u, u <:+ t → tagAt? u = none)
    (hlast : t.getLast? ≠ some '\\') (position : Nat) (before rest : List Char) :
    tokensFrom 0 position before (t ++ '[' :: rest) =
      tokensFrom 0 (position + t.length) (t.reverse ++ before) ('[' :: rest) := by
  induction t generalizing position before with
  | nil => rfl
  | cons c t ih =>
    obtain ⟨u, hu, hne, hdrop⟩ := drop_takeWhile_append hlast (List.cons_ne_nil c t) ('[' :: rest)
    have hnone := tagAt?_append_bracket hne (h u hu) rest
    have hstep : tokensFrom 0 position before (c :: (t ++ '[' :: rest)) =
        tokensFrom 0 (position + 1) (c :: before) (t ++ '[' :: rest) := by
      rw [List.cons_append] at hdrop
      rw [tokensFrom, hdrop, hnone]
    rw [List.cons_append, hstep, ih (fun u hu => h u (hu.trans (List.suffix_cons c t)))]
    · simp [Nat.add_assoc, Nat.add_comm 1]
    · intro heq
      refine hlast ?_
      rw [List.getLast?_cons, heq]
      rfl

/-- A tag without parameters ends the text before it. -/
theorem tokensFrom_tagged {first : Char} {body : List Char} (hfirst : beginsTag first = true)
    (hbody : ∀ c ∈ body, c ≠ '[' ∧ c ≠ ']') (hparameters : '=' ∉ first :: body) (position : Nat)
    (before rest : List Char) :
    tokensFrom 0 position before ('[' :: first :: (body ++ ']' :: rest)) =
      textToken before ++ .tag position (first :: body) none ::
        tokensFrom 0 (position + body.length + 3) [] rest := by
  have hdrop : ('[' :: first :: (body ++ ']' :: rest)).drop
      (('[' :: first :: (body ++ ']' :: rest)).takeWhile (· == '\\')).length =
        '[' :: first :: (body ++ ']' :: rest) := rfl
  have htag : tagAt? ('[' :: first :: (body ++ ']' :: rest)) = some (first :: body) :=
    tagAt?_append hfirst hbody rest
  obtain ⟨backslashes, heq, htokens⟩ :=
    tokensFrom_tag position before (hdrop.symm ▸ htag) (hdrop.trans rfl)
  cases backslashes with
  | zero =>
    have hbehind :
        position + 1 + (0 + (first :: body).length + 1) = position + body.length + 3 := by
      rw [List.length_cons]
      omega
    have htag : tagTokens position 0 (first :: body) = [.tag position (first :: body) none] := by
      rw [tagTokens, cut_of_not_mem hparameters]
      rfl
    rw [htokens, htag, hbehind, List.append_assoc, List.singleton_append]
  | succ n => cases heq

/-- The tokens of a text in a style, behind another text. -/
theorem tokens_tagged {name before t : List Char} (hname : IsStyleTag name)
    (hbefore : IsSelfContained before) (ht : IsSelfContained t) :
    ∃ position, tokens (before ++ tagged name t) =
      textToken before.reverse ++ (.tag before.length name none :: (textToken t.reverse ++
        [.tag position ('/' :: name) none])) := by
  obtain ⟨first, body, rfl, hlow, hhigh⟩ := hname.begins
  have hfirst : beginsTag first = true := by simp [beginsTag, hlow, hhigh]
  have hclosing : ∀ c ∈ first :: body, c ≠ '[' ∧ c ≠ ']' := fun c hc =>
    ⟨(hname.plain c hc).1, (hname.plain c hc).2.1⟩
  have hopening : ∀ c ∈ body, c ≠ '[' ∧ c ≠ ']' := fun c hc =>
    hclosing c (List.mem_cons_of_mem first hc)
  have hparameters : '=' ∉ first :: body := fun hmem => (hname.plain '=' hmem).2.2.1 rfl
  have hslash : '=' ∉ '/' :: first :: body :=
    List.not_mem_cons_of_ne_of_not_mem (by decide) hparameters
  refine ⟨0 + before.length + body.length + 3 + t.length, ?_⟩
  have hbeforeTag := tokensFrom_append_bracket (forall_not_isInfix_iff.mp hbefore.noTag)
    hbefore.lastPlain 0 [] (first :: (body ++ ']' :: (t ++ '[' :: '/' :: (first :: body ++ [']']))))
  have htextTag := tokensFrom_append_bracket (forall_not_isInfix_iff.mp ht.noTag) ht.lastPlain
    (0 + before.length + body.length + 3) [] ('/' :: (first :: body ++ [']']))
  have hbeginsClosing : beginsTag '/' = true := by decide
  have hlast := tokensFrom_tagged hbeginsClosing hclosing hslash
    (0 + before.length + body.length + 3 + t.length) (t.reverse ++ []) []
  unfold tokens tagged
  rw [List.cons_append, hbeforeTag, tokensFrom_tagged hfirst hopening hparameters, htextTag, hlast]
  simp [tokensFrom, textToken]

/-! ## Reading -/

namespace IsStyleTag

variable {name : List Char}

/-- The tag of a style is opened. -/
theorem push_opening (h : IsStyleTag name) (r : Reading) (position : Nat) :
    r.push (.tag position name none) =
      .ok { r with opened := ⟨r.before.length, name, none⟩ :: r.opened } := by
  obtain ⟨first, body, rfl, hlow, -⟩ := h.begins
  unfold Reading.push
  split
  · rename_i heq
    cases heq
  · rename_i heq
    cases heq
    exact absurd hlow (by decide)
  · rename_i heq
    cases heq
    rw [h.normal]
    rfl

/-- The tag of a style asks for the style. -/
theorem closeAt (h : IsStyleTag name) (start stop : Nat) :
    OpenTag.closeAt stop ⟨start, name, none⟩ = .ok ⟨start, stop, name⟩ := by
  obtain ⟨first, body, rfl, hlow, -⟩ := h.begins
  unfold OpenTag.closeAt
  split
  · rename_i heq
    cases heq
    exact absurd hlow (by decide)
  · simp [OpenTag.span, OpenTag.style]

/-- The tag of a style is closed. -/
theorem popClosed (h : IsStyleTag name) (position start : Nat) (opened : List OpenTag) :
    popClosed position name none (⟨start, name, none⟩ :: opened) =
      .ok (⟨start, name, none⟩, opened) := by
  have hne : name ≠ [] := by
    obtain ⟨first, body, rfl, -⟩ := h.begins
    exact List.cons_ne_nil _ _
  unfold Markup.popClosed
  dsimp only
  rw [h.trimmed, if_neg hne, h.normal]
  dsimp only
  rw [popNamed, if_pos rfl]

/-- What stands between the tags of a style gets the style. -/
theorem push_closing (h : IsStyleTag name) (r : Reading) (position start : Nat)
    (opened : List OpenTag) (hopened : r.opened = ⟨start, name, none⟩ :: opened) :
    r.push (.tag position ('/' :: name) none) =
      .ok { r with opened, spans := ⟨start, r.before.length, name⟩ :: r.spans } := by
  unfold Reading.push
  split
  · rename_i heq
    cases heq
  · rename_i heq
    cases heq
    rw [hopened, h.popClosed]
    dsimp only [bind, Except.bind]
    rw [h.closeAt]
    rfl
  · rename_i hne heq
    cases heq
    exact absurd rfl (hne _)

end IsStyleTag

/-- **A text between the tags of a style is read as it is, in the style.** -/
theorem read_tagged {name before t : List Char} (hname : IsStyleTag name)
    (hbefore : IsSelfContained before) (ht : IsSelfContained t) :
    read [] (before ++ tagged name t) =
      .ok ⟨before ++ t, [], [⟨before.length, before.length + t.length, name⟩]⟩ := by
  obtain ⟨position, htokens⟩ := tokens_tagged hname hbefore ht
  rw [read, htokens, pushAll_textToken hbefore.plainText_eq, Reading.pushAll, hname.push_opening]
  dsimp only
  rw [pushAll_textToken ht.plainText_eq, Reading.pushAll, hname.push_closing _ _ _ [] rfl]
  simp [Reading.pushAll, Reading.allSpans, bind, Except.bind, pure, Except.pure, Nat.add_comm]

/-- Such a text can be shown. -/
theorem canBeShown_tagged {name before t : List Char} (hname : IsStyleTag name)
    (hbefore : IsSelfContained before) (ht : IsSelfContained t) :
    CanBeShown [] (before ++ tagged name t) := by
  refine canBeShown_of_read (read_tagged hname hbefore ht) List.not_mem_nil ?_
  rw [List.forall_mem_singleton]
  exact fun hmem => (hname.plain '(' hmem).2.2.2 rfl

end LintDaemon.Terminal.Markup
