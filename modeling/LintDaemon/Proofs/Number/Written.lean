import LintDaemon.Number.Numeral
import LintDaemon.Proofs.Text.Digits
import Mathlib.Data.Bool.AllAny
import Mathlib.Data.List.TakeWhile
import Mathlib.Data.Nat.Digits.Defs
import Mathlib.Tactic.SplitIfs

/-!
# Numbers as they are written

The texts that write numbers, as relations that cut a text by `++`, and that the readers of numerals
accept exactly these.

* `WritesDigits s vs`: digits of any script, with single underscores between them, and their values.
* `WritesInt s n`, `int_eq_ok_iff`: the texts of whole numbers.
* `WritesMantissa`, `WritesExponent`, `WritesFloat s x`, `float?_eq_some_iff`: the texts of
  floating-point numbers.
* `exists_digits`, `digits_append`: the reader finds digits, and it finds all that there are.
-/

namespace LintDaemon.Numeral

open LintDaemon.Text

/-! ## What is written -/

/-- Digits of any script, with single underscores between them, and their values. -/
inductive WritesDigits : List Char → List Nat → Prop
  /-- One digit. -/
  | digit {c : Char} {v : Nat} (hc : decimalValue? c = some v) : WritesDigits [c] [v]
  /-- A digit before others. -/
  | next {c : Char} {v : Nat} {s : List Char} {vs : List Nat} (hc : decimalValue? c = some v)
    (h : WritesDigits s vs) : WritesDigits (c :: s) (v :: vs)
  /-- A digit and an underscore before others. -/
  | spaced {c : Char} {v : Nat} {s : List Char} {vs : List Nat} (hc : decimalValue? c = some v)
    (h : WritesDigits s vs) : WritesDigits (c :: '_' :: s) (v :: vs)

/-- Digits that may be left out. -/
def MayWriteDigits (s : List Char) (vs : List Nat) : Prop :=
  s = [] ∧ vs = [] ∨ WritesDigits s vs

/-- The number that digits write, by their values. -/
def number (vs : List Nat) : Nat :=
  Nat.ofDigits 10 vs.reverse

/-- A number with its sign. -/
def signed (negative : Bool) (n : Nat) : Int :=
  if negative then -n else n

/-- A sign that may be left out, and whether it is a minus. -/
inductive WritesSign : List Char → Bool → Prop
  /-- None. -/
  | none : WritesSign [] false
  /-- A plus. -/
  | plus : WritesSign ['+'] false
  /-- A minus. -/
  | minus : WritesSign ['-'] true

/-- A text with padding around it. -/
def IsPadded (s body : List Char) : Prop :=
  ∃ before after, s = before ++ (body ++ after) ∧ (∀ c ∈ before, isPadding c = true) ∧
    ∀ c ∈ after, isPadding c = true

/-- A whole number: digits behind a sign, not too many of them, with padding around them. -/
def WritesInt (s : List Char) (n : Int) : Prop :=
  ∃ sgn negative digits vs, IsPadded s (sgn ++ digits) ∧ WritesSign sgn negative ∧
    WritesDigits digits vs ∧ vs.length ≤ maxDigits ∧ n = signed negative (number vs)

/-- Digits before and behind a point. -/
inductive WritesMantissa : List Char → List Nat → List Nat → Prop
  /-- Without a point all stand before it. -/
  | whole {s : List Char} {ws : List Nat} (h : WritesDigits s ws) : WritesMantissa s ws []
  /-- With a point some may be left out on either side, but not all. -/
  | pointed {s t : List Char} {ws fs : List Nat} (hs : MayWriteDigits s ws)
    (ht : MayWriteDigits t fs) (hne : ws ++ fs ≠ []) : WritesMantissa (s ++ '.' :: t) ws fs

/-- An exponent that may be left out. -/
inductive WritesExponent : List Char → Int → Prop
  /-- None. -/
  | none : WritesExponent [] 0
  /-- A letter, a sign and digits. -/
  | some {c : Char} {sgn s : List Char} {negative : Bool} {vs : List Nat} (hc : c = 'e' ∨ c = 'E')
    (hsgn : WritesSign sgn negative) (h : WritesDigits s vs) :
    WritesExponent (c :: (sgn ++ s)) (signed negative (number vs))

/-- A decimal without its sign, and the number nearest to it. -/
inductive WritesDecimal (negative : Bool) : List Char → Binary64 → Prop
  /-- A mantissa and an exponent. -/
  | mk {s t : List Char} {ws fs : List Nat} {e : Int} (hs : WritesMantissa s ws fs)
    (ht : WritesExponent t e) :
    WritesDecimal negative (s ++ t) (.ofDecimal negative (number (ws ++ fs)) (e - fs.length))

/-- A floating-point number without its sign. -/
inductive WritesMagnitude (negative : Bool) : List Char → Binary64 → Prop
  /-- The name of infinity, in small or capital letters. -/
  | infinite {s : List Char}
    (h : s.map Char.toLower = "inf".toList ∨ s.map Char.toLower = "infinity".toList) :
    WritesMagnitude negative s (.infinite negative)
  /-- The name of no number. -/
  | nan {s : List Char} (h : s.map Char.toLower = "nan".toList) : WritesMagnitude negative s .nan
  /-- A decimal. -/
  | decimal {s : List Char} {x : Binary64} (h : WritesDecimal negative s x) :
    WritesMagnitude negative s x

/-- A floating-point number behind a sign, with padding around it. -/
def WritesFloat (s : List Char) (x : Binary64) : Prop :=
  ∃ sgn negative body, IsPadded s (sgn ++ body) ∧ WritesSign sgn negative ∧
    WritesMagnitude negative body x

/-! ## Digits in ASCII -/

section Ascii

variable {c x : Char} {v : Nat}

/-- A digit in ASCII is that of its value. -/
theorem asciiDigit_of_eq_some (h : decimalValue? c = some v) : asciiDigit c = Nat.digitChar v := by
  unfold asciiDigit
  rw [h]

/-- Other characters stay. -/
theorem asciiDigit_of_not (h : isDecimalDigit c = false) : asciiDigit c = c := by
  unfold asciiDigit
  rw [Option.isNone_iff_eq_none.mp (Option.isSome_eq_false_iff.mp h)]

/-- Digits of any script are those that are digits in ASCII. -/
theorem isDigit_asciiDigit (c : Char) : (asciiDigit c).isDigit = isDecimalDigit c := by
  cases hvalue : decimalValue? c with
  | some v =>
    have hdigits : ∀ v < 10, (Nat.digitChar v).isDigit = true := by decide
    rw [asciiDigit_of_eq_some hvalue, hdigits v (decimalValue?_lt hvalue),
      isDecimalDigit_of_eq_some hvalue]
  | none =>
    have hnot := isDecimalDigit_of_eq_none hvalue
    rw [asciiDigit_of_not hnot, hnot, ← Bool.not_eq_true]
    intro hdigit
    cases hvalue.symm.trans (decimalValue?_of_isDigit hdigit).1

/-- An ASCII digit is a digit. -/
theorem isDecimalDigit_of_isDigit (h : c.isDigit = true) : isDecimalDigit c = true :=
  isDecimalDigit_of_eq_some (decimalValue?_of_isDigit h).1

/-- What has a value is a digit in ASCII. -/
theorem isDigit_of_eq_some (h : decimalValue? c = some v) : (asciiDigit c).isDigit = true :=
  (isDigit_asciiDigit c).trans (isDecimalDigit_of_eq_some h)

/-- What is no digit stands for itself only. -/
theorem asciiDigit_eq_iff (hx : isDecimalDigit x = false) : asciiDigit c = x ↔ c = x := by
  constructor
  · rintro rfl
    cases hc : isDecimalDigit c with
    | false => exact (asciiDigit_of_not hc).symm
    | true =>
      rw [← isDigit_asciiDigit] at hc
      cases hx.symm.trans (isDecimalDigit_of_isDigit hc)
  · rintro rfl
    exact asciiDigit_of_not hx

end Ascii

/-! ## Digits -/

namespace WritesDigits

variable {s : List Char} {vs : List Nat}

/-- They begin with a digit. -/
theorem exists_cons (h : WritesDigits s vs) :
    ∃ c t v ws, s = c :: t ∧ vs = v :: ws ∧ decimalValue? c = some v := by
  cases h with
  | digit hc => exact ⟨_, _, _, _, rfl, rfl, hc⟩
  | next hc _ => exact ⟨_, _, _, _, rfl, rfl, hc⟩
  | spaced hc _ => exact ⟨_, _, _, _, rfl, rfl, hc⟩

/-- Their values are less than ten. -/
theorem lt_ten (h : WritesDigits s vs) : ∀ v ∈ vs, v < 10 := by
  induction h with
  | digit hc => exact List.forall_mem_singleton.mpr (decimalValue?_lt hc)
  | next hc _ ih => exact List.forall_mem_cons.mpr ⟨decimalValue?_lt hc, ih⟩
  | spaced hc _ ih => exact List.forall_mem_cons.mpr ⟨decimalValue?_lt hc, ih⟩

/-- They are no padding. -/
theorem not_isPadding (h : WritesDigits s vs) : ∀ c ∈ s, isPadding c = false := by
  have hdigit {c : Char} {v : Nat} (hc : decimalValue? c = some v) : isPadding c = false := by
    have hblank : isBlank c = false := by
      rw [← Bool.not_eq_true]
      intro hblank
      cases (isDecimalDigit_of_eq_some hc).symm.trans (isDecimalDigit_of_isBlank hblank)
    rw [isPadding, hblank, Bool.false_and]
  induction h with
  | digit hc => exact List.forall_mem_singleton.mpr (hdigit hc)
  | next hc _ ih => exact List.forall_mem_cons.mpr ⟨hdigit hc, ih⟩
  | spaced hc _ ih =>
    exact List.forall_mem_cons.mpr ⟨hdigit hc, List.forall_mem_cons.mpr ⟨by decide, ih⟩⟩

/-- A digit before digits that may be left out, or before an underscore and digits. -/
theorem of_cons {c : Char} {v : Nat} (hc : decimalValue? c = some v)
    (h : MayWriteDigits s vs ∨ ∃ t, s = '_' :: t ∧ WritesDigits t vs) :
    WritesDigits (c :: s) (v :: vs) := by
  rcases h with (⟨rfl, rfl⟩ | h) | ⟨t, rfl, h⟩
  · exact digit hc
  · exact next hc h
  · exact spaced hc h

end WritesDigits

/-- Values of digits, with others of a higher place in front of them. -/
theorem ofDigitChars_map_digitChar {vs : List Nat} (h : ∀ v ∈ vs, v < 10) (n : Nat) :
    Nat.ofDigitChars 10 (vs.map Nat.digitChar) n = number vs + 10 ^ vs.length * n := by
  induction vs generalizing n with
  | nil => simp [number]
  | cons v vs ih =>
    obtain ⟨hv, hvs⟩ := List.forall_mem_cons.mp h
    rw [List.map_cons, Nat.ofDigitChars_cons_digitChar_of_lt_ten hv, ih hvs, number, number,
      List.reverse_cons, Nat.ofDigits_append, Nat.ofDigits_singleton, List.length_reverse,
      List.length_cons, pow_succ]
    ring

/-- The number that digits write. -/
theorem value_map_digitChar {vs : List Nat} (h : ∀ v ∈ vs, v < 10) :
    value (vs.map Nat.digitChar) = number vs := by
  rw [value, ofDigitChars_map_digitChar h, mul_zero, add_zero]

/-- A digit behind others is read. -/
theorem digitsAfter_cons {c : Char} (hc : c.isDigit = true) (rest : List Char) :
    digitsAfter Char.isDigit (c :: rest) =
      (c :: (digitsAfter Char.isDigit rest).1, (digitsAfter Char.isDigit rest).2) := by
  rw [digitsAfter, if_pos hc]
  rintro d t rfl
  cases hc

/-- So is a digit behind an underscore. -/
theorem digitsAfter_underscore {c : Char} (hc : c.isDigit = true) (rest : List Char) :
    digitsAfter Char.isDigit ('_' :: c :: rest) =
      (c :: (digitsAfter Char.isDigit rest).1, (digitsAfter Char.isDigit rest).2) := by
  rw [digitsAfter, if_pos hc]

/-- An underscore stands for itself. -/
theorem asciiDigit_underscore : asciiDigit '_' = '_' :=
  asciiDigit_of_not (by decide)

/-- Behind a digit the reader finds digits, perhaps behind an underscore. -/
theorem exists_digitsAfter (s : List Char) : ∃ w vs rest, s = w ++ rest ∧
    (MayWriteDigits w vs ∨ ∃ t, w = '_' :: t ∧ WritesDigits t vs) ∧
    digitsAfter Char.isDigit (s.map asciiDigit) =
      (vs.map Nat.digitChar, rest.map asciiDigit) := by
  have hnone : MayWriteDigits [] [] := Or.inl ⟨rfl, rfl⟩
  induction s using digitsAfter.induct isDecimalDigit with
  | case1 c rest hc _ _ _ ih =>
    obtain ⟨w, vs, after, rfl, hw, heq⟩ := ih
    obtain ⟨v, hv⟩ := Option.isSome_iff_exists.mp hc
    refine ⟨'_' :: c :: w, v :: vs, after, rfl, Or.inr ⟨_, rfl, .of_cons hv hw⟩, ?_⟩
    rw [List.map_cons, List.map_cons, asciiDigit_underscore,
      digitsAfter_underscore (isDigit_of_eq_some hv), heq, asciiDigit_of_eq_some hv]
    rfl
  | case2 c rest hc =>
    refine ⟨[], [], '_' :: c :: rest, rfl, Or.inl hnone, ?_⟩
    rw [List.map_cons, List.map_cons, asciiDigit_underscore, digitsAfter, if_neg]
    · rfl
    · rwa [isDigit_asciiDigit]
  | case3 c rest hfirst hc _ _ _ ih =>
    obtain ⟨w, vs, after, rfl, hw, heq⟩ := ih
    obtain ⟨v, hv⟩ := Option.isSome_iff_exists.mp hc
    refine ⟨c :: w, v :: vs, after, rfl, Or.inl (Or.inr (.of_cons hv hw)), ?_⟩
    rw [List.map_cons, digitsAfter_cons (isDigit_of_eq_some hv), heq, asciiDigit_of_eq_some hv]
    rfl
  | case4 c rest hfirst hc =>
    refine ⟨[], [], c :: rest, rfl, Or.inl hnone, ?_⟩
    rw [List.map_cons, digitsAfter, if_neg]
    · rfl
    · rwa [isDigit_asciiDigit]
    · intro d t hd ht
      cases rest with
      | nil => cases ht
      | cons e rest => exact hfirst e rest ((asciiDigit_eq_iff (by decide)).mp hd) rfl
  | case5 => exact ⟨[], [], [], rfl, Or.inl hnone, rfl⟩

/-- The reader finds digits that may be left out. -/
theorem exists_digits (s : List Char) : ∃ w vs rest, s = w ++ rest ∧ MayWriteDigits w vs ∧
    digits (s.map asciiDigit) = (vs.map Nat.digitChar, rest.map asciiDigit) := by
  cases s with
  | nil => exact ⟨[], [], [], rfl, Or.inl ⟨rfl, rfl⟩, rfl⟩
  | cons c s =>
    cases hv : decimalValue? c with
    | none =>
      have hdigit : ¬ (asciiDigit c).isDigit = true := by
        rw [isDigit_asciiDigit, isDecimalDigit_of_eq_none hv]
        decide
      refine ⟨[], [], c :: s, rfl, Or.inl ⟨rfl, rfl⟩, ?_⟩
      rw [List.map_cons, digits, if_neg hdigit]
      rfl
    | some v =>
      obtain ⟨w, vs, rest, rfl, hw, heq⟩ := exists_digitsAfter s
      refine ⟨c :: w, v :: vs, rest, rfl, Or.inr (.of_cons hv hw), ?_⟩
      rw [List.map_cons, digits, if_pos (isDigit_of_eq_some hv), heq, asciiDigit_of_eq_some hv]
      rfl

/-- A text in front of which digits end: it begins with none, and with no underscore. -/
def EndsDigits (rest : List Char) : Prop :=
  ∀ c ∈ rest.head?, isDecimalDigit c = false ∧ c ≠ '_'

/-- Behind their end no more digits are read. -/
theorem EndsDigits.digitsAfter_eq {rest : List Char} (h : EndsDigits rest) :
    digitsAfter Char.isDigit (rest.map asciiDigit) = ([], rest.map asciiDigit) := by
  cases rest with
  | nil => rfl
  | cons c rest =>
    obtain ⟨hc, hne⟩ := h c rfl
    have hdigit : c.isDigit = false := by
      rw [← asciiDigit_of_not hc, isDigit_asciiDigit, hc]
    rw [List.map_cons, asciiDigit_of_not hc, digitsAfter, if_neg (by rw [hdigit]; decide)]
    exact fun _ _ heq => absurd heq hne

/-- All digits up to their end are read. -/
theorem digitsAfter_append {s rest : List Char} {vs : List Nat} (h : WritesDigits s vs)
    (hrest : EndsDigits rest) : digitsAfter Char.isDigit ((s ++ rest).map asciiDigit) =
      (vs.map Nat.digitChar, rest.map asciiDigit) := by
  have hread {c : Char} {v : Nat} (hc : decimalValue? c = some v) (t : List Char) :
      digitsAfter Char.isDigit (asciiDigit c :: t) = (Nat.digitChar v ::
        (digitsAfter Char.isDigit t).1, (digitsAfter Char.isDigit t).2) := by
    rw [digitsAfter_cons (isDigit_of_eq_some hc), asciiDigit_of_eq_some hc]
  induction h with
  | digit hc =>
    rw [List.singleton_append, List.map_cons, hread hc, hrest.digitsAfter_eq]
    rfl
  | next hc _ ih =>
    rw [List.cons_append, List.map_cons, hread hc, ih]
    rfl
  | spaced hc hs ih =>
    obtain ⟨d, t, w, ws, rfl, rfl, hd⟩ := hs.exists_cons
    have hdigit := isDigit_of_eq_some hd
    rw [List.cons_append, List.map_cons, digitsAfter_cons hdigit] at ih
    rw [List.cons_append, List.cons_append, List.map_cons, List.map_cons, hread hc,
      asciiDigit_underscore, List.cons_append, List.map_cons, digitsAfter_underscore hdigit, ih]
    rfl

/-- All digits up to their end are read, if there are any. -/
theorem digits_append {s rest : List Char} {vs : List Nat} (h : MayWriteDigits s vs)
    (hrest : EndsDigits rest) : digits ((s ++ rest).map asciiDigit) =
      (vs.map Nat.digitChar, rest.map asciiDigit) := by
  rcases h with ⟨rfl, rfl⟩ | h
  · cases rest with
    | nil => rfl
    | cons c rest =>
      obtain ⟨hc, -⟩ := hrest c rfl
      rw [List.nil_append, List.map_cons, digits, if_neg]
      · rfl
      · rwa [isDigit_asciiDigit, Bool.not_eq_true]
  · obtain ⟨c, t, v, ws, rfl, rfl, hc⟩ := h.exists_cons
    have hdigit := isDigit_of_eq_some hc
    have hall := digitsAfter_append h hrest
    rw [List.cons_append, List.map_cons, digitsAfter_cons hdigit] at hall
    rw [List.cons_append, List.map_cons, digits, if_pos hdigit, ← hall]

/-! ## Signs and padding -/

/-- The reader finds a sign that may be left out. -/
theorem exists_sign (s : List Char) : ∃ sgn negative rest, s = sgn ++ rest ∧
    WritesSign sgn negative ∧ sign (s.map asciiDigit) = (negative, rest.map asciiDigit) := by
  have hplus : asciiDigit '+' = '+' := asciiDigit_of_not (by decide)
  have hminus : asciiDigit '-' = '-' := asciiDigit_of_not (by decide)
  rcases s with _ | ⟨c, s⟩
  · exact ⟨[], false, [], rfl, .none, rfl⟩
  by_cases hm : c = '-'
  · subst hm
    refine ⟨['-'], true, s, rfl, .minus, ?_⟩
    rw [List.map_cons, hminus]
    rfl
  by_cases hp : c = '+'
  · subst hp
    refine ⟨['+'], false, s, rfl, .plus, ?_⟩
    rw [List.map_cons, hplus]
    rfl
  refine ⟨[], false, c :: s, rfl, .none, ?_⟩
  rw [List.map_cons]
  unfold sign
  split
  · rename_i heq
    exact absurd ((asciiDigit_eq_iff (by decide)).mp (List.cons.inj heq).1) hm
  · rename_i heq
    exact absurd ((asciiDigit_eq_iff (by decide)).mp (List.cons.inj heq).1) hp
  · rfl

/-- A sign is read if what stands behind it does not begin with another one. -/
theorem sign_append {sgn rest : List Char} {negative : Bool} (h : WritesSign sgn negative)
    (hrest : ∀ c ∈ rest.head?, c ≠ '+' ∧ c ≠ '-') :
    sign ((sgn ++ rest).map asciiDigit) = (negative, rest.map asciiDigit) := by
  have hplus : asciiDigit '+' = '+' := asciiDigit_of_not (by decide)
  have hminus : asciiDigit '-' = '-' := asciiDigit_of_not (by decide)
  cases h with
  | plus =>
    rw [List.singleton_append, List.map_cons, hplus]
    rfl
  | minus =>
    rw [List.singleton_append, List.map_cons, hminus]
    rfl
  | none =>
    obtain ⟨sgn, negative, after, rfl, hsgn, heq⟩ := exists_sign rest
    cases hsgn with
    | none => exact heq
    | plus => exact absurd rfl (hrest '+' rfl).1
    | minus => exact absurd rfl (hrest '-' rfl).2

/-- A text is padded around what is left when it is stripped. -/
theorem isPadded_strip (s : List Char) : IsPadded s (strip s) := by
  refine ⟨s.takeWhile isPadding, ((s.dropWhile isPadding).reverse.takeWhile isPadding).reverse, ?_,
    fun c hc => List.mem_takeWhile_imp hc, fun c hc => ?_⟩
  · rw [strip, dropEndWhile_append_takeWhile, List.takeWhile_append_dropWhile]
  · exact List.mem_takeWhile_imp (List.mem_reverse.mp hc)

/-- A text without padding is what is left when a text is stripped that is padded around it. -/
theorem IsPadded.strip_eq {s body : List Char} (h : IsPadded s body)
    (hbody : ∀ c ∈ body, isPadding c = false) : strip s = body := by
  have hkeep {t : List Char} (ht : ∀ c ∈ t, isPadding c = false) : t.dropWhile isPadding = t := by
    cases t with
    | nil => rfl
    | cons c t => exact List.dropWhile_cons_of_neg (by simp [ht c List.mem_cons_self])
  obtain ⟨before, after, rfl, hbefore, hafter⟩ := h
  rw [strip, dropEndWhile, List.dropWhile_append_of_pos hbefore]
  rcases body with _ | ⟨c, body⟩
  · rw [List.nil_append, List.dropWhile_eq_nil_iff.mpr hafter]
    rfl
  · rw [List.cons_append, List.dropWhile_cons_of_neg (by simp [hbody c List.mem_cons_self]),
      ← List.cons_append, List.reverse_append,
      List.dropWhile_append_of_pos (by simpa using hafter),
      hkeep fun d hd => hbody d (List.mem_reverse.mp hd), List.reverse_reverse]

/-- A sign is no padding. -/
theorem WritesSign.not_isPadding {sgn : List Char} {negative : Bool} (h : WritesSign sgn negative) :
    ∀ c ∈ sgn, isPadding c = false := by
  refine List.all_iff_forall_prop.mp ?_
  cases h <;> decide

/-! ## Whole numbers -/

/-- Digits begin with no sign. -/
theorem WritesDigits.head?_ne_sign {s : List Char} {vs : List Nat} (h : WritesDigits s vs) :
    ∀ c ∈ s.head?, c ≠ '+' ∧ c ≠ '-' := by
  obtain ⟨c, t, v, ws, rfl, -, hc⟩ := h.exists_cons
  rintro _ ⟨⟩
  constructor <;>
  · rintro rfl
    cases hc

/-- **A text is read as a whole number exactly if it writes it.** -/
theorem int_eq_ok_iff {s : List Char} {n : Int} : int s = .ok n ↔ WritesInt s n := by
  constructor
  · intro h
    obtain ⟨sgn, negative, body, hstrip, hsgn, hsign⟩ := exists_sign (strip s)
    obtain ⟨w, vs, rest, rfl, hw, hdigits⟩ := exists_digits body
    unfold int at h
    rw [hsign] at h
    dsimp only at h
    rw [hdigits] at h
    rcases hw with ⟨rfl, rfl⟩ | hw
    · cases h
    · obtain ⟨c, t, v, ws, rfl, rfl, hc⟩ := hw.exists_cons
      rcases rest with _ | ⟨d, rest⟩
      · rw [List.append_nil] at hstrip
        rw [List.map_cons, List.map_nil] at h
        dsimp only at h
        rw [← List.map_cons, List.length_map, value_map_digitChar hw.lt_ten] at h
        by_cases hlength : (v :: ws).length ≤ maxDigits
        · rw [if_pos hlength] at h
          exact ⟨sgn, negative, c :: t, v :: ws, hstrip ▸ isPadded_strip s, hsgn, hw, hlength,
            (Except.ok.inj h).symm⟩
        · rw [if_neg hlength] at h
          cases h
      · cases h
  · rintro ⟨sgn, negative, digits, vs, hpadded, hsgn, hdigits, hlength, rfl⟩
    have hstrip := hpadded.strip_eq <|
      List.forall_mem_append.mpr ⟨hsgn.not_isPadding, hdigits.not_isPadding⟩
    have hends : EndsDigits [] := nofun
    have hread := digits_append (Or.inr hdigits) hends
    rw [List.append_nil] at hread
    unfold int
    rw [hstrip, sign_append hsgn hdigits.head?_ne_sign]
    dsimp only
    rw [hread]
    obtain ⟨c, t, v, ws, rfl, rfl, hc⟩ := hdigits.exists_cons
    rw [List.map_cons, List.map_nil]
    dsimp only
    rw [← List.map_cons, List.length_map, if_pos hlength, value_map_digitChar hdigits.lt_ten]
    rfl

example : int " -1_000\u0663 ".toList = .ok (-10003) := by decide +kernel

/-! ## Decimals -/

/-- A text is read as an exponent exactly if it is one. -/
theorem exponent?_eq_some_iff {s : List Char} {e : Int} :
    exponent? (s.map asciiDigit) = some e ↔ WritesExponent s e := by
  have hsmall : asciiDigit 'e' = 'e' := asciiDigit_of_not (by decide)
  have hcapital : asciiDigit 'E' = 'E' := asciiDigit_of_not (by decide)
  constructor
  · intro h
    rcases s with _ | ⟨c, s⟩
    · cases h
      exact .none
    rw [List.map_cons] at h
    unfold exponent? at h
    by_cases hc : asciiDigit c = 'e' ∨ asciiDigit c = 'E'
    · obtain ⟨sgn, negative, body, rfl, hsgn, hsign⟩ := exists_sign s
      obtain ⟨w, vs, rest, rfl, hw, hdigits⟩ := exists_digits body
      dsimp only at h
      rw [if_pos hc, hsign] at h
      dsimp only at h
      rw [hdigits] at h
      rw [asciiDigit_eq_iff (by decide), asciiDigit_eq_iff (by decide)] at hc
      rcases hw with ⟨rfl, rfl⟩ | hw
      · cases h
      · obtain ⟨d, t, v, ws, rfl, rfl, hd⟩ := hw.exists_cons
        rcases rest with _ | ⟨x, rest⟩
        · rw [List.map_cons, List.map_nil] at h
          dsimp only at h
          rw [← List.map_cons, value_map_digitChar hw.lt_ten] at h
          rw [List.append_nil, ← Option.some.inj h]
          exact .some hc hsgn hw
        · cases h
    · dsimp only at h
      rw [if_neg hc] at h
      cases h
  · intro h
    cases h with
    | none => rfl
    | some hc hsgn hdigits =>
      rename_i c sgn digits negative vs
      have hends : EndsDigits [] := nofun
      have hread := digits_append (Or.inr hdigits) hends
      rw [List.append_nil] at hread
      have hletter : asciiDigit c = 'e' ∨ asciiDigit c = 'E' := by
        rcases hc with rfl | rfl
        · exact Or.inl hsmall
        · exact Or.inr hcapital
      rw [List.map_cons]
      unfold exponent?
      dsimp only
      rw [if_pos hletter, sign_append hsgn hdigits.head?_ne_sign]
      dsimp only
      rw [hread]
      obtain ⟨d, t, v, ws, rfl, rfl, hd⟩ := hdigits.exists_cons
      rw [List.map_cons, List.map_nil]
      dsimp only
      rw [← List.map_cons, value_map_digitChar hdigits.lt_ten]
      rfl

/-- An exponent ends digits. -/
theorem WritesExponent.endsDigits {s : List Char} {e : Int} (h : WritesExponent s e) :
    EndsDigits s := by
  cases h with
  | none => exact nofun
  | some hc _ _ =>
    rintro _ ⟨⟩
    rcases hc with rfl | rfl <;> decide

/-- Values of digits that may be left out are less than ten. -/
theorem MayWriteDigits.lt_ten {s : List Char} {vs : List Nat} (h : MayWriteDigits s vs) :
    ∀ v ∈ vs, v < 10 := by
  rcases h with ⟨-, rfl⟩ | h
  · exact fun v hv => absurd hv List.not_mem_nil
  · exact h.lt_ten

/-- The digits behind a point, if there is one, and what follows them. -/
def fractionOf : List Char → List Char × List Char
  | '.' :: rest => digits rest
  | rest => ([], rest)

/-- Behind a point there may be digits. -/
theorem fractionOf_point (rest : List Char) :
    fractionOf (('.' :: rest).map asciiDigit) = digits (rest.map asciiDigit) := by
  rw [List.map_cons, asciiDigit_of_not (by decide), fractionOf]

/-- Without a point there are none. -/
theorem fractionOf_of_ne {rest : List Char} (h : ∀ t, rest ≠ '.' :: t) :
    fractionOf (rest.map asciiDigit) = ([], rest.map asciiDigit) := by
  unfold fractionOf
  split
  · rename_i heq
    cases rest with
    | nil => cases heq
    | cons c rest =>
      obtain rfl : c = '.' := (asciiDigit_eq_iff (by decide)).mp (List.cons.inj heq).1
      exact absurd rfl (h rest)
  · rfl

/-- A decimal is read as its digits before a point, those behind it, and an exponent. -/
theorem decimal?_eq (negative : Bool) (s : List Char) :
    decimal? negative s =
      let (whole, rest) := digits s
      let (fraction, rest) := fractionOf rest
      if whole.isEmpty && fraction.isEmpty then none
      else do
        let e ← exponent? rest
        return .ofDecimal negative (value (whole ++ fraction)) (e - fraction.length) :=
  rfl

/-- What is made of the digits of a mantissa and of the exponent behind them. -/
theorem decimal?_of_digits {negative : Bool} {s rest rest' : List Char} {ws fs : List Nat}
    (hws : ∀ v ∈ ws, v < 10) (hfs : ∀ v ∈ fs, v < 10)
    (hwhole : digits s = (ws.map Nat.digitChar, rest))
    (hfraction : fractionOf rest = (fs.map Nat.digitChar, rest')) :
    decimal? negative s = if ws ++ fs = [] then none
      else (exponent? rest').map fun e =>
        .ofDecimal negative (number (ws ++ fs)) (e - fs.length) := by
  have hempty : ((ws.map Nat.digitChar).isEmpty && (fs.map Nat.digitChar).isEmpty) =
      decide (ws ++ fs = []) := by
    cases ws <;> cases fs <;> rfl
  have hvalue : value (ws.map Nat.digitChar ++ fs.map Nat.digitChar) = number (ws ++ fs) := by
    rw [← List.map_append, value_map_digitChar (List.forall_mem_append.mpr ⟨hws, hfs⟩)]
  rw [decimal?_eq, hwhole]
  dsimp only
  rw [hfraction]
  dsimp only
  rw [hempty, hvalue, List.length_map]
  by_cases hnone : ws ++ fs = []
  · rw [if_pos hnone, if_pos (decide_eq_true hnone)]
  · rw [if_neg hnone, if_neg (by simpa using hnone)]
    cases exponent? rest' <;> rfl

/-- An exponent begins with no point. -/
theorem WritesExponent.ne_point {s : List Char} {e : Int} (h : WritesExponent s e) (t : List Char) :
    s ≠ '.' :: t := by
  rintro rfl
  generalize heq : '.' :: t = s at h
  cases h with
  | none => cases heq
  | some hc _ _ =>
    rw [← (List.cons.inj heq).1] at hc
    exact absurd hc (by decide)

/-- A text is read as a decimal exactly if it is one. -/
theorem decimal?_eq_some_iff {negative : Bool} {s : List Char} {x : Binary64} :
    decimal? negative (s.map asciiDigit) = some x ↔ WritesDecimal negative s x := by
  have hnil : ∀ v ∈ ([] : List Nat), v < 10 := List.forall_mem_nil _
  constructor
  · intro h
    obtain ⟨w, ws, rest, rfl, hw, hwhole⟩ := exists_digits s
    by_cases hrest : ∃ t, rest = '.' :: t
    · obtain ⟨t, rfl⟩ := hrest
      obtain ⟨f, fs, after, rfl, hf, hfraction⟩ := exists_digits t
      rw [← fractionOf_point] at hfraction
      rw [decimal?_of_digits hw.lt_ten hf.lt_ten hwhole hfraction] at h
      split_ifs at h with hne
      obtain ⟨e, he, rfl⟩ := Option.map_eq_some_iff.mp h
      have hdecimal : WritesDecimal negative ((w ++ '.' :: f) ++ after) _ :=
        .mk (.pointed hw hf hne) (exponent?_eq_some_iff.mp he)
      rwa [List.append_assoc, List.cons_append] at hdecimal
    · rw [not_exists] at hrest
      rw [decimal?_of_digits hw.lt_ten hnil hwhole (fractionOf_of_ne hrest)] at h
      split_ifs at h with hne
      obtain ⟨e, he, rfl⟩ := Option.map_eq_some_iff.mp h
      rcases hw with ⟨rfl, rfl⟩ | hw
      · exact absurd rfl hne
      · exact .mk (.whole hw) (exponent?_eq_some_iff.mp he)
  · intro h
    cases h with
    | mk hs ht =>
      rename_i s t ws fs e
      have hexponent := exponent?_eq_some_iff.mpr ht
      cases hs with
      | whole hw =>
        have hne : ws ++ [] ≠ [] := by
          obtain ⟨c, t, v, ws, rfl, rfl, hc⟩ := hw.exists_cons
          exact nofun
        rw [decimal?_of_digits hw.lt_ten hnil (digits_append (Or.inr hw) ht.endsDigits)
          (fractionOf_of_ne ht.ne_point), if_neg hne, hexponent]
        rfl
      | pointed hw hf hne =>
        rename_i w f
        have hends : EndsDigits ('.' :: (f ++ t)) := by
          rintro _ ⟨⟩
          decide
        have hfraction := digits_append hf ht.endsDigits
        rw [← fractionOf_point] at hfraction
        rw [List.append_assoc, List.cons_append,
          decimal?_of_digits hw.lt_ten hf.lt_ten (digits_append hw hends) hfraction, if_neg hne,
          hexponent]
        rfl

/-! ## Floating-point numbers -/

/-- A character outside the capital letters is its own lower case. -/
theorem toLower_eq_self {c : Char} (h : ¬ (65 ≤ c.toNat ∧ c.toNat ≤ 90)) : c.toLower = c := by
  refine dif_neg fun hrange => h ?_
  rwa [ge_iff_le, UInt32.le_iff_toNat_le, UInt32.le_iff_toNat_le] at hrange

/-- A digit is its own lower case. -/
theorem toLower_of_isDecimalDigit {c : Char} (h : isDecimalDigit c = true) : c.toLower = c := by
  have hcapitals : ∀ n < 91, 65 ≤ n → isDecimalDigit (Char.ofNat n) = false := by decide
  refine toLower_eq_self fun hrange => ?_
  have hnot := hcapitals c.toNat (by omega) hrange.1
  rw [Char.ofNat_toNat, h] at hnot
  cases hnot

/-- So is padding. -/
theorem toLower_of_isPadding {c : Char} (h : isPadding c = true) : c.toLower = c := by
  refine toLower_eq_self fun hrange => ?_
  simp only [isPadding, isBlank, Bool.and_eq_true, Bool.or_eq_true, decide_eq_true_eq,
    beq_iff_eq] at h
  omega

/-- The lower case of a text is none the less a name if its digits are in ASCII. -/
theorem map_toLower_asciiDigit_eq_iff {s name : List Char}
    (hname : ∀ x ∈ name, isDecimalDigit x = false) :
    (s.map asciiDigit).map Char.toLower = name ↔ s.map Char.toLower = name := by
  have hchar {c x : Char} (hx : isDecimalDigit x = false) :
      (asciiDigit c).toLower = x ↔ c.toLower = x := by
    cases hc : isDecimalDigit c with
    | false => rw [asciiDigit_of_not hc]
    | true =>
      have hascii : isDecimalDigit (asciiDigit c) = true :=
        isDecimalDigit_of_isDigit ((isDigit_asciiDigit c).trans hc)
      rw [toLower_of_isDecimalDigit hc, toLower_of_isDecimalDigit hascii]
      refine iff_of_false ?_ ?_
      · rintro rfl
        cases hascii.symm.trans hx
      · rintro rfl
        cases hc.symm.trans hx
  induction name generalizing s with
  | nil => simp
  | cons x name ih =>
    obtain ⟨hx, hname⟩ := List.forall_mem_cons.mp hname
    cases s with
    | nil => simp
    | cons c s =>
      rw [List.map_cons, List.map_cons, List.map_cons, List.cons.injEq, List.cons.injEq]
      exact and_congr (hchar hx) (ih hname)

/-- A decimal begins with a digit or a point. -/
theorem WritesDecimal.exists_cons {negative : Bool} {s : List Char} {x : Binary64}
    (h : WritesDecimal negative s x) :
    ∃ c t, s = c :: t ∧ (isDecimalDigit c = true ∨ c = '.') := by
  cases h with
  | mk hs _ =>
    have hdigits {s t : List Char} {vs : List Nat} (h : WritesDigits s vs) :
        ∃ c u, s ++ t = c :: u ∧ (isDecimalDigit c = true ∨ c = '.') := by
      obtain ⟨c, u, v, ws, rfl, -, hc⟩ := h.exists_cons
      exact ⟨c, u ++ t, rfl, Or.inl (isDecimalDigit_of_eq_some hc)⟩
    cases hs with
    | whole h => exact hdigits h
    | pointed h _ _ =>
      rcases h with ⟨rfl, -⟩ | h
      · exact ⟨_, _, rfl, Or.inr rfl⟩
      · rw [List.append_assoc]
        exact hdigits h

/-- A decimal is no name. -/
theorem WritesDecimal.map_toLower_ne {negative : Bool} {s : List Char} {x : Binary64}
    (h : WritesDecimal negative s x) {first : Char} {rest : List Char}
    (hfirst : isDecimalDigit first = false ∧ first ≠ '.') :
    s.map Char.toLower ≠ first :: rest := by
  obtain ⟨c, t, rfl, hc⟩ := h.exists_cons
  intro heq
  have hlower := (List.cons.inj heq).1
  rcases hc with hc | rfl
  · rw [toLower_of_isDecimalDigit hc] at hlower
    subst hlower
    cases hc.symm.trans hfirst.1
  · exact hfirst.2 hlower.symm

/-- The names of the numbers that are not finite. -/
def nonFiniteNames : List String :=
  ["inf", "infinity", "nan"]

/-- In these names there are neither digits nor padding nor signs. -/
theorem plain_of_mem_nonFiniteNames {name : String} (h : name ∈ nonFiniteNames) :
    ∀ c ∈ name.toList, isDecimalDigit c = false ∧ isPadding c = false ∧ c ≠ '+' ∧ c ≠ '-' := by
  have hall : ∀ name ∈ nonFiniteNames, name.toList.all fun c =>
      isDecimalDigit c = false ∧ isPadding c = false ∧ c ≠ '+' ∧ c ≠ '-' := by decide
  exact List.all_iff_forall_prop.mp (hall name h)

/-- A number is read exactly if what stands behind the sign writes it. -/
theorem float?_eq_some_iff_of_sign {negative : Bool} {s : String} {body : List Char} {x : Binary64}
    (hsign : sign ((strip s.toList).map asciiDigit) = (negative, body.map asciiDigit)) :
    float? s = some x ↔ WritesMagnitude negative body x := by
  have hlist (name : String) (hname : name ∈ nonFiniteNames) :
      String.ofList ((body.map asciiDigit).map Char.toLower) = name ↔
        body.map Char.toLower = name.toList := by
    rw [← String.toList_inj, String.toList_ofList]
    exact map_toLower_asciiDigit_eq_iff fun c hc => (plain_of_mem_nonFiniteNames hname c hc).1
  have hinf := hlist "inf" (by decide)
  have hinfinity := hlist "infinity" (by decide)
  have hnan := hlist "nan" (by decide)
  unfold float?
  rw [hsign]
  dsimp only
  constructor
  · intro h
    split at h
    · rename_i heq
      cases h
      exact .infinite (Or.inl (hinf.mp heq))
    · rename_i heq
      cases h
      exact .infinite (Or.inr (hinfinity.mp heq))
    · rename_i heq
      cases h
      exact .nan (hnan.mp heq)
    · exact .decimal (decimal?_eq_some_iff.mp h)
  · intro h
    cases h with
    | infinite h =>
      rcases h with h | h
      · rw [hinf.mpr h]
        rfl
      · rw [hinfinity.mpr h]
        rfl
    | nan h =>
      rw [hnan.mpr h]
      rfl
    | decimal h =>
      split
      · rename_i heq
        exact absurd (hinf.mp heq) (h.map_toLower_ne (by decide))
      · rename_i heq
        exact absurd (hinfinity.mp heq) (h.map_toLower_ne (by decide))
      · rename_i heq
        exact absurd (hnan.mp heq) (h.map_toLower_ne (by decide))
      · exact decimal?_eq_some_iff.mpr h

/-- A sign, digits and a decimal are no padding. -/
theorem WritesDecimal.not_isPadding {negative : Bool} {s : List Char} {x : Binary64}
    (h : WritesDecimal negative s x) : ∀ c ∈ s, isPadding c = false := by
  have hdigits {s : List Char} {vs : List Nat} (h : MayWriteDigits s vs) :
      ∀ c ∈ s, isPadding c = false := by
    rcases h with ⟨rfl, -⟩ | h
    · exact fun c hc => absurd hc List.not_mem_nil
    · exact h.not_isPadding
  cases h with
  | mk hs ht =>
    refine List.forall_mem_append.mpr ⟨?_, ?_⟩
    · cases hs with
      | whole h => exact h.not_isPadding
      | pointed hs ht _ =>
        exact List.forall_mem_append.mpr
          ⟨hdigits hs, List.forall_mem_cons.mpr ⟨by decide, hdigits ht⟩⟩
    · cases ht with
      | none => exact fun c hc => absurd hc List.not_mem_nil
      | some hc hsgn h =>
        refine List.forall_mem_cons.mpr
          ⟨?_, List.forall_mem_append.mpr ⟨hsgn.not_isPadding, h.not_isPadding⟩⟩
        rcases hc with rfl | rfl <;> decide

/-- What stands behind a sign is no padding, and begins with no sign. -/
theorem WritesMagnitude.isPlain {negative : Bool} {s : List Char} {x : Binary64}
    (h : WritesMagnitude negative s x) :
    (∀ c ∈ s, isPadding c = false) ∧ ∀ c ∈ s.head?, c ≠ '+' ∧ c ≠ '-' := by
  have hname {name : String} (h : s.map Char.toLower = name.toList) (hmem : name ∈ nonFiniteNames) :
      (∀ c ∈ s, isPadding c = false) ∧ ∀ c ∈ s.head?, c ≠ '+' ∧ c ≠ '-' := by
    have hlower {c : Char} (hc : c ∈ s) :=
      (plain_of_mem_nonFiniteNames hmem _ (h ▸ List.mem_map_of_mem hc)).2
    refine ⟨fun c hc => ?_, fun c hc => ?_⟩
    · rw [← Bool.not_eq_true]
      intro hpadding
      have hplain := (hlower hc).1
      rw [toLower_of_isPadding hpadding, hpadding] at hplain
      cases hplain
    · have hplain := (hlower (List.mem_of_mem_head? hc)).2
      constructor
      · rintro rfl
        exact hplain.1 rfl
      · rintro rfl
        exact hplain.2 rfl
  cases h with
  | infinite h =>
    rcases h with h | h
    · exact hname h (by decide)
    · exact hname h (by decide)
  | nan h => exact hname h (by decide)
  | decimal h =>
    refine ⟨h.not_isPadding, ?_⟩
    obtain ⟨c, t, rfl, hc⟩ := h.exists_cons
    rintro _ ⟨⟩
    constructor <;>
    · rintro rfl
      revert hc
      decide

/-- **A text is read as a floating-point number exactly if it writes it.** -/
theorem float?_eq_some_iff {s : String} {x : Binary64} :
    float? s = some x ↔ WritesFloat s.toList x := by
  constructor
  · intro h
    obtain ⟨sgn, negative, body, hstrip, hsgn, hsign⟩ := exists_sign (strip s.toList)
    exact ⟨sgn, negative, body, hstrip ▸ isPadded_strip s.toList, hsgn,
      (float?_eq_some_iff_of_sign hsign).mp h⟩
  · rintro ⟨sgn, negative, body, hpadded, hsgn, hbody⟩
    obtain ⟨hplain, hhead⟩ := hbody.isPlain
    have hstrip := hpadded.strip_eq (List.forall_mem_append.mpr ⟨hsgn.not_isPadding, hplain⟩)
    have hsign := sign_append hsgn hhead
    rw [← hstrip] at hsign
    exact (float?_eq_some_iff_of_sign hsign).mpr hbody

end LintDaemon.Numeral
