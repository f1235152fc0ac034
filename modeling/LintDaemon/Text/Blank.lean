/-!
# White space

Which characters count as white space, and trimming a text of them.

* `isBlank`: the white space of every script, the four ASCII separators and the next-line control
  included.
* `trim`, `trimStart`, `trimEnd`: a text without the white space at its ends.
* `words`: the pieces of a text between white space.
-/

namespace LintDaemon.Text

/-- White space: tab to carriage return, the four information separators, space, next line,
no-break space, and the Unicode space separators. -/
def isBlank (c : Char) : Bool :=
  let n := c.toNat
  (9 ≤ n && n ≤ 13) || (28 ≤ n && n ≤ 32) || n == 0x85 || n == 0xA0 || n == 0x1680 ||
    (0x2000 ≤ n && n ≤ 0x200A) || n == 0x2028 || n == 0x2029 || n == 0x202F || n == 0x205F ||
    n == 0x3000

/-- A text without the longest suffix of characters that satisfy `p`. -/
def dropEndWhile (p : Char → Bool) (s : List Char) : List Char :=
  (s.reverse.dropWhile p).reverse

section

variable {p : Char → Bool} {s t : List Char}

/-- What is left of a text and what is dropped are the text. -/
theorem dropEndWhile_append_takeWhile (p : Char → Bool) (s : List Char) :
    dropEndWhile p s ++ (s.reverse.takeWhile p).reverse = s := by
  rw [dropEndWhile, ← List.reverse_append, List.takeWhile_append_dropWhile, List.reverse_reverse]

/-- Characters that satisfy `p` are dropped behind a text. -/
theorem dropEndWhile_append_of_pos (h : ∀ c ∈ t, p c = true) :
    dropEndWhile p (s ++ t) = dropEndWhile p s := by
  have hdropped : ∀ c ∈ t.reverse, p c = true := fun c hc => h c (List.mem_reverse.mp hc)
  rw [dropEndWhile, List.reverse_append, List.dropWhile_append_of_pos hdropped, dropEndWhile]

/-- A text whose last character does not satisfy `p` is left as it is. -/
theorem dropEndWhile_of_getLast? (h : ∀ c ∈ s.getLast?, p c = false) : dropEndWhile p s = s := by
  rw [← List.head?_reverse] at h
  unfold dropEndWhile
  cases hs : s.reverse with
  | nil => exact (List.reverse_eq_nil_iff.mp hs).symm
  | cons c rest =>
    have hc : p c = false := h c (by rw [hs, List.head?_cons, Option.mem_some])
    rw [List.dropWhile_cons_of_neg (by simp [hc]), ← hs, List.reverse_reverse]

/-- What is left of a text does not end in a character that satisfies `p`. -/
theorem getLast?_dropEndWhile : ∀ c ∈ (dropEndWhile p s).getLast?, p c = false := by
  intro c hc
  rw [dropEndWhile, List.getLast?_reverse] at hc
  have hfirst := List.head?_dropWhile_not p s.reverse
  rw [Option.mem_def.mp hc] at hfirst
  exact hfirst

end

/-- A text without leading white space. -/
def trimStart (s : List Char) : List Char :=
  s.dropWhile isBlank

/-- A text without trailing white space. -/
def trimEnd (s : List Char) : List Char :=
  dropEndWhile isBlank s

/-- A text without white space at its ends. -/
def trim (s : List Char) : List Char :=
  trimEnd (trimStart s)

/-- A string without white space at its ends. -/
def trimmed (s : String) : String :=
  String.ofList (trim s.toList)

/-- Whether a text is empty or all white space. -/
def allBlank (s : List Char) : Bool :=
  s.all isBlank

/-- The pieces of a text between white space. -/
def words (s : List Char) : List (List Char) :=
  (s.splitBy fun a b => isBlank a == isBlank b).filter fun piece => !allBlank piece

end LintDaemon.Text
