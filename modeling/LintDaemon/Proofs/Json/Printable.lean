import LintDaemon.Proofs.Json.ReadBack
import LintDaemon.Proofs.Text.Lines

/-!
# Written texts are printable

What is written for objects of texts is printable ASCII whatever the texts are, so that it never
spans more than one line.

* `isPrintableAscii`: the characters from the space to the tilde.
* `IsEscape.isPrintable`: the escape of every character is made of them.
* `write_textObject_printable`, `write_textObjects_printable`: so is what is written for objects.
-/

namespace LintDaemon.Json

open LintDaemon.Text

/-- Printable ASCII. -/
def isPrintableAscii (c : Char) : Bool :=
  0x20 ≤ c.toNat && c.toNat ≤ 0x7E

/-- A text of printable ASCII. -/
def IsPrintable (s : List Char) : Prop :=
  ∀ c ∈ s, isPrintableAscii c = true

/-- Whether a text is printable can be computed. -/
instance (s : List Char) : Decidable (IsPrintable s) :=
  decidable_of_iff (s.all isPrintableAscii = true) List.all_eq_true

/-- Printable texts put together are printable. -/
theorem IsPrintable.append {s t : List Char} (hs : IsPrintable s) (ht : IsPrintable t) :
    IsPrintable (s ++ t) := by
  intro c hc
  exact (List.mem_append.mp hc).elim (hs c) (ht c)

/-- A printable character in front of a printable text. -/
theorem IsPrintable.cons {c : Char} {s : List Char} (hc : isPrintableAscii c = true)
    (hs : IsPrintable s) : IsPrintable (c :: s) := by
  intro d hd
  rcases List.mem_cons.mp hd with rfl | hd
  · exact hc
  · exact hs d hd

/-- A printable text stays on one line. -/
theorem IsPrintable.isOneLine {s : List Char} (hs : IsPrintable s) : IsOneLine s := by
  constructor
  · intro h
    exact absurd (hs _ h) (by decide)
  · intro h
    exact absurd (hs _ h) (by decide)

/-- A hexadecimal digit is printable. -/
theorem digitChar_printable : ∀ d < 16, isPrintableAscii (Nat.digitChar d) = true := by
  decide

/-- The escape of a unit is printable. -/
theorem unitEscape_printable {n : Nat} (h : n < 0x10000) : IsPrintable (unitEscape n) := by
  have hdigit : ∀ d < 16, isPrintableAscii (Nat.digitChar d) = true := digitChar_printable
  unfold unitEscape
  rw [hexDigits_four h]
  exact .cons (by decide) (.cons (by decide) (.cons (hdigit _ (by omega))
    (.cons (hdigit _ (by omega)) (.cons (hdigit _ (by omega)) (.cons (hdigit _ (by omega))
      (by decide))))))

/-- The letters that stand for a character behind a backslash are printable. -/
theorem isPrintableAscii_of_escaped? {c d : Char} (h : escaped? d = some c) :
    isPrintableAscii d = true := by
  unfold escaped? at h
  by_cases hself : d = '\x22' ∨ d = '\\' ∨ d = '/'
  · rcases hself with rfl | rfl | rfl <;> decide
  · rw [if_neg hself] at h
    split_ifs at h with hb hf hn hr ht <;> subst d <;> decide

/-- The escape of every character is printable. -/
theorem IsEscape.isPrintable {c : Char} {s : List Char} (h : IsEscape c s) : IsPrintable s := by
  cases h with
  | letter _ hescaped =>
    exact .cons (by decide) (.cons (isPrintableAscii_of_escaped? hescaped) (by decide))
  | plain _ _ hlow hhigh =>
    have hc : isPrintableAscii c = true := by
      unfold isPrintableAscii
      rw [Bool.and_eq_true, decide_eq_true_eq, decide_eq_true_eq]
      exact ⟨hlow, hhigh⟩
    exact .cons hc (by decide)
  | unit hc => exact unitEscape_printable hc
  | pair hc =>
    have hvalid : c.toNat < 0xD800 ∨ (0xDFFF < c.toNat ∧ c.toNat < 0x110000) := c.valid
    exact (unitEscape_printable (by omega)).append (unitEscape_printable (by omega))

/-- A written text is printable. -/
theorem writeString_printable (s : List Char) : IsPrintable (writeString s) := by
  refine .cons (by decide) (IsPrintable.append ?_ (by decide))
  intro c hc
  obtain ⟨d, -, hd⟩ := List.mem_flatMap.mp hc
  exact (isEscape_escapeChar d).isPrintable c hd

/-- A written member that is a text is printable. -/
theorem writeMember_printable (name text : String) :
    IsPrintable (writeMember (name, .string text)) := by
  rw [writeMember, write]
  exact (writeString_printable _).append (.cons (by decide) (writeString_printable _))

/-- What is written for an object of texts is printable. -/
theorem write_textObject_printable (members : List (String × String)) :
    IsPrintable (write (textObject members)) := by
  have hmembers : IsPrintable (writeMembers (members.map fun m => (m.1, .string m.2))) := by
    induction members with
    | nil => decide
    | cons m members ih =>
      cases members with
      | nil => exact writeMember_printable m.1 m.2
      | cons m' members =>
        exact (writeMember_printable m.1 m.2).append (.cons (by decide) ih)
  unfold textObject
  rw [write]
  exact .cons (by decide) (hmembers.append (by decide))

/-- What is written for a list of objects of texts is printable. -/
theorem write_textObjects_printable (objects : List (List (String × String))) :
    IsPrintable (write (.array (objects.map textObject))) := by
  have hitems : IsPrintable (writeItems (objects.map textObject)) := by
    induction objects with
    | nil => decide
    | cons members objects ih =>
      cases objects with
      | nil => exact write_textObject_printable members
      | cons members' objects =>
        exact (write_textObject_printable members).append (.cons (by decide) ih)
  rw [write]
  exact .cons (by decide) (hitems.append (by decide))

end LintDaemon.Json
