/-!
# Character classes as runs

A class of code points is stored as the lengths of its alternating runs: the first number counts
the code points before the class begins, the second those inside it, the third the next gap, and
so on. Code points after the last run are outside.

* `Runs.contains`: whether a code point lies in the class.
-/

namespace LintDaemon.Text.Runs

/-- Whether the code point `n`, counted from the start of the first run of `runs`, lies in the
class; `inside` says on which side that first run is. -/
def containsFrom (inside : Bool) : List Nat → Nat → Bool
  | [], _ => false
  | len :: rest, n => if n < len then inside else containsFrom (!inside) rest (n - len)

/-- Whether a code point lies in the class stored as alternating runs. -/
def contains (runs : List Nat) (n : Nat) : Bool :=
  containsFrom false runs n

end LintDaemon.Text.Runs
