import LintDaemon.Json.Reader
import LintDaemon.Json.Writer
import Mathlib.Data.List.TakeWhile
import Mathlib.Tactic.SplitIfs

/-!
# Written texts read back

What the reader makes of JSON that the writer has written, for the values that go over the wire:
objects of texts, and lists of them.

* `isEscape_escapeChar`: the ways in which a character is written.
* `IsEscape.readString`: the escape of a character is read as that character.
* `readString_flatMap_escapeChar`: a written text is read as that text.
* `textObject`: an object whose members are texts.
* `readValue_write_textObject`, `readItems_writeItems`: objects of texts, and lists of them.
* `read_write_textObject`, `read_write_textObjects`: the same for whole lines.
-/

namespace LintDaemon.Json

open LintDaemon.Text

/-! ## Hexadecimal digits -/

/-- One more digit is the remainder by sixteen, behind the digits of the quotient. -/
theorem hexDigits_succ (k n : Nat) :
    hexDigits (k + 2) n = hexDigits (k + 1) (n / 16) ++ [Nat.digitChar (n % 16)] := by
  unfold hexDigits
  by_cases h : n < 16
  · have hdiv : n / 16 = 0 := Nat.div_eq_of_lt h
    rw [hdiv, Nat.toDigits_of_lt_base h, Nat.toDigits_zero, Nat.mod_eq_of_lt h]
    simp [List.replicate_succ']
  · have hlow : 16 ≤ n := Nat.le_of_not_lt h
    rw [Nat.toDigits_of_base_le (by decide) hlow]
    simp

/-- A number below 10000 in hexadecimal has four digits. -/
theorem hexDigits_four {n : Nat} (h : n < 0x10000) :
    hexDigits 4 n = [Nat.digitChar (n / 16 / 16 / 16), Nat.digitChar (n / 16 / 16 % 16),
      Nat.digitChar (n / 16 % 16), Nat.digitChar (n % 16)] := by
  have hfirst : hexDigits 1 (n / 16 / 16 / 16) = [Nat.digitChar (n / 16 / 16 / 16)] := by
    unfold hexDigits
    rw [Nat.toDigits_of_lt_base (by omega)]
    rfl
  rw [hexDigits_succ, hexDigits_succ, hexDigits_succ, hfirst]
  rfl

/-- A digit has its value. -/
theorem hexValue?_digitChar : ∀ d < 16, hexValue? (Nat.digitChar d) = some d := by
  decide

/-- Four hexadecimal digits write their unit. -/
theorem unit?_hexDigits {n : Nat} (h : n < 0x10000) :
    ∃ a b c d, hexDigits 4 n = [a, b, c, d] ∧ unit? a b c d = some n := by
  refine ⟨_, _, _, _, hexDigits_four h, ?_⟩
  unfold unit?
  rw [hexValue?_digitChar _ (by omega), hexValue?_digitChar _ (by omega),
    hexValue?_digitChar _ (by omega), hexValue?_digitChar _ (by omega)]
  simp only [Option.bind_eq_bind, Option.bind_some, Option.pure_def, Option.some.injEq]
  omega

/-! ## Escapes -/

/-- The ways in which a character is written. -/
inductive IsEscape (c : Char) : List Char → Prop
  /-- A letter behind a backslash. -/
  | letter {d : Char} (hne : d ≠ 'u') (hescaped : escaped? d = some c) : IsEscape c ['\\', d]
  /-- The character itself. -/
  | plain (hquote : c ≠ '\x22') (hbackslash : c ≠ '\\') (hlow : ' ' ≤ c) (hhigh : c ≤ '~') :
    IsEscape c [c]
  /-- One unit. -/
  | unit (hc : c.toNat < 0x10000) : IsEscape c (unitEscape c.toNat)
  /-- A pair of units. -/
  | pair (hc : 0x10000 ≤ c.toNat) :
    IsEscape c (unitEscape (0xD800 + (c.toNat - 0x10000) / 0x400) ++
      unitEscape (0xDC00 + (c.toNat - 0x10000) % 0x400))

/-- Every character is written in one of these ways. -/
theorem isEscape_escapeChar (c : Char) : IsEscape c (escapeChar c) := by
  unfold escapeChar
  split_ifs with hquote hbackslash hn hr ht hb hf hprintable hunit
  · subst hquote
    exact .letter (by decide) rfl
  · subst hbackslash
    exact .letter (by decide) rfl
  · subst hn
    exact .letter (by decide) rfl
  · subst hr
    exact .letter (by decide) rfl
  · subst ht
    exact .letter (by decide) rfl
  · subst hb
    exact .letter (by decide) rfl
  · subst hf
    exact .letter (by decide) rfl
  · exact .plain hquote hbackslash hprintable.1 hprintable.2
  · exact .unit hunit
  · exact .pair (Nat.le_of_not_lt hunit)

/-! ## Texts -/

section Texts

variable {start rest : List Char}

/-- A unit that begins no pair is a character of its own. -/
theorem readString_unit {n : Nat} {a b c d : Char} (hunit : unit? a b c d = some n)
    (hhigh : isHighUnit n = false) (hrest : rest ≠ []) :
    readString start ('\\' :: 'u' :: a :: b :: c :: d :: rest) =
      push (unitChar n) (readString start rest) := by
  rw [readString.eq_def start ('\\' :: 'u' :: a :: b :: c :: d :: rest)]
  simp only [hunit]
  split
  · rename_i h
    cases h
  · exact absurd rfl hrest
  · rename_i high a b c d next rest h
    obtain rfl := Option.some.inj h
    rw [hhigh]
    split <;> rfl
  · rename_i unit h hnil hpair
    obtain rfl := Option.some.inj h
    rfl

/-- Two units that are a pair are one character. -/
theorem readString_pair {high low : Nat} {a b c d a' b' c' d' : Char}
    (hunit : unit? a b c d = some high) (hunit' : unit? a' b' c' d' = some low)
    (hhigh : isHighUnit high = true) (hlow : isLowUnit low = true) (hrest : rest ≠ []) :
    readString start
        ('\\' :: 'u' :: a :: b :: c :: d :: '\\' :: 'u' :: a' :: b' :: c' :: d' :: rest) =
      push (pairChar high low) (readString start rest) := by
  cases rest with
  | nil => exact absurd rfl hrest
  | cons next rest =>
    rw [readString.eq_5 start a b c d high a' b' c' d' next rest hunit, hunit']
    dsimp only
    rw [hhigh, hlow]
    rfl

/-- A letter behind a backslash stands for its character. -/
theorem readString_letter {c d : Char} (hc : c ≠ 'u') (hescaped : escaped? c = some d) :
    readString start ('\\' :: c :: rest) = push d (readString start rest) := by
  rw [readString.eq_7 start c rest fun _ _ _ _ _ h => absurd h hc, if_neg hc, hescaped]

/-- A character that is not escaped stands for itself. -/
theorem readString_plain {c : Char} (hquote : c ≠ '\x22') (hbackslash : c ≠ '\\')
    (hcontrol : ' ' ≤ c) : readString start (c :: rest) = push c (readString start rest) := by
  have hlow : ¬ c.toNat < 0x20 := Nat.not_lt_of_le hcontrol
  rw [readString.eq_8 start c rest (fun h => absurd h hbackslash)
    (fun _ _ _ _ _ h => absurd h hbackslash) (fun _ _ h => absurd h hbackslash),
    if_neg hquote, if_neg hlow]

/-- The escape of a unit that is a character is read as that character. -/
theorem readString_unitEscape {c : Char} (hc : c.toNat < 0x10000) (hrest : rest ≠ []) :
    readString start (unitEscape c.toNat ++ rest) = push c (readString start rest) := by
  have hvalid : c.toNat < 0xD800 ∨ (0xDFFF < c.toNat ∧ c.toNat < 0x110000) := c.valid
  obtain ⟨x, y, z, w, hdigits, hunit⟩ := unit?_hexDigits hc
  have hhigh : isHighUnit c.toNat = false := by
    unfold isHighUnit
    simp only [Bool.and_eq_false_iff, decide_eq_false_iff_not]
    omega
  have hlow : isLowUnit c.toNat = false := by
    unfold isLowUnit
    simp only [Bool.and_eq_false_iff, decide_eq_false_iff_not]
    omega
  have hchar : unitChar c.toNat = c := by
    unfold unitChar
    rw [hhigh, hlow]
    exact Char.ofNat_toNat c
  unfold unitEscape
  rw [hdigits]
  simp only [List.cons_append, List.nil_append]
  rw [readString_unit hunit hhigh hrest, hchar]

/-- The escape of a pair of units is read as the character that is split into them. -/
theorem readString_pairEscape {c : Char} (hc : 0x10000 ≤ c.toNat) (hrest : rest ≠ []) :
    readString start (unitEscape (0xD800 + (c.toNat - 0x10000) / 0x400) ++
      (unitEscape (0xDC00 + (c.toNat - 0x10000) % 0x400) ++ rest)) =
        push c (readString start rest) := by
  have hvalid : c.toNat < 0xD800 ∨ (0xDFFF < c.toNat ∧ c.toNat < 0x110000) := c.valid
  obtain ⟨x, y, z, w, hdigits, hunit⟩ :=
    unit?_hexDigits (n := 0xD800 + (c.toNat - 0x10000) / 0x400) (by omega)
  obtain ⟨x', y', z', w', hdigits', hunit'⟩ :=
    unit?_hexDigits (n := 0xDC00 + (c.toNat - 0x10000) % 0x400) (by omega)
  have hhigh : isHighUnit (0xD800 + (c.toNat - 0x10000) / 0x400) = true := by
    unfold isHighUnit
    simp only [Bool.and_eq_true, decide_eq_true_eq]
    omega
  have hlow : isLowUnit (0xDC00 + (c.toNat - 0x10000) % 0x400) = true := by
    unfold isLowUnit
    simp only [Bool.and_eq_true, decide_eq_true_eq]
    omega
  have hchar : pairChar (0xD800 + (c.toNat - 0x10000) / 0x400)
      (0xDC00 + (c.toNat - 0x10000) % 0x400) = c := by
    have hvalue : 0x10000 + (0xD800 + (c.toNat - 0x10000) / 0x400 - 0xD800) * 0x400 +
        (0xDC00 + (c.toNat - 0x10000) % 0x400 - 0xDC00) = c.toNat := by omega
    unfold pairChar
    rw [hvalue]
    exact Char.ofNat_toNat c
  unfold unitEscape
  rw [hdigits, hdigits']
  simp only [List.cons_append, List.nil_append]
  rw [readString_pair hunit hunit' hhigh hlow hrest, hchar]

/-- The escape of a character is read as that character. -/
theorem IsEscape.readString {c : Char} {s : List Char} (h : IsEscape c s) (hrest : rest ≠ []) :
    readString start (s ++ rest) = push c (readString start rest) := by
  cases h with
  | letter hne hescaped => exact readString_letter hne hescaped
  | plain hquote hbackslash hlow _ => exact readString_plain hquote hbackslash hlow
  | unit hc => exact readString_unitEscape hc hrest
  | pair hc =>
    rw [List.append_assoc]
    exact readString_pairEscape hc hrest

/-- A written text is read as that text. -/
theorem readString_flatMap_escapeChar (s : List Char) :
    readString start (s.flatMap escapeChar ++ '\x22' :: rest) = .ok (s, rest) := by
  induction s with
  | nil => simp [readString]
  | cons c s ih =>
    have hrest : s.flatMap escapeChar ++ '\x22' :: rest ≠ [] :=
      List.append_ne_nil_of_right_ne_nil _ (List.cons_ne_nil _ _)
    rw [List.flatMap_cons, List.append_assoc,
      (isEscape_escapeChar c).readString hrest, ih]
    rfl

end Texts

/-! ## Objects of texts -/

/-- An object whose members are texts. -/
def textObject (members : List (String × String)) : Value :=
  .object (members.map fun m => (m.1, .string m.2))

/-- A name that is not there comes last. -/
theorem setMember_of_not_mem {name : String} (v : Value) {found : List (String × Value)}
    (h : name ∉ found.map Prod.fst) : Value.setMember name v found = found ++ [(name, v)] := by
  induction found with
  | nil => rfl
  | cons m found ih =>
    have hne : m.1 ≠ name := fun heq => h (heq ▸ List.mem_cons_self)
    rw [Value.setMember, if_neg hne, ih fun hmem => h (List.mem_cons_of_mem m.1 hmem)]
    rfl

/-- A character that is no white space is not skipped. -/
theorem skipSpace_cons {c : Char} (hc : isSpace c = false) (s : List Char) :
    skipSpace (c :: s) = c :: s :=
  List.dropWhile_cons_of_neg (by rw [hc]; exact Bool.false_ne_true)

/-- A written text is read as a value. -/
theorem readValue_writeString (fuel depth : Nat) (s : String) (rest : List Char) :
    readValue (fuel + 1) depth (writeString s.toList ++ rest) = .ok (.string s, rest) := by
  unfold writeString
  rw [List.cons_append, List.append_assoc, List.singleton_append, readValue,
    readString_flatMap_escapeChar]
  simp [bind, Except.bind, pure, Except.pure]

/-- A written member that is a text is read behind the members found before; then the object ends or
goes on. -/
theorem readMembers_writeMember {name : String} {found : List (String × Value)}
    (hname : name ∉ found.map Prod.fst) (text : String) (fuel depth : Nat) {next : Char}
    (hnext : isSpace next = false) (rest : List Char) :
    readMembers (fuel + 2) depth found (writeMember (name, .string text) ++ next :: rest) =
      if next = '\x7d' then .ok (found ++ [(name, .string text)], rest)
      else if next = ',' then
        readMembers (fuel + 1) depth (found ++ [(name, .string text)]) (skipSpace rest)
      else .error (.fault .expectingComma (next :: rest)) := by
  have hwrite : writeMember (name, .string text) ++ next :: rest =
      '\x22' :: (name.toList.flatMap escapeChar ++
        '\x22' :: ':' :: (writeString text.toList ++ next :: rest)) := by
    simp [writeMember, writeString, write]
  have htext : skipSpace (writeString text.toList ++ next :: rest) =
      writeString text.toList ++ next :: rest := skipSpace_cons (by decide) _
  rw [hwrite, readMembers, readString_flatMap_escapeChar]
  simp only [bind, Except.bind]
  rw [skipSpace_cons (by decide)]
  simp only [htext, readValue_writeString, String.ofList_toList,
    setMember_of_not_mem _ hname, skipSpace_cons hnext]
  by_cases hbrace : next = '\x7d'
  · subst hbrace
    rfl
  · by_cases hcomma : next = ','
    · subst hcomma
      rfl
    · rw [if_neg hbrace, if_neg hcomma]
      split
      · rename_i heq
        exact absurd (List.cons.inj heq).1 hbrace
      · rename_i heq
        exact absurd (List.cons.inj heq).1 hcomma
      · rfl

/-- The last written member ends the object. -/
theorem readMembers_writeMember_last {name : String} {found : List (String × Value)}
    (hname : name ∉ found.map Prod.fst) (text : String) (fuel depth : Nat) (rest : List Char) :
    readMembers (fuel + 2) depth found (writeMember (name, .string text) ++ '\x7d' :: rest) =
      .ok (found ++ [(name, .string text)], rest) := by
  rw [readMembers_writeMember hname text fuel depth (by decide), if_pos rfl]

/-- Behind a written member and a comma the object goes on. -/
theorem readMembers_writeMember_comma {name : String} {found : List (String × Value)}
    (hname : name ∉ found.map Prod.fst) (text : String) (fuel depth : Nat) (rest : List Char) :
    readMembers (fuel + 2) depth found (writeMember (name, .string text) ++ ',' :: rest) =
      readMembers (fuel + 1) depth (found ++ [(name, .string text)]) (skipSpace rest) := by
  rw [readMembers_writeMember hname text fuel depth (by decide), if_neg (by decide), if_pos rfl]

/-- The written members of an object of texts are read behind the members found before. -/
theorem readMembers_writeMembers {members : List (String × String)} (hne : members ≠ [])
    (found : List (String × Value)) (fuel : Nat) (hfuel : members.length < fuel) (depth : Nat)
    (hnames : (found.map Prod.fst ++ members.map Prod.fst).Nodup) (rest : List Char) :
    readMembers fuel depth found
      (writeMembers (members.map fun m => (m.1, .string m.2)) ++ '\x7d' :: rest) =
        .ok (found ++ members.map fun m => (m.1, .string m.2), rest) := by
  induction members generalizing found fuel with
  | nil => exact absurd rfl hne
  | cons m members ih =>
    obtain ⟨fuel, rfl⟩ : ∃ k, fuel = k + 2 := ⟨fuel - 2, by simp at hfuel; omega⟩
    have hname : m.1 ∉ found.map Prod.fst := by
      intro hmem
      exact (List.nodup_append.mp hnames).2.2 _ hmem _ List.mem_cons_self rfl
    cases members with
    | nil =>
      simp only [List.map_cons, List.map_nil, writeMembers]
      rw [readMembers_writeMember_last hname]
    | cons m' members =>
      have hwrite : writeMembers ((m :: m' :: members).map fun m => (m.1, .string m.2)) ++
          '\x7d' :: rest =
          writeMember (m.1, .string m.2) ++
            ',' :: (writeMembers ((m' :: members).map fun m => (m.1, .string m.2)) ++
              '\x7d' :: rest) := by
        simp [writeMembers]
      have hskip : skipSpace (writeMembers ((m' :: members).map fun m => (m.1, .string m.2)) ++
          '\x7d' :: rest) =
          writeMembers ((m' :: members).map fun m => (m.1, .string m.2)) ++ '\x7d' :: rest := by
        cases members <;> exact skipSpace_cons (by decide) _
      have hrest : ((found ++ [(m.1, Value.string m.2)]).map Prod.fst ++
          (m' :: members).map Prod.fst).Nodup := by
        simpa using hnames
      have hlength : (m' :: members).length < fuel + 1 := by
        rw [List.length_cons] at hfuel
        omega
      rw [hwrite, readMembers_writeMember_comma hname, hskip,
        ih (List.cons_ne_nil _ _) _ _ hlength hrest]
      simp

/-- Something is written for each member. -/
theorem length_le_length_writeMembers (members : List (String × Value)) :
    members.length ≤ (writeMembers members).length := by
  induction members with
  | nil => exact Nat.le_refl 0
  | cons m members ih =>
    have hpos : 1 ≤ (writeMember m).length := by
      obtain ⟨name, v⟩ := m
      simp [writeMember, writeString]
    cases members with
    | nil => simpa [writeMembers] using hpos
    | cons m' members =>
      simp only [writeMembers, List.length_cons, List.length_append] at ih ⊢
      omega

/-- A brace before a quote begins an object that is not empty. -/
theorem readValue_brace (fuel depth : Nat) (inner : List Char) :
    readValue (fuel + 1) (depth + 1) ('\x7b' :: '\x22' :: inner) =
      (readMembers fuel depth [] ('\x22' :: inner)).map fun found => (.object found.1, found.2) :=
  rfl

/-- A bracket before a brace begins a list that is not empty. -/
theorem readValue_bracket (fuel depth : Nat) (inner : List Char) :
    readValue (fuel + 1) (depth + 1) ('[' :: '\x7b' :: inner) =
      (readItems fuel depth ('\x7b' :: inner)).map fun found => (.array found.1, found.2) :=
  rfl

/-- A written object of texts is read as it is. -/
theorem readValue_write_textObject {members : List (String × String)} (hne : members ≠ [])
    (hnames : (members.map Prod.fst).Nodup) (fuel : Nat) (hfuel : members.length + 1 < fuel)
    (depth : Nat) (rest : List Char) :
    readValue fuel (depth + 1) (write (textObject members) ++ rest) =
      .ok (textObject members, rest) := by
  obtain ⟨fuel, rfl⟩ : ∃ k, fuel = k + 1 := ⟨fuel - 1, by omega⟩
  have hwrite : write (textObject members) ++ rest =
      '\x7b' :: (writeMembers (members.map fun m => (m.1, .string m.2)) ++ '\x7d' :: rest) := by
    simp [textObject, write]
  have hread := readMembers_writeMembers hne [] fuel (by omega) depth
    (by simpa using hnames) rest
  -- the members begin with a quote, so that the object is not the empty one
  obtain ⟨inner, hinner⟩ : ∃ inner,
      writeMembers (members.map fun m => (m.1, .string m.2)) ++ '\x7d' :: rest =
        '\x22' :: inner := by
    cases members with
    | nil => exact absurd rfl hne
    | cons m members => cases members <;> exact ⟨_, rfl⟩
  rw [hinner] at hwrite hread
  rw [hwrite, readValue_brace, hread]
  rfl

/-! ## Lists of objects -/

section Lists

variable {v : Value} {fuel depth : Nat} {rest : List Char}

/-- The last value ends the list. -/
theorem readItems_last
    (hread : readValue fuel depth (write v ++ ']' :: rest) = .ok (v, ']' :: rest)) :
    readItems (fuel + 1) depth (write v ++ ']' :: rest) = .ok ([v], rest) := by
  rw [readItems, hread]
  rfl

/-- Behind a value and a comma the list goes on. -/
theorem readItems_comma
    (hread : readValue fuel depth (write v ++ ',' :: rest) = .ok (v, ',' :: rest)) :
    readItems (fuel + 1) depth (write v ++ ',' :: rest) =
      (readItems fuel depth (skipSpace rest)).map fun found => (v :: found.1, found.2) := by
  rw [readItems, hread]
  rfl

end Lists

/-- A written object of texts begins with a brace. -/
theorem write_textObject_eq_cons (members : List (String × String)) :
    ∃ inner, write (textObject members) = '\x7b' :: inner := by
  unfold textObject
  rw [write]
  exact ⟨_, rfl⟩

/-- Written objects of texts begin with a brace. -/
theorem writeItems_textObjects_eq_cons (members : List (String × String))
    (objects : List (List (String × String))) :
    ∃ inner, writeItems ((members :: objects).map textObject) = '\x7b' :: inner := by
  obtain ⟨inner, hinner⟩ := write_textObject_eq_cons members
  cases objects with
  | nil => exact ⟨inner, by simpa [writeItems] using hinner⟩
  | cons members' objects => exact ⟨_, by simp only [List.map_cons, writeItems, hinner]; rfl⟩

/-- Objects that are read back: members with names that differ, at least one of them. -/
structure IsRecord (members : List (String × String)) : Prop where
  /-- There is a member. -/
  ne_nil : members ≠ []
  /-- No name comes twice. -/
  nodup : (members.map Prod.fst).Nodup

/-- A written list of objects of texts is read as it is. -/
theorem readItems_writeItems {objects : List (List (String × String))} (hne : objects ≠ [])
    (hrecords : ∀ members ∈ objects, IsRecord members) {most : Nat}
    (hmost : ∀ members ∈ objects, members.length ≤ most) (fuel : Nat)
    (hfuel : objects.length + most + 1 < fuel) (depth : Nat) (rest : List Char) :
    readItems fuel (depth + 1) (writeItems (objects.map textObject) ++ ']' :: rest) =
      .ok (objects.map textObject, rest) := by
  induction objects generalizing fuel with
  | nil => exact absurd rfl hne
  | cons members objects ih =>
    obtain ⟨fuel, rfl⟩ : ∃ k, fuel = k + 1 := ⟨fuel - 1, by omega⟩
    have hrecord := hrecords members List.mem_cons_self
    have hlength := hmost members List.mem_cons_self
    rw [List.length_cons] at hfuel
    have hread := readValue_write_textObject hrecord.ne_nil hrecord.nodup fuel (by omega) depth
    cases objects with
    | nil =>
      simp only [List.map_cons, List.map_nil, writeItems]
      exact readItems_last (hread _)
    | cons members' objects =>
      have hwrite : writeItems ((members :: members' :: objects).map textObject) ++ ']' :: rest =
          write (textObject members) ++
            ',' :: (writeItems ((members' :: objects).map textObject) ++ ']' :: rest) := by
        simp [writeItems]
      have hskip : skipSpace (writeItems ((members' :: objects).map textObject) ++ ']' :: rest) =
          writeItems ((members' :: objects).map textObject) ++ ']' :: rest := by
        obtain ⟨inner, hinner⟩ := writeItems_textObjects_eq_cons members' objects
        rw [hinner]
        exact skipSpace_cons (by decide) _
      have hrest := ih (List.cons_ne_nil _ _)
        (fun ms hms => hrecords ms (List.mem_cons_of_mem _ hms))
        (fun ms hms => hmost ms (List.mem_cons_of_mem _ hms)) fuel (by omega)
      rw [hwrite, readItems_comma (hread _), hskip, hrest]
      rfl

/-! ## Whole texts -/

/-- A text that begins with a value and goes on with white space is that value. -/
theorem read_of_readValue {c : Char} {s tail : List Char} {v : Value} (hspace : isSpace c = false)
    (hmark : c ≠ '\ufeff')
    (hread : readValue (2 * (c :: s).length + 2) maxDepth (c :: s) = .ok (v, tail))
    (htail : ∀ d ∈ tail, isSpace d = true) : read (c :: s) = .ok v := by
  have hskip : skipSpace tail = [] := List.dropWhile_eq_nil_iff.mpr htail
  unfold read readAll
  split
  · rename_i heq
    exact absurd (List.cons.inj heq).1 hmark
  · rw [skipSpace_cons hspace, hread]
    simp only [bind, Except.bind]
    rw [hskip]
    rfl

/-- A written object of texts, with white space behind it, reads back. -/
theorem read_write_textObject {members : List (String × String)} (hrecord : IsRecord members)
    {tail : List Char} (htail : ∀ d ∈ tail, isSpace d = true) :
    read (write (textObject members) ++ tail) = .ok (textObject members) := by
  obtain ⟨inner, hinner⟩ := write_textObject_eq_cons members
  have hlength : members.length ≤ inner.length := by
    have := length_le_length_writeMembers (members.map fun m => (m.1, Value.string m.2))
    unfold textObject at hinner
    rw [write] at hinner
    rw [← (List.cons.inj hinner).2]
    simp at this ⊢
    omega
  have hread := readValue_write_textObject hrecord.ne_nil hrecord.nodup
    (2 * (write (textObject members) ++ tail).length + 2)
    (by rw [hinner]; simp; omega) 984 tail
  rw [hinner] at hread ⊢
  exact read_of_readValue (by decide) (by decide) hread htail

/-- A value is not longer than the list that it is written in. -/
theorem length_write_le_writeItems {items : List Value} {v : Value} (h : v ∈ items) :
    (write v).length ≤ (writeItems items).length := by
  induction items with
  | nil => cases h
  | cons w items ih =>
    cases items with
    | nil =>
      obtain rfl := List.mem_singleton.mp h
      exact Nat.le_refl _
    | cons w' items =>
      simp only [writeItems, List.length_append, List.length_cons]
      rcases List.mem_cons.mp h with rfl | h
      · omega
      · have := ih h
        omega

/-- Something is written for each object. -/
theorem length_le_length_writeItems (objects : List (List (String × String))) :
    objects.length ≤ (writeItems (objects.map textObject)).length := by
  induction objects with
  | nil => exact Nat.le_refl 0
  | cons members objects ih =>
    obtain ⟨inner, hinner⟩ := write_textObject_eq_cons members
    cases objects with
    | nil => simp [writeItems, hinner]
    | cons members' objects =>
      simp only [List.map_cons, writeItems, List.length_cons, List.length_append] at ih ⊢
      omega

/-- A written list of objects of texts, with white space behind it, reads back. -/
theorem read_write_textObjects {objects : List (List (String × String))}
    (hrecords : ∀ members ∈ objects, IsRecord members) {tail : List Char}
    (htail : ∀ d ∈ tail, isSpace d = true) :
    read (write (.array (objects.map textObject)) ++ tail) =
      .ok (.array (objects.map textObject)) := by
  have hwrite : write (.array (objects.map textObject)) ++ tail =
      '[' :: (writeItems (objects.map textObject) ++ ']' :: tail) := by
    simp [write]
  rw [hwrite]
  refine read_of_readValue (by decide) (by decide) ?_ htail
  cases objects with
  | nil => rfl
  | cons members objects =>
    obtain ⟨inner, hinner⟩ := writeItems_textObjects_eq_cons members objects
    have hmost : ∀ ms ∈ members :: objects,
        ms.length ≤ (writeItems ((members :: objects).map textObject)).length := by
      intro ms hms
      have hitem := length_write_le_writeItems (List.mem_map_of_mem (f := textObject) hms)
      have hmembers := length_le_length_writeMembers (ms.map fun m => (m.1, Value.string m.2))
      simp only [textObject, write, List.length_cons, List.length_append, List.length_map]
        at hitem hmembers
      omega
    have hlength := length_le_length_writeItems (members :: objects)
    have hread := readItems_writeItems (List.cons_ne_nil members objects) hrecords hmost
      (2 * ('[' :: (writeItems ((members :: objects).map textObject) ++ ']' :: tail)).length + 1)
      (by simp only [List.length_cons, List.length_append] at hlength ⊢; omega) 983 tail
    rw [hinner] at hread ⊢
    rw [List.cons_append] at hread ⊢
    rw [maxDepth, readValue_bracket, hread]
    rfl

end LintDaemon.Json
