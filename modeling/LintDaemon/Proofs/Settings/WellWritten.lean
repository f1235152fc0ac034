import LintDaemon.Proofs.Results
import LintDaemon.Proofs.Tables
import LintDaemon.Settings.Ini
import Mathlib.Data.List.Nodup
import Mathlib.Tactic.SplitIfs

/-!
# Files of settings that are well written

What a file of settings says is a list of items: headings, options and lines that are neither. Which
lines are items is told by how deep they are indented; the others go on with a value.

* `items`: the items of a file.
* `IsOrderly`: items that begin with a heading, without repetitions.
* `exists_readLines_eq_ok_iff`: lines are read exactly if their items are orderly.
* `stray_eq_nil_iff`: nothing is stray exactly if all items are whole.
* `IsExpandable`: values whose references lead to values that are written out, in few steps.
* `exists_expandUpTo_eq_ok_iff`: the references of exactly these are replaced.
-/

namespace LintDaemon.Ini

open LintDaemon.Text

/-! ## Items -/

/-- How deep lines are indented that go on behind an item, if any do: deeper than said. -/
def Item.depth (before : Option Nat) (indent : Nat) : Item → Option Nat
  | .heading _ => none
  | .option name _ => if name = [] then none else some indent
  | .stray => before.map fun _ => indent

/-- Whether a line is no item: a comment, white space, or one that goes on with a value. -/
def isPassed (depth : Option Nat) (line : List Char) : Bool :=
  isComment line || allBlank line || depth.any (· < indentOf line)

/-- The items of lines, the first of which may go on with a value. -/
def itemsFrom : Option Nat → List (List Char) → List Item
  | _, [] => []
  | depth, line :: rest =>
    if isPassed depth line then itemsFrom depth rest
    else
      Item.ofChars (trim line) ::
        itemsFrom ((Item.ofChars (trim line)).depth depth (indentOf line)) rest

/-- The items of a file. -/
def items (lines : List (List Char)) : List Item :=
  itemsFrom none lines

/-- The names of sections that may come only once. -/
def headings : List Item → List (List Char)
  | [] => []
  | .heading name :: rest => if name = defaultName then headings rest else name :: headings rest
  | .option _ _ :: rest | .stray :: rest => headings rest

/-- The names of the options of a section, where a section is open at first. -/
def namesIn (owner : List Char) : Option (List Char) → List Item → List (List Char)
  | _, [] => []
  | _, .heading name :: rest => namesIn owner (some name) rest
  | current, .option name _ :: rest =>
    if current = some owner then name :: namesIn owner current rest else namesIn owner current rest
  | current, .stray :: rest => namesIn owner current rest

/-- Items that can be read one after the other. -/
structure IsOrderly (items : List Item) : Prop where
  /-- The first one is a heading. -/
  headed : ∀ item ∈ items.head?, ∃ name, item = .heading name
  /-- No section but that of the defaults comes again. -/
  headings : (headings items).Nodup
  /-- No option comes again in its section. -/
  options : ∀ owner, (namesIn owner none items).Nodup

/-- An item that stands in a file rightly: a heading, or an option with a name. -/
def Item.IsWhole : Item → Prop
  | .heading _ => True
  | .option name _ => name ≠ []
  | .stray => False

/-! ## Named things -/

section Update

variable {α : Type} {name : List Char} {f : α → α}

/-- What is looked up among named things one of which is changed. -/
theorem lookup_update (l : List (List Char × α)) (other : List Char) :
    (update name f l).lookup other =
      if other = name then (l.lookup other).map f else l.lookup other := by
  induction l with
  | nil => simp [update]
  | cons entry rest ih =>
    obtain ⟨n, a⟩ := entry
    unfold update
    by_cases hname : n = name
    · rw [if_pos hname, Tables.lookup_cons_eq, Tables.lookup_cons_eq, hname]
      split_ifs <;> rfl
    · rw [if_neg hname, Tables.lookup_cons_eq, Tables.lookup_cons_eq, ih]
      by_cases hother : other = n
      · rw [if_pos hother, if_pos hother, if_neg (hother ▸ hname)]
      · rw [if_neg hother, if_neg hother]

/-- The names stay. -/
theorem map_fst_update (l : List (List Char × α)) :
    (update name f l).map Prod.fst = l.map Prod.fst := by
  induction l with
  | nil => rfl
  | cons entry rest ih =>
    unfold update
    split_ifs
    · rfl
    · rw [List.map_cons, List.map_cons, ih]

end Update

namespace Reading

variable {r r' : Reading}

/-- The names of the options of a section. -/
def namesOf (r : Reading) (owner : List Char) : List (List Char) :=
  (r.optionsOf owner).map Prod.fst

/-- How deep lines are indented that go on with the value that is being read. -/
def depth (r : Reading) : Option Nat :=
  if r.owner.isSome && r.option.isSome then some r.indent else none

/-- A reading in which the section of the defaults and the open one are known, and no option
comes again. -/
structure IsSound (r : Reading) : Prop where
  /-- The section of the defaults is known. -/
  default : (r.sections.lookup defaultName).isSome = true
  /-- So is the open one. -/
  owner : ∀ owner ∈ r.owner, (r.sections.lookup owner).isSome = true
  /-- No option comes again. -/
  names : ∀ owner, (r.namesOf owner).Nodup

/-- Readings that differ in values at most. -/
structure Agrees (r r' : Reading) : Prop where
  /-- The same section is open. -/
  owner : r'.owner = r.owner
  /-- The same lines go on. -/
  depth : r'.depth = r.depth
  /-- The same lines are stray. -/
  stray : r'.stray = r.stray
  /-- The same sections are known. -/
  known : ∀ name, (r'.sections.lookup name).isSome = (r.sections.lookup name).isSome
  /-- They have the same options. -/
  names : ∀ owner, r'.namesOf owner = r.namesOf owner

/-- Items that can be read behind what has been read. -/
structure Admits (r : Reading) (items : List Item) : Prop where
  /-- The first section begins with a heading. -/
  headed : r.owner = none → ∀ item ∈ items.head?, ∃ name, item = .heading name
  /-- No section but that of the defaults comes again. -/
  headings : (Ini.headings items).Nodup ∧ ∀ name ∈ Ini.headings items, r.sections.lookup name = none
  /-- No option comes again in its section. -/
  options : ∀ owner, (r.namesOf owner ++ namesIn owner r.owner items).Nodup

/-- An item read. -/
def take (r : Reading) (number : Nat) (line : List Char) : Item → Except Fault Reading
  | .heading name => r.enter number name
  | .option name value =>
    match r.owner with
    | none => .error (.missingSection number line)
    | some owner => r.addOption number line owner name value
  | .stray =>
    match r.owner with
    | none => .error (.missingSection number line)
    | some _ => .ok { r with stray := r.stray ++ [(number, line)] }

/-- Which lines go on with a value is told by the depth. -/
theorem continues_eq (r : Reading) (line : List Char) :
    r.continues line = r.depth.any (· < indentOf line) := by
  unfold continues depth
  cases r.owner.isSome && r.option.isSome with
  | true => rw [if_pos rfl, Bool.true_and, Option.any_some]
  | false => rw [if_neg Bool.false_ne_true, Bool.false_and, Option.any_none]

/-- A line that is an item is read as one. -/
theorem step_of_not_isPassed {number : Nat} {line : List Char}
    (h : isPassed r.depth line = false) :
    r.step number line =
      take { r with indent := indentOf line } number line (Item.ofChars (trim line)) := by
  unfold isPassed at h
  rw [← r.continues_eq, Bool.or_eq_false_iff, Bool.or_eq_false_iff] at h
  unfold step
  rw [h.1.1, h.1.2, h.2, if_neg Bool.false_ne_true, if_neg Bool.false_ne_true,
    if_neg Bool.false_ne_true]
  dsimp only
  cases Item.ofChars (trim line) with
  | heading name => rfl
  | option name value =>
    unfold take
    cases r.owner <;> rfl
  | stray =>
    unfold take
    cases r.owner <;> rfl

/-- A change of the values of one section leaves all names as they are. -/
theorem namesOf_update {owner : List Char} {f : Options → Options}
    (hf : ∀ options, (f options).map Prod.fst = options.map Prod.fst) (r : Reading)
    (other : List Char) :
    namesOf { r with sections := update owner f r.sections } other = r.namesOf other := by
  unfold namesOf optionsOf
  rw [lookup_update]
  split_ifs
  · cases r.sections.lookup other with
    | none => rfl
    | some options => exact hf options
  · rfl

/-- A section that is changed stays known. -/
theorem isSome_lookup_update {α : Type} {name : List Char} {f : α → α} (l : List (List Char × α))
    (other : List Char) : ((update name f l).lookup other).isSome = (l.lookup other).isSome := by
  rw [lookup_update]
  split_ifs
  · exact Option.isSome_map
  · rfl

/-- A line added to a value changes that value at most. -/
theorem agrees_addLine (r : Reading) (value : List Char) : r.Agrees (r.addLine value) := by
  unfold addLine
  split
  · exact ⟨rfl, rfl, rfl, isSome_lookup_update r.sections,
      r.namesOf_update fun options => map_fst_update options⟩
  · exact ⟨rfl, rfl, rfl, fun _ => rfl, fun _ => rfl⟩

/-- A line that is no item changes a value at most. -/
theorem step_of_isPassed {line : List Char} (h : isPassed r.depth line = true) (number : Nat) :
    ∃ r', r.step number line = .ok r' ∧ r.Agrees r' := by
  unfold isPassed at h
  rw [← r.continues_eq] at h
  unfold step
  split_ifs with hcomment hblank hcontinues
  · exact ⟨r, rfl, rfl, rfl, rfl, fun _ => rfl, fun _ => rfl⟩
  · exact ⟨_, rfl, r.agrees_addLine []⟩
  · exact ⟨_, rfl, r.agrees_addLine (trim line)⟩
  · simp [hcomment, hblank, hcontinues] at h

/-! ## Reading items -/

/-- A reading that agrees with a sound one is sound. -/
theorem Agrees.isSound (h : r.Agrees r') (hr : r.IsSound) : r'.IsSound where
  default := by
    rw [h.known]
    exact hr.default
  owner owner howner := by
    rw [h.known]
    exact hr.owner owner (h.owner ▸ howner)
  names owner := by
    rw [h.names]
    exact hr.names owner

/-- Readings that agree admit the same items. -/
theorem Agrees.admits_iff (h : r.Agrees r') {items : List Item} :
    r.Admits items ↔ r'.Admits items := by
  have hunknown (name : List Char) :
      r'.sections.lookup name = none ↔ r.sections.lookup name = none := by
    rw [← Option.isNone_iff_eq_none, ← Option.isNone_iff_eq_none, ← Option.not_isSome,
      ← Option.not_isSome, h.known]
  constructor
  · rintro ⟨hheaded, ⟨hnodup, hnew⟩, hoptions⟩
    exact ⟨h.owner ▸ hheaded, ⟨hnodup, fun name hname => (hunknown name).mpr (hnew name hname)⟩,
      fun owner => by rw [h.names, h.owner]; exact hoptions owner⟩
  · rintro ⟨hheaded, ⟨hnodup, hnew⟩, hoptions⟩
    exact ⟨h.owner ▸ hheaded, ⟨hnodup, fun name hname => (hunknown name).mp (hnew name hname)⟩,
      fun owner => by rw [← h.names, ← h.owner]; exact hoptions owner⟩

/-- The options of a section that is entered are those that it had. -/
theorem namesOf_append_new {name : List Char} (hnew : r.sections.lookup name = none)
    (owner : List Char) :
    namesOf { r with sections := r.sections ++ [(name, [])] } owner = r.namesOf owner := by
  unfold namesOf optionsOf
  rw [List.lookup_append]
  cases hlookup : r.sections.lookup owner with
  | some options => rfl
  | none =>
    by_cases howner : owner = name
    · subst howner
      simp
    · simp [Tables.lookup_cons_eq, howner]

/-- An option added to a section is one of its options from then on. -/
theorem namesOf_append_option {owner : List Char}
    (hknown : (r.sections.lookup owner).isSome = true) (name value : List Char)
    (other : List Char) :
    namesOf { r with sections := update owner (· ++ [(name, [value])]) r.sections } other =
      if other = owner then r.namesOf owner ++ [name] else r.namesOf other := by
  obtain ⟨options, hoptions⟩ := Option.isSome_iff_exists.mp hknown
  unfold namesOf optionsOf
  rw [lookup_update]
  by_cases hother : other = owner
  · subst hother
    simp [hoptions]
  · rw [if_neg hother, if_neg hother]

/-- An option is known exactly if its name is. -/
theorem isSome_lookup_optionsOf {owner name : List Char} :
    ((r.optionsOf owner).lookup name).isSome = true ↔ name ∈ r.namesOf owner := by
  rw [List.lookup_isSome_iff]
  unfold namesOf
  rw [List.mem_map]
  exact exists_congr fun p => and_congr_right fun _ => beq_iff_eq.trans eq_comm

/-- What has been read once an item has been read. -/
structure Took (r : Reading) (item : Item) (r' : Reading) : Prop where
  /-- It is sound. -/
  isSound : r'.IsSound
  /-- It admits what was admitted behind the item. -/
  admits : ∀ rest, r.Admits (item :: rest) ↔ r'.Admits rest
  /-- The lines that go on are those behind the item. -/
  depth : r'.depth = item.depth r.depth r.indent
  /-- No line is stray if none was, and the item is whole. -/
  stray : r'.stray = [] ↔ r.stray = [] ∧ item.IsWhole

/-- The section of the defaults is entered. -/
theorem took_default (hr : r.IsSound) :
    r.Took (.heading defaultName) { r with owner := some defaultName, option := none } where
  isSound := by
    refine ⟨hr.default, ?_, hr.names⟩
    rintro owner ⟨⟩
    exact hr.default
  admits rest := by
    have hheadings : Ini.headings (.heading defaultName :: rest) = Ini.headings rest := if_pos rfl
    constructor
    · rintro ⟨-, hheadings', hoptions⟩
      exact ⟨nofun, hheadings ▸ hheadings', hoptions⟩
    · rintro ⟨-, hheadings', hoptions⟩
      exact ⟨fun _ item hitem => ⟨defaultName, (Option.some.inj hitem).symm⟩,
        hheadings ▸ hheadings', hoptions⟩
  depth := rfl
  stray := (and_iff_left trivial).symm

/-- A section is entered for the first time. -/
theorem took_new (hr : r.IsSound) {name : List Char} (hname : name ≠ defaultName)
    (hnew : r.sections.lookup name = none) :
    r.Took (.heading name)
      { r with owner := some name, option := none, sections := r.sections ++ [(name, [])] } where
  isSound := by
    have hknown (other : List Char) (h : (r.sections.lookup other).isSome = true) :
        ((r.sections ++ [(name, [])]).lookup other).isSome = true := by
      rw [List.lookup_append, Option.isSome_or, h, Bool.true_or]
    refine ⟨hknown _ hr.default, ?_, fun owner => ?_⟩
    · rintro owner ⟨⟩
      simp [List.lookup_append, hnew]
    · have hnames := namesOf_append_new hnew owner
      exact hnames ▸ hr.names owner
  admits rest := by
    have hheadings : Ini.headings (.heading name :: rest) = name :: Ini.headings rest :=
      if_neg hname
    have hlookup (other : List Char) : (r.sections ++ [(name, [])]).lookup other = none ↔
        other ≠ name ∧ r.sections.lookup other = none := by
      rw [List.lookup_append, Option.or_eq_none_iff, and_comm]
      refine and_congr_left fun _ => ?_
      simp [Tables.lookup_cons_eq]
    constructor
    · rintro ⟨-, hheadings', hoptions⟩
      rw [hheadings, List.nodup_cons, List.forall_mem_cons] at hheadings'
      refine ⟨nofun, ⟨hheadings'.1.2, fun other hother => (hlookup other).mpr ⟨?_, ?_⟩⟩, ?_⟩
      · rintro rfl
        exact hheadings'.1.1 hother
      · exact hheadings'.2.2 other hother
      · exact fun owner => (namesOf_append_new hnew owner).symm ▸ hoptions owner
    · rintro ⟨-, ⟨hnodup, hall⟩, hoptions⟩
      refine ⟨fun _ item hitem => ⟨name, (Option.some.inj hitem).symm⟩, ?_, ?_⟩
      · rw [hheadings, List.nodup_cons, List.forall_mem_cons]
        exact ⟨⟨fun hmem => ((hlookup name).mp (hall name hmem)).1 rfl, hnodup⟩, hnew,
          fun other hother => ((hlookup other).mp (hall other hother)).2⟩
      · exact fun owner => (namesOf_append_new hnew owner) ▸ hoptions owner
  depth := rfl
  stray := (and_iff_left trivial).symm

/-- An option is added to the open section. -/
theorem took_option (hr : r.IsSound) {number : Nat} {line owner name value : List Char}
    (howner : r.owner = some owner) (hnew : name ∉ r.namesOf owner) :
    r.Took (.option name value)
      { r with
        sections := update owner (· ++ [(name, [value])]) r.sections
        option := if name = [] then none else some name
        stray := if name = [] then r.stray ++ [(number, line)] else r.stray } where
  isSound := by
    refine ⟨?_, fun other hother => ?_, fun other => ?_⟩
    · exact (isSome_lookup_update r.sections defaultName).trans hr.default
    · exact (isSome_lookup_update r.sections other).trans (hr.owner other hother)
    · have hnames := namesOf_append_option (hr.owner owner howner) name value other
      unfold namesOf optionsOf at hnames ⊢
      rw [hnames]
      split_ifs
      · exact List.nodup_append.mpr ⟨hr.names owner, List.nodup_singleton name, by
          rintro other hother _ hsame rfl
          exact hnew (List.mem_singleton.mp hsame ▸ hother)⟩
      · exact hr.names other
  admits rest := by
    have hheadings : Ini.headings (.option name value :: rest) = Ini.headings rest := rfl
    have hunknown (other : List Char) :
        (update owner (· ++ [(name, [value])]) r.sections).lookup other = none ↔
          r.sections.lookup other = none := by
      rw [← Option.isNone_iff_eq_none, ← Option.isNone_iff_eq_none, ← Option.not_isSome,
        ← Option.not_isSome, isSome_lookup_update]
    have hoptions (other : List Char) :
        namesOf { r with sections := update owner (· ++ [(name, [value])]) r.sections } other ++
            namesIn other r.owner rest =
          r.namesOf other ++ namesIn other r.owner (.option name value :: rest) := by
      rw [namesOf_append_option (hr.owner owner howner), namesIn, howner]
      by_cases hother : other = owner
      · subst hother
        simp
      · rw [if_neg hother, if_neg fun heq => hother (Option.some.inj heq).symm]
    have hopen (hnone : r.owner = none) (P : Prop) : P :=
      absurd (howner.symm.trans hnone) (Option.some_ne_none owner)
    constructor
    · rintro ⟨-, ⟨hnodup, hnew'⟩, hall⟩
      exact ⟨fun hnone => hopen hnone _,
        ⟨hheadings ▸ hnodup, fun other hother => (hunknown other).mpr (hnew' other hother)⟩,
        fun other => (hoptions other).symm ▸ hall other⟩
    · rintro ⟨-, ⟨hnodup, hnew'⟩, hall⟩
      exact ⟨fun hnone => hopen hnone _,
        ⟨hheadings ▸ hnodup, fun other hother => (hunknown other).mp (hnew' other hother)⟩,
        fun other => hoptions other ▸ hall other⟩
  depth := by
    unfold depth Item.depth
    rw [howner]
    split_ifs <;> simp_all
  stray := by
    unfold Item.IsWhole
    split_ifs with hname
    · simp [hname]
    · simp [hname]

/-- A line that is nothing is kept. -/
theorem took_stray (hr : r.IsSound) {owner : List Char} (howner : r.owner = some owner)
    (entry : Nat × List Char) : r.Took .stray { r with stray := r.stray ++ [entry] } where
  isSound := ⟨hr.default, hr.owner, hr.names⟩
  admits rest := by
    constructor
    · rintro ⟨-, hheadings, hoptions⟩
      exact ⟨fun hnone => absurd (howner.symm.trans hnone) (Option.some_ne_none owner), hheadings,
        hoptions⟩
    · rintro ⟨-, hheadings, hoptions⟩
      exact ⟨fun hnone => absurd (howner.symm.trans hnone) (Option.some_ne_none owner), hheadings,
        hoptions⟩
  depth := by
    unfold depth Item.depth
    split_ifs <;> rfl
  stray := by simp [Item.IsWhole]

/-- An item is read, or nothing is admitted that begins with it. -/
theorem take_cases (hr : r.IsSound) (number : Nat) (line : List Char) (item : Item) :
    (∃ r', r.take number line item = .ok r' ∧ r.Took item r') ∨
      (∃ fault, r.take number line item = .error fault) ∧ ∀ rest, ¬ r.Admits (item :: rest) := by
  have hheadless (hnone : r.owner = none) (hitem : ∀ name, item ≠ .heading name)
      (rest : List Item) :
      ¬ r.Admits (item :: rest) := by
    intro hadmits
    obtain ⟨name, hname⟩ := hadmits.headed hnone item rfl
    exact hitem name hname
  cases item with
  | heading name =>
    unfold take enter
    dsimp only
    by_cases hdefault : name = defaultName
    · subst hdefault
      exact Or.inl ⟨_, if_pos rfl, took_default hr⟩
    rw [if_neg hdefault]
    cases hlookup : r.sections.lookup name with
    | none => exact Or.inl ⟨_, rfl, took_new hr hdefault hlookup⟩
    | some options =>
      refine Or.inr ⟨⟨_, rfl⟩, fun rest hadmits => ?_⟩
      have hmem : name ∈ Ini.headings (.heading name :: rest) := by
        rw [Ini.headings, if_neg hdefault]
        exact List.mem_cons_self
      cases hlookup.symm.trans (hadmits.headings.2 name hmem)
  | option name value =>
    unfold take
    dsimp only
    cases howner : r.owner with
    | none => exact Or.inr ⟨⟨_, rfl⟩, hheadless howner nofun⟩
    | some owner =>
      dsimp only
      unfold addOption
      by_cases hknown : name ∈ r.namesOf owner
      · rw [if_pos (isSome_lookup_optionsOf.mpr hknown)]
        refine Or.inr ⟨⟨_, rfl⟩, fun rest hadmits => ?_⟩
        have hagain : name ∈ namesIn owner r.owner (.option name value :: rest) := by
          rw [namesIn, if_pos howner]
          exact List.mem_cons_self
        exact (List.nodup_append.mp (hadmits.options owner)).2.2 name hknown name hagain rfl
      · rw [if_neg fun h => hknown (isSome_lookup_optionsOf.mp h)]
        exact Or.inl ⟨_, rfl, took_option hr howner hknown⟩
  | stray =>
    unfold take
    dsimp only
    cases howner : r.owner with
    | none => exact Or.inr ⟨⟨_, rfl⟩, hheadless howner nofun⟩
    | some owner => exact Or.inl ⟨_, rfl, howner ▸ took_stray hr howner _⟩

/-! ## Reading lines -/

/-- A line of another depth is as deep behind an item. -/
theorem depth_indent (r : Reading) (indent : Nat) (item : Item) :
    item.depth (depth { r with indent }) indent = item.depth r.depth indent := by
  cases item with
  | heading name => rfl
  | option name value => rfl
  | stray =>
    unfold Item.depth depth
    dsimp only
    split_ifs <;> rfl

/-- Behind a line the rest is read, or the line is the first that cannot be read. -/
theorem step_cases (hr : r.IsSound) (number : Nat) (line : List Char) (rest : List (List Char)) :
    (∃ r', r.step number line = .ok r' ∧ r'.IsSound ∧
        (r.Admits (itemsFrom r.depth (line :: rest)) ↔ r'.Admits (itemsFrom r'.depth rest)) ∧
        ((r.stray = [] ∧ ∀ item ∈ itemsFrom r.depth (line :: rest), item.IsWhole) ↔
          r'.stray = [] ∧ ∀ item ∈ itemsFrom r'.depth rest, item.IsWhole)) ∨
      (∃ fault, r.step number line = .error fault) ∧
        ¬ r.Admits (itemsFrom r.depth (line :: rest)) := by
  rw [itemsFrom]
  cases hpassed : isPassed r.depth line with
  | true =>
    obtain ⟨r', hstep, hagrees⟩ := step_of_isPassed hpassed number
    rw [if_pos rfl]
    refine Or.inl ⟨r', hstep, hagrees.isSound hr, ?_, ?_⟩
    · rw [hagrees.depth]
      exact hagrees.admits_iff
    · rw [hagrees.depth, hagrees.stray]
  | false =>
    rw [if_neg Bool.false_ne_true, step_of_not_isPassed hpassed]
    have hsound : IsSound { r with indent := indentOf line } := ⟨hr.default, hr.owner, hr.names⟩
    have hadmits (items : List Item) :
        r.Admits items ↔ Admits { r with indent := indentOf line } items :=
      ⟨fun h => ⟨h.headed, h.headings, h.options⟩, fun h => ⟨h.headed, h.headings, h.options⟩⟩
    rcases take_cases hsound number line (Item.ofChars (trim line)) with
      ⟨r', htake, htook⟩ | ⟨herror, hnone⟩
    · have hdepth := htook.depth.trans (r.depth_indent (indentOf line) _)
      refine Or.inl ⟨r', htake, htook.isSound, ?_, ?_⟩
      · rw [hadmits, htook.admits, hdepth]
      · rw [List.forall_mem_cons, htook.stray, hdepth, and_assoc]
    · exact Or.inr ⟨herror, fun h => hnone _ ((hadmits _).mp h)⟩

/-- Lines are read exactly if their items are admitted. -/
theorem exists_steps_eq_ok_iff (hr : r.IsSound) (number : Nat) (lines : List (List Char)) :
    (∃ r', r.steps number lines = .ok r') ↔ r.Admits (itemsFrom r.depth lines) := by
  induction lines generalizing r number with
  | nil =>
    refine iff_of_true ⟨r, rfl⟩ ⟨fun _ _ => nofun, ⟨List.nodup_nil, nofun⟩, fun owner => ?_⟩
    exact (List.append_nil (r.namesOf owner)).symm ▸ hr.names owner
  | cons line rest ih =>
    rw [steps]
    rcases step_cases hr number line rest with
      ⟨r', hstep, hsound, hadmits, -⟩ | ⟨⟨fault, hstep⟩, hnone⟩
    · rw [hstep, hadmits, ← ih hsound (number + 1)]
      rfl
    · rw [hstep]
      exact iff_of_false nofun hnone

/-- Nothing is stray behind lines that are read exactly if all their items are whole. -/
theorem stray_steps_eq_nil_iff (hr : r.IsSound) {number : Nat} {lines : List (List Char)}
    (h : r.steps number lines = .ok r') :
    r'.stray = [] ↔ r.stray = [] ∧ ∀ item ∈ itemsFrom r.depth lines, item.IsWhole := by
  induction lines generalizing r number with
  | nil =>
    cases h
    exact (and_iff_left (by simp [itemsFrom])).symm
  | cons line rest ih =>
    rw [steps] at h
    obtain ⟨next, hnext, hrest⟩ := Result.bind_eq_ok_iff.mp h
    rcases step_cases hr number line rest with
      ⟨r'', hstep, hsound, -, hstray⟩ | ⟨⟨fault, hstep⟩, -⟩
    · cases hstep.symm.trans hnext
      rw [hstray]
      exact ih hsound hrest
    · cases hstep.symm.trans hnext

/-- Before the first line no section has options. -/
theorem namesOf_start (owner : List Char) : start.namesOf owner = [] := by
  unfold namesOf optionsOf start
  dsimp only
  rw [Tables.lookup_cons_eq]
  split_ifs <;> rfl

/-- What has been read before the first line is sound. -/
theorem isSound_start : start.IsSound where
  default := by
    unfold start
    rw [List.lookup_cons_self]
    rfl
  owner := nofun
  names owner := (namesOf_start owner).symm ▸ List.nodup_nil

/-- The section of the defaults is none that may come only once. -/
theorem ne_defaultName_of_mem_headings {items : List Item} {name : List Char}
    (h : name ∈ Ini.headings items) : name ≠ defaultName := by
  induction items with
  | nil => cases h
  | cons item rest ih =>
    cases item with
    | heading other =>
      unfold Ini.headings at h
      split_ifs at h with hdefault
      · exact ih h
      · rcases List.mem_cons.mp h with rfl | h
        · exact hdefault
        · exact ih h
    | option _ _ => exact ih h
    | stray => exact ih h

/-- Orderly items are those that are admitted at first. -/
theorem admits_start_iff {items : List Item} : start.Admits items ↔ IsOrderly items := by
  constructor
  · rintro ⟨hheaded, ⟨hnodup, -⟩, hoptions⟩
    refine ⟨hheaded rfl, hnodup, fun owner => ?_⟩
    have hnames := hoptions owner
    rwa [namesOf_start] at hnames
  · rintro ⟨hheaded, hnodup, hoptions⟩
    refine ⟨fun _ => hheaded, ⟨hnodup, fun name hname => ?_⟩, fun owner => ?_⟩
    · unfold start
      dsimp only
      rw [Tables.lookup_cons_eq, if_neg (ne_defaultName_of_mem_headings hname)]
      rfl
    · rw [namesOf_start]
      exact hoptions owner

end Reading

/-- **Lines are read exactly if their items are orderly.** -/
theorem exists_readLines_eq_ok_iff {lines : List (List Char)} :
    (∃ r, readLines lines = .ok r) ↔ IsOrderly (items lines) :=
  (Reading.exists_steps_eq_ok_iff Reading.isSound_start 1 lines).trans Reading.admits_start_iff

/-- **Nothing is stray in lines that are read exactly if all their items are whole.** -/
theorem stray_eq_nil_iff {lines : List (List Char)} {r : Reading} (h : readLines lines = .ok r) :
    r.stray = [] ↔ ∀ item ∈ items lines, item.IsWhole :=
  (Reading.stray_steps_eq_nil_iff Reading.isSound_start h).trans (and_iff_right rfl)

/-! ## References -/

/-- A value that a number of references lead to from another one. Only values with percent signs
are followed. -/
inductive Leads (values : List (List Char × List Char)) :
    Nat → List Char → List Char → Prop
  /-- None leads to the value itself. -/
  | refl (s : List Char) : Leads values 0 s s
  /-- One of its references leads on. -/
  | step {k : Nat} {s name v t : List Char} (hpart : .reference name ∈ partsFrom 0 s)
    (hlookup : values.lookup name = some v) (hpercent : v.contains '%' = true)
    (h : Leads values k v t) : Leads values (k + 1) s t

/-- A part that is written out, and whose value is there if it is a reference. -/
def Part.IsWhole (values : List (List Char × List Char)) : Part → Prop
  | .char _ => True
  | .reference name => (values.lookup name).isSome = true
  | .brokenReference _ | .strayPercent _ => False

/-- A value whose references can be replaced: all values that they lead to have whole parts, and
none is too far away. -/
def IsExpandable (values : List (List Char × List Char)) (steps : Nat) (s : List Char) : Prop :=
  ∀ k t, Leads values k s t → k < steps ∧ ∀ part ∈ partsFrom 0 t, part.IsWhole values

/-- A value is expandable if its own parts are whole and the values with percent signs to which it
refers are expandable in one step less. -/
theorem isExpandable_succ_iff {values : List (List Char × List Char)} {steps : Nat}
    {s : List Char} :
    IsExpandable values (steps + 1) s ↔ ∀ part ∈ partsFrom 0 s, part.IsWhole values ∧
      ∀ name v, part = .reference name → values.lookup name = some v → v.contains '%' = true →
        IsExpandable values steps v := by
  constructor
  · intro h part hpart
    refine ⟨(h 0 s (.refl s)).2 part hpart, ?_⟩
    rintro name v rfl hlookup hpercent k t hleads
    obtain ⟨hk, hparts⟩ := h (k + 1) t (.step hpart hlookup hpercent hleads)
    exact ⟨Nat.lt_of_succ_lt_succ hk, hparts⟩
  · intro h k t hleads
    cases hleads with
    | refl => exact ⟨Nat.succ_pos steps, fun part hpart => (h part hpart).1⟩
    | step hpart hlookup hpercent hleads =>
      obtain ⟨hk, hparts⟩ := (h _ hpart).2 _ _ rfl hlookup hpercent _ _ hleads
      exact ⟨Nat.succ_lt_succ hk, hparts⟩

/-- **The references of a value can be replaced in a number of steps exactly if it is
expandable.** -/
theorem exists_expandUpTo_eq_ok_iff {values : List (List Char × List Char)} {steps : Nat}
    {s : List Char} :
    (∃ t, expandUpTo values steps s = .ok t) ↔ IsExpandable values steps s := by
  induction steps generalizing s with
  | zero =>
    refine iff_of_false ?_ fun h => Nat.not_lt_zero _ (h 0 s (.refl s)).1
    rintro ⟨t, ht⟩
    cases ht
  | succ steps ih =>
    have hflat (f : Part → Except ReferenceFault (List Char)) :
        (∃ t, ((partsFrom 0 s).mapM f >>= fun texts => pure texts.flatten) = .ok t) ↔
          ∀ part ∈ partsFrom 0 s, ∃ text, f part = .ok text := by
      rw [← Result.exists_mapM_eq_ok_iff]
      simp only [Result.bind_eq_ok_iff]
      exact ⟨fun ⟨_, texts, htexts, _⟩ => ⟨texts, htexts⟩,
        fun ⟨texts, htexts⟩ => ⟨_, texts, htexts, rfl⟩⟩
    rw [isExpandable_succ_iff, expandUpTo, hflat]
    refine forall_congr' fun part => forall_congr' fun _ => ?_
    cases part with
    | char c => exact iff_of_true ⟨_, rfl⟩ ⟨trivial, nofun⟩
    | brokenReference rest => exact iff_of_false nofun fun h => h.1
    | strayPercent rest => exact iff_of_false nofun fun h => h.1
    | reference name =>
      dsimp only [Part.IsWhole]
      cases hlookup : values.lookup name with
      | none => exact iff_of_false nofun fun h => absurd h.1 (by simp)
      | some v =>
        dsimp only
        cases hpercent : v.contains '%' with
        | true =>
          rw [if_pos rfl, ih]
          constructor
          · intro h
            refine ⟨rfl, ?_⟩
            rintro _ _ ⟨⟩ hsame -
            cases hlookup.symm.trans hsame
            exact h
          · rintro ⟨-, h⟩
            exact h name v rfl hlookup hpercent
        | false =>
          rw [if_neg Bool.false_ne_true]
          refine iff_of_true ⟨v, rfl⟩ ⟨rfl, ?_⟩
          rintro _ _ ⟨⟩ hsame hsign
          cases hlookup.symm.trans hsame
          cases hpercent.symm.trans hsign

/-- The defaults are expanded exactly if all their values are expandable. -/
theorem exists_expandedDefaults_eq_ok_iff {r : Reading} :
    (∃ values, r.expandedDefaults = .ok values) ↔
      ∀ entry ∈ r.defaults, IsExpandable r.defaults maxSteps entry.2 := by
  unfold Reading.expandedDefaults
  rw [Result.exists_mapM_eq_ok_iff]
  refine forall_congr' fun entry => forall_congr' fun _ => ?_
  obtain ⟨name, value⟩ := entry
  rw [← exists_expandUpTo_eq_ok_iff]
  dsimp only [expand]
  cases expandUpTo r.defaults maxSteps value with
  | error fault => exact iff_of_false nofun nofun
  | ok text => exact iff_of_true ⟨_, rfl⟩ ⟨text, rfl⟩

end LintDaemon.Ini
