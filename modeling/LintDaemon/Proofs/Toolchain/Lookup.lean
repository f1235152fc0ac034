import LintDaemon.Toolchain.Location
import Mathlib.Tactic.SplitIfs

/-!
# Lookups that fail

The search for the compiler of an installation finds one, says that there is none, or fails. It
fails where a path cannot even be asked about, and where a home directory is not known.

* `FileSystem.IsOverlong`: paths that are too long, as a whole or in a part that is reached.
* `FileSystem.step_cases`: what one step along a path can come to.
* `FileSystem.isExecutable_fails_iff`: the files about which a question fails.
* `Machine.LookupFails`: the installations whose search fails.
* `Machine.locateJavac_fails_iff`: the search fails for these and no others.
-/

namespace LintDaemon

open LintDaemon.Text

/-! ## Questions about files -/

namespace FileSystem

/-- A walk from a place reaches a directory, and the next part is too long. -/
def MeetsLongPart (fs : FileSystem) (place : Place) (parts : List String) : Prop :=
  ∃ before part behind reached, parts = before ++ part :: behind ∧
    fs.walk place before = .ok reached ∧ fs.node? reached = some .directory ∧
    maxPartBytes < part.utf8ByteSize

/-- A written path is too long, as a whole or in a part that is reached from a directory. -/
def IsOverlong (fs : FileSystem) (directory : Place) (path : String) : Prop :=
  pathByteLimit ≤ path.utf8ByteSize ∨
    fs.MeetsLongPart (if path.toList.head? = some '/' then [] else directory) (fieldsOf '/' path)

variable {fs : FileSystem} {place directory : Place} {path : String}

/-- One step along a path leads on, finds nothing to go on from, or is about a part that is too
long. -/
theorem step_cases (fs : FileSystem) (place : Place) (part : String) :
    (∃ next, fs.step place part = .ok next ∧
        ¬ (fs.node? place = some .directory ∧ maxPartBytes < part.utf8ByteSize)) ∨
      (∃ e, fs.step place part = .error e ∧ isAbsence e = true ∧
        fs.node? place ≠ some .directory) ∨
      (fs.step place part = .error .nameTooLong ∧ fs.node? place = some .directory ∧
        maxPartBytes < part.utf8ByteSize) := by
  unfold step
  cases hnode : fs.node? place with
  | none => exact Or.inr (Or.inl ⟨_, rfl, rfl, nofun⟩)
  | some node =>
    cases node with
    | file _ _ _ | socket _ => exact Or.inr (Or.inl ⟨_, rfl, rfl, nofun⟩)
    | directory =>
      dsimp only
      split_ifs with hsame hparent hlong
      · refine Or.inl ⟨_, rfl, fun h => ?_⟩
        rcases hsame with rfl | rfl <;> exact absurd h.2 (by decide)
      · refine Or.inl ⟨_, rfl, fun h => ?_⟩
        subst hparent
        exact absurd h.2 (by decide)
      · exact Or.inr (Or.inr ⟨rfl, rfl, hlong⟩)
      · exact Or.inl ⟨_, rfl, fun h => hlong h.2⟩

/-- A walk fails, other than by finding nothing, exactly if it meets a part that is too long. -/
theorem walk_fails_iff {parts : List String} :
    (∃ e, fs.walk place parts = .error e ∧ isAbsence e = false) ↔ fs.MeetsLongPart place parts := by
  induction parts generalizing place with
  | nil =>
    constructor
    · rintro ⟨e, h, -⟩
      cases h
    · rintro ⟨before, part, behind, reached, hparts, -⟩
      exact absurd hparts (by simp)
  | cons part rest ih =>
    -- the first step leads on, has nothing to go on from, or meets the part itself
    rcases fs.step_cases place part with ⟨next, hstep, hshort⟩ | ⟨e, hstep, habsent, hnode⟩ |
      ⟨hstep, hnode, hlong⟩
    · have hwalk : ∀ parts, fs.walk place (part :: parts) = fs.walk next parts := by
        intro parts
        rw [walk, hstep]
      rw [hwalk, ih]
      constructor
      · rintro ⟨before, long, behind, reached, rfl, hreached, hlong⟩
        exact ⟨part :: before, long, behind, reached, rfl, (hwalk before).trans hreached, hlong⟩
      · rintro ⟨before, long, behind, reached, hparts, hreached, hnode, hlong⟩
        cases before with
        | nil =>
          cases hparts
          cases hreached
          exact absurd ⟨hnode, hlong⟩ hshort
        | cons first before =>
          cases hparts
          rw [hwalk] at hreached
          exact ⟨before, long, behind, reached, rfl, hreached, hnode, hlong⟩
    · have hwalk : ∀ parts, fs.walk place (part :: parts) = .error e := by
        intro parts
        rw [walk, hstep]
      constructor
      · rintro ⟨e', h, habsent'⟩
        rw [hwalk] at h
        cases h
        exact absurd (habsent.symm.trans habsent') (by decide)
      · rintro ⟨before, long, behind, reached, hparts, hreached, hlong⟩
        cases before with
        | nil =>
          cases hreached
          exact absurd hlong.1 hnode
        | cons first before =>
          cases hparts
          cases (hwalk before).symm.trans hreached
    · refine iff_of_true ⟨.nameTooLong, ?_, rfl⟩ ⟨[], part, rest, place, rfl, rfl, hnode, hlong⟩
      rw [walk, hstep]

/-- The empty path is not too long. -/
theorem not_isOverlong_empty : ¬ fs.IsOverlong directory "" := by
  rintro (hlimit | ⟨before, part, behind, reached, hparts, -, -, hlong⟩)
  · exact absurd hlimit (by decide)
  · have hone : fieldsOf '/' "" = [""] := rfl
    rw [hone] at hparts
    have hmem : part ∈ [""] := hparts ▸ by simp
    rw [List.mem_singleton.mp hmem] at hlong
    exact absurd hlong (by decide)

/-- A path has no place, other than because nothing is there, exactly if it is too long. -/
theorem placeOf_fails_iff :
    (∃ e, fs.placeOf directory path = .error e ∧ isAbsence e = false) ↔
      fs.IsOverlong directory path := by
  by_cases hempty : path = ""
  · subst hempty
    refine iff_of_false ?_ not_isOverlong_empty
    rintro ⟨e, h, habsent⟩
    cases h
    cases habsent
  · rw [placeOf, if_neg hempty]
    by_cases hlimit : pathByteLimit ≤ path.utf8ByteSize
    · rw [if_pos hlimit]
      exact iff_of_true ⟨_, rfl, rfl⟩ (Or.inl hlimit)
    · rw [if_neg hlimit]
      exact walk_fails_iff.trans ⟨Or.inr, fun h => h.resolve_left hlimit⟩

/-- Locating a path fails, other than because nothing is there, exactly if it is too long. -/
theorem locate_fails_iff :
    (∃ e, fs.locate directory path = .error e ∧ isAbsence e = false) ↔
      fs.IsOverlong directory path := by
  rw [← placeOf_fails_iff]
  unfold locate
  cases fs.placeOf directory path with
  | error e => simp only [Except.error.injEq]
  | ok place =>
    refine iff_of_false ?_ nofun
    rintro ⟨e, h, habsent⟩
    dsimp only at h
    cases hnode : fs.node? place with
    | some node =>
      rw [hnode] at h
      cases h
    | none =>
      rw [hnode] at h
      cases h
      cases habsent

/-- A question about a path fails exactly if it is one that may be asked and is too long. -/
theorem query_fails_iff :
    (∃ e, fs.query directory path = .error e) ↔
      holdsNul path = false ∧ fs.IsOverlong directory path := by
  rw [← locate_fails_iff]
  unfold query
  split_ifs with hnul
  · exact iff_of_false nofun
      fun h => absurd (hnul.symm.trans h.1) (by decide)
  · cases fs.locate directory path with
    | ok found => exact iff_of_false nofun nofun
    | error e =>
      dsimp only
      split_ifs with habsent
      · refine iff_of_false nofun ?_
        rintro ⟨-, e', h, hpresent⟩
        cases h
        exact absurd (habsent.symm.trans hpresent) (by decide)
      · exact iff_of_true ⟨_, rfl⟩
          ⟨Bool.eq_false_iff.mpr hnul, e, rfl, Bool.eq_false_iff.mpr habsent⟩

/-- So does the question whether a path is a file that may be run. -/
theorem isExecutable_fails_iff :
    (∃ e, fs.isExecutable directory path = .error e) ↔
      holdsNul path = false ∧ fs.IsOverlong directory path := by
  rw [← query_fails_iff]
  unfold isExecutable
  cases fs.query directory path with
  | error e => simp only [Except.error.injEq]
  | ok node =>
    refine iff_of_false ?_ nofun
    rintro ⟨e, h⟩
    rcases node with _ | _ | _ <;> cases h

end FileSystem

/-! ## Installations -/

/-- A search that neither finds anything nor says that there is nothing to find. -/
def SearchFails {α : Type} (search : Except LocateError α) : Prop :=
  ∃ e, search = .error e ∧ e.isUnavailable = false

/-- What is made of the thing found does not matter. -/
theorem searchFails_map_iff {α β : Type} {search : Except LocateError α} {f : α → β} :
    SearchFails (search.map f) ↔ SearchFails search := by
  unfold SearchFails
  cases search <;> simp [Except.map]

/-- A search that finds something does not fail. -/
theorem not_searchFails_ok {α : Type} (found : α) : ¬ SearchFails (.ok found) := by
  rintro ⟨e, h, -⟩
  cases h

namespace Machine

variable {m : Machine} {timeout : Binary64}

/-- A path about which a question fails. -/
def IsUnaskable (m : Machine) (p : Path) : Prop :=
  FileSystem.holdsNul p.toString = false ∧ m.files.IsOverlong m.directory p.toString

/-- The installations whose search neither finds a compiler nor says that there is none. -/
inductive LookupFails (m : Machine) : Option String → Prop
  /-- The first part of the path names a home directory that is not known or cannot be. -/
  | noHome {home part : String} {rest : List String} (hroot : (Path.ofString home).root = "")
    (hparts : (Path.ofString home).parts = part :: rest) (htilde : part.toList.head? = some '~')
    (hunknown : FileSystem.holdsNul part = true ∨ m.homeOf? part = none) :
    LookupFails m (some home)
  /-- The program of the installation cannot be asked about. -/
  | named {home : String} {path : Path} (hne : home ≠ "")
    (hpath : m.expandHome (Path.ofString home) = .ok path)
    (hprogram : m.IsUnaskable (programOf path)) : LookupFails m (some home)
  /-- The program of the installation that the variable names cannot be asked about. -/
  | default {home : Option String} {java : String} (hhome : home = none ∨ home = some "")
    (hjava : m.envValue? "JAVA_HOME" = some java) (hne : java ≠ "")
    (hprogram : m.IsUnaskable (programOf (Path.ofString java))) : LookupFails m home

/-- A home directory is not found exactly if the first part of the path names one that is not
known or cannot be. -/
theorem expandHome_fails_iff {p : Path} :
    (∃ e, m.expandHome p = .error e) ↔ p.root = "" ∧ ∃ part rest, p.parts = part :: rest ∧
      part.toList.head? = some '~' ∧
      (FileSystem.holdsNul part = true ∨ m.homeOf? part = none) := by
  obtain ⟨root, parts⟩ := p
  unfold expandHome
  split
  · next part rest hroot hparts =>
    dsimp only at hroot hparts
    subst hroot hparts
    split_ifs with htilde hnul
    · exact iff_of_true ⟨_, rfl⟩ ⟨rfl, part, rest, rfl, htilde, Or.inl hnul⟩
    · cases hhome : m.homeOf? part with
      | none => exact iff_of_true ⟨_, rfl⟩ ⟨rfl, part, rest, rfl, htilde, Or.inr hhome⟩
      | some home =>
        refine iff_of_false nofun ?_
        rintro ⟨-, _, _, hparts, -, hunknown⟩
        cases hparts
        simp [hnul, hhome] at hunknown
    · refine iff_of_false nofun ?_
      rintro ⟨-, _, _, hparts, htilde', -⟩
      cases hparts
      exact htilde htilde'
  · next hother =>
    refine iff_of_false nofun ?_
    rintro ⟨hroot, part, rest, hparts, -⟩
    exact hother part rest hroot hparts

/-- A question about the program of an installation fails exactly if its path cannot be asked
about. -/
theorem isExecutable_fails_iff {p : Path} : (∃ e, m.isExecutable p = .error e) ↔ m.IsUnaskable p :=
  FileSystem.isExecutable_fails_iff

/-- The search for a named installation fails if its home directory is not known, or if its
program cannot be asked about. -/
theorem namedJavac_fails_iff {home : String} :
    SearchFails (m.namedJavac home) ↔
      (∃ e, m.expandHome (Path.ofString home) = .error e) ∨
        ∃ path, m.expandHome (Path.ofString home) = .ok path ∧ m.IsUnaskable (programOf path) := by
  unfold namedJavac
  cases m.expandHome (Path.ofString home) with
  | error e => cases e <;> exact iff_of_true ⟨_, rfl, rfl⟩ (Or.inl ⟨_, rfl⟩)
  | ok path =>
    dsimp only
    cases hprogram : m.isExecutable (programOf path) with
    | error e =>
      exact iff_of_true ⟨_, rfl, rfl⟩
        (Or.inr ⟨path, rfl, isExecutable_fails_iff.mp ⟨e, hprogram⟩⟩)
    | ok executable =>
      refine iff_of_false ?_ ?_
      · rintro ⟨e, h, hfails⟩
        cases executable <;> cases h
        cases hfails
      · rintro (⟨e, h⟩ | ⟨path', hpath, hunaskable⟩)
        · cases h
        · cases hpath
          obtain ⟨e, h⟩ := isExecutable_fails_iff.mpr hunaskable
          cases hprogram.symm.trans h

/-- The question about the installation that the variable names fails exactly if the variable names
one and its program cannot be asked about. -/
theorem javaHome_fails_iff :
    (∃ e, (if (m.envValue? "JAVA_HOME").getD "" = "" then .ok false
        else m.isExecutable (programOf (.ofString ((m.envValue? "JAVA_HOME").getD "")))) =
          .error e) ↔
      ∃ java, m.envValue? "JAVA_HOME" = some java ∧ java ≠ "" ∧
        m.IsUnaskable (programOf (Path.ofString java)) := by
  cases m.envValue? "JAVA_HOME" with
  | none => exact iff_of_false nofun nofun
  | some java =>
    rw [Option.getD_some]
    by_cases hempty : java = ""
    · rw [if_pos hempty]
      refine iff_of_false nofun ?_
      rintro ⟨java', h, hne, -⟩
      cases h
      exact hne hempty
    · rw [if_neg hempty, isExecutable_fails_iff]
      constructor
      · exact fun h => ⟨java, rfl, hempty, h⟩
      · rintro ⟨java', h, -, hunaskable⟩
        cases h
        exact hunaskable

/-- The search for the default installation fails only on the one that the variable names. -/
theorem defaultJavac_fails_iff :
    SearchFails m.defaultJavac ↔
      ∃ java, m.envValue? "JAVA_HOME" = some java ∧ java ≠ "" ∧
        m.IsUnaskable (programOf (Path.ofString java)) := by
  rw [← javaHome_fails_iff]
  unfold defaultJavac
  dsimp only
  generalize (if (m.envValue? "JAVA_HOME").getD "" = "" then .ok false
    else m.isExecutable (programOf (.ofString ((m.envValue? "JAVA_HOME").getD "")))) = named
  cases named with
  | error e => exact iff_of_true ⟨_, rfl, rfl⟩ ⟨e, rfl⟩
  | ok executable =>
    refine iff_of_false ?_ nofun
    cases executable with
    | true => exact not_searchFails_ok _
    | false =>
      cases m.searchJavac? with
      | some path => exact not_searchFails_ok path
      | none =>
        rintro ⟨e, h, hfails⟩
        cases h
        cases hfails

/-- Without a name, or with the empty one, the default installation is looked up. -/
theorem locateJavac_default {home : Option String} (hhome : home = none ∨ home = some "") :
    m.locateJavac timeout home = m.defaultJavac.map (⟨·, timeout⟩) := by
  rcases hhome with rfl | rfl <;> rfl

/-- With any other name the installation of that name is. -/
theorem locateJavac_named {home : String} (hne : home ≠ "") :
    m.locateJavac timeout (some home) = (m.namedJavac home).map (⟨·, timeout⟩) := by
  unfold locateJavac
  split
  · next h => cases h
  · next h => exact absurd (Option.some.inj h) hne
  · next h => rw [Option.some.inj h]

/-- The search fails for these installations and no others. -/
theorem locateJavac_fails_iff {home : Option String} :
    SearchFails (m.locateJavac timeout home) ↔ m.LookupFails home := by
  by_cases hdefault : home = none ∨ home = some ""
  · rw [locateJavac_default hdefault, searchFails_map_iff, defaultJavac_fails_iff]
    constructor
    · rintro ⟨java, hjava, hne, hprogram⟩
      exact .default hdefault hjava hne hprogram
    · intro h
      -- the empty name stands for the default, so the other ways to fail are not open to it
      cases h with
      | @noHome home _ _ _ hparts =>
        obtain rfl : home = "" := by simpa using hdefault
        cases hparts
      | @named home _ hne => exact absurd (by simpa using hdefault) hne
      | default _ hjava hne hprogram => exact ⟨_, hjava, hne, hprogram⟩
  · obtain ⟨home, rfl⟩ : ∃ name, home = some name :=
      Option.ne_none_iff_exists'.mp fun h => hdefault (Or.inl h)
    have hne : home ≠ "" := fun h => hdefault (Or.inr (congrArg some h))
    rw [locateJavac_named hne, searchFails_map_iff, namedJavac_fails_iff, expandHome_fails_iff]
    constructor
    · rintro (⟨hroot, part, rest, hparts, htilde, hunknown⟩ | ⟨path, hpath, hprogram⟩)
      · exact .noHome hroot hparts htilde hunknown
      · exact .named hne hpath hprogram
    · intro h
      cases h with
      | noHome hroot hparts htilde hunknown =>
        exact Or.inl ⟨hroot, _, _, hparts, htilde, hunknown⟩
      | named _ hpath hprogram => exact Or.inr ⟨_, hpath, hprogram⟩
      | default hhome => exact absurd hhome hdefault

/-- So does the search of the toolchain. -/
theorem toolchain_fails_iff {home : Option String} :
    SearchFails (m.toolchain timeout home) ↔ m.LookupFails home := by
  rw [← locateJavac_fails_iff, toolchain, searchFails_map_iff]

end Machine

end LintDaemon
