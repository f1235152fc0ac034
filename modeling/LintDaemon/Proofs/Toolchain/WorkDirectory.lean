import LintDaemon.Proofs.Host.Changes
import LintDaemon.Proofs.SourceUnit
import LintDaemon.Toolchain.Javac

/-!
# What a compilation leaves behind

A compilation works in a directory of its own, which is gone when it ends. All that it can leave
behind are the directories into which class files that are kept are put.

* `Javac.IsMade`: what a compilation may add to the files while it goes on.
* `Javac.IsKept`: what it may leave behind.
* `Javac.compileIn_grows`: in its work directory a compilation adds nothing else, and changes
  nothing that was there.
* `Javac.node?_of_discarding`: if class files are not kept, all is as it was.
* `Javac.compileOn_grows`: however it ends, it leaves nothing else behind, and its work directory
  is gone.
-/

namespace LintDaemon

open LintDaemon.Text

/-! ## The path of a unit -/

section SourceUnit

variable {unit : SourceUnit} {parts : List String}

/-- Only units with valid names have a path. -/
theorem isUnitName_of_path? (h : unit.path? = some parts) : isUnitName unit.name = true := by
  obtain ⟨charParts, hparts, -⟩ := Option.map_eq_some_iff.mp h
  exact isUnitNameChars_of_pathParts? hparts

/-- Units with valid names have a path. -/
theorem exists_path? (h : isUnitName unit.name = true) : ∃ parts, unit.path? = some parts := by
  have hparts : pathParts? unit.name.toList = some _ := pathParts?_eq_some_iff.mpr ⟨h, rfl⟩
  rw [SourceUnit.path?, hparts]
  exact ⟨_, rfl⟩

/-- The path of a unit is not empty. -/
theorem ne_nil_of_path? (h : unit.path? = some parts) : parts ≠ [] := by
  obtain ⟨charParts, hparts, rfl⟩ := Option.map_eq_some_iff.mp h
  obtain ⟨stem, hstem, -, hjoin⟩ := exists_stem_of_pathParts? hparts
  rintro hnil
  rw [List.map_eq_nil_iff.mp hnil] at hjoin
  exact hstem (List.append_eq_nil_iff.mp hjoin.symm).1

/-- The parts of the path of a unit lead one step down each. -/
theorem isPlainPart_of_mem_path? (h : unit.path? = some parts) {part : String}
    (hpart : part ∈ parts) : Path.IsPlainPart part := by
  obtain ⟨charParts, hparts, rfl⟩ := Option.map_eq_some_iff.mp h
  obtain ⟨chars, hchars, rfl⟩ := List.mem_map.mp hpart
  refine ⟨?_, ?_⟩
  · obtain ⟨c, rest, rfl, hc⟩ := isNameStart_of_mem_pathParts? hparts hchars
    have hpoint : c ≠ '.' := by
      rintro rfl
      cases hc
    simp [← String.toList_inj, hpoint]
  · rw [String.toList_ofList]
    exact no_slash_of_mem_pathParts? hparts hchars

end SourceUnit

namespace Javac

open FileSystem

/-! ## Within the work directory -/

/-- A directory for class files that are kept: the one asked for, or one above it. -/
def IsKept (m : Machine) (unit : SourceUnit) (options : CompileOptions) (place : Place)
    (node : Node) : Prop :=
  options.retain = true ∧ isUnitName unit.name = true ∧
    ∃ output, options.outputDirectory = some output ∧
      IsDirectoryFor m.directory output place node

/-- What a compilation may add to the files while it goes on. -/
inductive IsMade (m : Machine) (unit : SourceUnit) (options : CompileOptions) (work : Place) :
    Place → Node → Prop
  /-- The work directory, and directories in it. -/
  | directory (below : List String) : IsMade m unit options work (work ++ below) .directory
  /-- The source, where the path of the unit leads below the directory of the sources. -/
  | source (parts : List String) (hpath : unit.path? = some parts) (hparts : parts ≠ []) :
    IsMade m unit options work (work ++ "src" :: parts)
      (.file (Utf8.encode unit.body.toList) false none)
  /-- A directory for class files that are kept. -/
  | kept {place : Place} {node : Node} (hkept : IsKept m unit options place node) :
    IsMade m unit options work place node

/-- Where the source of a unit is put. -/
def sourcePath (m : Machine) (parts : List String) : Path :=
  ((Path.ofString m.freshDirectory).child "src").join parts

/-- The source is put below the directory of the sources. -/
theorem sourcePath_eq_join (m : Machine) (parts : List String) :
    sourcePath m parts = (Path.ofString m.freshDirectory).join ("src" :: parts) := by
  simp [sourcePath, Path.child, Path.join]

/-- The parts of the path to a source lead one step down each. -/
theorem isPlainPart_of_mem_sources {unit : SourceUnit} {parts : List String}
    (hpath : unit.path? = some parts) : ∀ part ∈ "src" :: parts, Path.IsPlainPart part := by
  refine List.forall_mem_cons.mpr ⟨by decide, fun part hpart => ?_⟩
  exact isPlainPart_of_mem_path? hpath hpart

/-- The path to a source is in lowest form. -/
theorem isLowest_sourcePath (m : Machine) {unit : SourceUnit} {parts : List String}
    (hpath : unit.path? = some parts) : (sourcePath m parts).IsLowest := by
  rw [sourcePath_eq_join]
  exact (Path.isLowest_ofString _).join (isPlainPart_of_mem_sources hpath)

section Work

variable {m : Machine} {unit : SourceUnit} {options : CompileOptions} {work : Place}
  {files : FileSystem} (hplace : m.files.placeOf m.directory m.freshDirectory = .ok work)
  (hmade : m.files.makeDirectory m.directory m.freshDirectory = .ok files)

include hplace hmade

/-- The work directory is put where nothing was. -/
theorem makeDirectory_work :
    m.files.node? work = none ∧ files = m.files.insert work .directory := by
  obtain ⟨place, hplace', hnone, hfiles⟩ := makeDirectory_eq_ok hmade
  cases hplace.symm.trans hplace'
  exact ⟨hnone, hfiles⟩

/-- The work directory and all directories above it are there. -/
theorem node?_atOrAbove_work {above : Path}
    (habove : above.IsAtOrAbove (Path.ofString m.freshDirectory)) :
    files.node? (leadsTo m.directory above.toString) = some .directory := by
  obtain ⟨hnone, rfl⟩ := makeDirectory_work hplace hmade
  obtain ⟨hwork, hpassed⟩ := placeOf_eq_ok hplace
  obtain ⟨n, hn⟩ := exists_take_of_isAtOrAbove habove m.directory
  rw [hn]
  by_cases hlast : n < (fieldsOf '/' m.freshDirectory).length
  · have hgrows : Grows (fun _ _ => True) m.files (m.files.insert work .directory) :=
      grows_insert hnone trivial
    exact hgrows.node?_eq_some (hpassed n hlast)
  · rw [List.take_of_length_le (Nat.le_of_not_lt hlast)]
    have hsame : (fieldsOf '/' m.freshDirectory).foldl follow
        (startOf m.directory m.freshDirectory) = work := hwork.symm
    rw [hsame, node?_insert (ne_nil_of_node?_eq_none hnone), if_pos rfl]

/-- Making the work directory only adds it to the files. -/
theorem opened_grows : Grows (IsMade m unit options work) m.files files := by
  obtain ⟨hnone, rfl⟩ := makeDirectory_work hplace hmade
  have hwork : IsMade m unit options work work .directory := by
    simpa using (.directory [] : IsMade m unit options work (work ++ []) .directory)
  exact grows_insert hnone hwork

omit hmade in
/-- Parts below the path of the work directory lead below its place. -/
theorem leadsTo_work_join {parts : List String}
    (hparts : ∀ part ∈ parts, Path.IsPlainPart part) :
    leadsTo m.directory ((Path.ofString m.freshDirectory).join parts).toString =
      work ++ parts := by
  rw [leadsTo_join (Path.isLowest_ofString _) hparts, leadsTo_ofString,
    (placeOf_eq_ok hplace).1]

/-- Directories made for a path in the work directory are on the way to it from there. -/
theorem exists_isPrefix_of_join {parts : List String}
    (hparts : ∀ part ∈ parts, Path.IsPlainPart part) {place : Place} {node : Node}
    (hnone : files.node? place = none)
    (hdirectory : IsDirectoryFor m.directory ((Path.ofString m.freshDirectory).join parts)
      place node) :
    node = .directory ∧ ∃ first, first <+: parts ∧ place = work ++ first := by
  obtain ⟨rfl, above, habove, rfl⟩ := hdirectory
  refine ⟨rfl, ?_⟩
  rcases Path.isAtOrAbove_join habove with hwork | ⟨first, hfirst, rfl⟩
  · -- these directories are there already
    cases hnone.symm.trans (node?_atOrAbove_work hplace hmade hwork)
  · exact ⟨first, hfirst, leadsTo_work_join hplace fun part hpart =>
      hparts part (hfirst.subset hpart)⟩

/-- Directories made for a path in the work directory are in the work directory. -/
theorem isMade_of_join (parts : List String)
    (hparts : ∀ part ∈ parts, Path.IsPlainPart part) {place : Place} {node : Node}
    (hnone : files.node? place = none)
    (hdirectory : IsDirectoryFor m.directory ((Path.ofString m.freshDirectory).join parts)
      place node) :
    IsMade m unit options work place node := by
  obtain ⟨rfl, first, -, rfl⟩ := exists_isPrefix_of_join hplace hmade hparts hnone hdirectory
  exact .directory first

/-- Directories made for class files are in the work directory, or kept. -/
theorem isMade_of_outputPath (hname : isUnitName unit.name = true) {place : Place} {node : Node}
    (hnone : files.node? place = none)
    (hdirectory : IsDirectoryFor m.directory
      (outputPath options (Path.ofString m.freshDirectory)) place node) :
    IsMade m unit options work place node := by
  unfold outputPath at hdirectory
  split_ifs at hdirectory with hretain
  · cases houtput : options.outputDirectory with
    | some output =>
      rw [houtput] at hdirectory
      exact .kept ⟨hretain, hname, output, houtput, hdirectory⟩
    | none =>
      rw [houtput] at hdirectory
      have hwork : Path.ofString m.freshDirectory = (Path.ofString m.freshDirectory).join [] := by
        simp [Path.join]
      refine isMade_of_join hplace hmade [] (List.forall_mem_nil _) hnone ?_
      rwa [← hwork]
  · exact isMade_of_join hplace hmade ["classes"] (by decide) hnone hdirectory

/-- Making directories for class files adds none but these. -/
theorem classDirectories_grows (hname : isUnitName unit.name = true) {now : FileSystem}
    (hnow : Grows (IsMade m unit options work) files now) :
    Grows (IsMade m unit options work) files
      (now.makeDirectories m.directory
        (outputPath options (Path.ofString m.freshDirectory))).1 := by
  refine hnow.trans ((makeDirectories_grows now m.directory _).mono ?_)
  intro place node hnone hdirectory
  exact isMade_of_outputPath hplace hmade hname (hnow.node?_eq_none hnone) hdirectory

section Source

variable {parts : List String} (hpath : unit.path? = some parts)

include hpath

/-- Directories made for the source are in the work directory. -/
theorem sourceDirectories_grows :
    Grows (IsMade m unit options work) files
      (files.makeDirectories m.directory (sourcePath m parts).parent).1 := by
  refine (makeDirectories_grows files m.directory _).mono ?_
  intro place node hnone hdirectory
  have hsource := hdirectory.of_parent
  rw [sourcePath_eq_join] at hsource
  exact isMade_of_join hplace hmade _ (isPlainPart_of_mem_sources hpath) hnone hsource

/-- The source is written below the directory of the sources, where nothing was. -/
theorem writeSource_grows (htree : m.files.IsTree) {written : FileSystem}
    (hwritten : (files.makeDirectories m.directory (sourcePath m parts).parent).1.write m.directory
      (sourcePath m parts).toString (Utf8.encode unit.body.toList) = .ok written) :
    Grows (IsMade m unit options work)
      (files.makeDirectories m.directory (sourcePath m parts).parent).1 written := by
  obtain ⟨hnone, hfiles⟩ := makeDirectory_work hplace hmade
  have hsource : leadsTo m.directory (sourcePath m parts).toString = work ++ "src" :: parts := by
    rw [sourcePath_eq_join, leadsTo_work_join hplace (isPlainPart_of_mem_sources hpath)]
  have habsent : files.node? (work ++ "src" :: parts) = none := by
    rw [hfiles, node?_insert (ne_nil_of_node?_eq_none hnone), if_neg (by simp)]
    exact htree.node?_append hnone _
  refine (write_grows ?_ hwritten).mono ?_
  · -- what is there by now is one of the directories that have just been made
    intro node hnode
    rw [hsource] at hnode
    rcases makeDirectories_grows files m.directory (sourcePath m parts).parent
      (work ++ "src" :: parts) with hsame | ⟨-, other, hother, hdirectory⟩
    · cases hnode.symm.trans (hsame.trans habsent)
    · cases hnode.symm.trans hother
      exact hdirectory.1
  · rintro place node - ⟨rfl, rfl⟩
    rw [hsource]
    exact .source parts hpath (ne_nil_of_path? hpath)

/-- Directories for the source are made, and it is written there. -/
theorem source_grows (htree : m.files.IsTree) {written : FileSystem}
    (hwritten : (files.makeDirectories m.directory (sourcePath m parts).parent).1.write m.directory
      (sourcePath m parts).toString (Utf8.encode unit.body.toList) = .ok written) :
    Grows (IsMade m unit options work) files written :=
  (sourceDirectories_grows hplace hmade hpath).trans
    (writeSource_grows hplace hmade hpath htree hwritten)

end Source

/-- In its work directory a compilation makes directories for the source and for the class files,
and writes the source. It changes nothing that was there. -/
theorem compileIn_grows (htree : m.files.IsTree) (javac : Javac) :
    Grows (IsMade m unit options work) files
      (javac.compileIn { m with files := files } unit options
        (Path.ofString m.freshDirectory)).2 := by
  unfold compileIn
  cases hpath : unit.path? with
  | none => exact Grows.refl _ _
  | some parts =>
    have hdirectories : Grows (IsMade m unit options work) files _ :=
      sourceDirectories_grows hplace hmade hpath
    dsimp only
    split
    · exact Grows.refl _ _
    cases hparents : files.makeDirectories m.directory
        (((Path.ofString m.freshDirectory).child "src").join parts).parent with
    | mk between result =>
      rw [sourcePath, hparents] at hdirectories
      cases result with
      | error e => exact hdirectories
      | ok =>
        dsimp only
        cases hwrite : between.write m.directory
            (((Path.ofString m.freshDirectory).child "src").join parts).toString
            (Utf8.encode unit.body.toList) with
        | error e => exact hdirectories
        | ok written =>
          have hsource : Grows (IsMade m unit options work) files written := by
            refine source_grows hplace hmade hpath htree ?_
            rw [sourcePath, hparents]
            exact hwrite
          have hclasses := classDirectories_grows hplace hmade (isUnitName_of_path? hpath) hsource
          dsimp only
          split
          · exact hsource
          · cases houtput : written.makeDirectories m.directory
                (outputPath options (Path.ofString m.freshDirectory)) with
            | mk after result =>
              rw [houtput] at hclasses
              cases result <;> exact hclasses

/-- While a compilation goes on, it only adds to the files. -/
theorem filesWithin_grows (htree : m.files.IsTree) (javac : Javac) :
    Grows (IsMade m unit options work) m.files
      (javac.compileIn { m with files := files } unit options
        (Path.ofString m.freshDirectory)).2 :=
  (opened_grows hplace hmade).trans (compileIn_grows hplace hmade htree javac)

end Work

/-! ## Behind a compilation -/

/-- Without the work directory, only directories that are kept are left of what was made. -/
theorem grows_removeTree {m : Machine} {unit : SourceUnit} {options : CompileOptions}
    {work : Place} {now : FileSystem} (htree : m.files.IsTree)
    (hwork : m.files.node? work = none) (hnow : Grows (IsMade m unit options work) m.files now) :
    Grows (IsKept m unit options) m.files (now.removeTree work) := by
  intro place
  rw [node?_removeTree (ne_nil_of_node?_eq_none hwork)]
  split_ifs with hbelow
  · obtain ⟨below, rfl⟩ := hbelow
    exact Or.inl (htree.node?_append hwork below).symm
  · rcases hnow place with hsame | ⟨hnone, node, hnode, hadded⟩
    · exact Or.inl hsame
    · cases hadded with
      | directory below => exact absurd (List.prefix_append _ _) hbelow
      | source parts hpath hparts => exact absurd (List.prefix_append _ _) hbelow
      | kept hkept => exact Or.inr ⟨hnone, node, hnode, hkept⟩

/-- A compilation changes no files, or ends with its work directory taken away. -/
theorem compileOn_files_cases (javac : Javac) (m : Machine) (unit : SourceUnit)
    (options : CompileOptions) :
    (javac.compileOn m unit options).2 = m.files ∨
      ∃ work files, m.files.placeOf m.directory m.freshDirectory = .ok work ∧
        m.files.makeDirectory m.directory m.freshDirectory = .ok files ∧
        (javac.compileOn m unit options).2 =
          (javac.compileIn { m with files := files } unit options
            (Path.ofString m.freshDirectory)).2.removeTree work := by
  unfold compileOn
  split_ifs
  · exact Or.inl rfl
  · cases hplace : m.files.placeOf m.directory m.freshDirectory with
    | error e =>
      cases m.files.makeDirectory m.directory m.freshDirectory <;> exact Or.inl rfl
    | ok work =>
      cases hmade : m.files.makeDirectory m.directory m.freshDirectory with
      | error e => exact Or.inl rfl
      | ok files => exact Or.inr ⟨work, files, rfl, rfl, rfl⟩

/-- A compilation leaves only directories for class files that are kept behind. -/
theorem files_grow (javac : Javac) {m : Machine} (htree : m.files.IsTree) (unit : SourceUnit)
    (options : CompileOptions) :
    Grows (IsKept m unit options) m.files (javac.compileOn m unit options).2 := by
  rcases javac.compileOn_files_cases m unit options with
    hsame | ⟨work, files, hplace, hmade, hfiles⟩
  · rw [hsame]
    exact Grows.refl _ _
  · rw [hfiles]
    exact grows_removeTree htree (makeDirectory_work hplace hmade).1
      (filesWithin_grows hplace hmade htree javac)

/-- A compilation whose class files are not kept leaves all files as they are. This is why the
compilers of a daemon may be run on one machine over and over. -/
theorem node?_of_discarding (javac : Javac) {m : Machine} (htree : m.files.IsTree)
    (unit : SourceUnit) {options : CompileOptions} (hretain : options.retain = false)
    (place : Place) :
    (javac.compileOn m unit options).2.node? place = m.files.node? place := by
  rcases javac.files_grow htree unit options place with hsame | ⟨-, node, -, hkept⟩
  · exact hsame
  · cases hretain.symm.trans hkept.1

/-- **A compilation leaves nothing behind** but directories for class files that are kept: these
only if they are to be kept and the name is valid, and each where nothing was. Its work directory
is gone with all that was in it. While it goes on it adds nothing but directories in its work
directory, the source below the directory of the sources, and the directories that are kept. -/
theorem compileOn_grows (javac : Javac) (m : Machine) (unit : SourceUnit)
    (options : CompileOptions) (htree : m.files.IsTree) :
    Grows (IsKept m unit options) m.files (javac.compileOn m unit options).2 ∧
      ∀ work files, m.files.placeOf m.directory m.freshDirectory = .ok work →
        m.files.makeDirectory m.directory m.freshDirectory = .ok files →
        (∀ below, (javac.compileOn m unit options).2.node? (work ++ below) = none) ∧
          Grows (IsMade m unit options work) m.files
            (javac.compileIn { m with files := files } unit options
              (Path.ofString m.freshDirectory)).2 := by
  refine ⟨javac.files_grow htree unit options, fun work files hplace hmade => ⟨fun below => ?_, ?_⟩⟩
  · have hwork := (makeDirectory_work hplace hmade).1
    rcases javac.compileOn_files_cases m unit options with
      hsame | ⟨other, otherFiles, hother, -, hfiles⟩
    · rw [hsame]
      exact htree.node?_append hwork below
    · cases hplace.symm.trans hother
      rw [hfiles, node?_removeTree (ne_nil_of_node?_eq_none hwork),
        if_pos (List.prefix_append _ _)]
  · exact filesWithin_grows hplace hmade htree javac

/-- A machine with a compiler program that says nothing. -/
def workshop : Machine where
  files := ⟨[(["tmp"], .directory), (["jdk"], .directory),
    (["jdk", "javac"], .file [] true (some fun _ => ⟨[], [], 0⟩))]⟩
  directory := []
  environment := []
  homes := []
  account := "lint"
  settingsFile := Path.ofString "/lint.ini"
  freshDirectory := "/tmp/javalint-k3v"
  neverEnds := false
  uptime := .zero false

/-- The compiler program of that machine. -/
def workshopJavac : Javac :=
  ⟨Path.ofString "/jdk/javac", .ofNat 60⟩

/-- A class in a package. -/
def workshopUnit : SourceUnit :=
  ⟨"foo.Bar", "class Bar {}"⟩

/-- Options that keep the class files in a directory, of which the parent may be missing. -/
def keepingIn (output : String) : CompileOptions :=
  ⟨"", true, some (Path.ofString output)⟩

/-- A compilation whose class files are kept leaves their directory behind, and no other. -/
theorem compileOn_grows_workshop :
    workshop.files.IsTree ∧
      Grows (IsKept workshop workshopUnit (keepingIn "/build/classes")) workshop.files
        (workshopJavac.compileOn workshop workshopUnit (keepingIn "/build/classes")).2 ∧
      ∃ files, workshop.files.placeOf workshop.directory workshop.freshDirectory =
          .ok ["tmp", "javalint-k3v"] ∧
        workshop.files.makeDirectory workshop.directory workshop.freshDirectory = .ok files ∧
        (workshopJavac.compileOn workshop workshopUnit
          (keepingIn "/build/classes")).2.node? ["tmp", "javalint-k3v"] = none ∧
        ((workshopJavac.compileOn workshop workshopUnit
          (keepingIn "/build/classes")).2.node? ["build", "classes"]).isSome = true := by
  have htree : workshop.files.IsTree := by decide
  obtain ⟨hkept, hgone⟩ :=
    compileOn_grows workshopJavac workshop workshopUnit (keepingIn "/build/classes") htree
  refine ⟨htree, hkept, _, rfl, rfl, ?_, by decide +kernel⟩
  simpa using (hgone ["tmp", "javalint-k3v"] _ rfl rfl).1 []

/-- Class files that are kept in the temporary directory stay there. -/
theorem not_forall_temporary_unchanged : ¬ ∀ (javac : Javac) (m : Machine) (unit : SourceUnit)
    (options : CompileOptions), m.files.IsTree → ∀ below : List String,
      let temporary := leadsTo m.directory (Path.ofString m.freshDirectory).parent.toString
      (javac.compileOn m unit options).2.node? (temporary ++ below) =
        m.files.node? (temporary ++ below) := by
  intro h
  have hsame := h workshopJavac workshop workshopUnit (keepingIn "/tmp/classes") (by decide)
    ["classes"]
  exact absurd (congrArg Option.isSome hsame) (by decide +kernel)

end Javac

end LintDaemon
