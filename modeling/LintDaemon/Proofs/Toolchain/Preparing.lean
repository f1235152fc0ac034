import LintDaemon.Proofs.Host.Making
import LintDaemon.Proofs.Toolchain.UnitPaths

/-!
# What can be prepared

A compilation is prepared if its work directory can be made, the path of its source is not too long,
and a directory for class files that are kept can be made beside it.

* `Javac.IsAccepted`: what the files must allow, said of the files as they are before.
* `Javac.nonempty_preparation_iff`: then and only then all is prepared.
* `Javac.Preparation.locate_source`: the source is there when all is prepared.
* `Javac.Preparation.command_noNul_iff`: which commands can be told to the operating system.
-/

namespace LintDaemon

open LintDaemon.Text

namespace Javac

open FileSystem

variable {m : Machine} {unit : SourceUnit} {options : CompileOptions} {work : Place}
  {files : FileSystem} {parts : List String}

/-- What the files must allow for a source at these parts to be compiled. -/
structure IsAccepted (m : Machine) (options : CompileOptions) (parts : List String) : Prop where
  /-- The work directory can be made. -/
  work : ∃ files, m.files.makeDirectory m.directory m.freshDirectory = .ok files
  /-- The path of the source is not too long. -/
  short : (sourcePath m parts).toString.utf8ByteSize < pathByteLimit
  /-- Neither is one of its parts. -/
  parts_short : ∀ part ∈ parts, part.utf8ByteSize ≤ maxPartBytes
  /-- A directory for class files that are kept can be made, and the source is not in its way. -/
  output : options.retain = true → ∃ output, options.outputDirectory = some output ∧
    holdsNul output.toString = false ∧ m.files.CanMake m.directory output ∧
      ∀ above : Path, above.IsAtOrAbove output →
        leadsTo m.directory above.toString ≠ leadsTo m.directory (sourcePath m parts).toString

/-! ## Paths in the work directory -/

/-- The parts of the path of the work directory are short. -/
theorem short_of_mem_work (hplace : m.files.placeOf m.directory m.freshDirectory = .ok work) :
    ∀ part ∈ (Path.ofString m.freshDirectory).parts, part.utf8ByteSize ≤ maxPartBytes := by
  obtain ⟨-, -, hwalk⟩ := placeOf_eq_ok_iff.mp hplace
  intro part hpart
  obtain ⟨field, hfield, rfl⟩ := List.mem_map.mp hpart
  apply short_of_walk_eq_ok hwalk
  exact List.mem_map_of_mem (List.mem_filter.mp hfield).1

/-- Paths in a work directory without the character that no path may hold do not hold it. -/
theorem holdsNul_join (hfresh : holdsNul m.freshDirectory = false)
    (hplain : ∀ part ∈ parts, Path.IsPlainPart part)
    (hparts : ∀ part ∈ parts, '\x00' ∉ part.toList) :
    holdsNul ((Path.ofString m.freshDirectory).join parts).toString = false := by
  rw [holdsNul, List.contains_eq_mem, decide_eq_false_iff_not] at hfresh ⊢
  intro hmem
  rcases Path.mem_toString_of_mem ((Path.isLowest_ofString _).join hplain) hmem with
    hslash | ⟨part, hpart, hnul⟩
  · exact absurd hslash (by decide)
  · rcases List.mem_append.mp hpart with hwork | hbelow
    · obtain ⟨field, hfield, rfl⟩ := List.mem_map.mp hwork
      rw [String.toList_ofList] at hnul
      exact hfresh ((sublist_of_mem_fields (List.mem_filter.mp hfield).1).subset hnul)
    · exact hparts part hbelow hnul

/-- The path of a source does not hold the character that no path may hold. -/
theorem holdsNul_sourcePath (hfresh : holdsNul m.freshDirectory = false)
    (hpath : unit.path? = some parts) : holdsNul (sourcePath m parts).toString = false := by
  rw [sourcePath_eq_join]
  apply holdsNul_join hfresh (isPlainPart_of_mem_sources hpath)
  refine List.forall_mem_cons.mpr ⟨by decide, fun part hpart => ?_⟩
  obtain ⟨charParts, hchars, rfl⟩ := Option.map_eq_some_iff.mp hpath
  obtain ⟨chars, hmem, rfl⟩ := List.mem_map.mp hpart
  rw [String.toList_ofList]
  exact not_mem_of_mem_pathParts? hchars hmem (by decide) (by decide)

/-- The directory of a source is that of the sources, or below it. -/
theorem sourcePath_parent (m : Machine) (parts : List String) :
    (sourcePath m parts).parent =
      (Path.ofString m.freshDirectory).join ("src" :: parts).dropLast := by
  rw [sourcePath_eq_join, Path.parent, Path.join, Path.join,
    List.dropLast_append_of_ne_nil (List.cons_ne_nil _ _)]

/-- A source is put below the directory of the sources. -/
theorem leadsTo_sourcePath (hplace : m.files.placeOf m.directory m.freshDirectory = .ok work)
    (hpath : unit.path? = some parts) :
    leadsTo m.directory (sourcePath m parts).toString = work ++ "src" :: parts := by
  rw [sourcePath_eq_join, leadsTo_work_join hplace (isPlainPart_of_mem_sources hpath)]

section Work

variable (hplace : m.files.placeOf m.directory m.freshDirectory = .ok work)
  (hmade : m.files.makeDirectory m.directory m.freshDirectory = .ok files)

include hplace hmade

/-- Nothing is below the work directory when it has been made. -/
theorem node?_below_work (htree : m.files.IsTree) {below : List String} (hne : below ≠ []) :
    files.node? (work ++ below) = none := by
  obtain ⟨hnone, rfl⟩ := makeDirectory_work hplace hmade
  rw [node?_insert (ne_nil_of_node?_eq_none hnone), if_neg (by simpa using hne)]
  exact htree.node?_append hnone below

/-- When the work directory has been made, there is only the directory itself. -/
theorem eq_directory_of_node?_work (htree : m.files.IsTree) {below : List String} {node : Node}
    (hnode : files.node? (work ++ below) = some node) : node = .directory := by
  by_cases hnil : below = []
  · obtain ⟨hnone, rfl⟩ := makeDirectory_work hplace hmade
    rw [hnil, List.append_nil, node?_insert (ne_nil_of_node?_eq_none hnone),
      if_pos rfl] at hnode
    exact (Option.some.inj hnode).symm
  · cases (node?_below_work hplace hmade htree hnil).symm.trans hnode

/-- A directory can be made in the work directory where the path is short and meets no file on the
way from there. -/
theorem canMake_join {Added : Place → Node → Prop} {now : FileSystem} (hnow : Grows Added files now)
    (hplain : ∀ part ∈ parts, Path.IsPlainPart part)
    (hshort : ((Path.ofString m.freshDirectory).join parts).toString.utf8ByteSize < pathByteLimit)
    (hparts : ∀ part ∈ parts, part.utf8ByteSize ≤ maxPartBytes)
    (hclear : ∀ first, first <+: parts → ∀ node, now.node? (work ++ first) = some node →
      node = .directory) :
    now.CanMake m.directory ((Path.ofString m.freshDirectory).join parts) where
  short := hshort
  parts_short part hpart := (List.mem_append.mp hpart).elim (short_of_mem_work hplace part)
    (hparts part)
  clear above habove node hnode := by
    rcases Path.isAtOrAbove_join habove with hwork | ⟨first, hfirst, rfl⟩
    · have hthere := hnow.node?_eq_some (node?_atOrAbove_work hplace hmade hwork)
      exact Option.some.inj (hnode.symm.trans hthere)
    · rw [leadsTo_work_join hplace fun part hpart => hplain part (hfirst.subset hpart)] at hnode
      exact hclear first hfirst node hnode

variable (htree : m.files.IsTree) (hpath : unit.path? = some parts)

include htree hpath

/-- Where the source is to go, nothing is when the directories for it have been made. -/
theorem node?_source_eq_none {housed : FileSystem}
    (hhoused : files.makeDirectories m.directory (sourcePath m parts).parent = (housed, .ok ())) :
    housed.node? (work ++ "src" :: parts) = none := by
  have hgrows := makeDirectories_grows files m.directory (sourcePath m parts).parent
  rw [hhoused] at hgrows
  rcases hgrows (work ++ "src" :: parts) with hsame | ⟨hnone, node, -, hdirectory⟩
  · exact hsame.trans (node?_below_work hplace hmade htree (List.cons_ne_nil _ _))
  · -- the directories that are made have fewer parts
    rw [sourcePath_parent] at hdirectory
    obtain ⟨-, first, hfirst, hsame⟩ := exists_isPrefix_of_join hplace hmade
      (fun part hpart => isPlainPart_of_mem_sources hpath part (List.dropLast_subset _ hpart))
      hnone hdirectory
    have hlength := hfirst.length_le
    rw [← List.append_cancel_left hsame, List.length_dropLast] at hlength
    simp at hlength

/-- A short path of a source can be written. -/
theorem exists_written (hdirectory : m.files.node? m.directory = some .directory)
    (hfresh : holdsNul m.freshDirectory = false)
    (hshort : (sourcePath m parts).toString.utf8ByteSize < pathByteLimit)
    (hparts : ∀ part ∈ parts, part.utf8ByteSize ≤ maxPartBytes) (content : List UInt8) :
    ∃ housed written,
      files.makeDirectories m.directory (sourcePath m parts).parent = (housed, .ok ()) ∧
      housed.write m.directory (sourcePath m parts).toString content = .ok written ∧
      written.node? (work ++ "src" :: parts) = some (.file content false none) := by
  have hplain := isPlainPart_of_mem_sources hpath
  have hlowest := isLowest_sourcePath m hpath
  have hsourceParts : ∀ part ∈ "src" :: parts, part.utf8ByteSize ≤ maxPartBytes :=
    List.forall_mem_cons.mpr ⟨by decide, hparts⟩
  have hgrows : Grows (IsMade m unit (.ofClasspath "") work) m.files files :=
    opened_grows hplace hmade
  have hopened := hgrows.node?_eq_some hdirectory
  have habove := Path.isAtOrAbove_parent (sourcePath m parts)
  have hhoused : files.CanMake m.directory (sourcePath m parts).parent := by
    have hparentShort := habove.utf8ByteSize_lt hlowest hshort
    rw [sourcePath_parent] at hparentShort ⊢
    apply canMake_join hplace hmade (Grows.refl (fun _ _ => True) files) _ hparentShort
    · intro part hpart
      exact hsourceParts part (List.dropLast_subset _ hpart)
    · intro first _ node hnode
      exact eq_directory_of_node?_work hplace hmade htree hnode
    · intro part hpart
      exact hplain part (List.dropLast_subset _ hpart)
  have hnul := holdsNul_parent hlowest (holdsNul_sourcePath hfresh hpath)
  obtain ⟨housed, hmakes⟩ :=
    (makeDirectories_eq_ok_iff (hlowest.of_isAtOrAbove habove) hopened hnul).mpr hhoused
  have hleads := leadsTo_sourcePath hplace hpath
  have hsourceNone := node?_source_eq_none hplace hmade htree hpath hmakes
  have hfound : housed.placeOf m.directory (sourcePath m parts).toString =
      .ok (work ++ "src" :: parts) := by
    rw [← hleads]
    apply placeOf_of_parent hlowest hshort _ (makeDirectories_eq_ok hmakes)
    intro part hpart
    rw [sourcePath_eq_join] at hpart
    exact (List.mem_append.mp hpart).elim (short_of_mem_work hplace part) (hsourceParts part)
  refine ⟨housed, _, hmakes, write_eq_insert hfound hsourceNone, ?_⟩
  rw [node?_insert (ne_nil_of_node?_eq_none hsourceNone), if_pos rfl]

end Work

/-! ## Directories for class files -/

/-- What a compilation makes are directories and the source. -/
theorem IsMade.cases {place : Place} {node : Node} (h : IsMade m unit options work place node)
    (hpath : unit.path? = some parts) :
    node = .directory ∨
      place = work ++ "src" :: parts ∧ node = .file (Utf8.encode unit.body.toList) false none := by
  rcases h with below | ⟨others, hothers, -⟩ | ⟨-, -, output, -, hdirectory, -⟩
  · exact Or.inl rfl
  · obtain rfl := Option.some.inj (hothers.symm.trans hpath)
    exact Or.inr ⟨rfl, rfl⟩
  · exact Or.inl hdirectory

/-- When the source has been written, a directory can be made where it could be made before, but
not where the source is in the way. -/
theorem canMake_written_iff {written : FileSystem} {output : Path}
    (hgrows : Grows (IsMade m unit options work) m.files written)
    (hpath : unit.path? = some parts)
    (hsource : written.node? (work ++ "src" :: parts) =
      some (.file (Utf8.encode unit.body.toList) false none)) :
    written.CanMake m.directory output ↔ m.files.CanMake m.directory output ∧
      ∀ above : Path, above.IsAtOrAbove output →
        leadsTo m.directory above.toString ≠ work ++ "src" :: parts := by
  constructor
  · intro h
    refine ⟨⟨h.short, h.parts_short, ?_⟩, ?_⟩
    · intro above habove node hnode
      exact h.clear above habove node (hgrows.node?_eq_some hnode)
    · intro above habove hsame
      rw [← hsame] at hsource
      cases h.clear above habove _ hsource
  · rintro ⟨h, hother⟩
    refine ⟨h.short, h.parts_short, fun above habove node hnode => ?_⟩
    rcases hgrows (leadsTo m.directory above.toString) with hsame | ⟨-, added, hadded, hmade⟩
    · exact h.clear above habove node (hsame.symm.trans hnode)
    · obtain rfl := Option.some.inj (hnode.symm.trans hadded)
      exact (hmade.cases hpath).resolve_right fun hat => hother above habove hat.1

/-- The path for class files that are not kept is not longer than that of a source. -/
theorem classes_short (hpath : unit.path? = some parts)
    (hshort : (sourcePath m parts).toString.utf8ByteSize < pathByteLimit) :
    ((Path.ofString m.freshDirectory).child "classes").toString.utf8ByteSize < pathByteLimit := by
  obtain ⟨stem, hstem⟩ := Path.exists_toString_join (Path.ofString m.freshDirectory)
  have hclasses : ((Path.ofString m.freshDirectory).child "classes").toString =
      stem ++ "classes" := by
    simpa [Path.child, Path.join] using hstem ["classes"] (List.cons_ne_nil _ _)
  -- behind the directory of the sources stands at least the suffix of the source
  obtain ⟨directories, file, hparts, -⟩ := (isSourcePath_of_path? hpath).identifiers
  obtain ⟨above, habove⟩ := Path.exists_intercalate_append directories
  obtain ⟨next, more, hcons⟩ := List.exists_cons_of_ne_nil (ne_nil_of_path? hpath)
  have hsource : (sourcePath m parts).toString =
      stem ++ ("src" ++ "/" ++ (above ++ (file ++ ".java"))) := by
    rw [sourcePath_eq_join, hstem _ (List.cons_ne_nil _ _), hcons, String.intercalate_cons_cons,
      ← hcons, hparts, habove _ (List.cons_ne_nil _ _), String.intercalate_singleton]
  rw [hsource] at hshort
  rw [hclasses]
  simp only [String.utf8ByteSize_append] at hshort ⊢
  have hsrc : "src".utf8ByteSize = 3 := by decide
  have hsuffix : ".java".utf8ByteSize = 5 := by decide
  have hname : "classes".utf8ByteSize = 7 := by decide
  omega

/-- Class files that are not kept always find a directory. -/
theorem canMake_classes (hplace : m.files.placeOf m.directory m.freshDirectory = .ok work)
    (hmade : m.files.makeDirectory m.directory m.freshDirectory = .ok files)
    (htree : m.files.IsTree) (hpath : unit.path? = some parts)
    (hshort : (sourcePath m parts).toString.utf8ByteSize < pathByteLimit) {written : FileSystem}
    (hgrows : Grows (IsMade m unit options work) files written) :
    written.CanMake m.directory ((Path.ofString m.freshDirectory).child "classes") := by
  apply canMake_join hplace hmade hgrows (by decide) (classes_short hpath hshort) (by decide)
  intro first hfirst node hnode
  rcases hgrows (work ++ first) with hsame | ⟨-, added, hadded, hmadeThere⟩
  · exact eq_directory_of_node?_work hplace hmade htree (hsame.symm.trans hnode)
  · obtain rfl := Option.some.inj (hnode.symm.trans hadded)
    refine (hmadeThere.cases hpath).resolve_right fun hat => ?_
    -- the source begins at another part
    rw [List.append_cancel_left hat.1] at hfirst
    exact absurd (List.cons_prefix_cons.mp hfirst).1 (by decide)

/-! ## What is accepted -/

namespace Preparation

variable (p : Preparation m unit options)

/-- The source has been written where nothing was. -/
theorem written_eq_insert (htree : m.files.IsTree) :
    p.housed.placeOf m.directory (sourcePath m p.parts).toString =
        .ok (p.work ++ "src" :: p.parts) ∧
      p.housed.node? (p.work ++ "src" :: p.parts) = none ∧
      p.written = p.housed.insert (p.work ++ "src" :: p.parts)
        (.file (Utf8.encode unit.body.toList) false none) := by
  have hnone := node?_source_eq_none p.place_eq p.opened_eq htree p.path_eq p.housed_eq
  obtain ⟨place, hplace⟩ := placeOf_of_write p.written_eq
  obtain rfl : place = p.work ++ "src" :: p.parts :=
    (placeOf_eq_ok hplace).1.trans (leadsTo_sourcePath p.place_eq p.path_eq)
  refine ⟨hplace, hnone, ?_⟩
  exact Except.ok.inj (p.written_eq.symm.trans (write_eq_insert hplace hnone))

/-- The source is there when it has been written. -/
theorem locate_written (htree : m.files.IsTree) :
    p.written.locate m.directory (sourcePath m p.parts).toString =
      .ok (p.work ++ "src" :: p.parts, .file (Utf8.encode unit.body.toList) false none) := by
  obtain ⟨hplace, hnone, hwritten⟩ := p.written_eq_insert htree
  have hgrows : Grows (fun _ _ => True) p.housed p.written := by
    rw [hwritten]
    exact grows_insert hnone trivial
  refine locate_eq_ok_iff.mpr ⟨hgrows.placeOf_eq_ok hplace, ?_⟩
  rw [hwritten, node?_insert (ne_nil_of_node?_eq_none hnone), if_pos rfl]

/-- The source is there when all is prepared: it is what the unit holds, in the encoding that the
program is told. -/
theorem locate_source (htree : m.files.IsTree) :
    p.files.locate m.directory (sourcePath m p.parts).toString =
      .ok (p.work ++ "src" :: p.parts, .file (Utf8.encode unit.body.toList) false none) := by
  have hgrows := makeDirectories_grows p.written m.directory
    (outputPath options (Path.ofString m.freshDirectory))
  rw [p.files_eq] at hgrows
  exact hgrows.locate_eq_ok (p.locate_written htree)

/-- A command can be told to the operating system exactly if the path of the program and the class
path can. -/
theorem command_noNul_iff (hfresh : holdsNul m.freshDirectory = false) (javac : Javac) :
    (p.command javac).any holdsNul = false ↔
      holdsNul javac.path.toString = false ∧ holdsNul options.classpath = false := by
  have hsource := holdsNul_sourcePath hfresh p.path_eq
  have houtput : holdsNul p.output.toString = false := p.output_noNul
  have hflags : ∀ flag ∈ ["-J-Duser.language=en", "-encoding", "UTF-8", "-cp", "-d"],
      holdsNul flag = false := by decide
  simp only [List.forall_mem_cons] at hflags
  simp [command, arguments, CompileOptions.arguments, hsource, houtput, hflags]

/-- What has been prepared was accepted. -/
theorem isAccepted (htree : m.files.IsTree)
    (hdirectory : m.files.node? m.directory = some .directory)
    (hlowest : ∀ output, options.outputDirectory = some output → output.IsLowest) :
    IsAccepted m options p.parts := by
  obtain ⟨hplace, hsource⟩ := locate_eq_ok_iff.mp (p.locate_written htree)
  obtain ⟨hshort, -, hwalk⟩ :=
    (placeOf_toString_eq_ok_iff (isLowest_sourcePath m p.path_eq)).mp hplace
  refine ⟨⟨p.opened, p.opened_eq⟩, hshort, ?_, ?_⟩
  · intro part hpart
    apply short_of_walk_eq_ok hwalk
    rw [sourcePath_eq_join]
    exact List.mem_append_right _ (List.mem_cons_of_mem _ hpart)
  · intro hretain
    cases houtput : options.outputDirectory with
    | none => exact absurd ⟨hretain, by simp [houtput]⟩ p.hasOutput
    | some output =>
      have hpath : outputPath options (Path.ofString m.freshDirectory) = output := by
        simp [outputPath, hretain, houtput]
      have hnul := p.output_noNul
      have hmade := p.files_eq
      rw [hpath] at hnul hmade
      have hwritten := (opened_grows p.place_eq p.opened_eq).trans (p.opened_grows_written htree)
      have hcan := (makeDirectories_eq_ok_iff (hlowest output houtput)
        (hwritten.node?_eq_some hdirectory) hnul).mp ⟨_, hmade⟩
      rw [leadsTo_sourcePath p.place_eq p.path_eq]
      exact ⟨output, rfl, hnul, (canMake_written_iff hwritten p.path_eq hsource).mp hcan⟩

end Preparation

/-- The path for class files is in lowest form. -/
theorem isLowest_outputPath
    (hlowest : ∀ output, options.outputDirectory = some output → output.IsLowest) :
    (outputPath options (Path.ofString m.freshDirectory)).IsLowest := by
  unfold outputPath
  split_ifs
  · cases houtput : options.outputDirectory with
    | none => exact Path.isLowest_ofString _
    | some output => exact hlowest output houtput
  · exact (Path.isLowest_ofString _).join (by decide : ∀ part ∈ ["classes"], Path.IsPlainPart part)

/-- Where a source is accepted, the directory for class files can be made beside it. -/
theorem IsAccepted.canMake_outputPath (h : IsAccepted m options parts)
    (hplace : m.files.placeOf m.directory m.freshDirectory = .ok work)
    (hmade : m.files.makeDirectory m.directory m.freshDirectory = .ok files)
    (htree : m.files.IsTree) (hfresh : holdsNul m.freshDirectory = false)
    (hpath : unit.path? = some parts) {written : FileSystem}
    (hgrows : Grows (IsMade m unit options work) files written)
    (hsource : written.node? (work ++ "src" :: parts) =
      some (.file (Utf8.encode unit.body.toList) false none)) :
    holdsNul (outputPath options (Path.ofString m.freshDirectory)).toString = false ∧
      written.CanMake m.directory (outputPath options (Path.ofString m.freshDirectory)) := by
  unfold outputPath
  split_ifs with hretain
  · obtain ⟨output, houtput, hnul, hcan, hother⟩ := h.output hretain
    rw [houtput, Option.getD_some]
    rw [leadsTo_sourcePath hplace hpath] at hother
    have hwritten := (opened_grows hplace hmade).trans hgrows
    exact ⟨hnul, (canMake_written_iff hwritten hpath hsource).mpr ⟨hcan, hother⟩⟩
  · refine ⟨?_, canMake_classes hplace hmade htree hpath h.short hgrows⟩
    have hclasses : (Path.ofString m.freshDirectory).child "classes" =
        (Path.ofString m.freshDirectory).join ["classes"] := rfl
    rw [hclasses]
    exact holdsNul_join hfresh (by decide) (by decide)

/-- **All is prepared for a compilation exactly if the files allow it**, as they are before: the
work directory and, where class files are kept, their directory can be made, and no path is too
long. -/
theorem nonempty_preparation_iff (htree : m.files.IsTree)
    (hdirectory : m.files.node? m.directory = some .directory)
    (hfresh : holdsNul m.freshDirectory = false)
    (hlowest : ∀ output, options.outputDirectory = some output → output.IsLowest) :
    Nonempty (Preparation m unit options) ↔
      ∃ parts, unit.path? = some parts ∧ IsAccepted m options parts := by
  constructor
  · rintro ⟨p⟩
    exact ⟨p.parts, p.path_eq, p.isAccepted htree hdirectory hlowest⟩
  · rintro ⟨parts, hpath, h⟩
    obtain ⟨opened, hmade⟩ := h.work
    obtain ⟨work, hplace, -, -⟩ := makeDirectory_eq_ok hmade
    obtain ⟨housed, written, hhoused, hwritten, hsource⟩ := exists_written hplace hmade htree hpath
      hdirectory hfresh h.short h.parts_short (Utf8.encode unit.body.toList)
    have hgrows : Grows (IsMade m unit options work) opened written := by
      apply source_grows hplace hmade hpath htree
      rw [hhoused]
      exact hwritten
    obtain ⟨hnul, hcan⟩ := h.canMake_outputPath hplace hmade htree hfresh hpath hgrows hsource
    have hnow := (opened_grows hplace hmade).trans hgrows
    obtain ⟨after, hafter⟩ := (makeDirectories_eq_ok_iff (isLowest_outputPath hlowest)
      (hnow.node?_eq_some hdirectory) hnul).mpr hcan
    have hasOutput : ¬ (options.retain = true ∧ options.outputDirectory.isNone = true) := by
      rintro ⟨hretain, hnone⟩
      obtain ⟨output, houtput, -⟩ := h.output hretain
      simp [houtput] at hnone
    exact ⟨⟨parts, work, opened, housed, written, after, hpath, hasOutput, hplace, hmade, hhoused,
      hwritten, hnul, hafter⟩⟩

/-! ## Long texts -/

/-- A text of as many letters. -/
def letters (count : Nat) : String :=
  String.ofList (List.replicate count 'a')

/-- It has as many bytes. -/
theorem utf8ByteSize_letters (count : Nat) : (letters count).utf8ByteSize = count := by
  rw [letters, String.utf8ByteSize_ofList]
  induction count with
  | zero => rfl
  | succ count ih =>
    have hletter : 'a'.utf8Size = 1 := by decide
    rw [List.replicate_succ, String.utf8Len_cons, ih, hletter]

/-- It can be told to the operating system. -/
theorem holdsNul_letters (count : Nat) : holdsNul (letters count) = false := by
  rw [holdsNul, letters, String.toList_ofList, List.contains_eq_mem, decide_eq_false_iff_not]
  intro hmem
  exact absurd (List.eq_of_mem_replicate hmem) (by decide)

end Javac

end LintDaemon
