import LintDaemon.Proofs.Toolchain.Runs
import LintDaemon.Toolchain.Location

/-!
# Paths in and outside the directory of the sources

The compiler program is looked for, and the directory for class files is made, from the directory in
which the daemon was started. The program is started, and reads its arguments, in the directory of
the sources. A path means the same there exactly if it has a root, or climbs far enough.

* `Machine.isFound_locateJavac`: what is found is no directory and may be run.
* `Machine.program_eq_programAt`: a path with a slash is tried and no other.
* `Javac.Preparation.PathMeanings`: when the program and the directory for class files mean the same
  to the program as to the daemon.
-/

namespace LintDaemon

open LintDaemon.Text

/-! ## What is found -/

namespace FileSystem

variable {fs : FileSystem} {directory : Place} {path : String}

/-- A path is a file that may be run where the question is answered with yes. -/
theorem locate_of_isExecutable (h : fs.isExecutable directory path = .ok true) :
    ∃ place content program,
      fs.locate directory path = .ok (place, .file content true program) := by
  unfold isExecutable at h
  cases hquery : fs.query directory path with
  | error e =>
    rw [hquery] at h
    cases h
  | ok found =>
    rw [hquery] at h
    have hfound : fs.find? directory path = found := by rw [find?, hquery]
    match found with
    | none => cases h
    | some .directory => cases h
    | some (.socket _) => cases h
    | some (.file content executable program) =>
      cases h
      obtain ⟨place, hlocate⟩ := locate_of_find? hfound
      exact ⟨place, content, program, hlocate⟩

end FileSystem

namespace Machine

variable {m : Machine} {timeout : Binary64} {home : Option String} {javac : Javac} {path : Path}

/-- A path to something that may be run and is no directory. -/
def IsFound (m : Machine) (path : Path) : Prop :=
  path.IsLowest ∧ ∃ place node, m.files.locate m.directory path.toString = .ok (place, node) ∧
    node.mayRun = true ∧ node.isDirectory = false

/-- A path in lowest form that begins at a home directory leads to one in lowest form. -/
theorem isLowest_expandHome {expanded : Path} (hp : path.IsLowest)
    (h : m.expandHome path = .ok expanded) : expanded.IsLowest := by
  unfold expandHome at h
  split at h
  · next part rest hroot hparts =>
    have hrest : ∀ other ∈ rest, other ∈ path.parts := fun other hother =>
      hparts ▸ List.mem_cons_of_mem part hother
    split_ifs at h
    · split at h
      · next home _ =>
        cases h
        have hhome := Path.isLowest_ofString home
        exact
          { root_mem := hhome.root_mem
            part_ne_empty := fun other hother => (List.mem_append.mp hother).elim
              (hhome.part_ne_empty other) fun h => hp.part_ne_empty other (hrest other h)
            no_slash := fun other hother => (List.mem_append.mp hother).elim
              (hhome.no_slash other) fun h => hp.no_slash other (hrest other h) }
      · cases h
    · cases h
      exact hp
  · cases h
    exact hp

/-- The program of an installation at a path in lowest form is found where it may be run. -/
theorem isFound_programOf {home : Path} (hhome : home.IsLowest)
    (h : m.isExecutable (programOf home) = .ok true) : m.IsFound (programOf home) := by
  obtain ⟨place, content, program, hlocate⟩ := FileSystem.locate_of_isExecutable h
  exact ⟨hhome.join (by decide), place, _, hlocate, rfl, rfl⟩

/-- The program in a searched directory is found. -/
theorem isFound_searchJavac? (h : m.searchJavac? = some path) : m.IsFound path := by
  obtain ⟨text, hfind, rfl⟩ := Option.map_eq_some_iff.mp h
  have hcandidate := List.find?_some hfind
  refine ⟨Path.isLowest_ofString text, ?_⟩
  unfold isCandidate at hcandidate
  split at hcandidate
  · next node hnode =>
    obtain ⟨hmayRun, hdirectory⟩ := Bool.and_eq_true_iff.mp hcandidate
    obtain ⟨place, hlocate⟩ := FileSystem.locate_of_find? hnode
    exact ⟨place, node, FileSystem.locate_ofString hlocate, hmayRun,
      by simpa using hdirectory⟩
  · cases hcandidate

/-- The compiler program of the default installation is found. -/
theorem isFound_defaultJavac (h : m.defaultJavac = .ok path) : m.IsFound path := by
  unfold defaultJavac at h
  dsimp only at h
  split at h
  · cases h
  · next hnamed =>
    cases h
    split_ifs at hnamed
    · cases hnamed
    · exact isFound_programOf (Path.isLowest_ofString _) hnamed
  · split at h
    · next found hsearch =>
      cases h
      exact isFound_searchJavac? hsearch
    · cases h

/-- The compiler program of a named installation is found. -/
theorem isFound_namedJavac {name : String} (h : m.namedJavac name = .ok path) :
    m.IsFound path := by
  unfold namedJavac at h
  split at h
  · cases h
  · cases h
  · next expanded hexpanded =>
    split at h
    · cases h
    · next hexecutable =>
      cases h
      exact isFound_programOf (isLowest_expandHome (Path.isLowest_ofString name) hexpanded)
        hexecutable
    · cases h

/-- The compiler program that is located may be run, and is no directory. -/
theorem isFound_locateJavac (h : m.locateJavac timeout home = .ok javac) :
    m.IsFound javac.path := by
  have hpath : ∀ result : Except LocateError Path,
      (∀ path, result = .ok path → m.IsFound path) →
      result.map (⟨·, timeout⟩) = .ok javac → m.IsFound javac.path := by
    rintro (e | path) hfound hresult
    · cases hresult
    · cases hresult
      exact hfound path rfl
  unfold locateJavac at h
  split at h
  · exact hpath _ (fun _ => isFound_defaultJavac) h
  · exact hpath _ (fun _ => isFound_defaultJavac) h
  · exact hpath _ (fun _ => isFound_namedJavac) h

/-- A path with a root, and one of several parts, holds a slash. -/
theorem contains_slash (hp : path.IsLowest) (h : path.root ≠ "" ∨ 1 < path.parts.length) :
    path.toString.toList.contains '/' = true := by
  rw [List.contains_iff_mem]
  rcases h with hroot | hparts
  · have htext : path.toString = path.root ++ "/".intercalate path.parts :=
      if_neg fun h => hroot h.1
    have hmem : '/' ∈ path.root.toList := by
      have hroots := hp.root_mem
      simp only [List.mem_cons, List.not_mem_nil, or_false, hroot, false_or] at hroots
      rcases hroots with h | h <;> rw [h] <;> decide
    rw [htext, String.toList_append]
    exact List.mem_append_left _ hmem
  · obtain ⟨root, parts⟩ := path
    match parts, hparts with
    | first :: second :: rest, _ =>
      rw [Path.toList_toString (List.cons_ne_nil _ _), List.map_cons, List.map_cons,
        List.intercalate_cons_cons]
      simp

/-- A path without a root that climbs has several parts if it leads to no directory. -/
theorem one_lt_length_of_climbs (htree : m.files.IsTree) (hp : path.IsLowest)
    (hroot : path.root = "") (hup : ".." ∈ path.parts) {place : Place} {node : Node}
    (h : m.files.locate m.directory path.toString = .ok (place, node))
    (hnode : node.isDirectory = false) : 1 < path.parts.length := by
  by_contra hshort
  have hparts : path.parts = [".."] := by
    obtain ⟨part, hparts⟩ := List.length_eq_one_iff.mp
      (Nat.le_antisymm (Nat.not_lt.mp hshort) (List.length_pos_of_mem hup))
    rw [hparts] at hup ⊢
    rw [List.mem_singleton.mp hup]
  obtain ⟨hplace, hfile⟩ := FileSystem.locate_eq_ok_iff.mp h
  obtain ⟨-, hdirectory, hwalk⟩ := (FileSystem.placeOf_toString_eq_ok_iff hp).mp hplace
  rw [if_pos hroot] at hdirectory hwalk
  have hparent : place = m.directory.dropLast := by
    rw [(FileSystem.walk_eq_ok hwalk).1, hparts]
    rfl
  rw [hparent, htree.node?_dropLast hdirectory] at hfile
  cases hfile
  cases hnode

/-- A path with a slash is tried as it is, and no other path. -/
theorem program_eq_programAt (hslash : path.toString.toList.contains '/' = true)
    (directory : Place) (arguments : List String) :
    m.program directory path.toString arguments =
      if (path.toString :: arguments).any (maxArgumentBytes < ·.utf8ByteSize) then
        .error .argumentsTooLong
      else m.programAt directory path.toString := by
  unfold program candidates
  rw [if_pos hslash]
  split_ifs with hlong
  · rfl
  · unfold firstProgram
    cases m.programAt directory path.toString with
    | ok found => rfl
    | error e =>
      dsimp only [firstProgram]
      split_ifs <;> rfl

end Machine

/-! ## The directory of the sources -/

namespace Javac

open FileSystem

variable {m : Machine} {unit : SourceUnit} {options : CompileOptions} {javac : Javac}
  {timeout : Binary64} {home : Option String}

namespace Preparation

variable (p : Preparation m unit options)

/-- The directory in which the compiler program works was not there before. -/
theorem node?_directory_eq_none (htree : m.files.IsTree) :
    m.files.node? p.directory = none :=
  htree.node?_append (makeDirectory_work p.place_eq p.opened_eq).1 ["src"]

/-- It is not the directory in which the daemon was started. -/
theorem ne_directory (htree : m.files.IsTree)
    (hdirectory : m.files.node? m.directory = some .directory) : m.directory ≠ p.directory := by
  intro hsame
  rw [hsame, p.node?_directory_eq_none htree] at hdirectory
  cases hdirectory

/-- A path that the daemon finds is found by the compiler program, too, exactly if it keeps its
meaning. -/
theorem locate_eq_ok_iff (htree : m.files.IsTree) {path : Path} (hpath : path.IsLowest)
    {place : Place} {node : Node}
    (h : p.files.locate m.directory path.toString = .ok (place, node)) :
    p.files.locate p.directory path.toString = .ok (place, node) ↔
      p.files.KeepsMeaning m.directory p.directory path :=
  locate_eq_ok_iff_keepsMeaning hpath
    (FileSystem.locate_eq_ok_iff.mp (p.locate_sources htree)).2 h

/-- What the paths of a compilation mean in the directory of the sources. -/
structure PathMeanings (javac : Javac) : Prop where
  /-- The compilation comes to what the compiler program comes to, with these paths. -/
  runs : (javac.compileOn m unit options).1 =
    javac.runOn p.machine unit options (sourcesPath m) (sourcePath m p.parts) p.output
  /-- It works in the directory of the sources. -/
  works : p.files.locate m.directory (sourcesPath m).toString = .ok (p.directory, .directory)
  /-- Its path leads to what was found to be a program exactly if it keeps its meaning. -/
  compiler : ∃ place node, node.mayRun = true ∧ node.isDirectory = false ∧
    m.files.locate m.directory javac.path.toString = .ok (place, node) ∧
      (p.files.locate p.directory javac.path.toString = .ok (place, node) ↔
        p.files.KeepsMeaning m.directory p.directory javac.path)
  /-- If it keeps its meaning, what is started is what would be started from outside. -/
  started : p.files.KeepsMeaning m.directory p.directory javac.path → ∀ arguments,
    p.machine.program p.directory javac.path.toString arguments =
      m.program m.directory javac.path.toString arguments
  /-- The path for class files that are kept leads to the directory that was made for them exactly
  if it keeps its meaning. -/
  kept : ∀ text, options.retain = true → options.outputDirectory = some (Path.ofString text) →
    p.output = Path.ofString text ∧
      ∃ place, p.files.locate m.directory p.output.toString = .ok (place, .directory) ∧
        (p.files.locate p.directory p.output.toString = .ok (place, .directory) ↔
          p.files.KeepsMeaning m.directory p.directory p.output)
  /-- Only paths with a root and paths that climb keep their meaning. -/
  climbs : ∀ path, p.files.KeepsMeaning m.directory p.directory path →
    path.root ≠ "" ∨ ".." ∈ path.parts

/-- **A path of a compilation means the same to the compiler program as to the daemon exactly if it
has a root, or climbs far enough**: the path of the program itself, with which it is started, and
that of the directory for class files. -/
theorem pathMeanings (htree : m.files.IsTree)
    (hdirectory : m.files.node? m.directory = some .directory)
    (hjavac : m.locateJavac timeout home = .ok javac) : p.PathMeanings javac := by
  obtain ⟨hlowest, place, node, hlocate, hmayRun, hnode⟩ := Machine.isFound_locateJavac hjavac
  have hfound : p.files.locate m.directory javac.path.toString = .ok (place, node) :=
    (p.grows htree).locate_eq_ok hlocate
  have hcompiler := p.locate_eq_ok_iff htree hlowest hfound
  have hne := p.ne_directory htree hdirectory
  refine ⟨p.compileOn_eq javac, p.locate_sources htree, ?_, ?_, ?_, fun _ h => h.climbs hne⟩
  · exact ⟨place, node, hmayRun, hnode, hlocate, hcompiler⟩
  · intro hkeeps arguments
    have hlength : javac.path.root ≠ "" ∨ 1 < javac.path.parts.length :=
      or_iff_not_imp_left.mpr fun hroot => Machine.one_lt_length_of_climbs htree hlowest
        (not_not.mp hroot) ((hkeeps.climbs hne).resolve_left hroot) hlocate hnode
    have hslash := Machine.contains_slash hlowest hlength
    have hchild : p.machine.files.locate p.directory javac.path.toString =
        .ok (place, node) := hcompiler.mpr hkeeps
    rw [Machine.program_eq_programAt hslash, Machine.program_eq_programAt hslash,
      Machine.programAt, Machine.programAt, hchild, hlocate]
  · intro text hretain htext
    have houtput : p.output = Path.ofString text := by
      rw [output, outputPath, if_pos hretain, htext, Option.getD_some]
    have hmade := makeDirectories_eq_ok p.files_eq
    have hpath : p.output.IsLowest := houtput ▸ Path.isLowest_ofString text
    exact ⟨houtput, _, hmade, p.locate_eq_ok_iff htree hpath hmade⟩

end Preparation

/-- A machine with an installation below the directory in which the daemon was started. -/
def localWorkshop : Machine :=
  { workshop with
    directory := ["srv"]
    files := ⟨[(["tmp"], .directory), (["srv"], .directory), (["srv", "jdk"], .directory),
      (["srv", "jdk", "bin"], .directory),
      (["srv", "jdk", "bin", "javac"], .file [] true (some fun _ => ⟨[], [], 0⟩))]⟩ }

/-- On that machine all is prepared for a class. -/
theorem nonempty_preparation_localWorkshop :
    Nonempty (Preparation localWorkshop workshopUnit (.ofClasspath "")) := by
  refine (compileOn_cases workshopJavac _ _ _).resolve_left fun ⟨e, he, _⟩ => ?_
  have hlog : (workshopJavac.compileOn localWorkshop workshopUnit
      (.ofClasspath "")).1.log.isEmpty = true := by
    rw [he]
    rfl
  exact absurd hlog (by decide +kernel)

/-- The full path of the installation keeps its meaning. -/
theorem pathMeanings_localWorkshop :
    localWorkshop.files.IsTree ∧ localWorkshop.files.node? localWorkshop.directory =
        some .directory ∧
      localWorkshop.locateJavac (.ofNat 60) (some "/srv/jdk") =
        .ok ⟨Path.ofString "/srv/jdk/bin/javac", .ofNat 60⟩ ∧
      ∃ p : Preparation localWorkshop workshopUnit (.ofClasspath ""),
        p.PathMeanings ⟨Path.ofString "/srv/jdk/bin/javac", .ofNat 60⟩ ∧
          p.files.KeepsMeaning localWorkshop.directory p.directory
            (Path.ofString "/srv/jdk/bin/javac") := by
  have htree : localWorkshop.files.IsTree := by decide
  have hjavac : localWorkshop.locateJavac (.ofNat 60) (some "/srv/jdk") =
      .ok ⟨Path.ofString "/srv/jdk/bin/javac", .ofNat 60⟩ := by decide +kernel
  obtain ⟨p⟩ := nonempty_preparation_localWorkshop
  exact ⟨htree, rfl, hjavac, p, p.pathMeanings htree rfl hjavac, Or.inl (by decide)⟩

/-- The same installation, by its path from the directory in which the daemon was started, is
found and yet not found again. -/
theorem not_forall_sameFile : ¬ ∀ (m : Machine) (timeout : Binary64) (home : Option String)
    (javac : Javac) (unit : SourceUnit) (options : CompileOptions)
    (p : Preparation m unit options), m.files.IsTree →
      m.files.node? m.directory = some .directory → m.locateJavac timeout home = .ok javac →
      ∃ found, m.files.locate m.directory javac.path.toString = .ok found ∧
        p.files.locate p.directory javac.path.toString = .ok found := by
  intro h
  have htree : localWorkshop.files.IsTree := by decide
  have hjavac : localWorkshop.locateJavac (.ofNat 60) (some "jdk") =
      .ok ⟨Path.ofString "jdk/bin/javac", .ofNat 60⟩ := by decide +kernel
  obtain ⟨p⟩ := nonempty_preparation_localWorkshop
  obtain ⟨⟨place, node⟩, hhere, hthere⟩ := h _ _ _ _ _ _ p htree rfl hjavac
  have hkeeps := (p.locate_eq_ok_iff htree (Path.isLowest_ofString _)
    ((p.grows htree).locate_eq_ok hhere)).mp hthere
  rcases hkeeps.climbs (p.ne_directory htree rfl) with hroot | hup
  · exact hroot (by decide)
  · exact absurd hup (by decide)

end Javac

end LintDaemon
