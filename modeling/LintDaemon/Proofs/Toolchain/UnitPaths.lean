import LintDaemon.Proofs.Toolchain.Runs

/-!
# The paths that names of units stand for

A valid name of a unit stands for a path of identifiers, and nothing else stands for a path. Only
the suffix of source files may be written or left out; apart from it, different names stand for
different paths.

* `pathParts?_eq_iff`: two valid names with one path have one stem.
* `IsSourcePath`: what the path of a unit is made of.
* `Javac.result_ne_stated`: no file of a unit is ever found outside the directory of the sources.
* `SourceUnit.path?_safe_and_injective`: the names that have a path, what the path is, and which
  names share one.
-/

namespace LintDaemon

open LintDaemon.Text

/-! ## Names with one path -/

/-- A text is told by its fields. -/
theorem fields_inj {sep : Char} {s t : List Char} (h : fields sep s = fields sep t) : s = t := by
  rw [← intercalate_fields sep s, h, intercalate_fields]

/-- Parts are told by the path that is made of them. -/
theorem withSuffix_inj {parts others : List (List Char)}
    (h : withSuffix parts = withSuffix others) :
    parts = others := by
  have hconcat : ∀ (directories : List (List Char)) (file : List Char),
      withSuffix (directories ++ [file]) ≠ withSuffix [] := by
    intro directories file hnil
    rw [withSuffix_concat] at hnil
    exact absurd hnil (by simp [withSuffix])
  rcases List.eq_nil_or_concat parts with rfl | ⟨directories, file, rfl⟩
  · rcases List.eq_nil_or_concat others with rfl | ⟨otherDirectories, other, rfl⟩
    · rfl
    · rw [List.concat_eq_append] at h
      exact absurd h.symm (hconcat _ _)
  · rcases List.eq_nil_or_concat others with rfl | ⟨otherDirectories, other, rfl⟩
    · rw [List.concat_eq_append] at h
      exact absurd h (hconcat _ _)
    · rw [List.concat_eq_append, List.concat_eq_append, withSuffix_concat, withSuffix_concat] at h
      obtain ⟨hdirectories, hfile⟩ := List.append_inj' h rfl
      rw [hdirectories, List.append_cancel_right (List.singleton_inj.mp hfile)]

/-- Two valid names stand for one path exactly if they have one stem. -/
theorem pathParts?_eq_iff {name other : List Char} (hname : isUnitNameChars name = true)
    (hother : isUnitNameChars other = true) :
    pathParts? name = pathParts? other ↔ stemOf name = stemOf other := by
  rw [pathParts?_eq_some_iff.mpr ⟨hname, rfl⟩, pathParts?_eq_some_iff.mpr ⟨hother, rfl⟩,
    Option.some.injEq]
  constructor
  · intro h
    exact fields_inj (withSuffix_inj h)
  · intro h
    rw [h]

/-! ## What a path is made of -/

/-- Plain parts that are written as a path are read as these parts, and the path has no root. -/
theorem Path.ofString_intercalate {parts : List String} (hne : parts ≠ [])
    (hparts : ∀ part ∈ parts, IsPlainPart part) :
    Path.ofString ("/".intercalate parts) = ⟨"", parts⟩ := by
  have hfields : (fields '/' ("/".intercalate parts).toList).map String.ofList = parts :=
    fieldsOf_intercalate hne fun part hpart => (hparts part hpart).no_slash
  have hplain : ∀ field ∈ fields '/' ("/".intercalate parts).toList,
      field ≠ [] ∧ field ≠ ['.'] := by
    intro field hfield
    have hpart := (hparts _ (hfields ▸ List.mem_map_of_mem hfield)).names_below
    constructor
    · rintro rfl
      exact hpart (by decide)
    · rintro rfl
      exact hpart (by decide)
  have hroot : Path.rootOf ("/".intercalate parts).toList = "" := by
    rw [FileSystem.rootOf_eq_empty_iff]
    intro hslash
    obtain ⟨rest, hrest⟩ : ∃ rest, ("/".intercalate parts).toList = '/' :: rest :=
      List.head?_eq_some_iff.mp hslash
    rw [hrest] at hplain
    exact (hplain [] (by simp [fields])).1 rfl
  have hkept : Path.partsOf ("/".intercalate parts).toList = parts := by
    have hall : ∀ field ∈ fields '/' ("/".intercalate parts).toList,
        (!field.isEmpty && field != ['.']) = true := by
      intro field hfield
      simpa using hplain field hfield
    rw [Path.partsOf, List.filter_eq_self.mpr hall, hfields]
  rw [Path.ofString, hroot, hkept]

/-- The path of a source: identifiers, of which the last is that of the file, with the suffix of
source files. -/
structure IsSourcePath (parts : List String) : Prop where
  /-- Each part is an identifier, the last one with the suffix. -/
  identifiers : ∃ directories file, parts = directories ++ [file ++ ".java"] ∧
    ∀ part ∈ directories ++ [file], isIdentifier part.toList = true
  /-- Each part leads one step down. -/
  plain : ∀ part ∈ parts, Path.IsPlainPart part
  /-- The path has no root. -/
  relative : Path.ofString ("/".intercalate parts) = ⟨"", parts⟩

/-- The path of a unit is the path of a source. -/
theorem isSourcePath_of_path? {unit : SourceUnit} {parts : List String}
    (h : unit.path? = some parts) : IsSourcePath parts := by
  have hplain : ∀ part ∈ parts, Path.IsPlainPart part := fun part => isPlainPart_of_mem_path? h
  refine ⟨?_, hplain, Path.ofString_intercalate (ne_nil_of_path? h) hplain⟩
  obtain ⟨charParts, hparts, rfl⟩ := Option.map_eq_some_iff.mp h
  obtain ⟨hname, rfl⟩ := pathParts?_eq_some_iff.mp hparts
  have hidentifiers := isIdentifier_of_mem_stemOf hname
  obtain ⟨directories, file, hfields⟩ :=
    (List.eq_nil_or_concat (fields '.' (stemOf unit.name.toList))).resolve_left (fields_ne_nil _ _)
  rw [List.concat_eq_append] at hfields
  rw [hfields] at hidentifiers ⊢
  refine ⟨directories.map String.ofList, String.ofList file, ?_, ?_⟩
  · rw [withSuffix_concat]
    simp [sourceSuffix]
  · intro part hpart
    rw [← List.map_singleton, ← List.map_append] at hpart
    obtain ⟨chars, hchars, rfl⟩ := List.mem_map.mp hpart
    rw [String.toList_ofList]
    exact hidentifiers chars hchars

/-! ## The file of a unit among the sources -/

/-- What is read from a report is never a failure in words of its own. -/
theorem Javac.readReport_eq_error {report : List Char} {e : CompileError}
    (h : (Javac.readReport report).2 = .error e) : ∃ digits, e = .lineNumber digits := by
  have hread : (Javac.readReport report).2 =
      (Report.readChars report).result.mapError fun e => .lineNumber e.digits := rfl
  rw [hread] at h
  cases hresult : (Report.readChars report).result with
  | error long =>
    rw [hresult] at h
    cases h
    exact ⟨long.digits, rfl⟩
  | ok diagnostics =>
    rw [hresult] at h
    cases h

/-- No compilation finds the file of its unit outside the directory of the sources, or fails
otherwise in words of its own. -/
theorem Javac.result_ne_stated (javac : Javac) (m : Machine) (unit : SourceUnit)
    (options : CompileOptions) (kind : FailureKind) (text : String) :
    (javac.compileOn m unit options).1.result ≠ .error (.stated kind text) := by
  intro hstated
  rcases Javac.compileOn_cases javac m unit options with ⟨e, he, hrefuses⟩ | ⟨⟨p⟩⟩
  · rw [he] at hstated
    cases hstated
    cases hrefuses
  · rw [p.compileOn_eq] at hstated
    rcases Javac.runOn_cases javac p with ⟨e, -, he, hstops⟩ | ⟨c, rfl⟩
    · rw [he] at hstated
      cases hstated
      cases hstops
    · rw [c.runOn_eq] at hstated
      obtain ⟨digits, hdigits⟩ := Javac.readReport_eq_error hstated
      cases hdigits

/-! ## Names and paths -/

namespace SourceUnit

/-- The name of a unit without the suffix of source files, if it has that. -/
def stem (unit : SourceUnit) : String :=
  String.ofList (stemOf unit.name.toList)

/-- **The valid names stand for paths, and no others**; with or without the suffix of source files a
name is as valid. The path of a unit is made of identifiers and leads down only, so that no
compilation finds its file outside the directory of the sources. Two valid names stand for one path
exactly if they are the same without the suffix. -/
theorem path?_safe_and_injective (unit : SourceUnit) :
    (unit.path?.isSome = true ↔ isUnitName unit.name = true) ∧
      isUnitName unit.stem = isUnitName unit.name ∧
      (∀ parts, unit.path? = some parts → IsSourcePath parts) ∧
      (∀ (javac : Javac) (m : Machine) (options : CompileOptions),
        (javac.compileOn m unit options).1.result ≠
          .error (.stated .value (Javac.escapeMessage unit.name))) ∧
      ∀ other : SourceUnit, isUnitName unit.name = true → isUnitName other.name = true →
        (unit.path? = other.path? ↔ unit.stem = other.stem) := by
  refine ⟨?_, ?_, fun parts => isSourcePath_of_path?, ?_, ?_⟩
  · constructor
    · intro h
      obtain ⟨parts, hparts⟩ := Option.isSome_iff_exists.mp h
      exact isUnitName_of_path? hparts
    · intro h
      exact Option.isSome_iff_exists.mpr (exists_path? h)
  · rw [isUnitName, stem, String.toList_ofList, isUnitNameChars_stemOf]
    rfl
  · intro javac m options
    exact javac.result_ne_stated m unit options .value _
  · intro other hname hother
    have hinj : Function.Injective (List.map String.ofList) :=
      List.map_injective_iff.mpr fun _ _ => String.ofList_inj.mp
    rw [path?, path?, (Option.map_injective hinj).eq_iff, pathParts?_eq_iff hname hother, stem,
      stem, String.ofList_inj]

/-- The suffix may be left out once: these two names have different paths. -/
theorem path?_safe_and_injective_doubled :
    isUnitName "a.java.java" = true ∧ isUnitName "a.java" = true ∧
      (∃ parts, (⟨"a.java.java", ""⟩ : SourceUnit).path? = some parts ∧ IsSourcePath parts) ∧
      (⟨"a.java.java", ""⟩ : SourceUnit).path? ≠ (⟨"a.java", ""⟩ : SourceUnit).path? := by
  have hname : isUnitName "a.java.java" = true := by decide
  have hother : isUnitName "a.java" = true := by decide
  obtain ⟨hvalid, -, hpath, -, hsame⟩ := path?_safe_and_injective ⟨"a.java.java", ""⟩
  refine ⟨hname, hother, ?_, ?_⟩
  · obtain ⟨parts, hparts⟩ := Option.isSome_iff_exists.mp (hvalid.mpr hname)
    exact ⟨parts, hparts, hpath parts hparts⟩
  · rw [Ne, hsame ⟨"a.java", ""⟩ hname hother]
    decide

end SourceUnit

end LintDaemon
