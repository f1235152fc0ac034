import LintDaemon.Proofs.Text.Lines
import LintDaemon.SourceUnit

/-!
# Names and paths of source units

Which characters stand in the name of a unit and in the path of its file.

* `isNamePart_of_mem`, `isOneLine_name`: a name holds points and characters of identifiers, and
  stays on one line.
* `stemOf`, `isUnitNameChars_stemOf`: a name without the suffix of source files is as valid as with
  it.
* `pathParts?_eq_some_iff`: the valid names have a path, made of the identifiers in their stem.
* `pathParts?_of_isIdentifier`: a name without a package has one of a single part.
* `exists_stem_of_pathParts?`: a path is a stem and the suffix of source files, and its stem holds
  slashes and characters of identifiers.
* `isNameStart_of_mem_pathParts?`, `no_slash_of_mem_pathParts?`: each part of a path begins as an
  identifier does, and holds no slash.
-/

namespace LintDaemon

open LintDaemon.Text

/-! ## Names -/

/-- The characters of an identifier are those of names. -/
theorem isNamePart_of_isIdentifier {s : List Char} (hs : isIdentifier s = true) {c : Char}
    (hc : c ∈ s) : isNamePart c = true := by
  cases s with
  | nil => cases hc
  | cons d rest =>
    simp only [isIdentifier, Bool.and_eq_true, List.all_eq_true] at hs
    rcases List.mem_cons.mp hc with rfl | hrest
    · have hstart := hs.1
      simp only [isNameStart, Bool.or_eq_true, Bool.and_eq_true] at hstart
      simp only [isNamePart, Bool.or_eq_true]
      exact hstart.imp_right And.left
    · exact hs.2 c hrest

/-- No other character stands in an identifier. -/
theorem not_mem_of_isIdentifier {s : List Char} (hs : isIdentifier s = true) {c : Char}
    (hc : isNamePart c = false) : c ∉ s := by
  intro hmem
  rw [isNamePart_of_isIdentifier hs hmem] at hc
  cases hc

/-- The characters of a name are points and those of identifiers. -/
theorem isNamePart_of_mem {name : List Char} (hname : isUnitNameChars name = true) {c : Char}
    (hc : c ∈ name) (hpoint : c ≠ '.') : isNamePart c = true := by
  obtain ⟨field, hfield, hmem⟩ := exists_field_of_mem hc hpoint
  exact isNamePart_of_isIdentifier (List.all_eq_true.mp hname field hfield) hmem

/-- No other character stands in a name. -/
theorem not_mem_name {name : List Char} (hname : isUnitNameChars name = true) {c : Char}
    (hpart : isNamePart c = false) (hpoint : c ≠ '.') : c ∉ name := by
  intro hc
  rw [isNamePart_of_mem hname hc hpoint] at hpart
  cases hpart

/-- A name stays on one line. -/
theorem isOneLine_name {name : List Char} (hname : isUnitNameChars name = true) :
    IsOneLine name :=
  ⟨not_mem_name hname (by decide) (by decide), not_mem_name hname (by decide) (by decide)⟩

/-! ## Paths -/

/-- A path of identifiers is a stem and the suffix of source files. -/
theorem exists_stem_join_withSuffix {parts : List (List Char)} (hne : parts ≠ [])
    (hparts : ∀ part ∈ parts, isIdentifier part = true) :
    ∃ stem, stem ≠ [] ∧ (∀ c ∈ stem, c = '/' ∨ isNamePart c = true) ∧
      join ['/'] (withSuffix parts) = stem ++ sourceSuffix := by
  induction parts with
  | nil => exact absurd rfl hne
  | cons part rest ih =>
    have hpart := hparts part List.mem_cons_self
    have hchars : ∀ c ∈ part, c = '/' ∨ isNamePart c = true := fun c hc =>
      Or.inr (isNamePart_of_isIdentifier hpart hc)
    cases rest with
    | nil =>
      refine ⟨part, ?_, hchars, rfl⟩
      rintro rfl
      cases hpart
    | cons next rest =>
      obtain ⟨stem, -, hstem, hjoin⟩ :=
        ih (List.cons_ne_nil _ _) fun p hp => hparts p (List.mem_cons_of_mem _ hp)
      refine ⟨part ++ '/' :: stem, by simp, ?_, ?_⟩
      · intro c hc
        rcases List.mem_append.mp hc with hc | hc
        · exact hchars c hc
        · rcases List.mem_cons.mp hc with rfl | hc
          · exact Or.inl rfl
          · exact hstem c hc
      · have hcons : join ['/'] (withSuffix (part :: next :: rest)) =
            part ++ ['/'] ++ join ['/'] (withSuffix (next :: rest)) := by
          cases rest <;> rfl
        rw [hcons, hjoin]
        simp

/-- A name without the suffix of source files, if it has that. -/
def stemOf (name : List Char) : List Char :=
  (dropSuffix? sourceSuffix name).getD name

/-- A name with the suffix of source files is valid exactly if it is valid without it. -/
theorem isUnitNameChars_append_sourceSuffix (stem : List Char) :
    isUnitNameChars (stem ++ sourceSuffix) = isUnitNameChars stem := by
  have hfields : fields '.' (stem ++ sourceSuffix) = fields '.' stem ++ ["java".toList] :=
    fields_append '.' stem "java".toList
  have hjava : isIdentifier "java".toList = true := by decide
  unfold isUnitNameChars
  rw [hfields, List.all_append, List.all_cons, hjava]
  exact Bool.and_true _

/-- A name is valid exactly if its stem is. -/
theorem isUnitNameChars_stemOf (name : List Char) :
    isUnitNameChars (stemOf name) = isUnitNameChars name := by
  unfold stemOf
  cases hsuffix : dropSuffix? sourceSuffix name with
  | none => rfl
  | some stem =>
    rw [dropSuffix?_eq_some_iff.mp hsuffix, isUnitNameChars_append_sourceSuffix]
    rfl

/-- The valid names have a path, made of the identifiers in their stem. -/
theorem pathParts?_eq_some_iff {name : List Char} {parts : List (List Char)} :
    pathParts? name = some parts ↔
      isUnitNameChars name = true ∧ withSuffix (fields '.' (stemOf name)) = parts := by
  have hparts : pathParts? name =
      if isUnitNameChars (stemOf name) then some (withSuffix (fields '.' (stemOf name)))
      else none := rfl
  rw [hparts, isUnitNameChars_stemOf]
  split_ifs with hname
  · rw [Option.some.injEq, and_iff_right hname]
  · exact iff_of_false nofun fun h => hname h.1

/-- An identifier is a valid name, and belongs in the file that is called after it. -/
theorem pathParts?_of_isIdentifier {name : List Char} (h : isIdentifier name = true) :
    isUnitNameChars name = true ∧ pathParts? name = some [name ++ sourceSuffix] := by
  have hpoint : '.' ∉ name := not_mem_of_isIdentifier h (by decide)
  have hname : isUnitNameChars name = true := by
    unfold isUnitNameChars
    rw [fields_of_not_mem hpoint, List.all_cons, h]
    rfl
  have hstem : stemOf name = name := by
    unfold stemOf
    cases hsuffix : dropSuffix? sourceSuffix name with
    | none => rfl
    | some stem =>
      rw [dropSuffix?_eq_some_iff.mp hsuffix, List.mem_append, not_or] at hpoint
      exact absurd List.mem_cons_self hpoint.2
  refine ⟨hname, pathParts?_eq_some_iff.mpr ⟨hname, ?_⟩⟩
  rw [hstem, fields_of_not_mem hpoint, withSuffix]

/-- The identifiers in the stem of a valid name. -/
theorem isIdentifier_of_mem_stemOf {name : List Char} (hname : isUnitNameChars name = true) :
    ∀ part ∈ fields '.' (stemOf name), isIdentifier part = true :=
  List.all_eq_true.mp ((isUnitNameChars_stemOf name).trans hname)

/-- The path of a unit is a stem and the suffix of source files. -/
theorem exists_stem_of_pathParts? {name : List Char} {parts : List (List Char)}
    (h : pathParts? name = some parts) :
    ∃ stem, stem ≠ [] ∧ (∀ c ∈ stem, c = '/' ∨ isNamePart c = true) ∧
      join ['/'] parts = stem ++ sourceSuffix := by
  obtain ⟨hname, rfl⟩ := pathParts?_eq_some_iff.mp h
  exact exists_stem_join_withSuffix (fields_ne_nil _ _) (isIdentifier_of_mem_stemOf hname)

/-- Only valid names have a path. -/
theorem isUnitNameChars_of_pathParts? {name : List Char} {parts : List (List Char)}
    (h : pathParts? name = some parts) : isUnitNameChars name = true :=
  (pathParts?_eq_some_iff.mp h).1

/-- Only the last part of a path has the suffix. -/
theorem withSuffix_concat (directories : List (List Char)) (file : List Char) :
    withSuffix (directories ++ [file]) = directories ++ [file ++ sourceSuffix] := by
  induction directories with
  | nil => rfl
  | cons directory rest ih =>
    have hcons : withSuffix (directory :: (rest ++ [file])) =
        directory :: withSuffix (rest ++ [file]) := by
      cases rest <;> rfl
    rw [List.cons_append, hcons, ih]
    rfl

/-- The parts of a path are parts of the name, the last one with the suffix. -/
theorem exists_of_mem_withSuffix {parts : List (List Char)} {part : List Char}
    (h : part ∈ withSuffix parts) :
    ∃ stem ∈ parts, part = stem ∨ part = stem ++ sourceSuffix := by
  fun_induction withSuffix parts with
  | case1 => cases h
  | case2 last => exact ⟨last, List.mem_cons_self, Or.inr (List.mem_singleton.mp h)⟩
  | case3 first rest _ ih =>
    rcases List.mem_cons.mp h with rfl | h
    · exact ⟨part, List.mem_cons_self, Or.inl rfl⟩
    · obtain ⟨stem, hstem, hpart⟩ := ih h
      exact ⟨stem, List.mem_cons_of_mem _ hstem, hpart⟩

/-- The parts of a path are identifiers, the last one with the suffix. -/
theorem exists_identifier_of_mem_pathParts? {name : List Char} {parts : List (List Char)}
    (h : pathParts? name = some parts) {part : List Char} (hpart : part ∈ parts) :
    ∃ stem, isIdentifier stem = true ∧ (part = stem ∨ part = stem ++ sourceSuffix) := by
  obtain ⟨hname, rfl⟩ := pathParts?_eq_some_iff.mp h
  obtain ⟨stem, hstem, hcases⟩ := exists_of_mem_withSuffix hpart
  exact ⟨stem, isIdentifier_of_mem_stemOf hname stem hstem, hcases⟩

/-- A part of a path begins as an identifier does. -/
theorem isNameStart_of_mem_pathParts? {name : List Char} {parts : List (List Char)}
    (h : pathParts? name = some parts) {part : List Char} (hpart : part ∈ parts) :
    ∃ c rest, part = c :: rest ∧ isNameStart c = true := by
  obtain ⟨stem, hstem, hcases⟩ := exists_identifier_of_mem_pathParts? h hpart
  cases stem with
  | nil => cases hstem
  | cons c rest =>
    have hc := (Bool.and_eq_true_iff.mp hstem).1
    rcases hcases with rfl | rfl
    · exact ⟨c, rest, rfl, hc⟩
    · exact ⟨c, rest ++ sourceSuffix, rfl, hc⟩

/-- A part of a path holds only characters of identifiers and, in the suffix, a point. -/
theorem not_mem_of_mem_pathParts? {name : List Char} {parts : List (List Char)}
    (h : pathParts? name = some parts) {part : List Char} (hpart : part ∈ parts) {c : Char}
    (hc : isNamePart c = false) (hpoint : c ≠ '.') : c ∉ part := by
  obtain ⟨stem, hstem, hcases⟩ := exists_identifier_of_mem_pathParts? h hpart
  have hsuffix : c ∉ sourceSuffix := by
    show c ∉ '.' :: "java".toList
    rw [List.mem_cons, not_or]
    exact ⟨hpoint, not_mem_of_isIdentifier (by decide) hc⟩
  rcases hcases with rfl | rfl
  · exact not_mem_of_isIdentifier hstem hc
  · rw [List.mem_append, not_or]
    exact ⟨not_mem_of_isIdentifier hstem hc, hsuffix⟩

/-- A part of a path holds no slash. -/
theorem no_slash_of_mem_pathParts? {name : List Char} {parts : List (List Char)}
    (h : pathParts? name = some parts) {part : List Char} (hpart : part ∈ parts) :
    '/' ∉ part :=
  not_mem_of_mem_pathParts? h hpart (by decide) (by decide)

end LintDaemon
