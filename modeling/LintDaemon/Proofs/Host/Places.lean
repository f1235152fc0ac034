import LintDaemon.Host.FileSystem
import LintDaemon.Proofs.Text.Lines

/-!
# The places that paths name

A written path names a place part by part, and a path in lowest form names the same place as the
text that it was read from.

* `FileSystem.placeOf_eq_ok`: a walk along a path leads to the place that the path names, and all
  places on the way are directories.
* `Path.IsLowest`, `FileSystem.leadsTo_toString`: the place of a path in lowest form.
* `Path.IsAtOrAbove`, `FileSystem.exists_take_of_isAtOrAbove`: the places of the directories above
  a path are those on the way to it.
* `Path.IsPlainPart`, `FileSystem.leadsTo_join`: parts that lead one step down each.
-/

namespace LintDaemon

open LintDaemon.Text

/-! ## Fields of strings -/

namespace Text

/-- A separator between two texts separates their fields. -/
theorem fieldsOf_append {sep : Char} {between : String} (hbetween : between.toList = [sep])
    (s t : String) : fieldsOf sep (s ++ between ++ t) = fieldsOf sep s ++ fieldsOf sep t := by
  have hcut : (s ++ between ++ t).toList = s.toList ++ sep :: t.toList := by
    simp [hbetween]
  rw [fieldsOf, hcut, fields_append, List.map_append]
  rfl

/-- A string without the separator is one field. -/
theorem fieldsOf_of_not_mem {sep : Char} {s : String} (h : sep ∉ s.toList) :
    fieldsOf sep s = [s] := by
  rw [fieldsOf, fields_of_not_mem h, List.map_singleton, String.ofList_toList]

/-- Strings joined by slashes are the fields of the whole. -/
theorem fieldsOf_intercalate {parts : List String} (hne : parts ≠ [])
    (hparts : ∀ part ∈ parts, '/' ∉ part.toList) :
    fieldsOf '/' ("/".intercalate parts) = parts := by
  induction parts with
  | nil => exact absurd rfl hne
  | cons part rest ih =>
    have hpart := fieldsOf_of_not_mem (hparts part List.mem_cons_self)
    cases rest with
    | nil => rw [String.intercalate_singleton, hpart]
    | cons next rest =>
      rw [String.intercalate_cons_cons, fieldsOf_append rfl, hpart,
        ih (List.cons_ne_nil _ _) fun p hp => hparts p (List.mem_cons_of_mem _ hp)]
      rfl

end Text

/-! ## Forms of paths -/

namespace Path

/-- A part that leads one step down. -/
structure IsPlainPart (part : String) : Prop where
  /-- It names neither the same directory nor the parent. -/
  names_below : part ∉ ["", ".", ".."]
  /-- It is one part. -/
  no_slash : '/' ∉ part.toList

/-- Whether a part leads one step down can be computed. -/
instance (part : String) : Decidable (IsPlainPart part) :=
  decidable_of_iff (part ∉ ["", ".", ".."] ∧ '/' ∉ part.toList)
    ⟨fun h => ⟨h.1, h.2⟩, fun h => ⟨h.names_below, h.no_slash⟩⟩

/-- A path as it is read from a text: no part is left out of it when it is written. -/
structure IsLowest (p : Path) : Prop where
  /-- The path is relative, or begins with one slash or two. -/
  root_mem : p.root ∈ ["", "/", "//"]
  /-- Its parts are not empty. -/
  part_ne_empty : ∀ part ∈ p.parts, part ≠ ""
  /-- Its parts are single parts. -/
  no_slash : ∀ part ∈ p.parts, '/' ∉ part.toList

/-- A path is another one, or one of the directories above it as it is written. -/
structure IsAtOrAbove (above p : Path) : Prop where
  /-- They begin alike. -/
  root_eq : above.root = p.root
  /-- The parts of the one are the first parts of the other. -/
  parts_isPrefix : above.parts <+: p.parts

variable {p q r : Path}

/-- A path is at itself. -/
theorem IsAtOrAbove.refl (p : Path) : p.IsAtOrAbove p :=
  ⟨rfl, List.prefix_rfl⟩

/-- What is above a directory above a path is above the path. -/
theorem IsAtOrAbove.trans (hpq : p.IsAtOrAbove q) (hqr : q.IsAtOrAbove r) : p.IsAtOrAbove r :=
  ⟨hpq.root_eq.trans hqr.root_eq, hpq.parts_isPrefix.trans hqr.parts_isPrefix⟩

/-- The parent of a path is above it. -/
theorem isAtOrAbove_parent (p : Path) : p.parent.IsAtOrAbove p :=
  ⟨rfl, List.dropLast_prefix _⟩

/-- What is above a path with more parts is above the path, or the path with the first of them. -/
theorem isAtOrAbove_join {above : Path} {parts : List String}
    (h : above.IsAtOrAbove (p.join parts)) :
    above.IsAtOrAbove p ∨ ∃ first, first <+: parts ∧ above = p.join first := by
  obtain ⟨root, aboveParts⟩ := above
  obtain ⟨hroot, hparts⟩ := h
  dsimp only at hroot hparts
  rcases List.prefix_or_prefix_of_prefix hparts (List.prefix_append p.parts parts) with hp | hp
  · exact Or.inl ⟨hroot, hp⟩
  · obtain ⟨first, rfl⟩ := hp
    subst hroot
    exact Or.inr ⟨first, (List.prefix_append_right_inj _).mp hparts, rfl⟩

/-- A path above one in lowest form is in lowest form. -/
theorem IsLowest.of_isAtOrAbove (hq : q.IsLowest) (h : p.IsAtOrAbove q) : p.IsLowest where
  root_mem := h.root_eq ▸ hq.root_mem
  part_ne_empty part hpart := hq.part_ne_empty part (h.parts_isPrefix.subset hpart)
  no_slash part hpart := hq.no_slash part (h.parts_isPrefix.subset hpart)

/-- A path in lowest form with plain parts behind it is in lowest form. -/
theorem IsLowest.join (hp : p.IsLowest) {parts : List String}
    (hparts : ∀ part ∈ parts, IsPlainPart part) : (p.join parts).IsLowest where
  root_mem := hp.root_mem
  part_ne_empty part hpart := by
    rcases List.mem_append.mp hpart with hpart | hpart
    · exact hp.part_ne_empty part hpart
    · rintro rfl
      exact (hparts "" hpart).names_below (by decide)
  no_slash part hpart := by
    rcases List.mem_append.mp hpart with hpart | hpart
    · exact hp.no_slash part hpart
    · exact (hparts part hpart).no_slash

/-- A path that is read from a text is in lowest form. -/
theorem isLowest_ofString (s : String) : (ofString s).IsLowest where
  root_mem := by
    show rootOf s.toList ∈ ["", "/", "//"]
    unfold rootOf
    split <;> decide
  part_ne_empty part hpart := by
    obtain ⟨field, hfield, rfl⟩ := List.mem_map.mp hpart
    have hkept := (List.mem_filter.mp hfield).2
    rintro hempty
    rw [← String.toList_inj, String.toList_ofList] at hempty
    subst hempty
    exact absurd hkept (by decide)
  no_slash part hpart := by
    obtain ⟨field, hfield, rfl⟩ := List.mem_map.mp hpart
    rw [String.toList_ofList]
    exact not_mem_of_mem_fields (List.mem_filter.mp hfield).1

end Path

/-! ## Following parts -/

namespace FileSystem

variable {fs : FileSystem} {place directory next : Place} {path part : String}
  {parts : List String}

/-- A step that succeeds starts at a directory and leads where the part does. -/
theorem step_eq_ok (h : fs.step place part = .ok next) :
    fs.node? place = some .directory ∧ next = follow place part := by
  unfold step at h
  cases hnode : fs.node? place with
  | none =>
    rw [hnode] at h
    cases h
  | some node =>
    cases node with
    | file _ _ _ | socket _ =>
      rw [hnode] at h
      cases h
    | directory =>
      rw [hnode] at h
      refine ⟨rfl, ?_⟩
      unfold follow
      dsimp only at h
      split_ifs at h ⊢ <;> cases h <;> rfl

/-- A walk that succeeds leads where the parts do, and passes through directories. -/
theorem walk_eq_ok (h : fs.walk place parts = .ok next) :
    next = parts.foldl follow place ∧
      ∀ n < parts.length, fs.node? ((parts.take n).foldl follow place) = some .directory := by
  induction parts generalizing place with
  | nil =>
    cases h
    exact ⟨rfl, nofun⟩
  | cons part rest ih =>
    rw [walk] at h
    cases hstep : fs.step place part with
    | error e =>
      rw [hstep] at h
      cases h
    | ok reached =>
      rw [hstep] at h
      obtain ⟨hnode, rfl⟩ := step_eq_ok hstep
      obtain ⟨hnext, hpassed⟩ := ih h
      refine ⟨hnext, fun n hn => ?_⟩
      cases n with
      | zero => exact hnode
      | succ n => exact hpassed n (Nat.lt_of_succ_lt_succ hn)

/-- Where a written path begins. -/
def startOf (directory : Place) (path : String) : Place :=
  if path.toList.head? = some '/' then [] else directory

/-- A walk along a path leads to the place that the path names, and passes through directories. -/
theorem placeOf_eq_ok (h : fs.placeOf directory path = .ok place) :
    place = leadsTo directory path ∧
      ∀ n < (fieldsOf '/' path).length,
        fs.node? (((fieldsOf '/' path).take n).foldl follow (startOf directory path)) =
          some .directory := by
  by_cases hempty : path = ""
  · rw [placeOf, if_pos hempty] at h
    cases h
  by_cases hlimit : pathByteLimit ≤ path.utf8ByteSize
  · rw [placeOf, if_neg hempty, if_pos hlimit] at h
    cases h
  rw [placeOf, if_neg hempty, if_neg hlimit] at h
  exact walk_eq_ok h

/-- Parts that name the same directory may be left out. -/
theorem foldl_follow_filter (parts : List (List Char)) (place : Place) :
    ((parts.filter fun part => !part.isEmpty && part != ['.']).map String.ofList).foldl follow
      place = (parts.map String.ofList).foldl follow place := by
  rw [List.foldl_map, List.foldl_map, List.foldl_filter]
  congr 1
  funext place part
  by_cases hsame : part = [] ∨ part = ['.']
  · rcases hsame with rfl | rfl <;> rfl
  · have hkept : (!part.isEmpty && part != ['.']) = true := by simpa using hsame
    rw [if_pos hkept]

/-- Plain parts lead one step down each. -/
theorem foldl_follow_plain (hparts : ∀ part ∈ parts, Path.IsPlainPart part) (place : Place) :
    parts.foldl follow place = place ++ parts := by
  induction parts generalizing place with
  | nil => simp
  | cons part rest ih =>
    have hbelow := (hparts part List.mem_cons_self).names_below
    have hstep : follow place part = place ++ [part] := by
      simp only [List.mem_cons, List.not_mem_nil, or_false, not_or] at hbelow
      rw [follow, if_neg (by simp [hbelow.1, hbelow.2.1]), if_neg hbelow.2.2]
    rw [List.foldl_cons, hstep, ih fun p hp => hparts p (List.mem_cons_of_mem _ hp)]
    simp

/-! ## Paths in lowest form -/

/-- Parts joined by slashes lead where the parts do. -/
theorem foldl_follow_intercalate (hparts : ∀ part ∈ parts, '/' ∉ part.toList) (place : Place) :
    (fieldsOf '/' ("/".intercalate parts)).foldl follow place = parts.foldl follow place := by
  by_cases hne : parts = []
  · subst hne
    rfl
  · rw [fieldsOf_intercalate hne hparts]

/-- A path in lowest form leads where its parts do. -/
theorem foldl_follow_toString {p : Path} (hp : p.IsLowest) (place : Place) :
    (fieldsOf '/' p.toString).foldl follow place = p.parts.foldl follow place := by
  rw [← foldl_follow_intercalate hp.no_slash place]
  obtain ⟨root, parts⟩ := p
  have hroot := hp.root_mem
  simp only [List.mem_cons, List.not_mem_nil, or_false] at hroot
  rcases hroot with rfl | rfl | rfl
  · by_cases hne : parts = []
    · subst hne
      rfl
    · rw [Path.toString, if_neg fun h => hne h.2, String.empty_append]
  · have htext : Path.toString ⟨"/", parts⟩ = "" ++ "/" ++ "/".intercalate parts := by
      rw [Path.toString, if_neg (by simp)]
      rfl
    rw [htext, fieldsOf_append rfl]
    rfl
  · have htext : Path.toString ⟨"//", parts⟩ = "/" ++ "/" ++ "/".intercalate parts := by
      rw [Path.toString, if_neg (by simp)]
      rfl
    rw [htext, fieldsOf_append rfl]
    rfl

/-- A path in lowest form begins at the root of the files exactly if it has a root. -/
theorem startOf_toString {p : Path} (hp : p.IsLowest) (directory : Place) :
    startOf directory p.toString = if p.root = "" then directory else [] := by
  obtain ⟨root, parts⟩ := p
  have hroot := hp.root_mem
  simp only [List.mem_cons, List.not_mem_nil, or_false] at hroot
  rcases hroot with rfl | rfl | rfl
  · cases parts with
    | nil => rfl
    | cons part rest =>
      have hslash := hp.no_slash part List.mem_cons_self
      have hnonempty : part.toList ≠ [] := by
        simpa using hp.part_ne_empty part List.mem_cons_self
      have hhead : (Path.toString ⟨"", part :: rest⟩).toList.head? = part.toList.head? := by
        rw [Path.toString, if_neg (by simp), String.empty_append, String.toList_intercalate]
        cases rest with
        | nil => simp
        | cons next rest =>
          obtain ⟨c, text, hcons⟩ := List.exists_cons_of_ne_nil hnonempty
          rw [List.map_cons, List.map_cons, List.intercalate_cons_cons, hcons]
          rfl
      rw [startOf, hhead, if_neg, if_pos rfl]
      intro hfirst
      exact hslash (List.mem_of_head? hfirst)
  · simp [startOf, Path.toString]
  · simp [startOf, Path.toString]

/-- The place of a path in lowest form. -/
theorem leadsTo_toString {p : Path} (hp : p.IsLowest) (directory : Place) :
    leadsTo directory p.toString =
      p.parts.foldl follow (if p.root = "" then directory else []) := by
  rw [← startOf_toString hp, ← foldl_follow_toString hp]
  rfl

/-- A path with plain parts behind it leads as many steps down. -/
theorem leadsTo_join {p : Path} (hp : p.IsLowest)
    (hparts : ∀ part ∈ parts, Path.IsPlainPart part) (directory : Place) :
    leadsTo directory (p.join parts).toString = leadsTo directory p.toString ++ parts := by
  rw [leadsTo_toString hp, leadsTo_toString (hp.join hparts), Path.join, List.foldl_append,
    foldl_follow_plain hparts]

/-! ## Directories above a path -/

/-- The first of the parts that are kept are those kept of the first parts. -/
theorem exists_take_filter {α : Type} (kept : α → Bool) (parts : List α) (n : Nat) :
    ∃ k, (parts.filter kept).take n = (parts.take k).filter kept := by
  induction parts generalizing n with
  | nil => exact ⟨0, by simp⟩
  | cons part rest ih =>
    cases hpart : kept part with
    | false =>
      obtain ⟨k, hk⟩ := ih n
      refine ⟨k + 1, ?_⟩
      simp [hpart, hk]
    | true =>
      cases n with
      | zero => exact ⟨0, rfl⟩
      | succ n =>
        obtain ⟨k, hk⟩ := ih n
        refine ⟨k + 1, ?_⟩
        simp [hpart, hk]

/-- A text has no root exactly if it does not begin with a slash. -/
theorem rootOf_eq_empty_iff (s : List Char) : Path.rootOf s = "" ↔ s.head? ≠ some '/' := by
  cases s with
  | nil => simp [Path.rootOf]
  | cons c s =>
    by_cases hc : c = '/'
    · subst hc
      refine iff_of_false ?_ (by simp)
      unfold Path.rootOf
      split <;> simp_all
    · refine iff_of_true ?_ (by simpa using hc)
      unfold Path.rootOf
      split <;> simp_all

/-- A path that is read from a text begins where the text does. -/
theorem startOf_ofString {above : Path} (h : above.IsAtOrAbove (Path.ofString path))
    (directory : Place) :
    (if above.root = "" then directory else []) = startOf directory path := by
  rw [h.root_eq, startOf]
  simp only [Path.ofString, rootOf_eq_empty_iff, ite_not]

/-- The directories above a written path are on the way to it. -/
theorem exists_take_of_isAtOrAbove {above : Path} (h : above.IsAtOrAbove (Path.ofString path))
    (directory : Place) :
    ∃ n, leadsTo directory above.toString =
      ((fieldsOf '/' path).take n).foldl follow (startOf directory path) := by
  have hparts : above.parts = (Path.partsOf path.toList).take above.parts.length :=
    List.prefix_iff_eq_take.mp h.parts_isPrefix
  obtain ⟨n, hn⟩ := exists_take_filter (fun part => !part.isEmpty && part != ['.'])
    (fields '/' path.toList) above.parts.length
  refine ⟨n, ?_⟩
  rw [leadsTo_toString ((Path.isLowest_ofString path).of_isAtOrAbove h), startOf_ofString h, hparts,
    Path.partsOf, ← List.map_take, hn, foldl_follow_filter, fieldsOf, List.map_take]

/-- A path that is read from a text leads where the text does. -/
theorem leadsTo_ofString (path : String) (directory : Place) :
    leadsTo directory (Path.ofString path).toString = leadsTo directory path := by
  rw [leadsTo_toString (Path.isLowest_ofString path),
    startOf_ofString (Path.IsAtOrAbove.refl _)]
  exact foldl_follow_filter (fields '/' path.toList) _

end FileSystem

end LintDaemon
