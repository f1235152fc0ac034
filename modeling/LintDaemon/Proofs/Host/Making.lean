import LintDaemon.Proofs.Host.Lookups

/-!
# Directories that can be made

A directory is made with those above it that are missing. This succeeds exactly if the path and its
parts are not too long and no file is in the way.

* `FileSystem.CanMake`: paths that are short enough and meet no file.
* `FileSystem.makeDirectories_eq_ok_iff`: a directory can be made at these paths and no others.
* `FileSystem.placeOf_of_parent`, `FileSystem.write_eq_insert`: a file can be written in a directory
  that is there.
-/

namespace LintDaemon

open LintDaemon.Text

namespace Path

variable {p above : Path} {parts : List String}

/-- A path in lowest form without parts is short. -/
theorem utf8ByteSize_lt_of_parts_eq_nil (hp : p.IsLowest) (hnil : p.parts = []) :
    p.toString.utf8ByteSize < FileSystem.pathByteLimit := by
  obtain ⟨root, parts⟩ := p
  dsimp only at hnil
  subst hnil
  have hroot := hp.root_mem
  simp only [List.mem_cons, List.not_mem_nil, or_false] at hroot
  rcases hroot with rfl | rfl | rfl <;> decide

/-- The directories above a path that is not too long are not too long either. -/
theorem IsAtOrAbove.utf8ByteSize_lt (hp : p.IsLowest) (h : above.IsAtOrAbove p)
    (hlimit : p.toString.utf8ByteSize < FileSystem.pathByteLimit) :
    above.toString.utf8ByteSize < FileSystem.pathByteLimit := by
  by_cases hnil : above.parts = []
  · exact utf8ByteSize_lt_of_parts_eq_nil (hp.of_isAtOrAbove h) hnil
  · exact FileSystem.utf8ByteSize_lt_of_sublist (h.toString_sublist hnil) hlimit

/-- A path at or above another that has as many parts is the other. -/
theorem IsAtOrAbove.eq_of_length_le (h : above.IsAtOrAbove p)
    (hlength : p.parts.length ≤ above.parts.length) : above = p := by
  obtain ⟨root, parts⟩ := above
  obtain ⟨hroot, hparts⟩ := h
  dsimp only at hroot hparts hlength
  rw [hroot, hparts.eq_of_length_le hlength]

/-- Parts are written behind the parts before them. -/
theorem exists_intercalate_append (before : List String) :
    ∃ stem : String, ∀ parts : List String, parts ≠ [] →
      "/".intercalate (before ++ parts) = stem ++ "/".intercalate parts := by
  induction before with
  | nil => exact ⟨"", fun parts _ => by simp⟩
  | cons part rest ih =>
    obtain ⟨stem, hstem⟩ := ih
    refine ⟨part ++ "/" ++ stem, fun parts hne => ?_⟩
    obtain ⟨next, more, hcons⟩ :=
      List.exists_cons_of_ne_nil (List.append_ne_nil_of_right_ne_nil rest hne)
    rw [List.cons_append, hcons, String.intercalate_cons_cons, ← hcons, hstem parts hne]
    simp [String.append_assoc]

/-- What is written behind a path is as long wherever the path leads. -/
theorem exists_toString_join (p : Path) :
    ∃ stem : String, ∀ parts : List String, parts ≠ [] →
      (p.join parts).toString = stem ++ "/".intercalate parts := by
  obtain ⟨stem, hstem⟩ := exists_intercalate_append p.parts
  refine ⟨p.root ++ stem, fun parts hne => ?_⟩
  have hparts : ¬ ((p.join parts).root = "" ∧ (p.join parts).parts = []) := by
    intro h
    exact hne (List.append_eq_nil_iff.mp h.2).2
  rw [toString, if_neg hparts, String.append_assoc, ← hstem parts hne]
  rfl

/-- The characters of a path are those of its root and its parts, and slashes. -/
theorem mem_toString_of_mem {c : Char} (hp : p.IsLowest) (h : c ∈ p.toString.toList) :
    c ∈ ['/', '.'] ∨ ∃ part ∈ p.parts, c ∈ part.toList := by
  by_cases hnil : p.parts = []
  · obtain ⟨root, parts⟩ := p
    dsimp only at hnil
    subst hnil
    have hroot := hp.root_mem
    simp only [List.mem_cons, List.not_mem_nil, or_false] at hroot
    have hchars : (⟨root, []⟩ : Path).toString.toList.all (['/', '.'].contains ·) = true := by
      rcases hroot with rfl | rfl | rfl <;> decide
    exact Or.inl (List.contains_iff_mem.mp (List.all_eq_true.mp hchars c h))
  · by_cases hslash : c = '/'
    · exact Or.inl (by simp [hslash])
    · right
      have hfield := exists_field_of_mem h hslash
      obtain ⟨field, hfield, hc⟩ := hfield
      have hpart : String.ofList field ∈ FileSystem.rootFields p ++ p.parts := by
        rw [← FileSystem.fieldsOf_toString hp hnil]
        exact List.mem_map_of_mem hfield
      rcases List.mem_append.mp hpart with hroot | hpart
      · -- the fields of the root are empty
        obtain ⟨_, -, hempty⟩ := List.mem_map.mp hroot
        obtain rfl := String.ofList_eq_empty_iff.mp hempty.symm
        exact absurd hc List.not_mem_nil
      · exact ⟨_, hpart, by rwa [String.toList_ofList]⟩

end Path

namespace FileSystem

variable {fs before after : FileSystem} {place directory next : Place} {parts : List String}
  {p above : Path}

/-! ## Walks that meet no file -/

/-- All parts of a walk that succeeds are short. -/
theorem short_of_walk_eq_ok (h : fs.walk place parts = .ok next) :
    ∀ part ∈ parts, part.utf8ByteSize ≤ maxPartBytes := by
  induction parts generalizing place with
  | nil => exact List.forall_mem_nil _
  | cons part rest ih =>
    rw [walk] at h
    cases hstep : fs.step place part with
    | error e =>
      rw [hstep] at h
      cases h
    | ok reached =>
      rw [hstep] at h
      refine List.forall_mem_cons.mpr ⟨?_, ih h⟩
      rcases (step_eq_ok_iff.mp hstep).2.2 with hshort | hplain
      · exact hshort
      · have hall : ∀ part ∈ ["", ".", ".."], part.utf8ByteSize ≤ maxPartBytes := by decide
        exact hall part hplain

/-- A walk along short parts that meets no file succeeds, or finds nothing to go on from. -/
theorem walk_of_no_file (hshort : ∀ part ∈ parts, part.utf8ByteSize ≤ maxPartBytes)
    (hclear : ∀ n < parts.length, ∀ node, fs.node? ((parts.take n).foldl follow place) = some node →
      node = .directory) :
    (∃ next, fs.walk place parts = .ok next) ∨ fs.walk place parts = .error .noEntry := by
  induction parts generalizing place with
  | nil => exact Or.inl ⟨place, rfl⟩
  | cons part rest ih =>
    rw [walk]
    cases hnode : fs.node? place with
    | none =>
      right
      rw [step, hnode]
    | some node =>
      obtain rfl := hclear 0 (Nat.succ_pos _) node hnode
      have hstep : fs.step place part = .ok (follow place part) :=
        step_eq_ok_iff.mpr ⟨hnode, rfl, Or.inl (hshort part List.mem_cons_self)⟩
      rw [hstep]
      refine ih (fun other hother => hshort other (List.mem_cons_of_mem _ hother)) ?_
      intro n hn
      exact hclear (n + 1) (Nat.succ_lt_succ hn)

/-- Paths begin at a directory. -/
theorem node?_start (p : Path) (hdirectory : fs.node? directory = some .directory) :
    fs.node? (if p.root = "" then directory else []) = some .directory := by
  split_ifs
  · exact hdirectory
  · rfl

/-- A path in lowest form has a place where its parent is a directory that is there. -/
theorem placeOf_of_parent (hp : p.IsLowest) (hshort : p.toString.utf8ByteSize < pathByteLimit)
    (hparts : ∀ part ∈ p.parts, part.utf8ByteSize ≤ maxPartBytes)
    (hparent : fs.locate directory p.parent.toString =
      .ok (leadsTo directory p.parent.toString, .directory)) :
    fs.placeOf directory p.toString = .ok (leadsTo directory p.toString) := by
  obtain ⟨hplace, hnode⟩ := locate_eq_ok_iff.mp hparent
  obtain ⟨-, hstart, hwalk⟩ :=
    (placeOf_toString_eq_ok_iff (hp.of_isAtOrAbove (Path.isAtOrAbove_parent p))).mp hplace
  have hwhole : ∃ next, fs.walk (if p.root = "" then directory else []) p.parts = .ok next := by
    rcases List.eq_nil_or_concat p.parts with hnil | ⟨above, last, hconcat⟩
    · exact ⟨_, by rw [hnil, walk]⟩
    · rw [List.concat_eq_append] at hconcat
      have hlast : last.utf8ByteSize ≤ maxPartBytes :=
        hparts last (hconcat ▸ List.mem_append_right _ List.mem_cons_self)
      have hstep := step_eq_ok_iff.mpr ⟨hnode, rfl, Or.inl hlast⟩
      refine ⟨follow (leadsTo directory p.parent.toString) last, ?_⟩
      have habove : p.parent.parts = above := by rw [Path.parent, hconcat, List.dropLast_concat]
      rw [habove] at hwalk
      rw [hconcat, walk_append_eq_ok_iff]
      refine ⟨_, hwalk, ?_⟩
      rw [walk, hstep]
      rfl
  obtain ⟨next, hnext⟩ := hwhole
  have hfound := (placeOf_toString_eq_ok_iff hp).mpr ⟨hshort, hstart, hnext⟩
  rw [hfound, (placeOf_eq_ok hfound).1]

/-- No character that no path may hold is in the parent of a path that holds none. -/
theorem holdsNul_parent (hp : p.IsLowest) (hnul : holdsNul p.toString = false) :
    holdsNul p.parent.toString = false := by
  rw [holdsNul, List.contains_eq_mem, decide_eq_false_iff_not] at hnul ⊢
  by_cases hnil : p.parent.parts = []
  · intro hmem
    have hlowest := hp.of_isAtOrAbove (Path.isAtOrAbove_parent p)
    rcases Path.mem_toString_of_mem hlowest hmem with hplain | ⟨part, hpart, -⟩
    · exact absurd hplain (by decide)
    · rw [hnil] at hpart
      exact List.not_mem_nil hpart
  · exact fun hmem => hnul (((Path.isAtOrAbove_parent p).toString_sublist hnil).subset hmem)

/-! ## Paths at which a directory can be made -/

/-- A path at which a directory can be made. -/
structure CanMake (fs : FileSystem) (directory : Place) (p : Path) : Prop where
  /-- It is not too long. -/
  short : p.toString.utf8ByteSize < pathByteLimit
  /-- Neither is one of its parts. -/
  parts_short : ∀ part ∈ p.parts, part.utf8ByteSize ≤ maxPartBytes
  /-- No file is at the path or at a directory above it. -/
  clear : ∀ above : Path, above.IsAtOrAbove p →
    ∀ node, fs.node? (leadsTo directory above.toString) = some node → node = .directory

/-- The directories above a path lead where the first of its parts do. -/
theorem leadsTo_of_isAtOrAbove (hp : p.IsLowest) (h : above.IsAtOrAbove p) (directory : Place) :
    leadsTo directory above.toString = (p.parts.take above.parts.length).foldl follow
      (if p.root = "" then directory else []) := by
  rw [leadsTo_toString (hp.of_isAtOrAbove h), h.root_eq,
    ← List.prefix_iff_eq_take.mp h.parts_isPrefix]

/-- The first parts of a path are those of a directory above it. -/
theorem isAtOrAbove_take (p : Path) (n : Nat) : (⟨p.root, p.parts.take n⟩ : Path).IsAtOrAbove p :=
  ⟨rfl, List.take_prefix _ _⟩

namespace CanMake

/-- Directories that are added are in nobody's way. -/
theorem of_grows {q : Path} (h : before.CanMake directory p)
    (hgrows : Grows (IsDirectoryFor directory q) before after) : after.CanMake directory p where
  short := h.short
  parts_short := h.parts_short
  clear above habove node hnode := by
    rcases hgrows (leadsTo directory above.toString) with hsame | ⟨-, other, hother, hadded⟩
    · exact h.clear above habove node (hsame.symm.trans hnode)
    · obtain rfl := Option.some.inj (hother.symm.trans hnode)
      exact hadded.1

/-- Where a directory can be made, it can be made at the parent. -/
theorem parent (h : fs.CanMake directory p) (hp : p.IsLowest) :
    fs.CanMake directory p.parent where
  short := (Path.isAtOrAbove_parent p).utf8ByteSize_lt hp h.short
  parts_short part hpart := h.parts_short part (List.dropLast_subset _ hpart)
  clear above habove := h.clear above (habove.trans (Path.isAtOrAbove_parent p))

variable (h : fs.CanMake directory p) (hdirectory : fs.node? directory = some .directory)

include h hdirectory

/-- A path at which a directory can be made has a place, or a directory above it is missing. -/
theorem placeOf_cases (hp : p.IsLowest) :
    (∃ place, fs.placeOf directory p.toString = .ok place) ∨
      fs.placeOf directory p.toString = .error .noEntry := by
  have hplace : fs.placeOf directory p.toString =
      fs.walk (if p.root = "" then directory else []) p.parts := by
    rw [placeOf, if_neg (toString_ne_empty hp), if_neg (Nat.not_le.mpr h.short),
      ← walk_toString hp (node?_start p hdirectory), ← startOf_toString hp]
    rfl
  rw [hplace]
  refine walk_of_no_file h.parts_short fun n hn node hnode => ?_
  refine h.clear _ (isAtOrAbove_take p n) node ?_
  rw [leadsTo_of_isAtOrAbove hp (isAtOrAbove_take p n)]
  dsimp only
  rwa [List.length_take, Nat.min_eq_left hn.le]

omit hdirectory in
/-- If the path has a place, the directory is made there, or is there already. -/
theorem ensureDirectory_of_placeOf (hnul : holdsNul p.toString = false)
    (hplace : fs.placeOf directory p.toString = .ok place) :
    ∃ after, fs.ensureDirectory directory p.toString = .ok after := by
  unfold ensureDirectory makeDirectory
  rw [hplace]
  dsimp only
  cases hnode : fs.node? place with
  | none => exact ⟨_, rfl⟩
  | some node =>
    obtain rfl : node = .directory := by
      refine h.clear p (Path.IsAtOrAbove.refl p) node ?_
      rw [← (placeOf_eq_ok hplace).1, hnode]
    have hthere : fs.isDirectory directory p.toString = true := by
      rw [isDirectory, find?, query, hnul, if_neg Bool.false_ne_true,
        locate_eq_ok_iff.mpr ⟨hplace, hnode⟩]
      rfl
    have hnumber : (SystemFault.entryExists.about p.toString).number ≠
        SystemFault.noEntry.number := by
      show (17 : Int) ≠ 2
      decide
    dsimp only
    rw [if_neg hnumber, if_pos hthere]
    exact ⟨fs, rfl⟩

end CanMake

/-- A path that has no place since something is missing has a part, and so a parent of its own. -/
theorem parent_length_lt (hp : p.IsLowest) (hdirectory : fs.node? directory = some .directory)
    (hshort : p.toString.utf8ByteSize < pathByteLimit)
    (hmissing : fs.placeOf directory p.toString = .error .noEntry) :
    p.parent.parts.length < p.parts.length := by
  have hne : p.parts ≠ [] := by
    intro hnil
    have hplace := (placeOf_toString_eq_ok_iff hp).mpr
      ⟨hshort, node?_start p hdirectory, by rw [hnil, walk]⟩
    cases hmissing.symm.trans hplace
  rw [Path.parent, List.length_dropLast]
  exact Nat.sub_lt (List.length_pos_iff.mpr hne) one_pos

/-- Directories are made wherever they can be, if as many may be made as the path has parts. -/
theorem CanMake.exists_makeDirectoriesUpTo {depth : Nat} (hdepth : p.parts.length ≤ depth)
    (h : fs.CanMake directory p) (hp : p.IsLowest)
    (hdirectory : fs.node? directory = some .directory) (hnul : holdsNul p.toString = false) :
    ∃ after, makeDirectoriesUpTo directory depth fs p = (after, .ok ()) := by
  induction depth generalizing p with
  | zero =>
    rcases h.placeOf_cases hdirectory hp with ⟨place, hplace⟩ | hmissing
    · obtain ⟨after, hmade⟩ := h.ensureDirectory_of_placeOf hnul hplace
      exact ⟨after, by rw [makeDirectoriesUpTo, hmade]⟩
    · have hlength := parent_length_lt hp hdirectory h.short hmissing
      omega
  | succ depth ih =>
    rcases h.placeOf_cases hdirectory hp with ⟨place, hplace⟩ | hmissing
    · obtain ⟨after, hmade⟩ := h.ensureDirectory_of_placeOf hnul hplace
      exact ⟨after, by rw [makeDirectoriesUpTo, hmade]⟩
    · have hlength := parent_length_lt hp hdirectory h.short hmissing
      have hne : p.parent ≠ p := fun hsame => by
        rw [hsame] at hlength
        exact lt_irrefl _ hlength
      obtain ⟨between, hparents⟩ := ih (by omega) (h.parent hp)
        (hp.of_isAtOrAbove (Path.isAtOrAbove_parent p)) (holdsNul_parent hp hnul)
      -- the parent is there by now, and only directories have been added
      have hgrows := makeDirectoriesUpTo_grows directory depth fs p.parent
      rw [hparents] at hgrows
      obtain ⟨place, hfound⟩ := makeDirectoriesUpTo_eq_ok hparents
      obtain rfl := (placeOf_eq_ok (locate_eq_ok_iff.mp hfound).1).1
      have hbetween := h.of_grows hgrows
      have hplace := placeOf_of_parent hp h.short h.parts_short hfound
      obtain ⟨after, hmade⟩ := hbetween.ensureDirectory_of_placeOf hnul hplace
      have hfirst : fs.ensureDirectory directory p.toString =
          .error (SystemFault.noEntry.about p.toString) := by
        rw [ensureDirectory, makeDirectory, hmissing]
        rfl
      refine ⟨after, ?_⟩
      rw [makeDirectoriesUpTo, hfirst]
      dsimp only
      rw [if_pos ⟨rfl, hne⟩, hparents]
      dsimp only
      rw [hmade]

/-- **A directory can be made with those above it exactly at a path that is short enough and meets
no file.** -/
theorem makeDirectories_eq_ok_iff (hp : p.IsLowest)
    (hdirectory : fs.node? directory = some .directory) (hnul : holdsNul p.toString = false) :
    (∃ after, fs.makeDirectories directory p = (after, .ok ())) ↔ fs.CanMake directory p := by
  constructor
  · rintro ⟨after, hmade⟩
    have hgrows := makeDirectories_grows fs directory p
    rw [hmade] at hgrows
    obtain ⟨hplace, hnode⟩ := locate_eq_ok_iff.mp (makeDirectories_eq_ok hmade)
    obtain ⟨hshort, -, hwalk⟩ := (placeOf_toString_eq_ok_iff hp).mp hplace
    refine ⟨hshort, short_of_walk_eq_ok hwalk, fun above habove node hthere => ?_⟩
    -- all that the path passes through are directories when it has been made
    have hpassed : after.node? (leadsTo directory above.toString) = some .directory := by
      by_cases hlength : above.parts.length < p.parts.length
      · rw [leadsTo_of_isAtOrAbove hp habove]
        exact (walk_eq_ok hwalk).2 _ hlength
      · rw [habove.eq_of_length_le (Nat.not_lt.mp hlength)]
        exact hnode
    exact Option.some.inj ((hgrows.node?_eq_some hthere).symm.trans hpassed)
  · intro h
    exact h.exists_makeDirectoriesUpTo le_rfl hp hdirectory hnul

/-- A file that is written where nothing was is put there. -/
theorem write_eq_insert {path : String} {content : List UInt8}
    (hplace : fs.placeOf directory path = .ok place) (hnone : fs.node? place = none) :
    fs.write directory path content = .ok (fs.insert place (.file content false none)) := by
  rw [write, hplace]
  dsimp only
  rw [hnone]

end FileSystem

end LintDaemon
