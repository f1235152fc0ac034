import LintDaemon.Proofs.Host.Changes
import Mathlib.Data.String.Basic

/-!
# Looking paths up

What a path is found to name, and when the answer stays the same: when files are added, when the
path is brought into lowest form, and, for a path with a root, wherever it is looked up from. A path
without a root leads to the same place from two directories only if it climbs above what they do not
have in common.

* `FileSystem.locate_eq_ok_iff`: a path is found by walking along it to a node.
* `FileSystem.Grows.locate_eq_ok`: what is found is still found when files have been added.
* `FileSystem.locate_ofString`: a path in lowest form finds what its text found.
* `FileSystem.locate_of_isAtOrAbove`: the directories above a path that can be walked along.
* `FileSystem.KeepsMeaning`: a path means the same from two directories: it has a root, or climbs
  far enough.
* `FileSystem.locate_eq_ok_iff_keepsMeaning`: such paths, and no others, find the same from both.
* `FileSystem.makeDirectories_eq_ok`: a directory that has been made is found.
-/

namespace LintDaemon

open LintDaemon.Text

/-! ## The size of a path -/

namespace Text

/-- Pieces of a list, joined, are part of the joined list. -/
theorem intercalate_sublist {sep : List Char} {kept all : List (List Char)} (h : kept.Sublist all)
    (hne : kept ≠ []) : (sep.intercalate kept).Sublist (sep.intercalate all) := by
  induction h with
  | slnil => exact absurd rfl hne
  | @cons kept all piece hrest ih =>
    cases all with
    | nil => exact absurd (List.sublist_nil.mp hrest) hne
    | cons next all =>
      rw [List.intercalate_cons_cons]
      exact (ih hne).trans (List.sublist_append_right _ _)
  | @cons_cons kept all piece hrest ih =>
    cases kept with
    | nil =>
      rw [List.intercalate_singleton]
      cases all with
      | nil => simp
      | cons next all =>
        rw [List.intercalate_cons_cons, List.append_assoc]
        exact List.sublist_append_left _ _
    | cons first kept =>
      cases all with
      | nil => exact absurd (List.sublist_nil.mp hrest) (List.cons_ne_nil _ _)
      | cons next all =>
        rw [List.intercalate_cons_cons, List.intercalate_cons_cons]
        exact (ih (List.cons_ne_nil _ _)).append_left _

/-- The fields of a text, joined by the separator, are the text. -/
theorem intercalate_fields (sep : Char) (s : List Char) :
    [sep].intercalate (fields sep s) = s := by
  induction s with
  | nil => rfl
  | cons c rest ih =>
    obtain ⟨first, more, hfields⟩ := List.exists_cons_of_ne_nil (fields_ne_nil sep rest)
    rw [hfields] at ih
    rw [fields, hfields]
    split_ifs with hc
    · rw [List.intercalate_cons_cons, ih, hc]
      rfl
    · rw [← ih]
      cases more <;> simp [consLine, List.intercalate_cons_cons]

/-- A field of a text is part of the text. -/
theorem sublist_of_mem_fields {sep : Char} {s field : List Char} (h : field ∈ fields sep s) :
    field.Sublist s := by
  have hjoined :=
    @intercalate_sublist [sep] _ _ (List.singleton_sublist.mpr h) (List.cons_ne_nil _ _)
  rwa [List.intercalate_singleton, intercalate_fields] at hjoined

end Text

namespace Path

open FileSystem (rootOf_eq_empty_iff)

variable {p above : Path}

/-- A path with parts is written as its root and its parts. -/
theorem toList_toString (hne : p.parts ≠ []) :
    p.toString.toList = p.root.toList ++ ['/'].intercalate (p.parts.map String.toList) := by
  rw [toString, if_neg fun h => hne h.2, String.toList_append, String.toList_intercalate]
  rfl

/-- A directory above a path is written as part of it. -/
theorem IsAtOrAbove.toString_sublist (h : above.IsAtOrAbove p) (hne : above.parts ≠ []) :
    above.toString.toList.Sublist p.toString.toList := by
  have hp : p.parts ≠ [] := fun hnil => hne (List.prefix_nil.mp (hnil ▸ h.parts_isPrefix))
  rw [toList_toString hne, toList_toString hp, h.root_eq]
  refine List.Sublist.append_left (intercalate_sublist ?_ (by simpa using hne)) _
  exact (h.parts_isPrefix.map _).sublist

/-- The parts that are kept of a text, joined, are part of the text. -/
theorem partsOf_sublist {s : List Char} (hne : partsOf s ≠ []) :
    (['/'].intercalate ((partsOf s).map String.toList)).Sublist s := by
  have hchars : (partsOf s).map String.toList =
      (fields '/' s).filter fun part => !part.isEmpty && part != ['.'] := by
    simp [partsOf, Function.comp_def]
  rw [hchars]
  conv_rhs => rw [← intercalate_fields '/' s]
  refine intercalate_sublist List.filter_sublist fun hnil => hne ?_
  rw [partsOf, hnil, List.map_nil]

/-- A slash in front of a text adds no part. -/
theorem partsOf_slash (s : List Char) : partsOf ('/' :: s) = partsOf s := by
  simp [partsOf, fields]

/-- A text without root and parts begins with a point. -/
theorem head?_eq_of_partsOf_eq_nil {s : List Char} (hne : s ≠ []) (hroot : s.head? ≠ some '/')
    (hparts : partsOf s = []) : s.head? = some '.' := by
  obtain ⟨c, rest, rfl⟩ := List.exists_cons_of_ne_nil hne
  obtain ⟨first, more, hfields⟩ := List.exists_cons_of_ne_nil (fields_ne_nil '/' rest)
  have hc : c ≠ '/' := by simpa using hroot
  have hfirst : (c :: first) ∉ (fields '/' (c :: rest)).filter
      fun part => !part.isEmpty && part != ['.'] := by
    rw [List.map_eq_nil_iff.mp hparts]
    exact List.not_mem_nil
  have hmem : (c :: first) ∈ fields '/' (c :: rest) := by
    rw [fields, if_neg hc, hfields]
    exact List.mem_cons_self
  have hpoint : c :: first = ['.'] := by simpa [hmem] using hfirst
  rw [List.head?_cons, (List.cons.inj hpoint).1]

/-- A text is its root and what its parts are read from. -/
theorem exists_eq_rootOf_append (s : List Char) :
    ∃ behind, s = (rootOf s).toList ++ behind ∧ partsOf s = partsOf behind := by
  unfold rootOf
  split
  · next rest => exact ⟨'/' :: '/' :: rest, rfl, partsOf_slash _⟩
  · next rest _ => exact ⟨rest, rfl, (partsOf_slash _).trans (partsOf_slash _)⟩
  · next rest _ _ => exact ⟨rest, rfl, partsOf_slash _⟩
  · exact ⟨s, rfl, rfl⟩

/-- The lowest form of a written path is part of the text. -/
theorem toString_ofString_sublist {s : String} (hne : s ≠ "") :
    (ofString s).toString.toList.Sublist s.toList := by
  obtain ⟨behind, hs, hbehind⟩ := exists_eq_rootOf_append s.toList
  by_cases hparts : partsOf s.toList = []
  · by_cases hroot : rootOf s.toList = ""
    · -- all that is left of the text is the point that it begins with
      have hpoint := head?_eq_of_partsOf_eq_nil (by simpa using hne)
        ((rootOf_eq_empty_iff _).mp hroot) hparts
      have htext : (ofString s).toString = "." := if_pos ⟨hroot, hparts⟩
      rw [htext]
      exact List.singleton_sublist.mpr (List.mem_of_head? hpoint)
    · have htext : (ofString s).toString = rootOf s.toList := by
        have hnonempty : ¬ ((ofString s).root = "" ∧ (ofString s).parts = []) := fun h => hroot h.1
        rw [toString, if_neg hnonempty]
        show rootOf s.toList ++ "/".intercalate (partsOf s.toList) = _
        rw [hparts, String.intercalate_nil, String.append_empty]
      rw [htext]
      conv_rhs => rw [hs]
      exact List.sublist_append_left _ _
  · rw [toList_toString hparts]
    show ((rootOf s.toList).toList ++
      ['/'].intercalate ((partsOf s.toList).map String.toList)).Sublist _
    conv_rhs => rw [hs]
    rw [hbehind] at hparts ⊢
    exact (partsOf_sublist hparts).append_left _

end Path

namespace FileSystem

variable {fs before after : FileSystem} {place directory next : Place} {node : Node}
  {path : String} {parts : List String} {p above : Path}

/-! ## Walks -/

/-- A step succeeds exactly at a directory, along a part that is not too long. -/
theorem step_eq_ok_iff {part : String} : fs.step place part = .ok next ↔
    fs.node? place = some .directory ∧ next = follow place part ∧
      (part.utf8ByteSize ≤ maxPartBytes ∨ part ∈ ["", ".", ".."]) := by
  constructor
  · intro h
    obtain ⟨hnode, hnext⟩ := step_eq_ok h
    refine ⟨hnode, hnext, ?_⟩
    by_contra hlong
    obtain ⟨hlong, hplain⟩ := not_or.mp hlong
    simp only [List.mem_cons, List.not_mem_nil, or_false, not_or] at hplain
    simp [step, hnode, hplain, Nat.lt_of_not_le hlong] at h
  · rintro ⟨hnode, rfl, hshort⟩
    simp only [step, hnode, follow]
    split_ifs with hsame hparent hlong
    · rfl
    · rfl
    · have hplain : part ∉ ["", ".", ".."] := by simp_all
      exact absurd hlong (Nat.not_lt.mpr (hshort.resolve_right hplain))
    · rfl

/-- A walk along parts and more parts goes on from where the first of them lead. -/
theorem walk_append_eq_ok_iff {more : List String} :
    fs.walk place (parts ++ more) = .ok next ↔
      ∃ between, fs.walk place parts = .ok between ∧ fs.walk between more = .ok next := by
  induction parts generalizing place with
  | nil => simp [walk]
  | cons part rest ih =>
    rw [List.cons_append, walk, walk]
    cases fs.step place part with
    | error e => simp
    | ok reached => exact ih

/-- Parts that name the same directory may be left out of a walk. -/
theorem walk_filter_eq_ok {parts : List (List Char)}
    (h : fs.walk place (parts.map String.ofList) = .ok next) :
    fs.walk place ((parts.filter fun part => !part.isEmpty && part != ['.']).map String.ofList) =
      .ok next := by
  induction parts generalizing place with
  | nil => exact h
  | cons part rest ih =>
    rw [List.map_cons, walk] at h
    cases hstep : fs.step place (String.ofList part) with
    | error e =>
      rw [hstep] at h
      cases h
    | ok reached =>
      rw [hstep] at h
      by_cases hsame : part = [] ∨ part = ['.']
      · have hreached : reached = place := by
          rw [(step_eq_ok hstep).2]
          rcases hsame with rfl | rfl <;> rfl
        have hdropped : (!part.isEmpty && part != ['.']) = false := by
          rcases hsame with rfl | rfl <;> rfl
        rw [List.filter_cons, hdropped]
        exact ih (hreached ▸ h)
      · have hkept : (!part.isEmpty && part != ['.']) = true := by simpa using hsame
        rw [List.filter_cons, hkept, if_pos rfl, List.map_cons, walk, hstep]
        exact ih h

/-- A path has a place exactly if it is not empty, not too long, and can be walked along. -/
theorem placeOf_eq_ok_iff : fs.placeOf directory path = .ok place ↔
    path ≠ "" ∧ path.utf8ByteSize < pathByteLimit ∧
      fs.walk (startOf directory path) (fieldsOf '/' path) = .ok place := by
  by_cases hempty : path = ""
  · rw [placeOf, if_pos hempty]
    simp [hempty]
  by_cases hlimit : pathByteLimit ≤ path.utf8ByteSize
  · rw [placeOf, if_neg hempty, if_pos hlimit]
    simp [Nat.not_lt.mpr hlimit]
  · rw [placeOf, if_neg hempty, if_neg hlimit]
    simp [hempty, Nat.lt_of_not_le hlimit, startOf]

/-- A path is found exactly if it has a place and a node is there. -/
theorem locate_eq_ok_iff : fs.locate directory path = .ok (place, node) ↔
    fs.placeOf directory path = .ok place ∧ fs.node? place = some node := by
  unfold locate
  cases fs.placeOf directory path with
  | error e => simp
  | ok reached =>
    dsimp only
    cases hnode : fs.node? reached with
    | none =>
      simp only [reduceCtorEq, Except.ok.injEq, false_iff, not_and]
      rintro rfl
      simp [hnode]
    | some found =>
      simp only [Except.ok.injEq, Prod.mk.injEq]
      constructor
      · rintro ⟨rfl, rfl⟩
        exact ⟨rfl, hnode⟩
      · rintro ⟨rfl, h⟩
        exact ⟨rfl, Option.some.inj (hnode.symm.trans h)⟩

/-! ## Files that have been added -/

section Grows

variable {Added : Place → Node → Prop} (hgrows : Grows Added before after)

include hgrows

/-- A walk still succeeds when nodes have been added. -/
theorem Grows.walk_eq_ok (h : before.walk place parts = .ok next) :
    after.walk place parts = .ok next := by
  induction parts generalizing place with
  | nil => exact h
  | cons part rest ih =>
    rw [walk] at h ⊢
    cases hstep : before.step place part with
    | error e =>
      rw [hstep] at h
      cases h
    | ok reached =>
      rw [hstep] at h
      obtain ⟨hnode, hreached⟩ := step_eq_ok_iff.mp hstep
      rw [step_eq_ok_iff.mpr ⟨hgrows.node?_eq_some hnode, hreached⟩]
      exact ih h

/-- A path still has its place when nodes have been added. -/
theorem Grows.placeOf_eq_ok (h : before.placeOf directory path = .ok place) :
    after.placeOf directory path = .ok place := by
  obtain ⟨hne, hlimit, hwalk⟩ := placeOf_eq_ok_iff.mp h
  exact placeOf_eq_ok_iff.mpr ⟨hne, hlimit, hgrows.walk_eq_ok hwalk⟩

/-- What is found is still found when nodes have been added. -/
theorem Grows.locate_eq_ok (h : before.locate directory path = .ok (place, node)) :
    after.locate directory path = .ok (place, node) := by
  obtain ⟨hplace, hnode⟩ := locate_eq_ok_iff.mp h
  exact locate_eq_ok_iff.mpr ⟨hgrows.placeOf_eq_ok hplace, hgrows.node?_eq_some hnode⟩

end Grows

/-! ## Paths in lowest form -/

/-- A path of which only a part is written is not too long either. -/
theorem utf8ByteSize_lt_of_sublist {part : String} (h : part.toList.Sublist path.toList)
    (hlimit : path.utf8ByteSize < pathByteLimit) : part.utf8ByteSize < pathByteLimit := by
  rw [← String.ofList_toList (s := part), String.utf8ByteSize_ofList]
  rw [← String.ofList_toList (s := path), String.utf8ByteSize_ofList] at hlimit
  exact (String.utf8Len_le_of_sublist h).trans_lt hlimit

/-- The fields that the root of a path is written with. -/
def rootFields (p : Path) : List String :=
  p.root.toList.map fun _ => ""

/-- A path in lowest form, with parts, is written as the fields of its root and its parts. -/
theorem fieldsOf_toString (hp : p.IsLowest) (hne : p.parts ≠ []) :
    fieldsOf '/' p.toString = rootFields p ++ p.parts := by
  obtain ⟨root, parts⟩ := p
  have hparts : fieldsOf '/' ("/".intercalate parts) = parts := fieldsOf_intercalate hne hp.no_slash
  have htext : Path.toString ⟨root, parts⟩ = root ++ "/".intercalate parts :=
    if_neg fun h => hne h.2
  have hslash : ∀ s,
      fieldsOf '/' (s ++ "/" ++ "/".intercalate parts) = fieldsOf '/' s ++ parts := by
    intro s
    rw [fieldsOf_append rfl, hparts]
  have hroot := hp.root_mem
  simp only [List.mem_cons, List.not_mem_nil, or_false] at hroot
  rw [htext]
  rcases hroot with rfl | rfl | rfl
  · rw [String.empty_append, hparts]
    rfl
  · have hfirst := hslash ""
    rw [String.empty_append] at hfirst
    simpa [rootFields, fieldsOf, fields] using hfirst
  · have hsecond := hslash "/"
    simpa [rootFields, fieldsOf, fields, consLine] using hsecond

/-- A path in lowest form is not written as the empty text. -/
theorem toString_ne_empty (hp : p.IsLowest) : p.toString ≠ "" := by
  intro hempty
  by_cases hne : p.parts = []
  · unfold Path.toString at hempty
    split_ifs at hempty with hnil
    · exact absurd hempty (by decide)
    · rw [hne, String.intercalate_nil, String.append_empty] at hempty
      exact hnil ⟨hempty, hne⟩
  · have hfields : fieldsOf '/' p.toString = [""] := by
      rw [hempty]
      rfl
    rw [fieldsOf_toString hp hne] at hfields
    have hlast := congrArg List.getLast? hfields
    rw [List.getLast?_append_of_ne_nil _ hne] at hlast
    exact hp.part_ne_empty "" (List.mem_of_getLast? hlast) rfl

/-- Fields that name the same directory lead nowhere else. -/
theorem walk_same (hnode : fs.node? place = some .directory) (parts : List String)
    (hparts : ∀ part ∈ parts, part ∈ ["", "."]) (more : List String) :
    fs.walk place (parts ++ more) = fs.walk place more := by
  induction parts with
  | nil => rfl
  | cons part rest ih =>
    have hstep : fs.step place part = .ok place := by
      have hpart := hparts part List.mem_cons_self
      simp only [List.mem_cons, List.not_mem_nil, or_false] at hpart
      refine step_eq_ok_iff.mpr ⟨hnode, ?_, Or.inr ?_⟩
      · rw [follow, if_pos hpart]
      · rcases hpart with rfl | rfl <;> decide
    rw [List.cons_append, walk, hstep]
    exact ih fun p hp => hparts p (List.mem_cons_of_mem _ hp)

/-- A path in lowest form is walked along as its parts are. -/
theorem walk_toString (hp : p.IsLowest) (hnode : fs.node? place = some .directory) :
    fs.walk place (fieldsOf '/' p.toString) = fs.walk place p.parts := by
  by_cases hne : p.parts = []
  · have hsame := walk_same hnode (fieldsOf '/' p.toString) ?_ []
    · rw [List.append_nil] at hsame
      rw [hsame, hne]
    · obtain ⟨root, parts⟩ := p
      dsimp only at hne
      subst hne
      have hroot := hp.root_mem
      simp only [List.mem_cons, List.not_mem_nil, or_false] at hroot
      rcases hroot with rfl | rfl | rfl <;> decide
  · rw [fieldsOf_toString hp hne]
    refine walk_same hnode _ (fun part hpart => ?_) _
    obtain ⟨_, -, rfl⟩ := List.mem_map.mp hpart
    exact List.mem_cons_self

/-- A walk along at least one part begins at a directory. -/
theorem node?_of_walk_eq_ok (hne : parts ≠ []) (h : fs.walk place parts = .ok next) :
    fs.node? place = some .directory :=
  (walk_eq_ok h).2 0 (List.length_pos_iff.mpr hne)

/-- A path in lowest form has a place exactly if it is not too long, begins at a directory, and its
parts can be walked along. -/
theorem placeOf_toString_eq_ok_iff (hp : p.IsLowest) :
    fs.placeOf directory p.toString = .ok place ↔
      p.toString.utf8ByteSize < pathByteLimit ∧
        fs.node? (if p.root = "" then directory else []) = some .directory ∧
        fs.walk (if p.root = "" then directory else []) p.parts = .ok place := by
  have hfields : fieldsOf '/' p.toString ≠ [] := by
    simpa [fieldsOf] using fields_ne_nil '/' p.toString.toList
  have hempty : p.toString ≠ "" := toString_ne_empty hp
  rw [placeOf_eq_ok_iff, startOf_toString hp]
  constructor
  · rintro ⟨-, hlimit, hwalk⟩
    have hnode := node?_of_walk_eq_ok hfields hwalk
    exact ⟨hlimit, hnode, (walk_toString hp hnode).symm.trans hwalk⟩
  · rintro ⟨hlimit, hnode, hwalk⟩
    exact ⟨hempty, hlimit, (walk_toString hp hnode).trans hwalk⟩

/-- A path in lowest form finds what its text found. -/
theorem locate_ofString (h : fs.locate directory path = .ok (place, node)) :
    fs.locate directory (Path.ofString path).toString = .ok (place, node) := by
  obtain ⟨hplace, hnode⟩ := locate_eq_ok_iff.mp h
  obtain ⟨hne, hlimit, hwalk⟩ := placeOf_eq_ok_iff.mp hplace
  have hfields : fieldsOf '/' path ≠ [] := by
    simpa [fieldsOf] using fields_ne_nil '/' path.toList
  refine locate_eq_ok_iff.mpr
    ⟨(placeOf_toString_eq_ok_iff (Path.isLowest_ofString path)).mpr ⟨?_, ?_, ?_⟩, hnode⟩
  · exact utf8ByteSize_lt_of_sublist (Path.toString_ofString_sublist hne) hlimit
  · rw [startOf_ofString (Path.IsAtOrAbove.refl _)]
    exact node?_of_walk_eq_ok hfields hwalk
  · rw [startOf_ofString (Path.IsAtOrAbove.refl _)]
    exact walk_filter_eq_ok hwalk

/-- The directories above a path that can be walked along are found. -/
theorem locate_of_isAtOrAbove (hp : p.IsLowest) (h : above.IsAtOrAbove p) (hne : above.parts ≠ [])
    (hproper : above.parts.length < p.parts.length)
    (hplace : fs.placeOf directory p.toString = .ok place) :
    fs.locate directory above.toString =
      .ok (leadsTo directory above.toString, .directory) := by
  obtain ⟨hlimit, hnode, hwalk⟩ := (placeOf_toString_eq_ok_iff hp).mp hplace
  obtain ⟨behind, hbehind⟩ := h.parts_isPrefix
  rw [← hbehind, ← h.root_eq] at hwalk
  obtain ⟨between, hbetween, hrest⟩ := walk_append_eq_ok_iff.mp hwalk
  have habove : fs.placeOf directory above.toString = .ok between :=
    (placeOf_toString_eq_ok_iff (hp.of_isAtOrAbove h)).mpr
      ⟨utf8ByteSize_lt_of_sublist (h.toString_sublist hne) hlimit, h.root_eq ▸ hnode, hbetween⟩
  have hmore : behind ≠ [] := by
    rintro rfl
    rw [← hbehind, List.append_nil] at hproper
    exact lt_irrefl _ hproper
  rw [← (placeOf_eq_ok habove).1]
  exact locate_eq_ok_iff.mpr ⟨habove, node?_of_walk_eq_ok hmore hrest⟩

/-! ## Paths with a root and without one -/

/-- A path with a root is found to name the same from every directory. -/
theorem locate_of_root (hp : p.IsLowest) (hroot : p.root ≠ "") (fs : FileSystem)
    (directory other : Place) :
    fs.locate directory p.toString = fs.locate other p.toString := by
  have hstart : ∀ directory, startOf directory p.toString = [] := fun directory => by
    rw [startOf_toString hp, if_neg hroot]
  have hplaces : ∀ directory, fs.placeOf directory p.toString =
      if p.toString = "" then .error .noEntry
      else if pathByteLimit ≤ p.toString.utf8ByteSize then .error .nameTooLong
      else fs.walk [] (fieldsOf '/' p.toString) := fun directory => by
    rw [← hstart directory]
    rfl
  rw [locate, locate, hplaces directory, hplaces other]

/-- How many steps parts lead above the place where they begin; `depth` counts the steps down that
have been made from there before. -/
def climb : Nat → List String → Nat
  | _, [] => 0
  | depth, part :: rest =>
    if part = "" ∨ part = "." then climb depth rest
    else if part = ".." then climb (depth - 1) rest + if depth = 0 then 1 else 0
    else climb (depth + 1) rest

/-- Parts that never name the parent do not climb. -/
theorem climb_of_descending (hup : ".." ∉ parts) (depth : Nat) : climb depth parts = 0 := by
  induction parts generalizing depth with
  | nil => rfl
  | cons part rest ih =>
    obtain ⟨hpart, hrest⟩ := not_or.mp (mt List.mem_cons.mpr hup)
    rw [climb, if_neg (Ne.symm hpart), ih hrest, ih hrest, ite_self]

/-- Parts lead to the same place from two places exactly if what they do not climb above is the
same. -/
theorem foldl_follow_eq_iff (here there below : Place) :
    parts.foldl follow (here ++ below) = parts.foldl follow (there ++ below) ↔
      here.take (here.length - climb below.length parts) =
        there.take (there.length - climb below.length parts) := by
  induction parts generalizing here there below with
  | nil => simp [climb]
  | cons part rest ih =>
    rw [List.foldl_cons, List.foldl_cons, climb]
    by_cases hsame : part = "" ∨ part = "."
    · rw [follow, follow, if_pos hsame, if_pos hsame, if_pos hsame]
      exact ih here there below
    rw [follow, follow, if_neg hsame, if_neg hsame, if_neg hsame]
    by_cases hup : part = ".."
    · rw [if_pos hup, if_pos hup, if_pos hup]
      rcases List.eq_nil_or_concat below with rfl | ⟨above, last, rfl⟩
      · -- the step leads above the place that the walk began at
        have hstart := ih here.dropLast there.dropLast []
        have htake : ∀ place : Place, place.dropLast.take (place.dropLast.length - climb 0 rest) =
            place.take (place.length - (climb 0 rest + 1)) := fun place => by
          rw [List.dropLast_eq_take, List.take_take, List.length_take]
          congr 1
          omega
        rw [List.append_nil, List.append_nil, List.length_nil, htake, htake] at hstart
        rw [List.append_nil, List.append_nil]
        exact hstart
      · have hback := ih here there above
        rw [List.concat_eq_append, ← List.append_assoc, ← List.append_assoc, List.dropLast_concat,
          List.dropLast_concat, List.length_append]
        exact hback
    · have hdown := ih here there (below ++ [part])
      rw [if_neg hup, if_neg hup, if_neg hup, List.append_assoc, List.append_assoc]
      rwa [List.length_append] at hdown

/-- A path means the same from another directory: it has a root, or it can be walked along from
there too, and what it has not climbed above is the same of both directories. -/
def KeepsMeaning (fs : FileSystem) (here there : Place) (p : Path) : Prop :=
  p.root ≠ "" ∨ (∃ next, fs.walk there p.parts = .ok next) ∧
    here.take (here.length - climb 0 p.parts) = there.take (there.length - climb 0 p.parts)

/-- A path that names the same from two directories has a root, or it climbs. -/
theorem KeepsMeaning.climbs {here there : Place} (h : fs.KeepsMeaning here there p)
    (hne : here ≠ there) : p.root ≠ "" ∨ ".." ∈ p.parts := by
  refine h.imp_right fun hclimb => ?_
  by_contra hup
  have hsame := hclimb.2
  rw [climb_of_descending hup, Nat.sub_zero, Nat.sub_zero, List.take_length,
    List.take_length] at hsame
  exact hne hsame

/-- What is found at a path from one directory is found there from another exactly if the path keeps
its meaning. -/
theorem locate_eq_ok_iff_keepsMeaning (hp : p.IsLowest) {here there : Place}
    (hthere : fs.node? there = some .directory)
    (h : fs.locate here p.toString = .ok (place, node)) :
    fs.locate there p.toString = .ok (place, node) ↔ fs.KeepsMeaning here there p := by
  by_cases hroot : p.root = ""
  · obtain ⟨hplace, hnode⟩ := locate_eq_ok_iff.mp h
    obtain ⟨hlimit, -, hhere⟩ := (placeOf_toString_eq_ok_iff hp).mp hplace
    rw [if_pos hroot] at hhere
    have hsame : p.parts.foldl follow (here ++ []) = p.parts.foldl follow (there ++ []) ↔ _ :=
      foldl_follow_eq_iff here there []
    rw [List.append_nil, List.append_nil, List.length_nil] at hsame
    rw [locate_eq_ok_iff, and_iff_left hnode, placeOf_toString_eq_ok_iff hp, if_pos hroot,
      and_iff_right hlimit, and_iff_right hthere, KeepsMeaning, ← hsame, ← (walk_eq_ok hhere).1]
    constructor
    · intro hwalk
      exact Or.inr ⟨⟨_, hwalk⟩, (walk_eq_ok hwalk).1⟩
    · rintro (hnot | ⟨⟨next, hwalk⟩, hnext⟩)
      · exact absurd hroot hnot
      · rw [hwalk, (walk_eq_ok hwalk).1, ← hnext]
  · exact iff_of_true ((locate_of_root hp hroot fs there here).trans h) (Or.inl hroot)

/-! ## Directories and files that have been made -/

/-- A node is found where the question about the path is answered with it. -/
theorem locate_of_find? (h : fs.find? directory path = some node) :
    ∃ place, fs.locate directory path = .ok (place, node) := by
  unfold find? query at h
  by_cases hnul : holdsNul path = true
  · rw [if_pos hnul] at h
    cases h
  rw [if_neg hnul] at h
  cases hlocate : fs.locate directory path with
  | ok found =>
    rw [hlocate] at h
    cases h
    exact ⟨found.1, rfl⟩
  | error e =>
    rw [hlocate] at h
    dsimp only at h
    split_ifs at h

/-- A directory is found where the question for one is answered with yes. -/
theorem locate_of_isDirectory (h : fs.isDirectory directory path = true) :
    ∃ place, fs.locate directory path = .ok (place, .directory) := by
  obtain ⟨node, hnode, hdirectory⟩ := (Option.any_eq_true _ _).mp h
  cases node with
  | directory => exact locate_of_find? hnode
  | file _ _ _ | socket _ => cases hdirectory

/-- A directory that was made, or was there, is found. -/
theorem ensureDirectory_eq_ok (h : fs.ensureDirectory directory path = .ok after) :
    ∃ place, after.locate directory path = .ok (place, .directory) := by
  unfold ensureDirectory at h
  cases hmade : fs.makeDirectory directory path with
  | ok made =>
    rw [hmade] at h
    cases h
    obtain ⟨place, hplace, hnone, rfl⟩ := makeDirectory_eq_ok hmade
    have hgrows : Grows (fun _ _ => True) fs (fs.insert place .directory) :=
      grows_insert hnone trivial
    refine ⟨place, locate_eq_ok_iff.mpr ⟨hgrows.placeOf_eq_ok hplace, ?_⟩⟩
    rw [node?_insert (ne_nil_of_node?_eq_none hnone), if_pos rfl]
  | error e =>
    rw [hmade] at h
    dsimp only at h
    split_ifs at h with hmissing hthere
    cases h
    exact locate_of_isDirectory hthere

/-- A directory that was made with those above it is found. -/
theorem makeDirectoriesUpTo_eq_ok {depth : Nat}
    (h : makeDirectoriesUpTo directory depth fs p = (after, .ok ())) :
    ∃ place, after.locate directory p.toString = .ok (place, .directory) := by
  unfold makeDirectoriesUpTo at h
  cases hensured : fs.ensureDirectory directory p.toString with
  | ok made =>
    rw [hensured] at h
    cases h
    exact ensureDirectory_eq_ok hensured
  | error e =>
    rw [hensured] at h
    cases depth with
    | zero => cases h
    | succ depth =>
      dsimp only at h
      split_ifs at h with hmissing
      · cases hparents : makeDirectoriesUpTo directory depth fs p.parent with
        | mk between result =>
          rw [hparents] at h
          cases result with
          | error e => cases h
          | ok =>
            dsimp only at h
            cases hagain : between.ensureDirectory directory p.toString with
            | error e =>
              rw [hagain] at h
              cases h
            | ok made =>
              rw [hagain] at h
              cases h
              exact ensureDirectory_eq_ok hagain
      · cases h

/-- A directory that was made with those above it is found where its path leads. -/
theorem makeDirectories_eq_ok (h : fs.makeDirectories directory p = (after, .ok ())) :
    after.locate directory p.toString = .ok (leadsTo directory p.toString, .directory) := by
  obtain ⟨place, hlocate⟩ := makeDirectoriesUpTo_eq_ok h
  rw [hlocate, (placeOf_eq_ok (locate_eq_ok_iff.mp hlocate).1).1]

/-- A file that was written has a place. -/
theorem placeOf_of_write {content : List UInt8}
    (h : fs.write directory path content = .ok after) :
    ∃ place, fs.placeOf directory path = .ok place := by
  unfold write at h
  cases hplace : fs.placeOf directory path with
  | ok place => exact ⟨place, rfl⟩
  | error e =>
    rw [hplace] at h
    cases h

end FileSystem

end LintDaemon
