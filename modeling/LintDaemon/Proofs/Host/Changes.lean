import LintDaemon.Proofs.Host.Places
import LintDaemon.Proofs.Tables
import Mathlib.Data.List.Induction

/-!
# What changes to the files change

Each change of a file system is told by the nodes that it leaves at every place.

* `FileSystem.IsTree`, `FileSystem.IsTree.node?_append`: nodes are in directories, so nothing is
  below a place where nothing is.
* `FileSystem.node?_insert`, `FileSystem.node?_removeTree`: the nodes after one change.
* `FileSystem.Grows`: file systems that only gain nodes, each where nothing was.
* `FileSystem.makeDirectories_grows`, `FileSystem.write_grows`: what directories that are made and
  files that are written add.
-/

namespace LintDaemon

open LintDaemon.Text

namespace FileSystem

variable {fs before between after : FileSystem} {place directory : Place}

/-! ## Trees -/

/-- Every node is in a directory. -/
def IsTree (fs : FileSystem) : Prop :=
  ∀ entry ∈ fs.nodes, (fs.node? entry.1.dropLast).any Node.isDirectory = true

/-- Whether every node is in a directory can be computed. -/
instance (fs : FileSystem) : Decidable fs.IsTree :=
  inferInstanceAs (Decidable (∀ entry ∈ fs.nodes, _ = true))

/-- A node that is there is listed, or is the root. -/
theorem exists_mem_of_node?_eq_some {node : Node} (h : fs.node? place = some node) :
    place = [] ∨ (place, node) ∈ fs.nodes := by
  unfold node? at h
  split_ifs at h with hroot
  · exact Or.inl hroot
  · obtain ⟨first, last, hnodes, -⟩ := List.lookup_eq_some_iff.mp h
    exact Or.inr (hnodes ▸ List.mem_append_right _ List.mem_cons_self)

/-- Nothing is below a place where nothing is. -/
theorem IsTree.node?_append (htree : fs.IsTree) (hnone : fs.node? place = none)
    (below : List String) : fs.node? (place ++ below) = none := by
  induction below using List.reverseRecOn with
  | nil => rwa [List.append_nil]
  | append_singleton below part ih =>
    rw [← List.append_assoc]
    cases hnode : fs.node? (place ++ below ++ [part]) with
    | none => rfl
    | some node =>
      rcases exists_mem_of_node?_eq_some hnode with hroot | hmem
      · exact absurd hroot (by simp)
      · have hparent := htree _ hmem
        rw [List.dropLast_concat, ih] at hparent
        cases hparent

/-- What is above a node is a directory. -/
theorem IsTree.node?_dropLast (htree : fs.IsTree) {node : Node}
    (h : fs.node? place = some node) : fs.node? place.dropLast = some .directory := by
  rcases exists_mem_of_node?_eq_some h with rfl | hmem
  · rfl
  · obtain ⟨above, habove, hdirectory⟩ := (Option.any_eq_true _ _).mp (htree _ hmem)
    cases above with
    | directory => exact habove
    | file _ _ _ | socket _ => cases hdirectory

/-! ## Single changes -/

/-- The root is there. -/
theorem ne_nil_of_node?_eq_none (h : fs.node? place = none) : place ≠ [] := by
  rintro rfl
  cases h

/-- A node put somewhere is there, and all other nodes are as they were. -/
theorem node?_insert (hroot : place ≠ []) (node : Node) (other : Place) :
    (fs.insert place node).node? other = if other = place then some node else fs.node? other := by
  unfold node? insert
  by_cases hother : other = []
  · rw [if_pos hother, if_pos hother, if_neg fun h => hroot (h.symm.trans hother)]
  rw [if_neg hother, if_neg hother, List.lookup_append, Tables.lookup_filter (· != place)]
  by_cases hsame : other = place
  · subst hsame
    simp
  · simp [hsame, Tables.lookup_cons_eq]

/-- Without a place and all below it, all other nodes are as they were. -/
theorem node?_removeTree (hroot : place ≠ []) (other : Place) :
    (fs.removeTree place).node? other = if place <+: other then none else fs.node? other := by
  unfold node? removeTree
  by_cases hother : other = []
  · subst hother
    rw [if_pos rfl, if_pos rfl, if_neg fun h => hroot (List.prefix_nil.mp h)]
  rw [if_neg hother, if_neg hother, Tables.lookup_filter (fun p => !place.isPrefixOf p)]
  simp only [← List.isPrefixOf_iff_prefix, Bool.not_eq_true']
  cases place.isPrefixOf other <;> rfl

/-! ## Nodes that are added -/

/-- Nodes of a kind have been added, each at a place where nothing was; all else is as it was. -/
def Grows (Added : Place → Node → Prop) (before after : FileSystem) : Prop :=
  ∀ place, after.node? place = before.node? place ∨
    before.node? place = none ∧ ∃ node, after.node? place = some node ∧ Added place node

variable {Added Allowed : Place → Node → Prop}

/-- Nothing need be added. -/
theorem Grows.refl (Added : Place → Node → Prop) (fs : FileSystem) : Grows Added fs fs :=
  fun _ => Or.inl rfl

/-- What is there stays. -/
theorem Grows.node?_eq_some (h : Grows Added before after) {node : Node}
    (hnode : before.node? place = some node) : after.node? place = some node := by
  rcases h place with hsame | ⟨hnone, -⟩
  · exact hsame.trans hnode
  · cases hnone.symm.trans hnode

/-- Where nothing is in the end, nothing was. -/
theorem Grows.node?_eq_none (h : Grows Added before after) (hnone : after.node? place = none) :
    before.node? place = none := by
  cases hnode : before.node? place with
  | none => rfl
  | some node => cases hnone.symm.trans (h.node?_eq_some hnode)

/-- What is added twice in a row is added. -/
theorem Grows.trans (hfirst : Grows Added before between) (hsecond : Grows Added between after) :
    Grows Added before after := by
  intro place
  rcases hsecond place with hsame | ⟨hnone, hadded⟩
  · rw [hsame]
    exact hfirst place
  · exact Or.inr ⟨hfirst.node?_eq_none hnone, hadded⟩

/-- Of what is added only the nodes at places where nothing was matter. -/
theorem Grows.mono (h : Grows Added before after)
    (hallowed : ∀ place node, before.node? place = none → Added place node → Allowed place node) :
    Grows Allowed before after := by
  intro place
  rcases h place with hsame | ⟨hnone, node, hnode, hadded⟩
  · exact Or.inl hsame
  · exact Or.inr ⟨hnone, node, hnode, hallowed place node hnone hadded⟩

/-- A node put where nothing was is added. -/
theorem grows_insert (hnone : fs.node? place = none) {node : Node} (hadded : Added place node) :
    Grows Added fs (fs.insert place node) := by
  intro other
  rw [node?_insert (ne_nil_of_node?_eq_none hnone)]
  split_ifs with hsame
  · subst hsame
    exact Or.inr ⟨hnone, node, rfl, hadded⟩
  · exact Or.inl rfl

/-! ## Directories that are made -/

/-- A directory at the place that a path or one of the directories above it names. -/
def IsDirectoryFor (directory : Place) (path : Path) (place : Place) (node : Node) : Prop :=
  node = .directory ∧
    ∃ above : Path, above.IsAtOrAbove path ∧ place = leadsTo directory above.toString

/-- A directory that is made is put where nothing was. -/
theorem makeDirectory_eq_ok {path : String} (h : fs.makeDirectory directory path = .ok after) :
    ∃ place, fs.placeOf directory path = .ok place ∧ fs.node? place = none ∧
      after = fs.insert place .directory := by
  unfold makeDirectory at h
  cases hplace : fs.placeOf directory path with
  | error e =>
    rw [hplace] at h
    cases h
  | ok place =>
    rw [hplace] at h
    dsimp only at h
    cases hnode : fs.node? place with
    | some node =>
      rw [hnode] at h
      cases h
    | none =>
      rw [hnode] at h
      cases h
      exact ⟨place, rfl, hnode, rfl⟩

/-- A directory made for a path is the only change. -/
theorem ensureDirectory_grows {path : Path}
    (h : fs.ensureDirectory directory path.toString = .ok after) :
    Grows (IsDirectoryFor directory path) fs after := by
  unfold ensureDirectory at h
  cases hmade : fs.makeDirectory directory path.toString with
  | ok made =>
    rw [hmade] at h
    cases h
    obtain ⟨place, hplace, hnone, rfl⟩ := makeDirectory_eq_ok hmade
    exact grows_insert hnone ⟨rfl, path, Path.IsAtOrAbove.refl path, (placeOf_eq_ok hplace).1⟩
  | error e =>
    rw [hmade] at h
    dsimp only at h
    split_ifs at h
    cases h
    exact Grows.refl _ fs

/-- Directories made for the parent of a path are made for the path. -/
theorem IsDirectoryFor.of_parent {path : Path} {node : Node}
    (h : IsDirectoryFor directory path.parent place node) :
    IsDirectoryFor directory path place node := by
  obtain ⟨hnode, above, habove, hplace⟩ := h
  exact ⟨hnode, above, habove.trans (Path.isAtOrAbove_parent path), hplace⟩

/-- A directory and those above it that are made are the only changes, whether or not all of them
can be made. -/
theorem makeDirectoriesUpTo_grows (directory : Place) (depth : Nat) (fs : FileSystem)
    (path : Path) :
    Grows (IsDirectoryFor directory path) fs (makeDirectoriesUpTo directory depth fs path).1 := by
  induction depth generalizing fs path with
  | zero =>
    unfold makeDirectoriesUpTo
    cases hensured : fs.ensureDirectory directory path.toString with
    | ok made => exact ensureDirectory_grows hensured
    | error e => exact Grows.refl _ fs
  | succ depth ih =>
    unfold makeDirectoriesUpTo
    cases hensured : fs.ensureDirectory directory path.toString with
    | ok made => exact ensureDirectory_grows hensured
    | error e =>
      dsimp only
      split_ifs with hmissing
      · have hparents := (ih fs path.parent).mono fun _ _ _ => IsDirectoryFor.of_parent
        cases hmade : makeDirectoriesUpTo directory depth fs path.parent with
        | mk between result =>
          rw [hmade] at hparents
          cases result with
          | error e => exact hparents
          | ok =>
            dsimp only
            cases hagain : between.ensureDirectory directory path.toString with
            | error e => exact hparents
            | ok after => exact hparents.trans (ensureDirectory_grows hagain)
      · exact Grows.refl _ fs

/-- Directories made for a path are the only changes. -/
theorem makeDirectories_grows (fs : FileSystem) (directory : Place) (path : Path) :
    Grows (IsDirectoryFor directory path) fs (fs.makeDirectories directory path).1 :=
  makeDirectoriesUpTo_grows directory path.parts.length fs path

/-! ## Files that are written -/

/-- A file that is written where no file was is the only change. -/
theorem write_grows {path : String} {content : List UInt8}
    (hfile : ∀ node, fs.node? (leadsTo directory path) = some node → node = .directory)
    (h : fs.write directory path content = .ok after) :
    Grows (fun place node => place = leadsTo directory path ∧ node = .file content false none)
      fs after := by
  unfold write at h
  cases hplace : fs.placeOf directory path with
  | error e =>
    rw [hplace] at h
    cases h
  | ok place =>
    rw [hplace] at h
    dsimp only at h
    obtain ⟨rfl, -⟩ := placeOf_eq_ok hplace
    cases hnode : fs.node? (leadsTo directory path) with
    | none =>
      rw [hnode] at h
      cases h
      exact grows_insert hnode ⟨rfl, rfl⟩
    | some node =>
      obtain rfl := hfile node hnode
      rw [hnode] at h
      cases h

end FileSystem

end LintDaemon
