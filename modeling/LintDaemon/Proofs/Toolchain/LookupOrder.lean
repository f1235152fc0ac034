import LintDaemon.Proofs.Tables
import LintDaemon.Proofs.Toolchain.Lookup
import LintDaemon.Proofs.Toolchain.WorkDirectory
import Mathlib.Data.List.TakeWhile

/-!
# Which compiler program is found

The order of the look-up as rules (section 4.4 of the specification). A named installation is asked
and no other; without a name the installation that a variable names goes first, and then the
directories of the search path in their order. The rules write out the paths that are asked about
and found, so that they say what the look-up is to give without any of its functions.

* `Machine.HoldsRunnableFile`: a path at which a file is that may be run; asked of an installation.
* `Machine.HoldsRunnable`: a path at which anything but a directory is that may be run; asked of a
  directory of the search path.
* `Machine.Expands`: a path and what it stands for when it begins at a home directory.
* `javacBelow`, `javacIn`: the path of the program of an installation, and of one in a directory.
* `Machine.Locates`: what the rules give for an installation.
* `Machine.searchJavac?_eq_some_iff`: the first directory that holds a program is the one searched
  for.
* `Machine.namedJavac_congr`: a named installation is looked up without the variables for the
  default one.
* `Machine.locateJavac_eq_iff_locates`: the look-up gives what the rules give, and nothing else.
-/

namespace LintDaemon.Machine

open LintDaemon.Text

variable {m : Machine} {timeout : Binary64} {home : Option String} {path : String}
  {result : Except LocateError Javac}

/-! ## The rules -/

/-- At the path is a file that may be run. -/
def HoldsRunnableFile (m : Machine) (path : String) : Prop :=
  ∃ content program, m.files.find? m.directory path = some (.file content true program)

/-- At the path is something that may be run and is no directory. -/
def HoldsRunnable (m : Machine) (path : String) : Prop :=
  m.HoldsRunnableFile path ∨ m.files.find? m.directory path = some (.socket true)

/-- The home directory that a first part names: a tilde alone stands for the one that the variable
gives or, without the variable, for the one of the account of the user; with a name behind it, for
the one of that account. -/
inductive HasHome (m : Machine) : String → String → Prop
  /-- The variable. -/
  | variable {text : String} (htext : m.envValue? "HOME" = some text) : HasHome m "~" text
  /-- The account of the user. -/
  | user {text : String} (hnone : m.envValue? "HOME" = none)
    (htext : m.homes.lookup m.account = some text) : HasHome m "~" text
  /-- The account of that name. -/
  | account {name text : String} (hne : name ≠ "") (htext : m.homes.lookup name = some text) :
    HasHome m ("~" ++ name) text

/-- The path of a home directory, without the slashes behind it: the root if there is nothing else.
A text that begins with a tilde has none. -/
inductive IsHomePath (text : String) : Path → Prop
  /-- The root. -/
  | root (hslashes : ∀ c ∈ text.toList, c = '/') : IsHomePath text ⟨"/", []⟩
  /-- Any other directory. -/
  | below {stem slashes : List Char} (htext : text.toList = stem ++ slashes) (hne : stem ≠ [])
    (hend : stem.getLast? ≠ some '/') (htilde : stem.head? ≠ some '~')
    (hslashes : ∀ c ∈ slashes, c = '/') : IsHomePath text (Path.ofString (String.ofList stem))

/-- A path and what it stands for. -/
inductive Expands (m : Machine) : Path → Path → Prop
  /-- A path that does not begin with a tilde stands for itself. -/
  | plain {p : Path} (hplain : ∀ part rest, p = ⟨"", part :: rest⟩ → part.toList.head? ≠ some '~') :
    Expands m p p
  /-- A path that begins at a home directory goes on from there. -/
  | atHome {part text : String} {rest : List String} {home : Path} (hnul : '\x00' ∉ part.toList)
    (hhome : m.HasHome part text) (hpath : IsHomePath text home) :
    Expands m ⟨"", part :: rest⟩ ⟨home.root, home.parts ++ rest⟩

/-- The program of an installation. -/
def javacBelow (home : Path) : Path :=
  ⟨home.root, home.parts ++ ["bin", "javac"]⟩

/-- The directories of a search path. The empty path has none; an empty piece of another one stands
for the directory worked in. -/
def directoriesOf (path : String) : List String :=
  if path = "" then [] else fieldsOf ':' path

/-- The program in a directory of a search path; a slash is put between them unless the directory
is empty or ends in one. -/
def javacIn (directory : String) : String :=
  if directory = "" ∨ directory.toList.getLast? = some '/' then directory ++ "javac"
  else directory ++ "/javac"

/-- A variable names an installation, and its program may be run. -/
def IsDefault (m : Machine) (java : String) : Prop :=
  m.envValue? "JAVA_HOME" = some java ∧ java ≠ "" ∧
    m.HoldsRunnableFile (javacBelow (Path.ofString java)).toString

/-- What is found for an installation on a machine with this search path. -/
inductive Locates (m : Machine) (path : String) (timeout : Binary64) :
    Option String → Except LocateError Javac → Prop
  /-- The program of a named installation. -/
  | named {home : String} {expanded : Path} (hne : home ≠ "")
    (hexpanded : m.Expands (Path.ofString home) expanded)
    (hruns : m.HoldsRunnableFile (javacBelow expanded).toString) :
    Locates m path timeout (some home) (.ok ⟨javacBelow expanded, timeout⟩)
  /-- A named installation without one; no other is tried. -/
  | namedMissing {home : String} {expanded : Path} (hne : home ≠ "")
    (hexpanded : m.Expands (Path.ofString home) expanded)
    (hruns : ¬ m.HoldsRunnableFile (javacBelow expanded).toString) :
    Locates m path timeout (some home) (.error (.noneAt home))
  /-- The program of the installation that the variable names. -/
  | default {home : Option String} {java : String} (hhome : home = none ∨ home = some "")
    (hjava : m.IsDefault java) :
    Locates m path timeout home (.ok ⟨javacBelow (Path.ofString java), timeout⟩)
  /-- Where the variable names none, the program in the first directory that holds one. -/
  | searched {home : Option String} {before after : List String} {directory : String}
    (hhome : home = none ∨ home = some "") (hjava : ∀ java, ¬ m.IsDefault java)
    (hdirectories : directoriesOf path = before ++ directory :: after)
    (hbefore : ∀ other ∈ before, ¬ m.HoldsRunnable (javacIn other))
    (hholds : m.HoldsRunnable (javacIn directory)) :
    Locates m path timeout home (.ok ⟨Path.ofString (javacIn directory), timeout⟩)
  /-- There is none of these. -/
  | nowhere {home : Option String} (hhome : home = none ∨ home = some "")
    (hjava : ∀ java, ¬ m.IsDefault java)
    (hdirectories : ∀ directory ∈ directoriesOf path, ¬ m.HoldsRunnable (javacIn directory)) :
    Locates m path timeout home (.error .noneFound)

/-! ## Home directories -/

/-- A home directory of nothing but slashes is the root. -/
theorem homeText_of_slashes {text : String} (hslashes : ∀ c ∈ text.toList, c = '/') :
    homeText text = "/" := by
  have hstem : dropEndWhile (· == '/') text.toList = [] :=
    List.reverse_eq_nil_iff.mpr (List.dropWhile_eq_nil_iff.mpr fun c hc =>
      beq_iff_eq.mpr (hslashes c (List.mem_reverse.mp hc)))
  rw [homeText, hstem]
  rfl

/-- A home directory loses the slashes behind it. -/
theorem homeText_of_append {text : String} {stem slashes : List Char}
    (htext : text.toList = stem ++ slashes) (hne : stem ≠ []) (hend : stem.getLast? ≠ some '/')
    (hslashes : ∀ c ∈ slashes, c = '/') : homeText text = String.ofList stem := by
  have hstem : dropEndWhile (· == '/') text.toList = stem := by
    rw [htext, dropEndWhile_append_of_pos fun c hc => beq_iff_eq.mpr (hslashes c hc)]
    refine dropEndWhile_of_getLast? fun c hc => beq_eq_false_iff_ne.mpr ?_
    rintro rfl
    exact hend hc
  rw [homeText, hstem]
  exact if_neg (by simpa using hne)

/-- Every text is nothing but slashes, or something else with slashes behind it. -/
theorem slashes_or_exists_stem (text : String) :
    (∀ c ∈ text.toList, c = '/') ∨ ∃ stem slashes, text.toList = stem ++ slashes ∧ stem ≠ [] ∧
      stem.getLast? ≠ some '/' ∧ ∀ c ∈ slashes, c = '/' := by
  have hdropped : ∀ c ∈ (text.toList.reverse.takeWhile (· == '/')).reverse, c = '/' := by
    intro c hc
    have hslash := List.mem_takeWhile_imp (List.mem_reverse.mp hc)
    exact beq_iff_eq.mp hslash
  have htext := dropEndWhile_append_takeWhile (· == '/') text.toList
  by_cases hstem : dropEndWhile (· == '/') text.toList = []
  · rw [hstem, List.nil_append] at htext
    exact Or.inl (htext ▸ hdropped)
  · refine Or.inr ⟨_, _, htext.symm, hstem, fun h => ?_, hdropped⟩
    exact absurd (getLast?_dropEndWhile '/' h) (by decide)

/-- The text of a home directory without the slashes behind it. -/
theorem isHomePath_iff {text : String} {home : Path} :
    IsHomePath text home ↔
      (homeText text).toList.head? ≠ some '~' ∧ home = Path.ofString (homeText text) := by
  constructor
  · intro h
    cases h with
    | root hslashes =>
      rw [homeText_of_slashes hslashes]
      decide
    | below htext hne hend htilde hslashes =>
      rw [homeText_of_append htext hne hend hslashes, String.toList_ofList]
      exact ⟨htilde, rfl⟩
  · rintro ⟨htilde, rfl⟩
    rcases slashes_or_exists_stem text with hslashes | ⟨stem, slashes, htext, hne, hend, hslashes⟩
    · have hpath : Path.ofString (homeText text) = ⟨"/", []⟩ := by
        rw [homeText_of_slashes hslashes]
        decide
      rw [hpath]
      exact .root hslashes
    · rw [homeText_of_append htext hne hend hslashes, String.toList_ofList] at htilde
      rw [homeText_of_append htext hne hend hslashes]
      exact .below htext hne hend htilde hslashes

/-- The home directory that a part names, as text. -/
theorem hasHome_iff {part text : String} :
    m.HasHome part text ↔
      (match part.toList with
        | ['~'] => (m.envValue? "HOME").or (m.homes.lookup m.account)
        | '~' :: name => m.homes.lookup (String.ofList name)
        | _ => none) = some text := by
  constructor
  · intro h
    cases h with
    | «variable» htext =>
      show (m.envValue? "HOME").or (m.homes.lookup m.account) = some text
      rw [htext]
      rfl
    | user hnone htext =>
      show (m.envValue? "HOME").or (m.homes.lookup m.account) = some text
      rw [hnone, htext]
      rfl
    | @account name _ hne htext =>
      obtain ⟨c, rest, hname⟩ := List.exists_cons_of_ne_nil (mt String.toList_eq_nil_iff.mp hne)
      have hpart : ("~" ++ name).toList = '~' :: c :: rest := by
        rw [String.toList_append, hname]
        rfl
      rw [hpart]
      show m.homes.lookup (String.ofList (c :: rest)) = some text
      rw [← hname, String.ofList_toList]
      exact htext
  · intro h
    split at h
    · next hpart =>
      obtain rfl : part = "~" := String.toList_inj.mp hpart
      rcases Option.or_eq_some_iff.mp h with htext | ⟨hnone, htext⟩
      · exact .variable htext
      · exact .user hnone htext
    · next name hname hpart =>
      obtain rfl : part = "~" ++ String.ofList name := by
        rw [← String.toList_inj, hpart]
        simp
      refine .account (fun hempty => hname ?_) h
      rw [← String.toList_ofList (l := name), hempty]
      rfl
    · cases h

/-- Only a part that begins with a tilde names a home directory. -/
theorem HasHome.head?_eq {part text : String} (h : m.HasHome part text) :
    part.toList.head? = some '~' := by
  cases h with
  | account _ _ =>
    rw [String.toList_append]
    rfl
  | _ => rfl

/-- The path of the home directory that a part names. -/
theorem exists_isHomePath_iff {part : String} {home : Path} :
    (∃ text, m.HasHome part text ∧ IsHomePath text home) ↔
      ∃ text, m.homeOf? part = some text ∧ home = Path.ofString text := by
  unfold homeOf?
  simp only [isHomePath_iff, hasHome_iff, Option.filter_eq_some_iff, Option.map_eq_some_iff,
    bne_iff_ne]
  constructor
  · rintro ⟨text, htext, htilde, rfl⟩
    exact ⟨_, ⟨⟨text, htext, rfl⟩, htilde⟩, rfl⟩
  · rintro ⟨_, ⟨⟨text, htext, rfl⟩, htilde⟩, rfl⟩
    exact ⟨text, htext, htilde, rfl⟩

/-- A path is expanded exactly to what it stands for. -/
theorem expandHome_eq_ok_iff {p expanded : Path} :
    m.expandHome p = .ok expanded ↔ m.Expands p expanded := by
  constructor
  · intro h
    unfold expandHome at h
    split at h
    · next part rest hroot hparts =>
      obtain ⟨root, parts⟩ := p
      dsimp only at hroot hparts
      subst hroot hparts
      split_ifs at h with htilde hnul
      · split at h
        · next text htext =>
          cases h
          obtain ⟨written, hwritten, hpath⟩ := exists_isHomePath_iff.mpr ⟨text, htext, rfl⟩
          exact .atHome (by simpa [FileSystem.holdsNul] using hnul) hwritten hpath
        · cases h
      · cases h
        exact .plain (by rintro _ _ ⟨⟩; exact htilde)
    · next hother =>
      cases h
      exact .plain (by rintro part rest rfl; exact (hother part rest rfl rfl).elim)
  · intro h
    cases h with
    | plain hplain =>
      unfold expandHome
      split
      · next part rest hroot hparts =>
        obtain ⟨root, parts⟩ := p
        dsimp only at hroot hparts
        subst hroot hparts
        rw [if_neg (hplain part rest rfl)]
      · rfl
    | @atHome part text rest home hnul hwritten hpath =>
      obtain ⟨text, htext, rfl⟩ := exists_isHomePath_iff.mp ⟨text, hwritten, hpath⟩
      have hnul : FileSystem.holdsNul part = false := by simpa [FileSystem.holdsNul] using hnul
      show (if part.toList.head? = some '~' then _ else _) = _
      rw [if_pos hwritten.head?_eq, hnul, htext]
      rfl

/-! ## Questions about paths -/

/-- The question about the program of an installation is answered with yes exactly if a file is
there that may be run. -/
theorem isExecutable_eq_true_iff {home : Path} :
    m.isExecutable (programOf home) = .ok true ↔
      m.HoldsRunnableFile (javacBelow home).toString := by
  have hpath : javacBelow home = programOf home := rfl
  unfold isExecutable FileSystem.isExecutable HoldsRunnableFile FileSystem.find?
  rw [hpath]
  cases m.files.query m.directory (programOf home).toString with
  | error e => simp
  | ok node =>
    cases node with
    | none => simp
    | some node =>
      cases node with
      | directory | socket => simp
      | file content executable program => cases executable <;> simp

/-- It is answered with no exactly if it can be asked and no such file is there. -/
theorem isExecutable_eq_false_iff {home : Path} :
    m.isExecutable (programOf home) = .ok false ↔
      ¬ m.IsUnaskable (programOf home) ∧ ¬ m.HoldsRunnableFile (javacBelow home).toString := by
  rw [← isExecutable_fails_iff, ← isExecutable_eq_true_iff]
  cases m.isExecutable (programOf home) with
  | error e => exact iff_of_false nofun fun h => h.1 ⟨e, rfl⟩
  | ok executable => cases executable <;> simp

/-- The program in a directory of a search path is at its path. -/
theorem pathIn_eq (directory : String) : pathIn directory programName = javacIn directory := by
  unfold pathIn javacIn
  by_cases hempty : directory = ""
  · subst hempty
    rfl
  · simp only [hempty, false_or, if_false]
    split_ifs
    · rfl
    · exact String.append_assoc

/-- A directory is one of those searched for exactly if it holds a program. -/
theorem isCandidate_iff : m.isCandidate path = true ↔ m.HoldsRunnable path := by
  unfold isCandidate HoldsRunnable HoldsRunnableFile
  match m.files.find? m.directory path with
  | none | some .directory => simp [Node.mayRun, Node.isDirectory]
  | some (.file content executable program) =>
    cases executable <;> simp [Node.mayRun, Node.isDirectory]
  | some (.socket executable) => cases executable <;> simp [Node.mayRun, Node.isDirectory]

/-! ## The search path -/

/-- Repetitions do not matter to a search. -/
theorem find?_distinct (p : String → Bool) (l : List String) :
    (distinct l).find? p = l.find? p := by
  induction l with
  | nil => rfl
  | cons s rest ih =>
    rw [distinct, List.find?_cons, List.find?_cons, List.find?_filter]
    cases hs : p s with
    | true => rfl
    | false =>
      have hne : (fun a => decide ((a != s) = true ∧ p a = true)) = p := by
        funext a
        by_cases ha : a = s
        · simp [ha, hs]
        · simp [ha]
      rw [hne]
      exact ih

/-- The search goes through the directories of the search path. -/
theorem searchJavac?_eq (hpath : m.envValue? "PATH" = some path) :
    m.searchJavac? =
      ((directoriesOf path).find? fun directory =>
        m.isCandidate (javacIn directory)).map
        fun directory => Path.ofString (javacIn directory) := by
  have hdirectories : ∀ p : String → Bool,
      m.searchDirectories.find? p = (directoriesOf path).find? p := by
    intro p
    unfold searchDirectories directoriesOf
    rw [hpath, Option.getD_some]
    dsimp only
    split_ifs
    · rfl
    · exact find?_distinct p _
  unfold searchJavac?
  rw [List.find?_map, hdirectories, Option.map_map]
  simp only [Function.comp_def, pathIn_eq]

/-- The search finds the program in the first directory that holds one. -/
theorem searchJavac?_eq_some_iff (hpath : m.envValue? "PATH" = some path) {found : Path} :
    m.searchJavac? = some found ↔ ∃ before directory after,
      directoriesOf path = before ++ directory :: after ∧
        (∀ other ∈ before, ¬ m.HoldsRunnable (javacIn other)) ∧
        m.HoldsRunnable (javacIn directory) ∧
        Path.ofString (javacIn directory) = found := by
  simp only [searchJavac?_eq hpath, Option.map_eq_some_iff, List.find?_eq_some_iff_append,
    isCandidate_iff, Bool.not_eq_true', ← Bool.not_eq_true]
  constructor
  · rintro ⟨directory, ⟨hholds, before, after, hdirectories, hbefore⟩, hfound⟩
    exact ⟨before, directory, after, hdirectories, hbefore, hholds, hfound⟩
  · rintro ⟨before, directory, after, hdirectories, hbefore, hholds, hfound⟩
    exact ⟨directory, ⟨hholds, before, after, hdirectories, hbefore⟩, hfound⟩

/-- The search finds nothing exactly if no directory holds a program. -/
theorem searchJavac?_eq_none_iff (hpath : m.envValue? "PATH" = some path) :
    m.searchJavac? = none ↔
      ∀ directory ∈ directoriesOf path, ¬ m.HoldsRunnable (javacIn directory) := by
  simp only [searchJavac?_eq hpath, Option.map_eq_none_iff, List.find?_eq_none, isCandidate_iff]

/-! ## The look-up -/

/-- The installation that the variable names is the default one. -/
theorem defaultJavac_of_isDefault {java : String} (h : m.IsDefault java) :
    m.defaultJavac = .ok (javacBelow (Path.ofString java)) := by
  obtain ⟨hjava, hne, hruns⟩ := h
  unfold defaultJavac
  rw [hjava, Option.getD_some]
  dsimp only
  rw [if_neg hne, isExecutable_eq_true_iff.mpr hruns]
  rfl

/-- Where the variable names none, the directories are searched. -/
theorem defaultJavac_of_not_isDefault (hhome : home = none ∨ home = some "")
    (hanswers : ¬ m.LookupFails home) (hjava : ∀ java, ¬ m.IsDefault java) :
    m.defaultJavac = m.searchJavac?.elim (.error .noneFound) .ok := by
  have hnamed : (if (m.envValue? "JAVA_HOME").getD "" = "" then .ok false
      else m.isExecutable (programOf (.ofString ((m.envValue? "JAVA_HOME").getD "")))) =
        .ok false := by
    cases hvariable : m.envValue? "JAVA_HOME" with
    | none => rfl
    | some java =>
      rw [Option.getD_some]
      split_ifs with hempty
      · rfl
      · exact isExecutable_eq_false_iff.mpr
          ⟨fun hprogram => hanswers (.default hhome hvariable hempty hprogram),
            fun hruns => hjava java ⟨hvariable, hempty, hruns⟩⟩
  unfold defaultJavac
  dsimp only
  rw [hnamed]
  cases m.searchJavac? <;> rfl

/-- What the rules give is looked up. -/
theorem Locates.locateJavac_eq (hpath : m.envValue? "PATH" = some path)
    (hanswers : ¬ m.LookupFails home) (h : m.Locates path timeout home result) :
    m.locateJavac timeout home = result := by
  cases h with
  | named hne hexpanded hruns =>
    rw [locateJavac_named hne, namedJavac, expandHome_eq_ok_iff.mpr hexpanded]
    dsimp only
    rw [isExecutable_eq_true_iff.mpr hruns]
    rfl
  | namedMissing hne hexpanded hruns =>
    have hmissing := isExecutable_eq_false_iff.mpr
      ⟨fun hprogram => hanswers (.named hne (expandHome_eq_ok_iff.mpr hexpanded) hprogram), hruns⟩
    rw [locateJavac_named hne, namedJavac, expandHome_eq_ok_iff.mpr hexpanded]
    dsimp only
    rw [hmissing]
    rfl
  | default hhome hjava =>
    rw [locateJavac_default hhome, defaultJavac_of_isDefault hjava]
    rfl
  | searched hhome hjava hdirectories hbefore hholds =>
    have hsearch := (searchJavac?_eq_some_iff hpath).mpr
      ⟨_, _, _, hdirectories, hbefore, hholds, rfl⟩
    rw [locateJavac_default hhome, defaultJavac_of_not_isDefault hhome hanswers hjava, hsearch]
    rfl
  | nowhere hhome hjava hdirectories =>
    rw [locateJavac_default hhome, defaultJavac_of_not_isDefault hhome hanswers hjava,
      (searchJavac?_eq_none_iff hpath).mpr hdirectories]
    rfl

/-- The rules give something for every installation about which all questions are answered. -/
theorem exists_locates (hpath : m.envValue? "PATH" = some path)
    (hanswers : ¬ m.LookupFails home) : ∃ result, m.Locates path timeout home result := by
  by_cases hhome : home = none ∨ home = some ""
  · by_cases hjava : ∃ java, m.IsDefault java
    · obtain ⟨java, hjava⟩ := hjava
      exact ⟨_, .default hhome hjava⟩
    · have hjava := not_exists.mp hjava
      cases hsearch : m.searchJavac? with
      | none => exact ⟨_, .nowhere hhome hjava ((searchJavac?_eq_none_iff hpath).mp hsearch)⟩
      | some found =>
        obtain ⟨before, directory, after, hdirectories, hbefore, hholds, -⟩ :=
          (searchJavac?_eq_some_iff hpath).mp hsearch
        exact ⟨_, .searched hhome hjava hdirectories hbefore hholds⟩
  · obtain ⟨name, rfl⟩ := Option.ne_none_iff_exists'.mp fun h => hhome (Or.inl h)
    have hne : name ≠ "" := fun h => hhome (Or.inr (congrArg some h))
    cases hexpanded : m.expandHome (Path.ofString name) with
    | error e =>
      obtain ⟨hroot, part, rest, hparts, htilde, hunknown⟩ := expandHome_fails_iff.mp ⟨e, hexpanded⟩
      exact absurd (.noHome hroot hparts htilde hunknown) hanswers
    | ok expanded =>
      by_cases hruns : m.HoldsRunnableFile (javacBelow expanded).toString
      · exact ⟨_, .named hne (expandHome_eq_ok_iff.mp hexpanded) hruns⟩
      · exact ⟨_, .namedMissing hne (expandHome_eq_ok_iff.mp hexpanded) hruns⟩

/-- What the rules give is a program, or says that there is none. -/
theorem Locates.isUnavailable {e : LocateError} (h : m.Locates path timeout home (.error e)) :
    e.isUnavailable = true := by
  cases h with
  | namedMissing hne hexpanded hruns => rfl
  | nowhere hhome hjava hdirectories => rfl

/-- Environments that agree on all but the variables for the default installation. -/
def AgreesElsewhere (environment environment' : List (String × String)) : Prop :=
  ∀ name, name ≠ "JAVA_HOME" → name ≠ "PATH" →
    environment'.lookup name = environment.lookup name

/-- Those variables do not matter to a named installation. -/
theorem namedJavac_congr {environment : List (String × String)}
    (h : AgreesElsewhere m.environment environment) (home : String) :
    { m with environment }.namedJavac home = m.namedJavac home := by
  have hvalue : { m with environment }.envValue? "HOME" = m.envValue? "HOME" :=
    h "HOME" (by decide) (by decide)
  have hhome : { m with environment }.homeOf? = m.homeOf? := by
    funext part
    unfold homeOf?
    rw [hvalue]
  have hexpanded : { m with environment }.expandHome = m.expandHome := by
    funext p
    unfold expandHome
    rw [hhome]
  unfold namedJavac
  rw [hexpanded]
  rfl

/-- **The order of the look-up, and that a name is authoritative.** On a machine with a search path,
for an installation about which all questions are answered, the look-up gives exactly what the rules
give, and if it gives no program it says that there is none. For a named installation it gives the
same whatever the variables for the default one are. -/
theorem locateJavac_eq_iff_locates (m : Machine) (timeout : Binary64) (home : Option String)
    (path : String) (hpath : m.envValue? "PATH" = some path) (hanswers : ¬ m.LookupFails home) :
    (∀ result, m.locateJavac timeout home = result ↔ m.Locates path timeout home result) ∧
    (∀ e, m.locateJavac timeout home = .error e → e.isUnavailable = true) ∧
    ∀ name, home = some name → name ≠ "" → ∀ environment,
      AgreesElsewhere m.environment environment →
        { m with environment }.locateJavac timeout home = m.locateJavac timeout home := by
  have hlocates : ∀ result, m.locateJavac timeout home = result ↔
      m.Locates path timeout home result := by
    intro result
    constructor
    · rintro rfl
      obtain ⟨result, hresult⟩ := exists_locates hpath hanswers
      rw [hresult.locateJavac_eq hpath hanswers]
      exact hresult
    · exact fun h => h.locateJavac_eq hpath hanswers
  refine ⟨hlocates, fun e he => ((hlocates _).mp he).isUnavailable, ?_⟩
  rintro name rfl hne environment hagrees
  rw [locateJavac_named hne, locateJavac_named hne, namedJavac_congr hagrees]

/-- A machine on which the variable names an installation whose program may be run but is no file,
and on which the first directory of the search path is missing, the second holds a directory of the
name, and two more hold programs. -/
def crowdedWorkshop : Machine :=
  { Javac.workshop with
    environment := [("JAVA_HOME", "/jdk"), ("PATH", "/missing:/srv:/usr/bin/:/bin")]
    files := ⟨[(["jdk"], .directory), (["jdk", "bin"], .directory),
      (["jdk", "bin", "javac"], .socket true), (["srv"], .directory),
      (["srv", "javac"], .directory), (["usr"], .directory), (["usr", "bin"], .directory),
      (["usr", "bin", "javac"], .file [] true none), (["bin"], .directory),
      (["bin", "javac"], .file [] true none)]⟩ }

/-- On that machine the first of the two programs is found, by the rule for the search path, and
there is none for the installation by its name. -/
theorem locateJavac_eq_iff_locates_crowdedWorkshop :
    crowdedWorkshop.envValue? "PATH" = some "/missing:/srv:/usr/bin/:/bin" ∧
      ¬ crowdedWorkshop.LookupFails none ∧ ¬ crowdedWorkshop.LookupFails (some "/jdk") ∧
      crowdedWorkshop.Locates "/missing:/srv:/usr/bin/:/bin" (.ofNat 60) none
        (.ok ⟨Path.ofString "/usr/bin/javac", .ofNat 60⟩) ∧
      crowdedWorkshop.Locates "/missing:/srv:/usr/bin/:/bin" (.ofNat 60) (some "/jdk")
        (.error (.noneAt "/jdk")) ∧
      { crowdedWorkshop with environment := [] }.locateJavac (.ofNat 60) (some "/jdk") =
        .error (.noneAt "/jdk") := by
  have hpath : crowdedWorkshop.envValue? "PATH" = some "/missing:/srv:/usr/bin/:/bin" := by decide
  have hdefault : crowdedWorkshop.locateJavac (.ofNat 60) none =
      .ok ⟨Path.ofString "/usr/bin/javac", .ofNat 60⟩ := by decide +kernel
  have hnamed : crowdedWorkshop.locateJavac (.ofNat 60) (some "/jdk") =
      .error (.noneAt "/jdk") := by decide +kernel
  have hanswers : ¬ crowdedWorkshop.LookupFails none := by
    rw [← locateJavac_fails_iff, hdefault]
    exact not_searchFails_ok _
  have hanswers' : ¬ crowdedWorkshop.LookupFails (some "/jdk") := by
    rw [← locateJavac_fails_iff, hnamed]
    rintro ⟨e, ⟨⟩, hfails⟩
    cases hfails
  obtain ⟨hlocates, -, -⟩ :=
    locateJavac_eq_iff_locates crowdedWorkshop (.ofNat 60) none _ hpath hanswers
  obtain ⟨hlocates', -, hsame⟩ :=
    locateJavac_eq_iff_locates crowdedWorkshop (.ofNat 60) (some "/jdk") _ hpath hanswers'
  have hagrees : AgreesElsewhere crowdedWorkshop.environment [] := by
    intro name hjava hpath
    simp [crowdedWorkshop, Tables.lookup_cons_eq, hjava, hpath]
  refine ⟨hpath, hanswers, hanswers', (hlocates _).mp hdefault, (hlocates' _).mp hnamed, ?_⟩
  rw [hsame "/jdk" rfl (by decide) [] hagrees, hnamed]

end LintDaemon.Machine
