import LintDaemon.Proofs.Daemon.History
import LintDaemon.Proofs.Toolchain.Lookup
import Mathlib.Data.List.Induction

/-!
# The compiler in use

Whether the compiler of a session belongs to the installation that the session names.

* `Session.run`: the session behind requests, whatever comes of each of them.
* `SessionSettings.lookedUp`: the installation named last whose search did not fail.
* `Session.UsesItsCompiler`: the compiler in use is the one that the search for the recorded
  installation finds, or there is none because that search says so.
* `Session.run_inUse`: the recorded installation is the one named last, and the compiler is that of
  the one looked up last. This is the invariant of a run.
* `Session.run_usesItsCompiler_iff`: on a machine, a session uses its compiler exactly if the search
  for the recorded installation does not fail, and naming an installation fails with the search.

A search that fails takes neither branch of `Session.findCompiler` that sets the compiler, though
the installation has been recorded before. So the two differ from then on until a search answers.
-/

namespace LintDaemon

/-! ## Searches that answer -/

/-- A toolchain answers unless its search fails. -/
theorem Toolchain.answers_iff {toolchain : Toolchain} {home : Option String} :
    toolchain.Answers home ↔ ¬ SearchFails (toolchain home) := by
  unfold Answers SearchFails
  simp

/-- Whether a toolchain answers can be computed. -/
instance (toolchain : Toolchain) (home : Option String) : Decidable (toolchain.Answers home) :=
  match h : toolchain home with
  | .ok _ => isTrue (by simp [Toolchain.Answers, h])
  | .error e => decidable_of_iff (e.isUnavailable = true) (by simp [Toolchain.Answers, h])

/-- The installation named last whose search did not fail, or the one from before. -/
def SessionSettings.lookedUp (toolchain : Toolchain) (settings : SessionSettings)
    (requests : List Request) : Option String :=
  ((requests.filterMap (Request.valueFor? Request.jdkProperty)).filter
    fun home => toolchain.Answers (some home)).getLast?.or settings.jdkHome

section settings

variable {toolchain : Toolchain} (settings : SessionSettings) (requests : List Request)

/-- One more request has the last word, if it names an installation. -/
theorem SessionSettings.jdkHome_after_concat (r : Request) :
    (settings.after (requests ++ [r])).jdkHome =
      (r.valueFor? Request.jdkProperty).or (settings.after requests).jdkHome := by
  unfold after
  dsimp only
  rw [Request.lastValue?_concat, Option.or_assoc]

/-- One more request has the last word, if it names an installation whose search answers. -/
theorem SessionSettings.lookedUp_concat (r : Request) :
    settings.lookedUp toolchain (requests ++ [r]) =
      ((r.valueFor? Request.jdkProperty).filter fun home => toolchain.Answers (some home)).or
        (settings.lookedUp toolchain requests) := by
  unfold lookedUp
  rw [List.filterMap_append, List.filter_append, List.getLast?_append, ← Option.or_assoc]
  congr 2
  cases hvalue : r.valueFor? Request.jdkProperty with
  | none => simp [hvalue]
  | some home =>
    by_cases h : toolchain.Answers (some home) <;> simp [hvalue, h, Option.filter_some]

/-- The installation named last is the one looked up last, if its search answers. -/
theorem SessionSettings.lookedUp_eq
    (h : toolchain.Answers (settings.after requests).jdkHome) :
    settings.lookedUp toolchain requests = (settings.after requests).jdkHome := by
  induction requests using List.reverseRecOn with
  | nil => rfl
  | append_singleton requests r ih =>
    rw [jdkHome_after_concat] at h ⊢
    rw [lookedUp_concat]
    cases hvalue : r.valueFor? Request.jdkProperty with
    | none =>
      rw [hvalue] at h
      exact ih h
    | some home =>
      rw [hvalue, Option.some_or] at h
      rw [Option.filter_some, if_pos (decide_eq_true h)]
      rfl

end settings

namespace Session

variable {toolchain : Toolchain}

/-! ## One request -/

/-- A search that fails leaves the compiler as it was. -/
theorem findCompiler_of_fails (s : Session) (h : SearchFails (toolchain s.jdkHome)) :
    ∃ e, s.findCompiler toolchain = ⟨.error (.locate e), s, []⟩ := by
  obtain ⟨e, he, hfails⟩ := h
  refine ⟨e, ?_⟩
  unfold findCompiler
  rw [he]
  simp [hfails]

/-- An installation whose search fails is recorded, and the compiler stays as it was. -/
theorem setJdk_of_fails (s : Session) (home : String) (h : SearchFails (toolchain (some home))) :
    ∃ e, s.setJdk toolchain home = ⟨.error (.locate e), { s with jdkHome := some home }, []⟩ := by
  obtain ⟨e, he⟩ := findCompiler_of_fails { s with jdkHome := some home } h
  refine ⟨e, ?_⟩
  unfold setJdk
  rw [he]

/-- Naming an installation fails exactly if its search does. -/
theorem setJdk_result_iff (s : Session) (home : String) :
    (∃ found, (s.setJdk toolchain home).result = .ok found) ↔ toolchain.Answers (some home) := by
  constructor
  · rintro ⟨found, hfound⟩
    refine Toolchain.answers_iff.mpr fun hfails => ?_
    obtain ⟨e, he⟩ := setJdk_of_fails s home hfails
    rw [he] at hfound
    cases hfound
  · exact setJdk_result s home

/-- A session begins exactly if the search for its first installation does not fail. -/
theorem start_result_iff (settings : SessionSettings) :
    (∃ found, (start toolchain settings).result = .ok found) ↔
      toolchain.Answers settings.jdkHome := by
  constructor
  · rintro ⟨found, hfound⟩
    refine Toolchain.answers_iff.mpr fun hfails => ?_
    obtain ⟨e, he⟩ :=
      findCompiler_of_fails ⟨settings.classpath, settings.jdkHome, none, 0⟩ hfails
    rw [start, he] at hfound
    cases hfound
  · exact findCompiler_result ⟨settings.classpath, settings.jdkHome, none, 0⟩

/-- A request that names no installation leaves the installation and the compiler alone. -/
theorem dispatch_of_valueFor?_none (toolchain : Toolchain) (s : Session) {r : Request}
    (h : r.valueFor? Request.jdkProperty = none) :
    (s.dispatch toolchain r).session.jdkHome = s.jdkHome ∧
      (s.dispatch toolchain r).session.compiler = s.compiler := by
  cases r with
  | lint name body =>
    rw [dispatch, lint_session]
    exact ⟨rfl, rfl⟩
  | set property value =>
    have hjdk : property ≠ Request.jdkProperty := by
      rintro rfl
      exact absurd h (by simp [Request.valueFor?])
    rw [dispatch, set, if_neg hjdk]
    split_ifs <;> exact ⟨rfl, rfl⟩
  | kill => exact ⟨rfl, rfl⟩
  | unknown header => exact ⟨rfl, rfl⟩
  | malformed header fault => exact ⟨rfl, rfl⟩

/-- A request that names an installation sets it. -/
theorem dispatch_of_valueFor?_some (s : Session) {r : Request} {home : String}
    (h : r.valueFor? Request.jdkProperty = some home) :
    (s.dispatch toolchain r).session = (s.setJdk toolchain home).session := by
  cases r with
  | set property value =>
    by_cases hjdk : property = Request.jdkProperty
    · subst hjdk
      obtain rfl : value = home := by simpa [Request.valueFor?] using h
      rfl
    · exact absurd h (by simp [Request.valueFor?, hjdk])
  | lint | kill | unknown | malformed => cases h

/-! ## A run -/

/-- The session behind requests, whatever comes of each of them. -/
def run (toolchain : Toolchain) (s : Session) (requests : List Request) : Session :=
  requests.foldl (fun s r => (s.dispatch toolchain r).session) s

/-- One more request is carried out behind the others. -/
theorem run_concat (s : Session) (requests : List Request) (r : Request) :
    run toolchain s (requests ++ [r]) =
      ((run toolchain s requests).dispatch toolchain r).session := by
  unfold run
  rw [List.foldl_append]
  rfl

/-- **The recorded installation is the one named last, and the compiler is that of the one looked
up last.** -/
theorem run_inUse {settings : SessionSettings} (hstart : toolchain.Answers settings.jdkHome)
    (requests : List Request) :
    (run toolchain (start toolchain settings).session requests).jdkHome =
        (settings.after requests).jdkHome ∧
      (run toolchain (start toolchain settings).session requests).compiler =
        (toolchain (settings.lookedUp toolchain requests)).toOption := by
  -- by the last request: the one that names an installation last decides what is recorded, and
  -- what is in use if its search answers
  induction requests using List.reverseRecOn with
  | nil =>
    have hsession := findCompiler_session
      ⟨settings.classpath, settings.jdkHome, none, 0⟩ hstart
    rw [run, List.foldl_nil, start, hsession]
    exact ⟨rfl, rfl⟩
  | append_singleton requests r ih =>
    rw [run_concat, SessionSettings.jdkHome_after_concat, SessionSettings.lookedUp_concat]
    cases hvalue : r.valueFor? Request.jdkProperty with
    | none =>
      obtain ⟨hhome, hcompiler⟩ := dispatch_of_valueFor?_none toolchain
        (run toolchain (start toolchain settings).session requests) hvalue
      rw [hhome, hcompiler]
      exact ih
    | some home =>
      rw [dispatch_of_valueFor?_some _ hvalue]
      by_cases hanswers : toolchain.Answers (some home)
      · rw [setJdk_session _ _ hanswers, Option.filter_some, if_pos (decide_eq_true hanswers)]
        exact ⟨rfl, rfl⟩
      · obtain ⟨e, he⟩ := setJdk_of_fails
          (run toolchain (start toolchain settings).session requests) home
          (not_not.mp (mt Toolchain.answers_iff.mpr hanswers))
        rw [he, Option.filter_some, if_neg (by simpa using hanswers)]
        exact ⟨rfl, ih.2⟩

/-- The compiler in use belongs to the recorded installation. -/
inductive UsesItsCompiler (toolchain : Toolchain) (s : Session) : Prop
  /-- It is the one that is found for it. -/
  | found {compiler : Compiler} (h : toolchain s.jdkHome = .ok compiler)
    (hcompiler : s.compiler = some compiler)
  /-- There is none, because none is found. -/
  | notFound {e : LocateError} (h : toolchain s.jdkHome = .error e)
    (hunavailable : e.isUnavailable = true) (hcompiler : s.compiler = none)

/-- The compiler in use is the answer of the search for the recorded installation. -/
theorem usesItsCompiler_iff {s : Session} :
    s.UsesItsCompiler toolchain ↔
      toolchain.Answers s.jdkHome ∧ s.compiler = (toolchain s.jdkHome).toOption := by
  constructor
  · rintro (⟨h, hcompiler⟩ | ⟨h, hunavailable, hcompiler⟩)
    · rw [h]
      refine ⟨fun e he => ?_, hcompiler⟩
      cases h.symm.trans he
    · rw [h]
      refine ⟨fun e he => ?_, hcompiler⟩
      cases h.symm.trans he
      exact hunavailable
  · rintro ⟨hanswers, hcompiler⟩
    cases h : toolchain s.jdkHome with
    | ok compiler => exact .found h (hcompiler.trans (congrArg Except.toOption h))
    | error e => exact .notFound h (hanswers e h) (hcompiler.trans (congrArg Except.toOption h))

/-- **On a machine a session uses its compiler exactly if the search for the recorded installation
does not fail.** In any case the compiler is that of the installation looked up last, and naming an
installation fails exactly if its search does. -/
theorem run_usesItsCompiler_iff (m : Machine) (timeout : Binary64) (settings : SessionSettings)
    (hstart : ∃ found, (start (m.toolchain timeout) settings).result = .ok found)
    (requests : List Request) :
    let toolchain := m.toolchain timeout
    let s := run toolchain (start toolchain settings).session requests
    s.jdkHome = (settings.after requests).jdkHome ∧
      (s.UsesItsCompiler toolchain ↔ ¬ m.LookupFails s.jdkHome) ∧
      s.compiler = (toolchain (settings.lookedUp toolchain requests)).toOption ∧
      ∀ home, (∃ found, (s.setJdk toolchain home).result = .ok found) ↔
        ¬ m.LookupFails (some home) := by
  intro toolchain s
  have hanswers : ∀ home, toolchain.Answers home ↔ ¬ m.LookupFails home := fun home =>
    Toolchain.answers_iff.trans (not_congr Machine.toolchain_fails_iff)
  obtain ⟨hhome, hcompiler⟩ := run_inUse ((start_result_iff settings).mp hstart) requests
  refine ⟨hhome, ?_, hcompiler, fun home => (setJdk_result_iff s home).trans (hanswers _)⟩
  rw [usesItsCompiler_iff, hanswers]
  refine and_iff_left_of_imp fun hfound => ?_
  have hlast := settings.lookedUp_eq requests (hhome ▸ (hanswers _).mpr hfound)
  rw [hcompiler, hlast, hhome]

/-- A machine with one installation, and without home directories. -/
def sampleMachine : Machine where
  files := ⟨[(["jdk"], .directory), (["jdk", "bin"], .directory),
    (["jdk", "bin", "javac"], .file [] true none)]⟩
  directory := []
  environment := []
  homes := []
  account := "root"
  settingsFile := .ofString "/settings"
  freshDirectory := "/work"
  neverEnds := false
  uptime := .zero false

/-- Behind an unknown home directory and an installation without a compiler, there is no compiler
in use, as it should be. -/
theorem run_usesItsCompiler_iff_sample :
    let toolchain := sampleMachine.toolchain (.ofNat 60)
    (∃ found, (start toolchain ⟨"", some "/jdk"⟩).result = .ok found) ∧
      (run toolchain (start toolchain ⟨"", some "/jdk"⟩).session
        [.set Request.jdkProperty "~nobody", .set Request.jdkProperty "/none"]).UsesItsCompiler
          toolchain := by
  intro toolchain
  have hstart : ∃ found, (start toolchain ⟨"", some "/jdk"⟩).result = .ok found := ⟨true, by rfl⟩
  obtain ⟨hhome, huses, -⟩ := run_usesItsCompiler_iff sampleMachine (.ofNat 60) ⟨"", some "/jdk"⟩
    hstart [.set Request.jdkProperty "~nobody", .set Request.jdkProperty "/none"]
  refine ⟨hstart, huses.mpr ?_⟩
  have hanswers : toolchain.Answers (some "/none") := by decide +kernel
  rw [hhome]
  exact mt Machine.toolchain_fails_iff.mpr (Toolchain.answers_iff.mp hanswers)

/-- Behind an unknown home directory the compiler is still that of the installation before. -/
theorem not_forall_run_compiler : ¬ ∀ (m : Machine) (timeout : Binary64)
    (settings : SessionSettings) (requests : List Request),
    (∃ found, (start (m.toolchain timeout) settings).result = .ok found) →
      let s := run (m.toolchain timeout) (start (m.toolchain timeout) settings).session requests
      s.compiler = (m.toolchain timeout s.jdkHome).toOption ∧
        ∀ home, ∃ found, (s.setJdk (m.toolchain timeout) home).result = .ok found := by
  intro h
  have hstart : ∃ found,
      (start (sampleMachine.toolchain (.ofNat 60)) ⟨"", some "/jdk"⟩).result = .ok found :=
    ⟨true, by rfl⟩
  obtain ⟨hcompiler, -⟩ := h sampleMachine (.ofNat 60) ⟨"", some "/jdk"⟩
    [.set Request.jdkProperty "~nobody"] hstart
  have hsome := congrArg Option.isSome hcompiler
  exact absurd hsome (by decide +kernel)

end Session

end LintDaemon
