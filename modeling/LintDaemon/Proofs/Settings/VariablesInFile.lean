import LintDaemon.Proofs.Settings.Precedence
import LintDaemon.Proofs.Tables
import LintDaemon.Settings.Source

/-!
# Variables in the file of variables

A variable of the program may stand in the environment or, where there is no settings file, in the
file of variables. The two are read under different names: in the environment each variable has its
place in a table, in the file it loses what all of them begin with. The names agree but for the time
for reading, whose variable ends in its unit.

* `SetsOnly`: files that set one variable and no other.
* `Machine.Keeps`, `Machine.Exports`: machines on which a variable is given by the file, and by the
  environment.
* `ofValues_keeps_eq`: a variable that keeps its name in the file gives the same settings.
* `Machine.loadSettings_keeps_eq_iff`: which variables, with which values, work the same from both.
-/

namespace LintDaemon

open LintDaemon.Text

namespace Settings

open LintDaemon.Numeral (WritesFloat)

/-- The variables that go before values. -/
def variableNames : List String :=
  ["JAVALINT_PORT", "JAVALINT_READ_TIMEOUT_S", "JAVALINT_JDK_HOME"]

/-- A file of variables that sets a variable to a value, and no other: the line `name=value`, if
the value is read as it stands there, or a longer way to say the same. -/
def SetsOnly (environment : Values) (bytes : List UInt8) (name value : String) : Prop :=
  ∃ text, Utf8.decode bytes = .ok text ∧
    EnvFile.resolve (environment.map fun (name, value) => (name.toList, value.toList))
      (EnvFile.bindings (normalizeNewlines text)) = [(name.toList, some value.toList)]

variable {environment environment' values : Values} {name value : String} {settings : Settings}

/-- The values of a file that sets one variable. -/
theorem valuesOfEnvFile_of_setsOnly {bytes : List UInt8}
    (h : SetsOnly environment bytes name value) :
    valuesOfEnvFile environment bytes =
      .ok [(String.ofList (nameOfVariable name.toList), value)] := by
  obtain ⟨text, hdecode, hresolve⟩ := h
  unfold valuesOfEnvFile
  rw [hdecode]
  dsimp only [Except.mapError, bind, Except.bind, pure, Except.pure]
  rw [hresolve]
  simp [EnvFile.assign]

/-- What goes before values are the variables. -/
theorem mem_variableNames {key : String} (h : overrides.lookup key = some name) :
    name ∈ variableNames := by
  have hentry := Tables.mem_of_lookup_eq_some h
  simp only [overrides, List.mem_cons, Prod.mk.injEq, List.not_mem_nil, or_false] at hentry
  rcases hentry with ⟨-, rfl⟩ | ⟨-, rfl⟩ | ⟨-, rfl⟩ <;> decide

/-- The table has each variable once. -/
theorem overrides_inj {key other : String} (hkey : overrides.lookup key = some name)
    (hother : overrides.lookup other = some name) : key = other := by
  have hentry := Tables.mem_of_lookup_eq_some hkey
  have hentry' := Tables.mem_of_lookup_eq_some hother
  simp only [overrides, List.mem_cons, Prod.mk.injEq, List.not_mem_nil, or_false] at hentry hentry'
  rcases hentry with ⟨rfl, rfl⟩ | ⟨rfl, rfl⟩ | ⟨rfl, rfl⟩ <;> simpa [eq_comm] using hentry'

/-- A name without a text gives none. -/
theorem given?_eq_none (h : values.lookup name = none) : given? values name = none := by
  rw [given?, h]
  rfl

/-! ## The same names -/

/-- A variable that is read in the file under the name of its value gives the same settings from
there as from the environment. -/
theorem ofValues_keeps_eq {key : String} (hkey : overrides.lookup key = some name)
    (hunset : ∀ other ∈ variableNames, environment.lookup other = none)
    (hothers : ∀ other ∈ variableNames, other ≠ name → environment'.lookup other = none)
    (hset : environment'.lookup name = some value) :
    ofValues environment [(key, value)] = ofValues environment' [] := by
  have hlookup : ∀ other, List.lookup other [(key, value)] =
      if other = key then some value else none :=
    Tables.lookup_cons_eq key value []
  have hplain : ∀ other, overrides.lookup other = none →
      effective environment [(key, value)] other = effective environment' [] other := by
    intro other hother
    have hne : other ≠ key := by
      rintro rfl
      cases hother.symm.trans hkey
    rw [effective_of_lookup_eq_none _ _ hother, effective_of_lookup_eq_none _ _ hother, text, text,
      hlookup, if_neg hne]
    rfl
  refine ofValues_congr (fun other => ?_) (hplain "classpath" (by decide))
  cases hother : overrides.lookup other with
  | none => rw [hplain other hother]
  | some variableName =>
    rw [nonBlank?_effective _ _ hother, nonBlank?_effective _ _ hother, counting?, counting?,
      given?_eq_none (hunset _ (mem_variableNames hother)), Option.none_or,
      given?_eq_none (show List.lookup other [] = none from rfl), Option.or_none, given?, hlookup]
    by_cases hsame : other = key
    · subst hsame
      obtain rfl : name = variableName := Option.some.inj (hkey.symm.trans hother)
      rw [if_pos rfl, given?, hset]
    · have hne : variableName ≠ name := by
        rintro rfl
        exact hsame (overrides_inj hother hkey)
      rw [if_neg hsame, given?_eq_none (hothers _ (mem_variableNames hother) hne)]
      rfl

/-! ## The time for reading -/

/-- The names under which settings are read from values. -/
def valueNames : List String :=
  ["host", "port", "read_timeout", "compile_timeout", "classpath", "jdk_home", "log_level"]

/-- Values that give nothing under these names, with at most one variable, give the settings where
nothing is set exactly if the time for reading is the one where none is set. -/
theorem ofValues_eq_default_iff (hvalues : ∀ key ∈ valueNames, values.lookup key = none)
    (hunset : ∀ other ∈ variableNames, other ≠ "JAVALINT_READ_TIMEOUT_S" →
      environment.lookup other = none) :
    ofValues environment values = .ok default ↔
      IsReadFrom WritesFloat (.ofNat 30) (given? environment "JAVALINT_READ_TIMEOUT_S")
        (.ofNat 30) := by
  have hgiven : ∀ key ∈ valueNames, given? values key = none := fun key hkey =>
    given?_eq_none (hvalues key hkey)
  have hcounting : ∀ key ∈ valueNames, ∀ variableName,
      counting? environment values variableName key = given? environment variableName := by
    intro key hkey variableName
    rw [counting?, hgiven key hkey, Option.or_none]
  have hport : given? environment "JAVALINT_PORT" = none :=
    given?_eq_none (hunset _ (by decide) (by decide))
  have hhome : given? environment "JAVALINT_JDK_HOME" = none :=
    given?_eq_none (hunset _ (by decide) (by decide))
  rw [ofValues_eq_ok_iff_isGivenBy]
  constructor
  · intro h
    have hread := h.readTimeout
    rwa [hcounting _ (by decide)] at hread
  · intro hread
    refine ⟨?_, ?_, ?_, ?_, ?_, ?_, ?_⟩
    · rw [hgiven _ (by decide)]
      rfl
    · rw [hcounting _ (by decide), hport]
      rfl
    · rw [hcounting _ (by decide)]
      exact hread
    · rw [hgiven _ (by decide)]
      rfl
    · rw [hvalues _ (by decide)]
      rfl
    · rw [hcounting _ (by decide), hhome]
      rfl
    · rw [hgiven _ (by decide)]
      rfl

end Settings

/-! ## The two machines -/

namespace Machine

open LintDaemon.Numeral (WritesFloat)
open LintDaemon.Settings

variable {m : Machine} {name value : String}

/-- The machine has no settings file, no variable of the program is set, and its file of variables
sets one. -/
structure Keeps (m : Machine) (name value : String) : Prop where
  /-- There is no settings file. -/
  noSettings : m.files.find? m.directory m.settingsFile.toString = none
  /-- No variable of the program is set. -/
  unset : ∀ other ∈ variableNames, m.envValue? other = none
  /-- The file of variables sets the one and no other. -/
  sets : ∃ bytes executable program,
    m.files.find? m.directory envFilePath = some (.file bytes executable program) ∧
      SetsOnly m.environment bytes name value

/-- The machine has neither a settings file nor one of variables, and one variable of the program is
set. -/
structure Exports (m : Machine) (name value : String) : Prop where
  /-- There is no settings file. -/
  noSettings : m.files.find? m.directory m.settingsFile.toString = none
  /-- There is no file of variables. -/
  noFile : m.files.find? m.directory envFilePath = none
  /-- No other variable of the program is set. -/
  unset : ∀ other ∈ variableNames, other ≠ name → m.envValue? other = none
  /-- The one is. -/
  set : m.envValue? name = some value

/-- The settings of a machine whose file of variables sets one. -/
theorem Keeps.loadSettings_eq (h : m.Keeps name value) :
    m.loadSettings = (ofValues m.environment
      [(String.ofList (nameOfVariable name.toList), value)]).mapError .value := by
  obtain ⟨bytes, executable, program, hfile, hsets⟩ := h.sets
  unfold loadSettings loadValues
  dsimp only
  rw [h.noSettings]
  dsimp only
  rw [hfile]
  dsimp only
  rw [valuesOfEnvFile_of_setsOnly hsets]
  rfl

/-- The settings of a machine on which one variable is set. -/
theorem Exports.loadSettings_eq (h : m.Exports name value) :
    m.loadSettings = (ofValues m.environment []).mapError .value := by
  unfold loadSettings loadValues
  dsimp only
  rw [h.noSettings]
  dsimp only
  rw [h.noFile]
  rfl

/-- The time for reading is not read from the file of variables. -/
theorem Keeps.loadSettings_of_readTimeout (h : m.Keeps "JAVALINT_READ_TIMEOUT_S" value) :
    m.loadSettings = .ok default := by
  have hname : String.ofList (nameOfVariable "JAVALINT_READ_TIMEOUT_S".toList) =
      "read_timeout_s" := by decide +kernel
  have hvalues : ∀ key ∈ valueNames, List.lookup key [("read_timeout_s", value)] = none := by
    intro key hkey
    have hne : key ≠ "read_timeout_s" := by
      rintro rfl
      exact absurd hkey (by decide)
    rw [Tables.lookup_cons_eq, if_neg hne]
    rfl
  have hunset := given?_eq_none (h.unset "JAVALINT_READ_TIMEOUT_S" (by decide))
  have hread : ofValues m.environment [("read_timeout_s", value)] = .ok default := by
    rw [ofValues_eq_default_iff hvalues fun other hother _ => h.unset other hother, hunset]
    rfl
  rw [h.loadSettings_eq, hname, hread]
  rfl

/-- In the environment it is read, and is the one where none is set exactly if it is white space or
says so. -/
theorem Exports.loadSettings_eq_default_iff (h : m.Exports "JAVALINT_READ_TIMEOUT_S" value) :
    m.loadSettings = .ok default ↔
      isUnset value = true ∨ WritesFloat value.toList (.ofNat 30) := by
  have hset : m.environment.lookup "JAVALINT_READ_TIMEOUT_S" = some value := h.set
  rw [h.loadSettings_eq, Result.mapError_eq_ok_iff,
    ofValues_eq_default_iff (fun _ _ => rfl) fun other hother hne => h.unset other hother hne,
    given?, hset, Option.bind_some, nonBlank?]
  cases isUnset value with
  | true => exact iff_of_true rfl (Or.inl rfl)
  | false => simp [IsReadFrom]

/-- **Which variables work the same from the file as from the environment.** Where there is no
settings file and no other variable of the program is set, a variable that only the file of
variables sets gives the same settings, or the same error, as if it were set in the environment, but
for the time for reading. The file's time for reading is passed over, and all is as if nothing were
set: the same as in the environment exactly if it is white space or the time where none is set. -/
theorem loadSettings_keeps_eq_iff {inFile inEnvironment : Machine} {name value : String}
    (hname : name ∈ variableNames) (hfile : inFile.Keeps name value)
    (henvironment : inEnvironment.Exports name value) :
    (inFile.loadSettings = inEnvironment.loadSettings ↔
      (name = "JAVALINT_READ_TIMEOUT_S" →
        isUnset value = true ∨ WritesFloat value.toList (.ofNat 30))) ∧
    (name = "JAVALINT_READ_TIMEOUT_S" → inFile.loadSettings = .ok default) := by
  have hsame : ∀ key, overrides.lookup key = some name →
      String.ofList (nameOfVariable name.toList) = key →
        inFile.loadSettings = inEnvironment.loadSettings := by
    intro key hkey hkept
    rw [hfile.loadSettings_eq, henvironment.loadSettings_eq, hkept,
      ofValues_keeps_eq hkey hfile.unset henvironment.unset henvironment.set]
  simp only [variableNames, List.mem_cons, List.not_mem_nil, or_false] at hname
  rcases hname with rfl | rfl | rfl
  · refine ⟨iff_of_true (hsame "port" (by decide) (by decide +kernel)) fun h => ?_, fun h => ?_⟩ <;>
      exact absurd h (by decide)
  · refine ⟨?_, fun _ => hfile.loadSettings_of_readTimeout⟩
    rw [hfile.loadSettings_of_readTimeout, eq_comm, henvironment.loadSettings_eq_default_iff]
    exact ⟨fun h _ => h, fun h => h rfl⟩
  · refine ⟨iff_of_true (hsame "jdk_home" (by decide) (by decide +kernel)) fun h => ?_,
      fun h => ?_⟩ <;> exact absurd h (by decide)

/-- A machine without settings. -/
def bareMachine : Machine where
  files := ⟨[]⟩
  directory := []
  environment := [("HOME", "/home/lint")]
  homes := []
  account := "lint"
  settingsFile := Path.ofString "/lint.ini"
  freshDirectory := "/tmp/work"
  neverEnds := false
  uptime := .zero false

/-- That machine with a file of variables that holds one line. -/
def keepingLine (line : String) : Machine :=
  { bareMachine with files := ⟨[([".env"], .file (Utf8.encode line.toList) false none)]⟩ }

/-- That machine with one more variable. -/
def exporting (name value : String) : Machine :=
  { bareMachine with environment := (name, value) :: bareMachine.environment }

/-- A port that is out of range is refused in the same words, wherever it is set. -/
theorem loadSettings_keeps_eq_iff_port :
    "JAVALINT_PORT" ∈ variableNames ∧
      (keepingLine "JAVALINT_PORT=70000\n").Keeps "JAVALINT_PORT" "70000" ∧
      (exporting "JAVALINT_PORT" "70000").Exports "JAVALINT_PORT" "70000" ∧
      (keepingLine "JAVALINT_PORT=70000\n").loadSettings =
        (exporting "JAVALINT_PORT" "70000").loadSettings ∧
      (exporting "JAVALINT_PORT" "70000").loadSettings =
        .error (.value (.portOutOfRange 70000)) := by
  have hfile : (keepingLine "JAVALINT_PORT=70000\n").Keeps "JAVALINT_PORT" "70000" :=
    ⟨by rfl, by decide, _, _, _, by rfl, _, by rfl, by rfl⟩
  have henvironment : (exporting "JAVALINT_PORT" "70000").Exports "JAVALINT_PORT" "70000" :=
    ⟨by rfl, by rfl, by decide, by rfl⟩
  refine ⟨by decide, hfile, henvironment, ?_, by decide +kernel⟩
  exact (loadSettings_keeps_eq_iff (by decide) hfile henvironment).1.mpr
    fun h => absurd h (by decide)

/-- A time for reading of five seconds is that in the environment, and in the file it is none. -/
theorem not_forall_loadSettings_keeps_eq : ¬ ∀ (inFile inEnvironment : Machine)
    (name value : String), name ∈ variableNames → inFile.Keeps name value →
      inEnvironment.Exports name value → inFile.loadSettings = inEnvironment.loadSettings := by
  intro h
  have hsame := h (keepingLine "JAVALINT_READ_TIMEOUT_S=5\n")
    (exporting "JAVALINT_READ_TIMEOUT_S" "5") "JAVALINT_READ_TIMEOUT_S" "5" (by decide)
    ⟨by rfl, by decide, _, _, _, by rfl, _, by rfl, by rfl⟩ ⟨by rfl, by rfl, by decide, by rfl⟩
  exact absurd hsame (by decide +kernel)

end Machine

end LintDaemon
