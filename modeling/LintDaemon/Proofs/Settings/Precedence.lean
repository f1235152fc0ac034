import LintDaemon.Proofs.Number.Written
import LintDaemon.Proofs.Results
import LintDaemon.Proofs.Settings.Accepted
import LintDaemon.Proofs.Tables

/-!
# Which texts count

A text that is all white space counts as not given. One that the environment gives goes before one
that is given among the values.

* `given?`, `counting?`: the text that is given under a name, and the one that counts for it.
* `IsGivenBy`: the settings that values and the environment give, said without the reader.
* `IsAcceptable`: the values and environments that give some.
* `ofValues_congr`: settings depend on the texts that count, and on the class path as it stands.
* `ofValues_precedence`: settings are read exactly as they are given; what does not count changes
  nothing.
-/

namespace LintDaemon.Settings

open LintDaemon.Text
open LintDaemon.Numeral (WritesInt WritesFloat int_eq_ok_iff float?_eq_some_iff)

/-! ## Texts that count -/

/-- A text, if it is not all white space. -/
def nonBlank? (text : String) : Option String :=
  if isUnset text then none else some text

/-- The text that is given under a name: there is one, and it is not all white space. -/
def given? (values : Values) (name : String) : Option String :=
  (values.lookup name).bind nonBlank?

/-- The text that counts for a name with a variable: the variable goes first. -/
def counting? (environment values : Values) (variableName name : String) : Option String :=
  (given? environment variableName).or (given? values name)

/-- What is read from the text that counts; something else if there is none. -/
def IsReadFrom {α : Type} (writes : List Char → α → Prop) (default : α) (text? : Option String)
    (a : α) : Prop :=
  match text? with
  | none => a = default
  | some text => writes text.toList a

/-- A whole number that is a port. -/
def WritesPort (s : List Char) (port : Int) : Prop :=
  WritesInt s port ∧ 0 ≤ port ∧ port ≤ 65535

/-- The settings that values and the environment give. -/
structure IsGivenBy (environment values : Values) (settings : Settings) : Prop where
  /-- The host without white space around it. -/
  host : settings.host = ((given? values "host").map trimmed).getD "127.0.0.1"
  /-- The port. -/
  port : IsReadFrom WritesPort 56789 (counting? environment values "JAVALINT_PORT" "port")
    settings.port
  /-- The time for reading. -/
  readTimeout : IsReadFrom WritesFloat (.ofNat 30)
    (counting? environment values "JAVALINT_READ_TIMEOUT_S" "read_timeout") settings.readTimeout
  /-- The time for compiling, which has no variable. -/
  compileTimeout : IsReadFrom WritesFloat (.ofNat 60) (given? values "compile_timeout")
    settings.compileTimeout
  /-- The class path as it stands, white space included. -/
  classpath : settings.classpath = (values.lookup "classpath").getD ""
  /-- The installation without white space around it, if there is one. -/
  jdkHome : settings.jdkHome =
    (counting? environment values "JAVALINT_JDK_HOME" "jdk_home").map trimmed
  /-- The log level without white space around it, in capital letters. -/
  logLevel : settings.logLevel = ((given? values "log_level").map fun text =>
    String.ofList (upper (trim text.toList))).getD "INFO"

/-- Values and an environment that give settings: what counts for the port is one, and what counts
for the times are numbers. -/
structure IsAcceptable (environment values : Values) : Prop where
  /-- The port is one. -/
  port : ∀ text ∈ counting? environment values "JAVALINT_PORT" "port",
    ∃ port, WritesPort text.toList port
  /-- The time for reading is a number. -/
  readTimeout : ∀ text ∈ counting? environment values "JAVALINT_READ_TIMEOUT_S" "read_timeout",
    ∃ seconds, WritesFloat text.toList seconds
  /-- So is that for compiling. -/
  compileTimeout : ∀ text ∈ given? values "compile_timeout",
    ∃ seconds, WritesFloat text.toList seconds

/-- Named texts without those of a name. -/
def without (name : String) (values : Values) : Values :=
  values.filter fun entry => entry.1 != name

/-! ## White space -/

section Blank

variable {α : Type} {text : String}

/-- What treats all white space alike depends on the text only if it is not white space. -/
theorem eq_of_nonBlank?_eq {f : String → α} {a : α} (hf : ∀ text, isUnset text = true → f text = a)
    {text text' : String} (h : nonBlank? text = nonBlank? text') : f text = f text' := by
  unfold nonBlank? at h
  cases htext : isUnset text with
  | true =>
    cases htext' : isUnset text' with
    | true => rw [hf text htext, hf text' htext']
    | false => simp [htext, htext'] at h
  | false =>
    cases htext' : isUnset text' with
    | true => simp [htext, htext'] at h
    | false => rw [show text = text' by simpa [htext, htext'] using h]

/-- The port that is read is given by the text if that is not white space. -/
theorem readPort_eq_ok_iff {port : Int} :
    readPort text = .ok port ↔ IsReadFrom WritesPort defaultPort (nonBlank? text) port := by
  unfold readPort nonBlank? IsReadFrom WritesPort
  cases isUnset text with
  | true => simp [eq_comm]
  | false =>
    rw [if_neg Bool.false_ne_true, if_neg Bool.false_ne_true]
    dsimp only
    rw [← int_eq_ok_iff]
    cases Numeral.int text.toList with
    | error e => exact iff_of_false nofun fun h => nomatch h.1
    | ok n =>
      dsimp only
      constructor
      · intro h
        split_ifs at h with hrange
        cases h
        exact ⟨rfl, hrange⟩
      · rintro ⟨⟨⟩, hrange⟩
        exact if_pos hrange

/-- The time that is read is given by the text if that is not white space. -/
theorem readSeconds_eq_ok_iff_isReadFrom {name : String} {default seconds : Binary64} :
    readSeconds name text default = .ok seconds ↔
      IsReadFrom WritesFloat default (nonBlank? text) seconds := by
  rw [readSeconds_eq_ok_iff]
  unfold nonBlank? IsReadFrom
  cases isUnset text with
  | true => simp
  | false => simp [float?_eq_some_iff]

/-- A text without white space around it is another one if nothing is left. -/
theorem trimmedOr_eq (default : String) :
    trimmedOr text default = ((nonBlank? text).map trimmed).getD default := by
  unfold trimmedOr nonBlank?
  cases isUnset text <;> rfl

/-- A text that is not all white space is not empty without the white space around it. -/
theorem trimmed_ne_empty (h : isUnset text = false) : trimmed text ≠ "" := by
  intro hempty
  have hnil : trim text.toList = [] := by
    have hlist := congrArg String.toList hempty
    rwa [trimmed, String.toList_ofList] at hlist
  have hstart : ∀ c ∈ trimStart text.toList, isBlank c = true := by
    rw [trim, trimEnd, dropEndWhile, List.reverse_eq_nil_iff, List.dropWhile_eq_nil_iff] at hnil
    exact fun c hc => hnil c (List.mem_reverse.mpr hc)
  have hall : isUnset text = true := by
    refine List.all_eq_true.mpr fun c hc => ?_
    rw [← List.takeWhile_append_dropWhile (p := isBlank) (l := text.toList)] at hc
    rcases List.mem_append.mp hc with hc | hc
    · exact List.mem_takeWhile_imp hc
    · exact hstart c hc
  cases hall.symm.trans h

end Blank

/-! ## Names -/

section Names

variable (environment values : Values) {name variableName : String}

/-- The text of a name, if it is given. -/
theorem nonBlank?_text (name : String) :
    nonBlank? (text values name) = given? values name := by
  unfold text given?
  cases values.lookup name with
  | none => rfl
  | some text => rfl

/-- The text that counts for a name with a variable. -/
theorem nonBlank?_effective (hname : overrides.lookup name = some variableName) :
    nonBlank? (effective environment values name) =
      counting? environment values variableName name := by
  unfold effective counting?
  rw [hname, given?, Option.bind_some]
  cases environment.lookup variableName with
  | none => exact nonBlank?_text values name
  | some text =>
    dsimp only [Option.bind_some]
    cases htext : isUnset text with
    | true =>
      rw [if_pos rfl, nonBlank?_text, nonBlank?, if_pos htext]
      rfl
    | false =>
      rw [if_neg Bool.false_ne_true, nonBlank?, if_neg (by rw [htext]; decide)]
      rfl

/-- A name without a variable has the text of the values. -/
theorem effective_of_lookup_eq_none (hname : overrides.lookup name = none) :
    effective environment values name = text values name := by
  unfold effective
  rw [hname, Option.bind_none]

/-- The text of a name among values without those of a name. -/
theorem lookup_without (other : String) :
    (without name values).lookup other = if other = name then none else values.lookup other := by
  unfold without
  rw [Tables.lookup_filter (· != name) values other]
  by_cases hother : other = name
  · rw [if_pos hother, if_neg (by simpa using hother)]
  · rw [if_neg hother, if_pos (by simpa using hother)]

end Names

/-! ## Settings that are given -/

variable {environment values : Values} {settings : Settings}

/-- The settings that are read, by what is read for each of them. -/
theorem ofValues_eq_ok_iff : ofValues environment values = .ok settings ↔
    readPort (effective environment values "port") = .ok settings.port ∧
    readSeconds "read_timeout" (effective environment values "read_timeout")
      defaultReadTimeout = .ok settings.readTimeout ∧
    readSeconds "compile_timeout" (effective environment values "compile_timeout")
      defaultCompileTimeout = .ok settings.compileTimeout ∧
    settings.host = trimmedOr (effective environment values "host") defaultHost ∧
    settings.classpath = effective environment values "classpath" ∧
    settings.jdkHome = (if trimmedOr (effective environment values "jdk_home") "" = "" then none
      else some (trimmedOr (effective environment values "jdk_home") "")) ∧
    settings.logLevel = String.ofList
      (upper (trimmedOr (effective environment values "log_level") defaultLogLevel).toList) := by
  obtain ⟨host, port, readTimeout, compileTimeout, classpath, jdkHome, logLevel⟩ := settings
  unfold ofValues
  simp only [Result.bind_eq_ok_iff, pure, Except.pure, Except.ok.injEq, Settings.mk.injEq]
  constructor
  · rintro ⟨_, hport, _, hread, _, hcompile, rfl, rfl, rfl, rfl, rfl, rfl, rfl⟩
    exact ⟨hport, hread, hcompile, rfl, rfl, rfl, rfl⟩
  · rintro ⟨hport, hread, hcompile, rfl, rfl, rfl, rfl⟩
    exact ⟨port, hport, readTimeout, hread, compileTimeout, hcompile, rfl, rfl, rfl, rfl, rfl, rfl,
      rfl⟩

/-- The installation that is read is the text that counts, without white space around it. -/
theorem jdkHome_eq {text : String} :
    (if trimmedOr text "" = "" then none else some (trimmedOr text "")) =
      (nonBlank? text).map trimmed := by
  rw [trimmedOr_eq]
  unfold nonBlank?
  cases htext : isUnset text with
  | true => rfl
  | false => exact if_neg (trimmed_ne_empty htext)

/-- The log level that is read is the text that counts, without white space around it and in capital
letters. -/
theorem logLevel_eq {text : String} :
    String.ofList (upper (trimmedOr text defaultLogLevel).toList) =
      ((nonBlank? text).map fun text => String.ofList (upper (trim text.toList))).getD "INFO" := by
  rw [trimmedOr_eq]
  cases nonBlank? text with
  | none => decide +kernel
  | some text => simp [trimmed]

/-- **Settings are read exactly as they are given.** -/
theorem ofValues_eq_ok_iff_isGivenBy :
    ofValues environment values = .ok settings ↔ IsGivenBy environment values settings := by
  have hplain {name : String} (h : overrides.lookup name = none) :
      effective environment values name = text values name :=
    effective_of_lookup_eq_none environment values h
  have hport := nonBlank?_effective environment values
    (show overrides.lookup "port" = some "JAVALINT_PORT" by decide)
  have hread := nonBlank?_effective environment values
    (show overrides.lookup "read_timeout" = some "JAVALINT_READ_TIMEOUT_S" by decide)
  have hhome := nonBlank?_effective environment values
    (show overrides.lookup "jdk_home" = some "JAVALINT_JDK_HOME" by decide)
  rw [ofValues_eq_ok_iff, readPort_eq_ok_iff, readSeconds_eq_ok_iff_isReadFrom,
    readSeconds_eq_ok_iff_isReadFrom, trimmedOr_eq, jdkHome_eq, logLevel_eq, hport, hread, hhome,
    hplain (by decide), hplain (by decide), hplain (by decide), hplain (by decide), nonBlank?_text,
    nonBlank?_text, nonBlank?_text]
  constructor
  · rintro ⟨hport, hread, hcompile, hhost, hclasspath, hhome, hlevel⟩
    exact ⟨hhost, hport, hread, hcompile, hclasspath, hhome, hlevel⟩
  · rintro ⟨hhost, hport, hread, hcompile, hclasspath, hhome, hlevel⟩
    exact ⟨hport, hread, hcompile, hhost, hclasspath, hhome, hlevel⟩

/-- Something can be read if there is nothing to read from, or that writes something. -/
theorem exists_isReadFrom_iff {α : Type} {writes : List Char → α → Prop} {default : α}
    {text? : Option String} :
    (∃ a, IsReadFrom writes default text? a) ↔ ∀ text ∈ text?, ∃ a, writes text.toList a := by
  cases text? with
  | none => exact iff_of_true ⟨default, rfl⟩ nofun
  | some text =>
    constructor
    · rintro ⟨a, ha⟩ _ ⟨⟩
      exact ⟨a, ha⟩
    · exact fun h => h text rfl

/-- Settings are given by the values and environments that are acceptable. -/
theorem exists_isGivenBy_iff :
    (∃ settings, IsGivenBy environment values settings) ↔ IsAcceptable environment values := by
  constructor
  · rintro ⟨settings, h⟩
    exact ⟨exists_isReadFrom_iff.mp ⟨_, h.port⟩, exists_isReadFrom_iff.mp ⟨_, h.readTimeout⟩,
      exists_isReadFrom_iff.mp ⟨_, h.compileTimeout⟩⟩
  · intro h
    obtain ⟨port, hport⟩ := exists_isReadFrom_iff.mpr h.port
    obtain ⟨readTimeout, hread⟩ := exists_isReadFrom_iff.mpr h.readTimeout
    obtain ⟨compileTimeout, hcompile⟩ := exists_isReadFrom_iff.mpr h.compileTimeout
    exact ⟨⟨_, port, readTimeout, compileTimeout, _, _, _⟩, rfl, hport, hread, hcompile, rfl, rfl,
      rfl⟩

/-! ## Texts that do not count -/

/-- **Settings depend on the texts that count, and on the class path as it stands.** -/
theorem ofValues_congr {environment' values' : Values}
    (hcounting : ∀ name, nonBlank? (effective environment values name) =
      nonBlank? (effective environment' values' name))
    (hclasspath : effective environment values "classpath" =
      effective environment' values' "classpath") :
    ofValues environment values = ofValues environment' values' := by
  have hport : readPort (effective environment values "port") =
      readPort (effective environment' values' "port") :=
    eq_of_nonBlank?_eq (f := readPort) (fun _ h => if_pos h) (hcounting _)
  have hseconds (name : String) (default : Binary64) :
      readSeconds name (effective environment values name) default =
        readSeconds name (effective environment' values' name) default :=
    eq_of_nonBlank?_eq (f := (readSeconds name · default)) (fun _ h => if_pos h) (hcounting _)
  have htrimmed (name default : String) :
      trimmedOr (effective environment values name) default =
        trimmedOr (effective environment' values' name) default := by
    rw [trimmedOr_eq, trimmedOr_eq, hcounting]
  unfold ofValues
  dsimp only
  rw [hport, hseconds, hseconds, htrimmed, htrimmed, htrimmed, hclasspath]

/-- What is given under names among values without one that is white space. -/
theorem nonBlank?_effective_without {name blank : String} (hblank : values.lookup name = some blank)
    (hunset : isUnset blank = true) (other : String) :
    nonBlank? (effective environment (without name values) other) =
      nonBlank? (effective environment values other) := by
  have htext : nonBlank? (text (without name values) other) = nonBlank? (text values other) := by
    rw [nonBlank?_text, nonBlank?_text, given?, given?, lookup_without]
    split_ifs with hother
    · rw [hother, hblank, Option.bind_some, nonBlank?, if_pos hunset]
      rfl
    · rfl
  unfold effective
  split
  · split_ifs
    · exact htext
    · rfl
  · exact htext

/-- A variable that is white space counts as little as one that is not there. -/
theorem effective_without_environment {name blank : String}
    (hblank : environment.lookup name = some blank) (hunset : isUnset blank = true)
    (other : String) :
    effective (without name environment) values other = effective environment values other := by
  unfold effective
  cases overrides.lookup other with
  | none => rfl
  | some key =>
    rw [Option.bind_some, Option.bind_some, lookup_without]
    by_cases hkey : key = name
    · subst hkey
      rw [if_pos rfl, hblank]
      exact (if_pos hunset).symm
    · rw [if_neg hkey]

/-- Behind a variable that is not white space the text among the values does not count. -/
theorem effective_eq_of_override {values' : Values} {name variableName override : String}
    (hname : overrides.lookup name = some variableName)
    (hoverride : environment.lookup variableName = some override)
    (hset : isUnset override = false)
    (hsame : ∀ other ≠ name, values'.lookup other = values.lookup other) (other : String) :
    effective environment values' other = effective environment values other := by
  unfold effective
  by_cases hother : other = name
  · subst hother
    rw [hname, Option.bind_some, hoverride]
    dsimp only
    rw [if_neg (by rw [hset]; decide), if_neg (by rw [hset]; decide)]
  · unfold text
    rw [hsame other hother]

/-- **Which texts count for the settings.** Settings are read exactly from acceptable values and
environments, and anything else is an error about a value; those that are read are those that are
given. To leave out a text that is white space changes nothing, be it among the values, except for
the class path, or in the environment; behind a variable that is not white space any text may stand
among the values; and the port is one. -/
theorem ofValues_precedence (environment values : Values) :
    ((∃ settings, ofValues environment values = .ok settings) ↔
      IsAcceptable environment values) ∧
    ((∃ e : ValueError, ofValues environment values = .error e) ↔
      ¬ IsAcceptable environment values) ∧
    (∀ settings, ofValues environment values = .ok settings ↔
      IsGivenBy environment values settings) ∧
    (∀ name blank, values.lookup name = some blank → isUnset blank = true → name ≠ "classpath" →
      ofValues environment (without name values) = ofValues environment values) ∧
    (∀ name blank, environment.lookup name = some blank → isUnset blank = true →
      ofValues (without name environment) values = ofValues environment values) ∧
    (∀ name variableName override, overrides.lookup name = some variableName →
      environment.lookup variableName = some override → isUnset override = false →
      ∀ values', (∀ other ≠ name, values'.lookup other = values.lookup other) →
        ofValues environment values' = ofValues environment values) ∧
    ∀ settings, ofValues environment values = .ok settings →
      0 ≤ settings.port ∧ settings.port ≤ 65535 := by
  have hread : (∃ settings, ofValues environment values = .ok settings) ↔
      IsAcceptable environment values := by
    rw [← exists_isGivenBy_iff]
    exact exists_congr fun _ => ofValues_eq_ok_iff_isGivenBy
  refine ⟨hread, ?_, fun _ => ofValues_eq_ok_iff_isGivenBy, ?_, ?_, ?_, ?_⟩
  · rw [← hread]
    cases ofValues environment values with
    | ok settings =>
      refine iff_of_false ?_ fun h => h ⟨settings, rfl⟩
      rintro ⟨e, ⟨⟩⟩
    | error e =>
      refine iff_of_true ⟨e, rfl⟩ ?_
      rintro ⟨settings, ⟨⟩⟩
  · intro name blank hblank hunset hname
    refine ofValues_congr (nonBlank?_effective_without hblank hunset) ?_
    have hplain : overrides.lookup "classpath" = none := by decide
    rw [effective_of_lookup_eq_none _ _ hplain, effective_of_lookup_eq_none _ _ hplain, text, text,
      lookup_without, if_neg hname.symm]
  · intro name blank hblank hunset
    have hsame (other : String) : effective (without name environment) values other =
        effective environment values other := effective_without_environment hblank hunset other
    exact ofValues_congr (fun other => congrArg nonBlank? (hsame other)) (hsame _)
  · intro name variableName override hname hoverride hset values' hothers
    have hsame := effective_eq_of_override hname hoverride hset hothers
    exact ofValues_congr (fun other => congrArg nonBlank? (hsame other)) (hsame _)
  · exact fun settings h => port_mem_of_ofValues h

/-- A port in the environment, with a sign, an underscore and white space. -/
def sampleEnvironment : Values := [("JAVALINT_PORT", " +80_80 ")]

/-- A port that is none, and a host that is white space. -/
def sampleValues : Values := [("port", "http"), ("host", " ")]

/-- The port of the environment counts, so that the other one may as well be left out, and so may
the host. -/
theorem ofValues_precedence_sampleValues :
    ofValues sampleEnvironment sampleValues = .ok { default with port := 8080 } ∧
      ofValues sampleEnvironment (without "host" sampleValues) =
        .ok { default with port := 8080 } ∧
      ofValues sampleEnvironment (without "port" sampleValues) =
        .ok { default with port := 8080 } := by
  obtain ⟨-, -, -, hblank, -, hoverride, -⟩ := ofValues_precedence sampleEnvironment sampleValues
  have hread : ofValues sampleEnvironment sampleValues = .ok { default with port := 8080 } := by
    decide +kernel
  refine ⟨hread, ?_, ?_⟩
  · rw [hblank "host" " " (by decide) (by decide) (by decide), hread]
  · rw [hoverride "port" "JAVALINT_PORT" " +80_80 " (by decide) (by decide) (by decide), hread]
    exact fun other hother => (lookup_without sampleValues other).trans (if_neg hother)

end LintDaemon.Settings
