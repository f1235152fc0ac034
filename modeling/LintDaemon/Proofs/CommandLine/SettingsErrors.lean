import LintDaemon.Proofs.CommandLine.ReplyText
import LintDaemon.Proofs.Settings.WellWritten
import LintDaemon.Proofs.Terminal.TaggedText

/-!
# Settings that cannot be loaded

A command that needs the settings says why they cannot be loaded, as long as this is about a value
or a text. A settings file that is not written as one ends it with an error for which nothing is
planned.

* `Settings.IsWellWritten`: the settings files that are written as such, or are no text.
* `Machine.failsByValue_loadSettings_iff`: these are exactly those because of which settings fail to
  be loaded by values alone.
* `Surroundings.ReportsSettings`, `Surroundings.IsSettingsDisplay`: settings are used or shown, or
  there is a line that says why they cannot be.
* `Surroundings.HasPlainSettings`: nothing that would be shown of the settings is markup.
* `Surroundings.reportsSettings_iff`: settings are reported exactly for these files, and shown if in
  addition they are plain.
-/

namespace LintDaemon

open LintDaemon.Text LintDaemon.Display LintDaemon.Terminal

/-! ## Errors about values -/

/-- If something fails, it does because of a value or a text. -/
def LoadError.FailsByValue {α : Type} (x : Except LoadError α) : Prop :=
  ∀ e, x = .error e → e.isValueError = true

namespace LoadError.FailsByValue

variable {α β ε : Type}

/-- What does not fail does not fail because of anything else. -/
theorem ok (a : α) : FailsByValue (.ok a) :=
  nofun

/-- An error is what it is. -/
theorem error_iff {e : LoadError} :
    FailsByValue (.error e : Except LoadError α) ↔ e.isValueError = true := by
  constructor
  · exact fun h => h e rfl
  · rintro h _ ⟨⟩
    exact h

/-- Two steps fail because of values exactly if both do. -/
theorem bind_iff {x : Except LoadError α} {f : α → Except LoadError β} :
    FailsByValue (x >>= f) ↔ FailsByValue x ∧ ∀ a, x = .ok a → FailsByValue (f a) := by
  cases x with
  | error e => exact ⟨fun h => ⟨error_iff.mpr (h e rfl), nofun⟩, fun h => error_iff.mpr (h.1 e rfl)⟩
  | ok a =>
    constructor
    · intro h
      refine ⟨ok a, ?_⟩
      rintro _ ⟨⟩
      exact h
    · exact fun h => h.2 a rfl

/-- A step all of whose errors are about values. -/
theorem mapError {x : Except ε α} {f : ε → LoadError} (hf : ∀ e, (f e).isValueError = true) :
    FailsByValue (x.mapError f) := by
  cases x with
  | error e => exact error_iff.mpr (hf e)
  | ok a => exact ok a

/-- A step none of whose errors is about values must not fail. -/
theorem mapError_iff {x : Except ε α} {f : ε → LoadError} (hf : ∀ e, (f e).isValueError = false) :
    FailsByValue (x.mapError f) ↔ ∃ a, x = .ok a := by
  cases x with
  | error e => exact iff_of_false (fun h => absurd (h _ rfl) (by simp [hf])) nofun
  | ok a => exact iff_of_true (ok a) ⟨a, rfl⟩

end LoadError.FailsByValue

open LoadError (FailsByValue)

/-! ## Settings files -/

/-- Bytes that are written as a settings file is, or are no text: what can be read of them is a list
of items that begins with a heading, without repetitions; and, if that is all of them, every item is
a heading or an option with a name, and the references of the defaults can be replaced. -/
def Settings.IsWellWritten (bytes : List UInt8) : Prop :=
  ∀ text broken, Incoming.decode bytes = .ok (text, broken) →
    Ini.IsOrderly (Ini.items (Incoming.lines text broken.isSome)) ∧
      (broken = none → (∀ item ∈ Ini.items (Incoming.lines text false), item.IsWhole) ∧
        ∀ r, Ini.readLines (Incoming.lines text false) = .ok r →
          ∀ entry ∈ r.defaults, Ini.IsExpandable r.defaults Ini.maxSteps entry.2)

/-- What has been read is finished exactly if nothing is stray. -/
theorem Ini.Reading.exists_finish_eq_ok_iff {r : Reading} :
    (∃ r', r.finish = .ok r') ↔ r.stray = [] := by
  unfold finish
  split_ifs with hstray
  · exact iff_of_true ⟨r, rfl⟩ hstray
  · exact iff_of_false nofun hstray

/-- The values of a settings file fail to be read because of a value exactly if the file is well
written. -/
theorem Settings.failsByValue_valuesOfIni_iff {path : String} {bytes : List UInt8} :
    FailsByValue (valuesOfIni path bytes) ↔ IsWellWritten bytes := by
  have hfile (fault : Ini.Fault) : (LoadError.file path (.fault fault)).isValueError = false := rfl
  have hlater (r : Ini.Reading) (texts : List (List Char × List Char) → List (String × String)) :
      FailsByValue (r.finish.mapError (.file path <| .fault ·) >>= fun r =>
        r.expandedDefaults.mapError (.file path ·) >>= fun values => pure (texts values)) ↔
      r.stray = [] ∧ ∀ entry ∈ r.defaults, Ini.IsExpandable r.defaults Ini.maxSteps entry.2 := by
    rw [FailsByValue.bind_iff, FailsByValue.mapError_iff hfile, Ini.Reading.exists_finish_eq_ok_iff]
    refine and_congr_right fun hstray => ?_
    have hfinish : r.finish = .ok r := if_pos hstray
    simp only [Result.mapError_eq_ok_iff, hfinish, Except.ok.injEq, forall_eq']
    rw [FailsByValue.bind_iff, FailsByValue.mapError_iff fun _ => rfl,
      Ini.exists_expandedDefaults_eq_ok_iff]
    exact and_iff_left fun _ _ => FailsByValue.ok _
  unfold valuesOfIni
  rw [FailsByValue.bind_iff, and_iff_right (FailsByValue.mapError fun _ => rfl)]
  simp only [Result.mapError_eq_ok_iff, Prod.forall]
  refine forall_congr' fun text => forall_congr' fun broken => forall_congr' fun _ => ?_
  rw [FailsByValue.bind_iff, FailsByValue.mapError_iff hfile, Ini.exists_readLines_eq_ok_iff]
  refine and_congr_right fun horderly => ?_
  simp only [Result.mapError_eq_ok_iff]
  cases broken with
  | some e =>
    exact iff_of_true (fun _ _ => FailsByValue.error_iff.mpr rfl)
      fun hnone => absurd hnone (Option.some_ne_none e)
  | none =>
    obtain ⟨r, hr⟩ := Ini.exists_readLines_eq_ok_iff.mpr horderly
    dsimp only [Option.isSome] at hr ⊢
    simp only [hr, Except.ok.injEq, forall_eq', true_imp_iff]
    rw [hlater, Ini.stray_eq_nil_iff hr]

/-- The settings file of a machine, if it has one, is well written. -/
def Machine.HasWellWrittenSettings (m : Machine) : Prop :=
  ∀ bytes executable program,
    m.files.find? m.directory m.settingsFile.toString = some (.file bytes executable program) →
      Settings.IsWellWritten bytes

/-- **Settings fail to be loaded because of a value or a text exactly if the settings file is well
written.** Files of variables and values cannot make them fail in any other way. -/
theorem Machine.failsByValue_loadSettings_iff {m : Machine} :
    FailsByValue m.loadSettings ↔ m.HasWellWrittenSettings := by
  have hvalues : FailsByValue m.loadValues ↔ m.HasWellWrittenSettings := by
    unfold loadValues HasWellWrittenSettings
    dsimp only
    cases m.files.find? m.directory m.settingsFile.toString with
    | none =>
      refine iff_of_true ?_ nofun
      dsimp only
      split
      · unfold Settings.valuesOfEnvFile
        exact FailsByValue.bind_iff.mpr
          ⟨FailsByValue.mapError fun _ => rfl, fun _ _ => FailsByValue.ok _⟩
      · exact FailsByValue.ok []
      · exact FailsByValue.ok []
      · exact FailsByValue.ok []
    | some node =>
      cases node with
      | directory => exact iff_of_true (FailsByValue.ok []) nofun
      | socket executable => exact iff_of_true (FailsByValue.ok []) nofun
      | file bytes executable program =>
        dsimp only
        rw [Settings.failsByValue_valuesOfIni_iff]
        constructor
        · rintro h _ _ _ ⟨⟩
          exact h
        · exact fun h => h _ _ _ rfl
  unfold loadSettings
  rw [FailsByValue.bind_iff, hvalues]
  exact and_iff_left fun _ _ => FailsByValue.mapError fun _ => rfl

/-! ## Commands that use settings -/

namespace Surroundings

/-- Whatever is done with the settings is done with those that are loaded, with the port of the
command if there is one; or a line says why they cannot be loaded, and the status is two. -/
def ReportsSettings (s : Surroundings) : Prop :=
  ∀ (port : Option Int) (use : Settings → Outcome),
    (∃ settings, s.machine.loadSettings = .ok settings ∧
      s.withSettings port use = use { settings with port := port.getD settings.port }) ∨
    ∃ e, s.machine.loadSettings = .error e ∧
      s.withSettings port use =
        .ended s 2 "" ("Error loading configuration: " ++ withoutEscapes e.message ++ "\n")

/-- The settings shown as they should be: their table and the note below it, or a line that says why
they are invalid, with the status two. -/
inductive IsSettingsDisplay (s : Surroundings) : Outcome → Prop
  /-- The table and the note. -/
  | table {screen : Screen} {settings : Settings} {table note : String}
    (hscreen : s.machine.screen = .ok screen) (hsettings : s.machine.loadSettings = .ok settings)
    (htable : screen.showTable (settingsTable settings) = .ok table)
    (hnote : screen.showMarkup (settingsNote s.machine).toList = .ok note) :
    IsSettingsDisplay s (.ended s 0 (table ++ note) "")
  /-- The line. -/
  | invalid {screen : Screen} {e : LoadError} {line : String}
    (hscreen : s.machine.screen = .ok screen) (hsettings : s.machine.loadSettings = .error e)
    (hline : screen.showMarkup ("[red]Invalid configuration: " ++ e.message ++ "[/red]").toList =
      .ok line) :
    IsSettingsDisplay s (.ended s 2 line "")

/-- What is to be shown of the settings, or of the error in their place, can be shown on the
screen. -/
structure CanShowSettings (s : Surroundings) (screen : Screen) : Prop where
  /-- The table can. -/
  table : ∀ settings, s.machine.loadSettings = .ok settings →
    ∃ table, screen.showTable (settingsTable settings) = .ok table
  /-- So can the note. -/
  note : ∀ settings, s.machine.loadSettings = .ok settings →
    ∃ note, screen.showMarkup (settingsNote s.machine).toList = .ok note
  /-- So can the error. -/
  line : ∀ e, s.machine.loadSettings = .error e → ∃ line,
    screen.showMarkup ("[red]Invalid configuration: " ++ e.message ++ "[/red]").toList = .ok line

variable {s : Surroundings}

/-- The line that says why settings cannot be loaded begins as it should. -/
theorem spokenLine_loadError (e : LoadError) :
    spokenLine ("Error loading configuration: " ++ e.message) =
      "Error loading configuration: " ++ withoutEscapes e.message ++ "\n" := by
  have hescape : '\x1b' ∉ "Error loading configuration: ".toList := by decide +kernel
  unfold spokenLine withoutEscapes
  rw [String.toList_append, withoutEscapesFrom_append hescape, String.ofList_append,
    String.ofList_toList]

/-- Settings are used, or an error is reported, exactly if loading fails because of values. -/
theorem reportsSettings_iff_failsByValue :
    s.ReportsSettings ↔ FailsByValue s.machine.loadSettings := by
  unfold ReportsSettings withSettings
  cases hload : s.machine.loadSettings with
  | ok settings => exact iff_of_true (fun _ _ => Or.inl ⟨settings, rfl, rfl⟩) (FailsByValue.ok _)
  | error e =>
    rw [FailsByValue.error_iff]
    dsimp only
    cases hvalue : e.isValueError with
    | true =>
      refine iff_of_true (fun _ _ => Or.inr ⟨e, rfl, ?_⟩) rfl
      rw [if_pos rfl, spokenLine_loadError]
      rfl
    | false =>
      refine iff_of_false (fun h => ?_) Bool.false_ne_true
      rcases h none fun _ => .ended s 0 "" "" with ⟨_, ⟨⟩, -⟩ | ⟨_, -, hended⟩
      rw [if_neg Bool.false_ne_true] at hended
      cases congrArg Outcome.status hended

/-- Showing the settings, if the size of the screen is a number. -/
theorem settings_show {screen : Screen} (h : s.machine.screen = .ok screen) :
    s.settings "show" = s.showSettings screen := by
  unfold settings
  rw [h]
  exact if_pos rfl

/-- Settings that can be shown are. -/
theorem isSettingsDisplay_of_canShowSettings {screen : Screen}
    (hscreen : s.machine.screen = .ok screen) (hload : FailsByValue s.machine.loadSettings)
    (hshow : s.CanShowSettings screen) : s.IsSettingsDisplay (s.settings "show") := by
  rw [settings_show hscreen]
  unfold showSettings
  cases hsettings : s.machine.loadSettings with
  | ok settings =>
    obtain ⟨table, htable⟩ := hshow.table settings hsettings
    obtain ⟨note, hnote⟩ := hshow.note settings hsettings
    dsimp only
    rw [htable, hnote, showAll, showAll, showAll, String.empty_append]
    exact .table hscreen hsettings htable hnote
  | error e =>
    obtain ⟨line, hline⟩ := hshow.line e hsettings
    dsimp only
    rw [if_pos (hload e hsettings), hline, showAll, showAll, String.empty_append]
    exact .invalid hscreen hsettings hline

/-- Settings that are shown can be. -/
theorem IsSettingsDisplay.canShowSettings (h : s.IsSettingsDisplay (s.settings "show")) :
    FailsByValue s.machine.loadSettings ∧
      ∃ screen, s.machine.screen = .ok screen ∧ s.CanShowSettings screen := by
  generalize hshown : s.settings "show" = o at h
  cases h with
  | table hscreen hsettings htable hnote =>
    refine ⟨hsettings ▸ FailsByValue.ok _, _, hscreen, fun settings heq => ?_,
      fun _ _ => ⟨_, hnote⟩, fun e heq => ?_⟩
    · cases hsettings.symm.trans heq
      exact ⟨_, htable⟩
    · cases hsettings.symm.trans heq
  | invalid hscreen hsettings hline =>
    rename_i e line
    refine ⟨hsettings ▸ FailsByValue.error_iff.mpr ?_, _, hscreen, fun settings heq => ?_,
      fun settings heq => ?_, fun e heq => ?_⟩
    · by_contra hvalue
      rw [settings_show hscreen, showSettings, hsettings] at hshown
      dsimp only at hshown
      rw [if_neg hvalue] at hshown
      cases congrArg Outcome.status hshown
    · cases hsettings.symm.trans heq
    · cases hsettings.symm.trans heq
    · cases hsettings.symm.trans heq
      exact ⟨_, hline⟩

/-! ## Plain settings -/

/-- A table of settings with literal values can be shown. -/
theorem canBeShown_settingsTable {settings : Settings}
    (h : ∀ row ∈ settingsRows settings, Markup.IsLiteral row.2.toList) :
    (settingsTable settings).CanBeShown := by
  have hliteral {t : List Char} (ht : Markup.IsLiteral t) : Markup.CanBeShown [] t :=
    ht.canBeShown List.not_mem_nil
  have hdim : Markup.IsStyleTag "dim".toList := by decide +kernel
  have hempty : Markup.IsSelfContained [] := by decide
  have htext : Markup.IsSelfContained "not set".toList := by decide +kernel
  have hnotSet : Markup.CanBeShown [] notSet.toList := by
    have heq : notSet.toList = [] ++ Markup.tagged "dim".toList "not set".toList := by
      decide +kernel
    rw [heq]
    exact Markup.canBeShown_tagged hdim hempty htext
  have hnames : ∀ row ∈ settingsRows settings, Markup.IsLiteral row.1.toList := by
    simp only [settingsRows, List.forall_mem_cons]
    decide +kernel
  refine ⟨?_, ?_, ?_⟩
  · rintro _ ⟨⟩
    exact Markup.IsLiteral.canBeShown (by decide +kernel) (by decide)
  · have hheaders : ∀ column ∈ settingsColumns, Markup.IsLiteral column.header := by decide +kernel
    exact fun column hcolumn => hliteral (hheaders column hcolumn)
  · intro row hrow
    obtain ⟨⟨name, value⟩, hmem, rfl⟩ := List.mem_map.mp hrow
    simp only [List.forall_mem_cons]
    refine ⟨hliteral (hnames _ hmem), ?_, nofun⟩
    split_ifs
    · exact hnotSet
    · exact hliteral (h _ hmem)

/-- What the note below the settings says. -/
def noteText (m : Machine) : String :=
  let path := m.settingsFile.toString
  if (m.files.find? m.directory path).isSome then "Config file: " ++ path
  else "No config file at " ++ path ++ "; showing defaults"

/-- Nothing that is to be shown of the settings is markup: the values are literal, and the note and
the error leave the tags around them alone. -/
structure HasPlainSettings (s : Surroundings) : Prop where
  /-- The values. -/
  values : ∀ settings, s.machine.loadSettings = .ok settings →
    ∀ row ∈ settingsRows settings, Markup.IsLiteral row.2.toList
  /-- The note. -/
  note : Markup.IsSelfContained (noteText s.machine).toList
  /-- The error. -/
  error : ∀ e, s.machine.loadSettings = .error e →
    Markup.IsSelfContained ("Invalid configuration: " ++ e.message).toList

/-- Settings with literal values can be shown above a plain note, and so can a plain error, on every
screen. -/
theorem HasPlainSettings.canShowSettings (h : s.HasPlainSettings) (screen : Screen) :
    s.CanShowSettings screen where
  table settings hsettings :=
    screen.exists_showTable (canBeShown_settingsTable (h.values settings hsettings))
  note _ _ := by
    have hdim : Markup.IsStyleTag "dim".toList := by decide +kernel
    have hfeed : Markup.IsSelfContained ['\n'] := by decide
    have hshown := Markup.canBeShown_tagged hdim hfeed h.note
    have htext : (settingsNote s.machine).toList =
        ['\n'] ++ Markup.tagged "dim".toList (noteText s.machine).toList := by
      unfold settingsNote noteText
      dsimp only
      split_ifs <;> simp [Markup.tagged]
    exact screen.exists_showMarkup (htext ▸ hshown)
  line e he := by
    have hred : Markup.IsStyleTag "red".toList := by decide +kernel
    have hempty : Markup.IsSelfContained [] := by decide
    have hshown := Markup.canBeShown_tagged hred hempty (h.error e he)
    have htext : ("[red]Invalid configuration: " ++ e.message ++ "[/red]").toList =
        [] ++ Markup.tagged "red".toList ("Invalid configuration: " ++ e.message).toList := by
      simp [Markup.tagged]
    exact screen.exists_showMarkup (htext ▸ hshown)

/-! ## Settings that are reported -/

/-- **A command reports settings that cannot be loaded exactly if the settings file is well
written,** whatever values it gives, and whatever a file of variables and the environment hold;
and the settings, or the error in their place, are shown exactly if in addition they can be shown on
the screen. If nothing of them is markup they can, whatever the screen is. -/
theorem reportsSettings_iff (s : Surroundings) :
    (s.ReportsSettings ↔ s.machine.HasWellWrittenSettings) ∧
      (s.IsSettingsDisplay (s.settings "show") ↔ s.machine.HasWellWrittenSettings ∧
        ∃ screen, s.machine.screen = .ok screen ∧ s.CanShowSettings screen) ∧
      (s.HasPlainSettings → (s.IsSettingsDisplay (s.settings "show") ↔
        s.machine.HasWellWrittenSettings ∧ ∃ screen, s.machine.screen = .ok screen)) := by
  rw [← Machine.failsByValue_loadSettings_iff]
  refine ⟨reportsSettings_iff_failsByValue, ⟨IsSettingsDisplay.canShowSettings, ?_⟩,
    fun hplain => ⟨fun hshown => ?_, ?_⟩⟩
  · rintro ⟨hload, screen, hscreen, hshow⟩
    exact isSettingsDisplay_of_canShowSettings hscreen hload hshow
  · obtain ⟨hload, screen, hscreen, -⟩ := hshown.canShowSettings
    exact ⟨hload, screen, hscreen⟩
  · rintro ⟨hload, screen, hscreen⟩
    exact isSettingsDisplay_of_canShowSettings hscreen hload (hplain.canShowSettings screen)

/-! ## A port and a file -/

/-- A command on a machine without files, with a port in its environment. -/
def withPort (port : String) : Surroundings :=
  { Reply.sampleSurroundings with
    machine := { Reply.sampleSurroundings.machine with environment := [("JAVALINT_PORT", port)] } }

/-- A port that is none is reported, and shown to be invalid. -/
theorem reportsSettings_iff_withPort :
    (withPort "http").ReportsSettings ∧
      (withPort "http").IsSettingsDisplay ((withPort "http").settings "show") := by
  have hload : (withPort "http").machine.loadSettings = .error (.value (.invalidPort "http")) := by
    decide +kernel
  obtain ⟨hreports, -, hdisplay⟩ := reportsSettings_iff (withPort "http")
  have hwritten : (withPort "http").machine.HasWellWrittenSettings := by
    refine Machine.failsByValue_loadSettings_iff.mp ?_
    rw [hload]
    exact FailsByValue.error_iff.mpr rfl
  obtain ⟨screen, hscreen⟩ : ∃ screen, (withPort "http").machine.screen = .ok screen := ⟨_, rfl⟩
  have hplain : (withPort "http").HasPlainSettings := by
    refine ⟨fun settings heq => ?_, by decide +kernel, fun e heq => ?_⟩
    · cases hload.symm.trans heq
    · cases hload.symm.trans heq
      decide +kernel
  exact ⟨hreports.mpr hwritten, (hdisplay hplain).mpr ⟨hwritten, screen, hscreen⟩⟩

/-- A command on a machine with a settings file. -/
def besideSettings (bytes : List UInt8) : Surroundings :=
  { Reply.sampleSurroundings with
    machine := { Reply.sampleSurroundings.machine with
      files := ⟨[(["settings"], .file bytes false none)]⟩ } }

/-- Some settings are not reported: a file without a heading ends a command with an error for which
nothing is planned. -/
theorem not_forall_reportsSettings :
    ¬ ∀ s : Surroundings, s.ReportsSettings ∧ s.IsSettingsDisplay (s.settings "show") := by
  intro hall
  have hload : (besideSettings (Utf8.encode "port = 1\n".toList)).machine.loadSettings =
      .error (.file "/settings" (.fault (.missingSection 1 "port = 1\n".toList))) := by
    decide +kernel
  have hvalue := reportsSettings_iff_failsByValue.mp (hall _).1 _ hload
  cases hvalue

end Surroundings

end LintDaemon
