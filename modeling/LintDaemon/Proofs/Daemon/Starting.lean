import LintDaemon.Daemon.Startup
import LintDaemon.Proofs.Daemon.CompilerInUse
import LintDaemon.Proofs.Settings.Accepted

/-!
# How the daemon starts

A start has three documented outcomes: the daemon listens and says so, the port is in use, or the
daemon says why it could not start. What happens before the socket is made, and a port that is none,
have no such outcome.

* `levelNames`: the names that a log level can have.
* `Startup.IsDocumented`: the documented outcomes.
* `Startup.run_isDocumented_iff`: when a start has one of them.
-/

namespace LintDaemon

/-- The names that a log level can have. -/
def levelNames : List String :=
  ["CRITICAL", "FATAL", "ERROR", "WARNING", "WARN", "INFO", "DEBUG", "NOTSET"]

/-- These names and no others have a threshold. -/
theorem thresholdOfName?_eq_none_iff {name : String} :
    thresholdOfName? name = none ↔ name ∉ levelNames := by
  unfold thresholdOfName?
  split <;> simp_all [levelNames]

namespace Startup

/-- The documented outcomes of a start. -/
inductive IsDocumented (settings : Settings) (binding : Binding) (arrivals : List Arrival)
    (run : DaemonRun) : Prop
  /-- The socket listens: this is said, once, and connections are accepted. -/
  | running {freePort : Int} {server : Server} (hbinding : binding = .bound freePort)
    (hlistener : server.listener =
      some ⟨settings.host, if settings.port = 0 then freePort else settings.port, true⟩)
    (hrunning : server.running = true) (htimeout : server.readTimeout = settings.readTimeout)
    (hstdout : run.stdout = runningMarker)
    (hstatus : run.status = statusOf (server.serveArrivals arrivals).finish)
    (hreceived : run.received = (server.serveArrivals arrivals).received)
  /-- The port is in use: this is said, and the daemon ends with the status for it. -/
  | portUsed {fault : SystemFault} (hbinding : binding = .fault fault)
    (hnumber : fault.number = SystemFault.addressInUse) (hstdout : run.stdout = portUsedMarker)
    (hstatus : run.status = .ok (.exited portUsedStatus))
  /-- The daemon could not start for another reason: this is said on the standard error only, and
  the daemon ends with the status for it. -/
  | failed (hbinding : ∀ freePort, binding ≠ .bound freePort)
    (hnumber : ∀ fault, binding = .fault fault → fault.number ≠ SystemFault.addressInUse)
    (hstdout : run.stdout = "") (hstderr : run.stderr ≠ "")
    (hstatus : run.status = .ok (.exited failedStatus))

variable {m : Machine} {settings : Settings} {binding : Binding} {arrivals : List Arrival}
  {run : DaemonRun}

/-- A start that breaks off without a word is not documented. -/
theorem not_isDocumented {e : StartupError} (hstatus : run.status = .error e)
    (hstdout : run.stdout = "") : ¬ IsDocumented settings binding arrivals run := by
  rintro (⟨-, -, -, -, hmarker, -, -⟩ | ⟨-, -, -, hok⟩ | ⟨-, -, -, -, hok⟩)
  · exact absurd (hstdout.symm.trans hmarker) (by decide)
  · cases hstatus.symm.trans hok
  · cases hstatus.symm.trans hok

/-- What is said of a port that is in use and of other faults is not empty. -/
theorem failedLine_append_ne_empty (text : String) : failedLine ++ text ≠ "" := by
  intro hempty
  have hlength := congrArg String.length hempty
  rw [String.length_append] at hlength
  exact absurd hlength (by simp [failedLine])

/-- A start with a level that has a name has a documented outcome exactly if the search for the
compiler does not fail and the port is one. -/
theorem isDocumented_iff_of_threshold {threshold : Nat}
    (hlevel : thresholdOfName? settings.logLevel = some threshold) :
    IsDocumented settings binding arrivals (Startup.run m settings binding arrivals) ↔
      ¬ m.LookupFails settings.jdkHome ∧ binding ≠ .portOutOfRange := by
  have hanswers : (m.toolchain settings.compileTimeout).Answers settings.jdkHome ↔
      ¬ m.LookupFails settings.jdkHome :=
    Toolchain.answers_iff.trans (not_congr Machine.toolchain_fails_iff)
  rw [← hanswers]
  rw [← Session.start_result_iff ⟨settings.classpath, settings.jdkHome⟩]
  unfold Startup.run runWith
  rw [hlevel]
  dsimp only
  cases hresult : (Session.start (m.toolchain settings.compileTimeout)
      ⟨settings.classpath, settings.jdkHome⟩).result with
  | error e =>
    refine iff_of_false (not_isDocumented rfl rfl) ?_
    rintro ⟨⟨found, hfound⟩, -⟩
    cases hfound
  | ok found =>
    rw [and_iff_right ⟨found, rfl⟩]
    cases binding with
    | bound freePort =>
      refine iff_of_true ?_ nofun
      exact .running rfl rfl rfl rfl rfl rfl rfl
    | fault fault =>
      refine iff_of_true ?_ nofun
      by_cases hnumber : fault.number = SystemFault.addressInUse
      · rw [Server.bind, if_pos hnumber]
        exact .portUsed rfl hnumber rfl rfl
      · rw [Server.bind, if_neg hnumber]
        refine .failed nofun ?_ rfl ?_ rfl
        · rintro other ⟨⟩
          exact hnumber
        · dsimp only [unbound]
          rw [String.append_assoc, String.append_assoc]
          exact failedLine_append_ne_empty _
    | portOutOfRange => exact iff_of_false (not_isDocumented rfl rfl) fun h => h rfl

/-- **A start has a documented outcome exactly if** the log level has a name that is known, the
search for the compiler does not fail, and the port is one. Settings that are accepted have a port
that is one, so that only a port that is put in its place can be none. -/
theorem run_isDocumented_iff {environment values : Values} {accepted : Settings}
    (haccepted : Settings.ofValues environment values = .ok accepted) (m : Machine)
    (portInstead : Option Int) (binding : Binding) (arrivals : List Arrival)
    (hrejected : binding = .portOutOfRange →
      ¬ (0 ≤ portInstead.getD accepted.port ∧ portInstead.getD accepted.port ≤ 65535)) :
    let settings := { accepted with port := portInstead.getD accepted.port }
    (IsDocumented settings binding arrivals (Startup.run m settings binding arrivals) ↔
      accepted.logLevel ∈ levelNames ∧ ¬ m.LookupFails accepted.jdkHome ∧
        binding ≠ .portOutOfRange) ∧
    (binding = .portOutOfRange →
      ∃ port, portInstead = some port ∧ ¬ (0 ≤ port ∧ port ≤ 65535)) := by
  intro settings
  constructor
  · cases hlevel : thresholdOfName? settings.logLevel with
    | none =>
      have hunknown : accepted.logLevel ∉ levelNames := thresholdOfName?_eq_none_iff.mp hlevel
      refine iff_of_false ?_ fun h => hunknown h.1
      unfold Startup.run
      rw [hlevel]
      exact not_isDocumented rfl rfl
    | some threshold =>
      have hknown : accepted.logLevel ∈ levelNames := by
        by_contra hunknown
        cases hlevel.symm.trans (thresholdOfName?_eq_none_iff.mpr hunknown)
      rw [isDocumented_iff_of_threshold hlevel, and_iff_right hknown]
  · intro hbinding
    cases portInstead with
    | none => exact absurd (Settings.port_mem_of_ofValues haccepted) (hrejected hbinding)
    | some port => exact ⟨port, rfl, hrejected hbinding⟩

/-- Settings with an installation and a log level. -/
def sampleValues : Values :=
  [("jdk_home", "/jdk"), ("log_level", "debug")]

/-- The settings that these values give. -/
def sampleSettings : Settings :=
  { Settings.default with jdkHome := some "/jdk", logLevel := "DEBUG" }

/-- A daemon with these settings that listens at any free port starts as documented. -/
theorem run_isDocumented_iff_sample :
    Settings.ofValues [] sampleValues = .ok sampleSettings ∧
      let settings := { sampleSettings with port := 0 }
      IsDocumented settings (.bound 40000) []
        (Startup.run Session.sampleMachine settings (.bound 40000) []) := by
  have haccepted : Settings.ofValues [] sampleValues = .ok sampleSettings := by decide +kernel
  have hsearch : ¬ Session.sampleMachine.LookupFails (some "/jdk") :=
    (Toolchain.answers_iff.trans (not_congr Machine.toolchain_fails_iff)).mp
      (by decide +kernel : (Session.sampleMachine.toolchain (.ofNat 60)).Answers (some "/jdk"))
  exact ⟨haccepted, (run_isDocumented_iff haccepted Session.sampleMachine (some 0) (.bound 40000) []
    nofun).1.mpr ⟨by decide, hsearch, nofun⟩⟩

/-- A log level of which there is none breaks the start off without a word. -/
theorem not_forall_isDocumented : ¬ ∀ (environment values : Values) (accepted : Settings)
    (m : Machine) (portInstead : Option Int) (binding : Binding) (arrivals : List Arrival),
      Settings.ofValues environment values = .ok accepted →
      (binding = .portOutOfRange →
        ¬ (0 ≤ portInstead.getD accepted.port ∧ portInstead.getD accepted.port ≤ 65535)) →
      let settings := { accepted with port := portInstead.getD accepted.port }
      IsDocumented settings binding arrivals (Startup.run m settings binding arrivals) := by
  intro h
  have hdocumented := h [] [("log_level", "verbose")]
    { Settings.default with logLevel := "VERBOSE" } Session.sampleMachine none (.bound 0) []
    (by decide +kernel) nofun
  exact not_isDocumented rfl rfl hdocumented

end Startup

end LintDaemon
