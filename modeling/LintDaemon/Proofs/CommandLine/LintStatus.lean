import LintDaemon.Proofs.CommandLine.ReplyText
import LintDaemon.Proofs.Display.LiteralMessages

/-!
# The status of a lint

The status of a lint says what came of it: one for an error in the source, zero for none, two where
there are no diagnostics.

* `LintAnswer`: all that a client that lints can get from a daemon.
* `Peer.IsGenuine.exists_received_eq`: it gets nothing else, if the host and the port can be handed
  to the system.
* `Outcome.IsDocumentedLint`: the status, and the line that is printed, follow from what it gets.
* `Surroundings.isDocumentedLint_iff`: they do exactly if the source is text, the host and the port
  can be handed to the system, and diagnostics that are to be listed can be shown.
* `Surroundings.canShow_of_isLiteral`: those with literal messages can.
-/

namespace LintDaemon

open LintDaemon.Text LintDaemon.Display LintDaemon.Terminal

/-! ## Answers -/

/-- What a client that lints gets. -/
inductive LintAnswer
  /-- Diagnostics. -/
  | diagnostics (ds : List Diagnostic)
  /-- An error. -/
  | error (message : String)
  /-- Nothing, over a connection. -/
  | nothing
  /-- No connection. -/
  | refused (fault : SystemFault)

namespace LintAnswer

/-- What is received of an answer. -/
def received : LintAnswer → Except ConnectError (List UInt8)
  | .diagnostics ds => .ok (Utf8.encode (Reply.diagnosticsLine ds ++ "\n").toList)
  | .error message => .ok (Utf8.encode (Reply.errorLine message ++ "\n").toList)
  | .nothing => .ok []
  | .refused fault => .error (.system fault)

/-- What a client makes of an answer. -/
def result : LintAnswer → Except ClientError Json.Value
  | .diagnostics ds => .ok (.array (ds.map diagnosticObject))
  | .error message => .error (.reported (.string message))
  | .nothing => .error .noReply
  | .refused fault => .error (.connect (.system fault))

/-- The status that says what the answer is. -/
def status : LintAnswer → Nat
  | .diagnostics ds => if ds.any (·.severity == .error) then findingStatus else 0
  | .error _ | .nothing | .refused _ => failureStatus

end LintAnswer

/-! ## What a daemon says -/

/-- A request is answered with nothing, with diagnostics or with an error. -/
theorem Session.line_dispatch (s : Session) (toolchain : Toolchain) (r : Request) {reply : Reply}
    (h : (s.dispatch toolchain r).result = .ok reply) :
    reply.line = none ∨ (∃ ds, reply.line = some (Reply.diagnosticsLine ds)) ∨
      ∃ message, reply.line = some (Reply.errorLine message) := by
  cases r with
  | lint name body =>
    have hlint : (s.lint ⟨name, body⟩).result = .ok reply := h
    rw [s.lint_result] at hlint
    split at hlint
    · unfold report at hlint
      split_ifs at hlint
      cases hlint
      exact Or.inr (Or.inl ⟨_, rfl⟩)
    · cases hlint
  | set property value =>
    have hset : (s.set toolchain property value).result = .ok reply := h
    unfold Session.set at hset
    dsimp only at hset
    split_ifs at hset
    · have hsilent : (s.setClasspath value).result.map (fun _ => Reply.silent) = .ok reply := hset
      obtain ⟨_, -, rfl⟩ := Result.map_eq_ok_iff.mp hsilent
      exact Or.inl rfl
    · have hsilent : (s.setJdk toolchain value).result.map (fun _ => Reply.silent) = .ok reply :=
        hset
      obtain ⟨_, -, rfl⟩ := Result.map_eq_ok_iff.mp hsilent
      exact Or.inl rfl
    · cases hset
      exact Or.inr (Or.inr ⟨_, rfl⟩)
  | kill =>
    cases h
    exact Or.inl rfl
  | unknown header =>
    cases h
    exact Or.inr (Or.inr ⟨_, rfl⟩)
  | malformed header fault =>
    cases h
    exact Or.inr (Or.inr ⟨_, rfl⟩)

/-- A connection with a daemon comes to an answer. -/
theorem RunningDaemon.exists_received_eq (d : RunningDaemon) (sent : List UInt8) :
    ∃ answer : LintAnswer, .ok (d.exchange sent).1 = answer.received := by
  unfold exchange
  dsimp only
  rcases htime : timeLimitError? d.readTimeout with _ | e
  · rcases Connection.serve_cases htime ⟨sent, .closed, .whole⟩ d.session d.toolchain with
      ⟨-, hserve⟩ | ⟨fault, -, hserve⟩ | ⟨-, -, hserve⟩ | ⟨r, hrequest, hawaited⟩
    · rw [hserve]
      exact ⟨.nothing, rfl⟩
    · rw [hserve]
      exact ⟨.nothing, rfl⟩
    · rw [hserve]
      exact ⟨.nothing, rfl⟩
    · cases hresult : (d.session.dispatch d.toolchain r).result with
      | error e =>
        rw [Connection.serve_of_error htime hawaited hrequest hresult]
        exact ⟨.nothing, rfl⟩
      | ok reply =>
        rw [Connection.serve_of_ok htime hawaited hrequest hresult]
        unfold Reply.text
        rcases d.session.line_dispatch d.toolchain r hresult with hline | ⟨ds, hline⟩ | ⟨m, hline⟩
        · rw [hline]
          exact ⟨.nothing, rfl⟩
        · rw [hline]
          exact ⟨.diagnostics ds, rfl⟩
        · rw [hline]
          exact ⟨.error m, rfl⟩
  · rw [Connection.serve_of_timeLimitError htime]
    exact ⟨.nothing, rfl⟩

/-- Nobody, or a daemon: no other program that listens at its address. -/
def Peer.IsGenuine (p : Peer) : Prop :=
  match p.responder with
  | .nobody | .daemon _ _ _ => True
  | .fixed _ _ _ => False

/-- A host and a port that can be handed to the system: it gives their address, or says why there is
none. -/
def Peer.CanAsk (p : Peer) (host : String) (port : Int) : Prop :=
  ∀ message, p.resolve host port ≠ .error (.address message)

/-- A connection comes to an answer, wherever it leads. -/
theorem Peer.IsGenuine.exists_received_eq {p : Peer} (h : p.IsGenuine) {host : String} {port : Int}
    (hask : p.CanAsk host port) (sent : List UInt8) :
    ∃ answer : LintAnswer, (p.exchange host port sent).received = answer.received := by
  unfold Peer.exchange
  cases haddress : p.resolve host port with
  | error e =>
    cases e with
    | system fault => exact ⟨.refused fault, rfl⟩
    | address message => exact absurd haddress (hask message)
  | ok address =>
    dsimp only
    unfold Responder.exchange
    cases hresponder : p.responder with
    | nobody => exact ⟨.refused .connectionRefused, rfl⟩
    | fixed host' port' answer =>
      rw [Peer.IsGenuine, hresponder] at h
      exact h.elim
    | daemon host' port' d =>
      dsimp only
      split_ifs
      · exact d.exists_received_eq sent
      · exact ⟨.refused .connectionRefused, rfl⟩

/-- A connection to a host or a port that cannot be handed to the system comes to no answer. -/
theorem Peer.received_ne_of_not_canAsk {p : Peer} {host : String} {port : Int}
    (h : ¬ p.CanAsk host port) (sent : List UInt8) :
    ∃ message, (p.exchange host port sent).received = .error (.address message) := by
  unfold Peer.CanAsk at h
  push Not at h
  obtain ⟨message, haddress⟩ := h
  unfold Peer.exchange
  rw [haddress]
  exact ⟨message, rfl⟩

/-- A client makes of an answer what it says. -/
theorem Client.lint_result_of_received {c : Client} {p : Peer} {name source : String}
    {answer : LintAnswer}
    (h : (p.exchange c.host c.port
      (Utf8.encode (Request.encodeLint name.toList source.toList))).received = answer.received) :
    (c.lint p name source).result = answer.result := by
  unfold lint request
  dsimp only
  rw [h]
  cases answer with
  | diagnostics ds =>
    dsimp only [LintAnswer.received, ClientStep.mapResult]
    rw [readReply_line, Reply.diagnosticsValue_eq_map]
    rfl
  | error message =>
    dsimp only [LintAnswer.received, ClientStep.mapResult]
    rw [readReply_errorLine]
    rfl
  | nothing => rfl
  | refused fault => rfl

/-! ## What is shown -/

namespace Surroundings

/-- Diagnostics can be listed under a name. -/
def CanShow (s : Surroundings) (name : String) (ds : List Diagnostic) : Prop :=
  ∃ screen text, s.machine.screen = .ok screen ∧
    showReply screen name (.array (ds.map diagnosticObject)) = .ok text

variable (s : Surroundings) (settings : Settings) (name : String) (asJson : Bool)

/-- The status of diagnostics is read off their objects. -/
theorem lintStatus_diagnosticObjects (ds : List Diagnostic) (stdout : String) :
    s.lintStatus (.array (ds.map diagnosticObject)) stdout =
      .ended s (LintAnswer.diagnostics ds).status stdout "" := by
  unfold lintStatus
  rw [reportsError_diagnosticObjects]
  rfl

/-- What is shown of diagnostics that can be listed, if they are to be, ends with their status. -/
theorem status_showAnswer (answer : LintAnswer)
    (hshow : asJson = false → ∀ ds, answer = .diagnostics ds → s.CanShow name ds) :
    (s.showAnswer settings name asJson answer.result).status =
      .ok (.exited answer.status) := by
  cases answer with
  | error message => rfl
  | nothing => rfl
  | refused fault => rfl
  | diagnostics ds =>
    unfold showAnswer LintAnswer.result
    dsimp only
    cases asJson with
    | true =>
      rw [if_pos rfl, lintStatus_diagnosticObjects]
      rfl
    | false =>
      obtain ⟨screen, text, hscreen, htext⟩ := hshow rfl ds rfl
      rw [if_neg Bool.false_ne_true, hscreen]
      dsimp only
      rw [htext]
      dsimp only
      rw [lintStatus_diagnosticObjects]
      rfl

/-- Diagnostics that are to be listed and cannot be end with an error for which nothing is
planned. -/
theorem status_showAnswer_of_not_canShow {ds : List Diagnostic} (hshow : ¬ s.CanShow name ds) :
    ∃ e, (s.showAnswer settings name false (LintAnswer.diagnostics ds).result).status =
      .error e := by
  unfold showAnswer LintAnswer.result
  dsimp only
  rw [if_neg Bool.false_ne_true]
  cases hscreen : s.machine.screen with
  | error e => exact ⟨_, rfl⟩
  | ok screen =>
    dsimp only
    cases htext : showReply screen name (.array (ds.map diagnosticObject)) with
    | error e => exact ⟨_, rfl⟩
    | ok text => exact absurd ⟨screen, text, hscreen, htext⟩ hshow

/-- What is printed of diagnostics as they are is the line that reports them. -/
theorem stdout_showAnswer (ds : List Diagnostic) :
    (s.showAnswer settings name true (LintAnswer.diagnostics ds).result).stdout =
      .text (Reply.diagnosticsLine ds ++ "\n") := by
  unfold LintAnswer.result
  rw [s.showAnswer_diagnosticObjects, Reply.render_diagnosticObjects,
    spokenLine_of_isPrintable (Reply.diagnosticsLine_printable ds)]
  rfl

/-- Diagnostics with literal messages can be listed under the name of a unit, if the size of the
screen is a number. -/
theorem canShow_of_isLiteral {ds : List Diagnostic} (hname : name = "" ∨ isUnitName name = true)
    (hliteral : ∀ d ∈ ds, Markup.IsLiteral d.message.toList)
    (hscreen : ∃ screen, s.machine.screen = .ok screen) : s.CanShow name ds := by
  obtain ⟨screen, hscreen⟩ := hscreen
  by_cases hne : ds = []
  · subst hne
    obtain ⟨text, htext⟩ := screen.exists_showMarkup (canBeShown_noProblems hname)
    refine ⟨screen, text, hscreen, ?_⟩
    have hvoid : (Json.Value.array (([] : List Diagnostic).map diagnosticObject)).isVoid = true :=
      rfl
    unfold showReply
    rw [if_pos hvoid, htext]
    rfl
  · obtain ⟨text, htext⟩ := exists_showReply_diagnosticObjects hne (canBeShown_title hname)
      (fun d hd => (hliteral d hd).canBeShown List.not_mem_nil) screen
    exact ⟨screen, text, hscreen, htext⟩

/-! ## The status -/

/-- What a client gets that lints a file under a name, where the file can be opened and is text. -/
def IsAnswered (s : Surroundings) (settings : Settings) (name file : String)
    (answer : LintAnswer) : Prop :=
  ∃ bytes source, s.readFile file = .ok bytes ∧ Utf8.decode bytes = .ok source ∧
    (s.peer.exchange settings.host settings.port (Utf8.encode
      (Request.encodeLint name.toList (normalizeNewlines source)))).received = answer.received

end Surroundings

/-- The outcome of a lint that says what came of it: its status is one exactly if there was an
answer with diagnostics of an error, zero exactly if there was one without, and two exactly if there
was none; and the line of an answer that is to be printed as it is, is printed. -/
structure Outcome.IsDocumentedLint (o : Outcome) (asJson : Bool)
    (answered : List Diagnostic → Prop) : Prop where
  /-- One stands for an error in the source. -/
  error : o.status = .ok (.exited 1) ↔ ∃ ds, answered ds ∧ ∃ d ∈ ds, d.severity = .error
  /-- Zero stands for none. -/
  clean : o.status = .ok (.exited 0) ↔ ∃ ds, answered ds ∧ ∀ d ∈ ds, d.severity ≠ .error
  /-- Two stands for everything else. -/
  failure : o.status = .ok (.exited 2) ↔ ¬ ∃ ds, answered ds
  /-- Nothing but the line of the answer is printed. -/
  line : asJson = true → ∀ ds, answered ds → o.stdout = .text (Reply.diagnosticsLine ds ++ "\n")

/-- The status of diagnostics is one exactly if one of them is an error. -/
theorem LintAnswer.status_diagnostics (ds : List Diagnostic) :
    (∃ d ∈ ds, d.severity = .error) ∧ (LintAnswer.diagnostics ds).status = 1 ∨
      (∀ d ∈ ds, d.severity ≠ .error) ∧ (LintAnswer.diagnostics ds).status = 0 := by
  by_cases hany : ds.any (·.severity == .error) = true
  · exact Or.inl ⟨by simpa using hany, if_pos hany⟩
  · exact Or.inr ⟨by simpa using hany, if_neg hany⟩

/-- The status of all other answers is two. -/
theorem LintAnswer.status_cases (answer : LintAnswer) :
    (∃ ds, answer = .diagnostics ds) ∨ answer.status = 2 := by
  cases answer with
  | diagnostics ds => exact Or.inl ⟨ds, rfl⟩
  | error message => exact Or.inr rfl
  | nothing => exact Or.inr rfl
  | refused fault => exact Or.inr rfl

namespace Outcome.IsDocumentedLint

variable {o : Outcome} {asJson : Bool} {answered : List Diagnostic → Prop}

/-- An outcome whose status is that of every answer is a documented one. -/
theorem of_status {isAnswered : LintAnswer → Prop} (hexists : ∃ answer, isAnswered answer)
    (hstatus : ∀ answer, isAnswered answer → o.status = .ok (.exited answer.status))
    (hline : asJson = true → ∀ ds, isAnswered (.diagnostics ds) →
      o.stdout = .text (Reply.diagnosticsLine ds ++ "\n")) :
    o.IsDocumentedLint asJson fun ds => isAnswered (.diagnostics ds) := by
  have hdiagnostics {n : Nat} (hn : n ≠ 2) (h : o.status = .ok (.exited n)) :
      ∃ ds, isAnswered (.diagnostics ds) ∧ (LintAnswer.diagnostics ds).status = n := by
    obtain ⟨answer, hanswer⟩ := hexists
    have hsame : answer.status = n := by
      have heq := (hstatus answer hanswer).symm.trans h
      injection heq with heq
      injection heq
    rcases answer.status_cases with ⟨ds, rfl⟩ | htwo
    · exact ⟨ds, hanswer, hsame⟩
    · exact absurd (hsame.symm.trans htwo) hn
  refine ⟨⟨fun h => ?_, ?_⟩, ⟨fun h => ?_, ?_⟩, ⟨?_, fun hnone => ?_⟩, hline⟩
  · obtain ⟨ds, hds, hone⟩ := hdiagnostics (by decide) h
    rcases LintAnswer.status_diagnostics ds with ⟨herror, -⟩ | ⟨-, hzero⟩
    · exact ⟨ds, hds, herror⟩
    · exact absurd (hone.symm.trans hzero) (by decide)
  · rintro ⟨ds, hds, d, hd, herror⟩
    rcases LintAnswer.status_diagnostics ds with ⟨-, hone⟩ | ⟨hclean, -⟩
    · exact hone ▸ hstatus _ hds
    · exact absurd herror (hclean d hd)
  · obtain ⟨ds, hds, hzero⟩ := hdiagnostics (by decide) h
    rcases LintAnswer.status_diagnostics ds with ⟨-, hone⟩ | ⟨hclean, -⟩
    · exact absurd (hone.symm.trans hzero) (by decide)
    · exact ⟨ds, hds, hclean⟩
  · rintro ⟨ds, hds, hclean⟩
    rcases LintAnswer.status_diagnostics ds with ⟨⟨d, hd, herror⟩, -⟩ | ⟨-, hzero⟩
    · exact absurd herror (hclean d hd)
    · exact hzero ▸ hstatus _ hds
  · rintro htwo ⟨ds, hds⟩
    have heq := (hstatus _ hds).symm.trans htwo
    rcases LintAnswer.status_diagnostics ds with ⟨-, hone⟩ | ⟨-, hzero⟩
    · rw [hone] at heq
      cases heq
    · rw [hzero] at heq
      cases heq
  · obtain ⟨answer, hanswer⟩ := hexists
    rcases answer.status_cases with ⟨ds, rfl⟩ | htwo
    · exact absurd ⟨ds, hanswer⟩ hnone
    · exact htwo ▸ hstatus answer hanswer

/-- An outcome with the status of failures is a documented one if there is no answer. -/
theorem of_unanswered (htwo : o.status = .ok (.exited 2)) (hnone : ∀ ds, ¬ answered ds) :
    o.IsDocumentedLint asJson answered := by
  have hne : ∀ n ≠ 2, o.status ≠ .ok (.exited n) := by
    intro n hn h
    cases htwo.symm.trans h
    exact hn rfl
  refine ⟨iff_of_false (hne 1 (by decide)) ?_, iff_of_false (hne 0 (by decide)) ?_,
    iff_of_true htwo ?_, fun _ ds hds => absurd hds (hnone ds)⟩
  · exact fun ⟨ds, hds, _⟩ => hnone ds hds
  · exact fun ⟨ds, hds, _⟩ => hnone ds hds
  · exact fun ⟨ds, hds⟩ => hnone ds hds

/-- A documented outcome has a status if there are diagnostics. -/
theorem exists_status (h : o.IsDocumentedLint asJson answered) {ds : List Diagnostic}
    (hds : answered ds) : ∃ status, o.status = .ok (.exited status) := by
  rcases LintAnswer.status_diagnostics ds with ⟨herror, -⟩ | ⟨hclean, -⟩
  · exact ⟨1, h.error.mpr ⟨ds, hds, herror⟩⟩
  · exact ⟨0, h.clean.mpr ⟨ds, hds, hclean⟩⟩

end Outcome.IsDocumentedLint

namespace Surroundings

variable {s : Surroundings} {args : List String} {name file : String} {port : Option Int}
  {asJson : Bool} {settings : Settings}

section Run

variable (hargs : Command.parse s.machine args = .command (.lint name file port asJson))
  (hsettings : s.machine.loadSettings = .ok settings)

include hargs hsettings

/-- A lint of a file that cannot be opened ends with the status of failures. -/
theorem runCommandLine_of_readFile_eq_error {fault : SystemFault}
    (h : s.readFile file = .error fault) : (s.runCommandLine args).status = .ok (.exited 2) := by
  unfold runCommandLine
  rw [hargs]
  dsimp only [run]
  unfold lint withSettings
  rw [hsettings]
  dsimp only
  rw [h]
  rfl

/-- A lint of a file that is no text ends with an error for which nothing is planned. -/
theorem runCommandLine_of_decode_eq_error {bytes : List UInt8} {e : Utf8.DecodeError}
    (hfile : s.readFile file = .ok bytes) (h : Utf8.decode bytes = .error e) :
    (s.runCommandLine args).status = .error (.source e) := by
  unfold runCommandLine
  rw [hargs]
  dsimp only [run]
  unfold lint withSettings
  rw [hsettings]
  dsimp only
  rw [hfile]
  dsimp only
  rw [h]
  rfl

/-- So does one whose host or port cannot be handed to the system. -/
theorem runCommandLine_of_not_canAsk {bytes : List UInt8} {source : List Char}
    (hfile : s.readFile file = .ok bytes) (hdecode : Utf8.decode bytes = .ok source)
    (h : ¬ s.peer.CanAsk settings.host (port.getD settings.port)) :
    ∃ e, (s.runCommandLine args).status = .error e := by
  unfold runCommandLine
  rw [hargs]
  dsimp only [run]
  unfold lint withSettings
  rw [hsettings]
  dsimp only
  rw [hfile]
  dsimp only
  rw [hdecode]
  dsimp only
  unfold Client.lint Client.request
  obtain ⟨message, hreceived⟩ := Peer.received_ne_of_not_canAsk h
    (Utf8.encode (Request.encodeLint name.toList
      (String.ofList (normalizeNewlines source)).toList))
  dsimp only [clientOf]
  rw [hreceived]
  exact ⟨_, rfl⟩

/-- What comes of a lint that is answered is what is shown of the answer. -/
theorem runCommandLine_of_isAnswered {answer : LintAnswer}
    (h : s.IsAnswered { settings with port := port.getD settings.port } name file answer) :
    ∃ step : ClientStep Json.Value, s.runCommandLine args =
      (s.showAnswer { settings with port := port.getD settings.port } name asJson
        answer.result).after step := by
  obtain ⟨bytes, source, hfile, hdecode, hreceived⟩ := h
  rw [← String.toList_ofList (l := normalizeNewlines source)] at hreceived
  unfold runCommandLine
  rw [hargs]
  dsimp only [run]
  unfold lint withSettings
  rw [hsettings]
  dsimp only
  rw [hfile]
  dsimp only
  rw [hdecode]
  dsimp only
  rw [Client.lint_result_of_received (c := clientOf _) hreceived]
  exact ⟨_, rfl⟩

/-- A file whose lint is documented is text, if it can be opened, and its host and port can be
handed to the system. -/
theorem canAsk_of_isDocumentedLint
    (h : (s.runCommandLine args).IsDocumentedLint asJson fun ds =>
      s.IsAnswered { settings with port := port.getD settings.port } name file (.diagnostics ds))
    {bytes : List UInt8} (hfile : s.readFile file = .ok bytes) :
    (∃ source, Utf8.decode bytes = .ok source) ∧
      s.peer.CanAsk settings.host (port.getD settings.port) := by
  cases hdecode : Utf8.decode bytes with
  | error e =>
    have hnone : ¬ ∃ ds, s.IsAnswered { settings with port := port.getD settings.port } name file
        (.diagnostics ds) := by
      rintro ⟨ds, bytes', source, hfile', hsource, -⟩
      cases hfile.symm.trans hfile'
      cases hdecode.symm.trans hsource
    have htwo := h.failure.mpr hnone
    cases (runCommandLine_of_decode_eq_error hargs hsettings hfile hdecode).symm.trans htwo
  | ok source =>
    refine ⟨⟨source, rfl⟩, ?_⟩
    by_contra hask
    have hnone : ¬ ∃ ds, s.IsAnswered { settings with port := port.getD settings.port } name file
        (.diagnostics ds) := by
      rintro ⟨ds, bytes', source', -, -, hreceived⟩
      obtain ⟨message, haddress⟩ := Peer.received_ne_of_not_canAsk hask
        (Utf8.encode (Request.encodeLint name.toList (normalizeNewlines source')))
      cases haddress.symm.trans hreceived
    obtain ⟨e, he⟩ := runCommandLine_of_not_canAsk hargs hsettings hfile hdecode hask
    cases he.symm.trans (h.failure.mpr hnone)

/-- **The status of a lint says what came of it exactly if** the source is text, the host and the
port can be handed to the system, and diagnostics that are to be listed can be. -/
theorem isDocumentedLint_iff (hpeer : s.peer.IsGenuine) :
    let settings := { settings with port := port.getD settings.port }
    (s.runCommandLine args).IsDocumentedLint asJson
        (fun ds => s.IsAnswered settings name file (.diagnostics ds)) ↔
      (∀ bytes, s.readFile file = .ok bytes → (∃ source, Utf8.decode bytes = .ok source) ∧
        s.peer.CanAsk settings.host settings.port) ∧
        (asJson = false → ∀ ds, s.IsAnswered settings name file (.diagnostics ds) →
          s.CanShow name ds) := by
  intro settings'
  constructor
  · intro hdocumented
    refine ⟨fun bytes hfile => canAsk_of_isDocumentedLint hargs hsettings hdocumented hfile, ?_⟩
    rintro rfl ds hds
    by_contra hshow
    obtain ⟨status, hstatus⟩ := hdocumented.exists_status hds
    obtain ⟨step, hrun⟩ := runCommandLine_of_isAnswered hargs hsettings hds
    obtain ⟨e, he⟩ := s.status_showAnswer_of_not_canShow settings' name hshow
    rw [hrun] at hstatus
    cases he.symm.trans hstatus
  · rintro ⟨hsource, hshow⟩
    cases hfile : s.readFile file with
    | error fault =>
      have hnone : ∀ ds, ¬ s.IsAnswered settings' name file (.diagnostics ds) := by
        rintro ds ⟨bytes, source, hbytes, -⟩
        cases hfile.symm.trans hbytes
      have htwo := runCommandLine_of_readFile_eq_error hargs hsettings hfile
      exact .of_unanswered htwo hnone
    | ok bytes =>
      obtain ⟨⟨source, hdecode⟩, hask⟩ := hsource bytes hfile
      refine .of_status ?_ ?_ ?_
      · obtain ⟨answer, hanswer⟩ := hpeer.exists_received_eq hask
          (Utf8.encode (Request.encodeLint name.toList (normalizeNewlines source)))
        exact ⟨answer, bytes, source, hfile, hdecode, hanswer⟩
      · intro answer hanswer
        obtain ⟨step, hrun⟩ := runCommandLine_of_isAnswered hargs hsettings hanswer
        rw [hrun]
        refine s.status_showAnswer settings' name asJson answer ?_
        rintro hlisted ds rfl
        exact hshow hlisted ds hanswer
      · rintro rfl ds hds
        obtain ⟨step, hrun⟩ := runCommandLine_of_isAnswered hargs hsettings hds
        rw [hrun]
        exact s.stdout_showAnswer settings' name ds

end Run

/-! ## A file and a daemon -/

/-- A compiler that finds nothing. -/
def contentCompiler : Compiler := ⟨"javac", none, fun _ _ => ⟨[], none, .ok []⟩⟩

/-- A command beside a file of some bytes, with a daemon whose compiler finds nothing. -/
def besideFile (bytes : List UInt8) : Surroundings :=
  { Reply.sampleSurroundings with
    machine := { Reply.sampleSurroundings.machine with
      files := ⟨[(["Bar.java"], .file bytes false none)]⟩ }
    peer := ⟨resolveAsGiven, .daemon "127.0.0.1" 56789
      ⟨fun _ => .ok contentCompiler, .ofNat 30, ⟨"", none, some contentCompiler, 0⟩, true⟩⟩ }

/-- Where there are no files of settings and no variables, the settings are those that are usual. -/
theorem loadSettings_of_isNone {m : Machine}
    (hfile : (m.files.find? m.directory m.settingsFile.toString).isNone = true)
    (hvariables : (m.files.find? m.directory Settings.envFilePath).isNone = true)
    (henvironment : m.environment = []) : m.loadSettings = .ok .default := by
  have hvalues : m.loadValues = .ok [] := by
    unfold Machine.loadValues
    dsimp only
    rw [Option.isNone_iff_eq_none.mp hfile, Option.isNone_iff_eq_none.mp hvariables]
  have hsettings : Settings.ofValues [] [] = .ok .default := by decide +kernel
  unfold Machine.loadSettings
  rw [hvalues, henvironment]
  dsimp only [bind, Except.bind]
  rw [hsettings]
  rfl

/-- The file is text, so that its lint is documented; its status says that there is no error. -/
theorem isDocumentedLint_iff_besideFile :
    let s := besideFile (Utf8.encode "class Bar {}".toList)
    let args := ["lint", "Bar", "--json", "Bar.java"]
    Command.parse s.machine args = .command (.lint "Bar" "Bar.java" none true) ∧
      s.machine.loadSettings = .ok .default ∧ s.peer.IsGenuine ∧
      (s.runCommandLine args).IsDocumentedLint true
        (fun ds => s.IsAnswered .default "Bar" "Bar.java" (.diagnostics ds)) ∧
      (s.runCommandLine args).status = .ok (.exited 0) := by
  intro s args
  have hargs : Command.parse s.machine args = .command (.lint "Bar" "Bar.java" none true) := by
    decide +kernel
  have hsettings : s.machine.loadSettings = .ok .default :=
    loadSettings_of_isNone (by decide +kernel) (by decide +kernel) rfl
  have hfile : s.readFile "Bar.java" = .ok (Utf8.encode "class Bar {}".toList) := by
    decide +kernel
  have hsource : Utf8.decode (Utf8.encode "class Bar {}".toList) = .ok "class Bar {}".toList := by
    decide +kernel
  have hask : s.peer.CanAsk Settings.default.host Settings.default.port := nofun
  have hdocumented := (isDocumentedLint_iff hargs hsettings trivial).mpr
    ⟨fun bytes hbytes => ⟨⟨_, Except.ok.inj (hfile.symm.trans hbytes) ▸ hsource⟩, hask⟩, nofun⟩
  have hanswered : s.IsAnswered .default "Bar" "Bar.java" (.diagnostics []) :=
    ⟨_, _, hfile, hsource, by decide +kernel⟩
  exact ⟨hargs, hsettings, trivial, hdocumented,
    hdocumented.clean.mpr ⟨_, hanswered, nofun⟩⟩

/-- Some lints are not documented: a file that is no text ends them with an error for which nothing
is planned. -/
theorem not_forall_isDocumentedLint :
    ¬ ∀ (s : Surroundings) (args : List String) (name file : String) (port : Option Int)
        (asJson : Bool) (settings : Settings),
      Command.parse s.machine args = .command (.lint name file port asJson) →
      s.machine.loadSettings = .ok settings → s.peer.IsGenuine →
      (s.runCommandLine args).IsDocumentedLint asJson fun ds =>
        s.IsAnswered { settings with port := port.getD settings.port } name file
          (.diagnostics ds) := by
  intro hall
  have hargs : Command.parse (besideFile [0xff]).machine ["lint", "Bar", "Bar.java"] =
      .command (.lint "Bar" "Bar.java" none false) := by decide +kernel
  have hsettings : (besideFile [0xff]).machine.loadSettings = .ok .default :=
    loadSettings_of_isNone (by decide +kernel) (by decide +kernel) rfl
  have hfile : (besideFile [0xff]).readFile "Bar.java" = .ok [0xff] := by decide +kernel
  obtain ⟨e, hsource⟩ : ∃ e, Utf8.decode [0xff] = .error e := ⟨_, rfl⟩
  have hnone : ¬ ∃ ds, (besideFile [0xff]).IsAnswered .default "Bar" "Bar.java"
      (.diagnostics ds) := by
    rintro ⟨ds, bytes, source, hbytes, hdecode, -⟩
    cases hfile.symm.trans hbytes
    cases hsource.symm.trans hdecode
  have htwo := (hall _ _ _ _ _ _ _ hargs hsettings trivial).failure.mpr hnone
  cases (runCommandLine_of_decode_eq_error hargs hsettings hfile hsource).symm.trans htwo

end Surroundings

end LintDaemon
