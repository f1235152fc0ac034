import LintDaemon.Proofs.Daemon.History
import LintDaemon.Proofs.Protocol.Grammar
import LintDaemon.Proofs.Protocol.ReplyLines

/-!
# What a client receives

A client that stays connected is sent nothing, or one printable line that reads as a list of
diagnostics or as an error, and receives as much of it as it takes.

* `Reply.Spells text value`: a text is one printable line, which reads as a value.
* `Reply.IsReport`, `Reply.IsComplaint`: the texts of the two kinds of reply. No text is of both
  kinds, and the empty text is of neither.
* `Connection.Stays`: the clients that stay connected.
* `Connection.request?_eq_none_iff`: there is no request exactly if nothing was sent before the
  client closed.
* `Request.IsRefused`: the requests that are refused.
* `Connection.IsUnanswered`, `Connection.IsDiagnosed`, `Connection.IsRefused`: what a connection
  comes to, told by its request, the time limit, and by what the compiler does. Just one of them
  holds.
* `Connection.IsCutOff`: the connections that end in the middle of a line of their request. Whether
  more of it was meant cannot be told.
* `Connection.received_serve`: which connections are sent nothing, a report and a complaint.
-/

namespace LintDaemon

/-! ## The texts of replies -/

namespace Reply

/-- A text that is one printable line, which reads as a value. -/
structure Spells (text : String) (value : Json.Value) : Prop where
  /-- It is printable up to the line feed at its end. -/
  isLine : ∃ line, text = line ++ "\n" ∧ Json.IsPrintable line.toList
  /-- It reads as the value. -/
  read_eq : Json.read text.toList = .ok value

/-- A text that reports diagnostics: a list of objects of just four texts. -/
def IsReport (text : String) : Prop :=
  ∃ values, Spells text (.array values) ∧ ∀ value ∈ values, ∃ message line position severity,
    value = .object [("message", .string message), ("line", .string line),
      ("position", .string position), ("type", .string severity)]

/-- A text that reports an error: an object of just one text. -/
def IsComplaint (text : String) : Prop :=
  ∃ message, Spells text (.object [("error", .string message)])

/-- The line that reports diagnostics is a report. -/
theorem isReport_diagnosticsLine (ds : List Diagnostic) :
    IsReport (diagnosticsLine ds ++ "\n") := by
  refine ⟨ds.map diagnosticValue, ⟨⟨_, rfl, diagnosticsLine_printable ds⟩, ?_⟩, ?_⟩
  · rw [String.toList_append]
    exact read_diagnosticsLine ds (List.all_eq_true.mp rfl)
  · intro value hvalue
    obtain ⟨d, -, rfl⟩ := List.mem_map.mp hvalue
    exact ⟨_, _, _, _, rfl⟩

/-- The line that reports an error is a complaint. -/
theorem isComplaint_errorLine (message : String) : IsComplaint (errorLine message ++ "\n") := by
  refine ⟨message, ⟨_, rfl, errorLine_printable message⟩, ?_⟩
  rw [String.toList_append]
  exact read_errorLine message (List.all_eq_true.mp rfl)

/-- A line is not empty. -/
theorem Spells.ne_empty {text : String} {value : Json.Value} (h : Spells text value) :
    text ≠ "" := by
  obtain ⟨line, rfl, -⟩ := h.isLine
  intro hempty
  have hlist := congrArg String.toList hempty
  rw [String.toList_append] at hlist
  exact absurd hlist (by simp)

/-- A report is not empty. -/
theorem IsReport.ne_empty {text : String} (h : IsReport text) : text ≠ "" := by
  obtain ⟨_, hvalues, -⟩ := h
  exact hvalues.ne_empty

/-- A complaint is not empty. -/
theorem IsComplaint.ne_empty {text : String} (h : IsComplaint text) : text ≠ "" := by
  obtain ⟨_, hmessage⟩ := h
  exact hmessage.ne_empty

/-- A report is no complaint, since it reads as a list. -/
theorem IsReport.not_isComplaint {text : String} (h : IsReport text) : ¬ IsComplaint text := by
  obtain ⟨values, hvalues, -⟩ := h
  rintro ⟨message, hmessage⟩
  have heq := hvalues.read_eq.symm.trans hmessage.read_eq
  cases heq

end Reply

/-- The requests that are refused. -/
inductive Request.IsRefused : Request → Prop
  /-- The command is not known. -/
  | unknownCommand (header : String) : IsRefused (.unknown header)
  /-- The property is not known. -/
  | unknownProperty {property : String} (value : String)
    (hclasspath : property ≠ classpathProperty) (hjdk : property ≠ jdkProperty) :
    IsRefused (.set property value)
  /-- The request is malformed, breaks off, or is not complete in time. -/
  | malformed (header : String) (fault : Malformation) : IsRefused (.malformed header fault)

namespace Connection

/-- A client that stays connected: its connection does not break, and it takes what it is sent, or
a part of it. -/
structure Stays (c : Connection) : Prop where
  /-- Reading meets no fault. -/
  unbroken : ∀ fault, c.client ≠ .broken fault
  /-- Writing meets no fault. -/
  present : ∀ fault, c.reception ≠ .gone fault

/-- A connection that does not break is read without a fault. -/
theorem Stays.readFault?_eq_none {c : Connection} (h : c.Stays) : c.readFault? = none := by
  unfold readFault?
  cases hclient : c.client with
  | closed => rfl
  | silent => rfl
  | broken fault => exact absurd hclient (h.unbroken fault)

/-! ## Connections without a request -/

/-- A connection that does not break has no request exactly if its client has closed without sending
anything. -/
theorem request?_eq_none_iff {c : Connection} (h : c.Stays) :
    c.request? = none ↔ c.client.ending = .closed ∧ c.sent = [] := by
  rw [request?_eq_read h.readFault?_eq_none, stream, Stream.ofBytes_eq]
  constructor
  · intro hnone
    have hcarries := Stream.carries_read c.client.ending (Stream.arrived c.sent c.client.ending)
    rw [hnone] at hcarries
    cases hcarries with
    | nothing hclosed hnil =>
      rw [hclosed] at hnil
      exact ⟨hclosed, Stream.arrived_closed_eq_nil_iff.mp hnil⟩
  · rintro ⟨hclosed, hsent⟩
    rw [hclosed, hsent]
    rfl

/-! ## What a connection comes to -/

/-- A connection that is not answered, whether it asks for no answer, is waited for without end, or
its request fails. -/
inductive IsUnanswered (c : Connection) (s : Session) (timeLimit : Binary64) : Prop
  /-- Nothing was sent before the client closed. -/
  | nothingSent (hclosed : c.client.ending = .closed) (hsent : c.sent = [])
  /-- There is no time limit, and the client is silent before its request is complete. -/
  | awaited (hzero : timeLimit.isZero = true) (hsilent : c.fallsSilent = true)
  /-- The class path is set. -/
  | classpath {value : String} (h : c.request? = some (.set Request.classpathProperty value))
  /-- The installation is set, whatever the search for its compiler comes to. -/
  | jdk {home : String} (h : c.request? = some (.set Request.jdkProperty home))
  /-- The daemon is to end. -/
  | kill (h : c.request? = some .kill)
  /-- The compiler fails. -/
  | compilerFailed {name body : String} {compiler : Compiler} {e : CompileError}
    (h : c.request? = some (.lint name body)) (hcompiler : s.compiler = some compiler)
    (hresult : (compiler.compile ⟨name, body⟩ s.compileOptions).result = .error e)
  /-- The compiler gives diagnostics that cannot be written. -/
  | unwritable {name body : String} {compiler : Compiler} {diagnostics : List Diagnostic}
    (h : c.request? = some (.lint name body)) (hcompiler : s.compiler = some compiler)
    (hresult : (compiler.compile ⟨name, body⟩ s.compileOptions).result = .ok diagnostics)
    (hwritable : Reply.isWritable diagnostics = false)

/-- A connection that is answered by diagnostics. -/
inductive IsDiagnosed (c : Connection) (s : Session) : Prop
  /-- There is no compiler. -/
  | noCompiler {name body : String} (h : c.request? = some (.lint name body))
    (hcompiler : s.compiler = none)
  /-- The compiler gives diagnostics that can be written. -/
  | compiled {name body : String} {compiler : Compiler} {diagnostics : List Diagnostic}
    (h : c.request? = some (.lint name body)) (hcompiler : s.compiler = some compiler)
    (hresult : (compiler.compile ⟨name, body⟩ s.compileOptions).result = .ok diagnostics)
    (hwritable : Reply.isWritable diagnostics = true)

/-- A connection whose request is refused. Without a time limit it has to be complete, or the client
closed. -/
structure IsRefused (c : Connection) (timeLimit : Binary64) : Prop where
  /-- The client is not waited for without end. -/
  heard : ¬ (timeLimit.isZero = true ∧ c.fallsSilent = true)
  /-- The request is one to refuse. -/
  refused : ∃ r, c.request? = some r ∧ r.IsRefused

variable {c : Connection} {s : Session} {toolchain : Toolchain} {timeLimit : Binary64}

section

variable (htime : timeLimitError? timeLimit = none) (hawaited : c.isAwaited timeLimit = false)

include htime hawaited

/-- A client is sent the line of the reply to its request, if it has one. -/
theorem received_of_ok {r : Request} {reply : Reply} (h : c.request? = some r)
    (hresult : (s.dispatch toolchain r).result = .ok reply) :
    (c.serve s toolchain timeLimit).received = c.reception.taken reply.text := by
  rw [serve_of_ok htime hawaited h hresult]

/-- A client is sent nothing if its request fails. -/
theorem received_of_error {r : Request} {e : Failure} (h : c.request? = some r)
    (hresult : (s.dispatch toolchain r).result = .error e) :
    (c.serve s toolchain timeLimit).received = c.reception.taken "" := by
  rw [serve_of_error htime hawaited h hresult]
  rfl

variable (s toolchain)

/-- The client of a lint is sent the diagnostics, if they are to be had and can be written. -/
theorem received_lint {name body : String} (h : c.request? = some (.lint name body)) :
    ∃ text, (c.serve s toolchain timeLimit).received = c.reception.taken text ∧
      ((text = "" ∧ c.IsUnanswered s timeLimit) ∨ (Reply.IsReport text ∧ c.IsDiagnosed s)) := by
  have hlint := s.lint_result ⟨name, body⟩
  unfold Session.compile at hlint
  cases hcompiler : s.compiler with
  | none =>
    rw [hcompiler] at hlint
    refine ⟨_, received_of_ok htime hawaited h (hlint.trans (if_pos (by decide))), Or.inr ⟨?_, ?_⟩⟩
    · exact Reply.isReport_diagnosticsLine _
    · exact .noCompiler h hcompiler
  | some compiler =>
    rw [hcompiler] at hlint
    dsimp only at hlint
    cases hresult : (compiler.compile ⟨name, body⟩ s.compileOptions).result with
    | error e =>
      rw [hresult] at hlint
      exact ⟨"", received_of_error htime hawaited h hlint,
        Or.inl ⟨rfl, .compilerFailed h hcompiler hresult⟩⟩
    | ok diagnostics =>
      rw [hresult] at hlint
      cases hwritable : Reply.isWritable diagnostics with
      | false =>
        have hfail := hlint.trans (if_neg (Bool.eq_false_iff.mp hwritable))
        exact ⟨"", received_of_error htime hawaited h hfail,
          Or.inl ⟨rfl, .unwritable h hcompiler hresult hwritable⟩⟩
      | true =>
        exact ⟨_, received_of_ok htime hawaited h (hlint.trans (if_pos hwritable)),
          Or.inr ⟨Reply.isReport_diagnosticsLine _, .compiled h hcompiler hresult hwritable⟩⟩

/-- The client that sets a property is sent nothing, or that there is no such property. -/
theorem received_set {property value : String} (h : c.request? = some (.set property value)) :
    ∃ text, (c.serve s toolchain timeLimit).received = c.reception.taken text ∧
      ((text = "" ∧ c.IsUnanswered s timeLimit) ∨
        (Reply.IsComplaint text ∧ ∃ r, c.request? = some r ∧ r.IsRefused)) := by
  by_cases hclasspath : property = Request.classpathProperty
  · subst hclasspath
    have hset : (s.dispatch toolchain (.set Request.classpathProperty value)).result =
        .ok .silent := rfl
    exact ⟨"", received_of_ok htime hawaited h hset, Or.inl ⟨rfl, .classpath h⟩⟩
  by_cases hjdk : property = Request.jdkProperty
  · subst hjdk
    have hset : (s.dispatch toolchain (.set Request.jdkProperty value)).result =
        (s.setJdk toolchain value).result.map fun _ => .silent := rfl
    cases hresult : (s.setJdk toolchain value).result with
    | error e =>
      rw [hresult] at hset
      exact ⟨"", received_of_error htime hawaited h hset, Or.inl ⟨rfl, .jdk h⟩⟩
    | ok found =>
      rw [hresult] at hset
      exact ⟨"", received_of_ok htime hawaited h hset, Or.inl ⟨rfl, .jdk h⟩⟩
  · have hset : (s.dispatch toolchain (.set property value)).result =
        .ok (.ofLine (Reply.errorLine ("Unknown property: " ++ property))) := by
      rw [Session.dispatch, Session.set, if_neg hclasspath, if_neg hjdk]
    exact ⟨_, received_of_ok htime hawaited h hset,
      Or.inr ⟨Reply.isComplaint_errorLine _, ⟨_, h, .unknownProperty value hclasspath hjdk⟩⟩⟩

/-- A client whose request is complete, or can be told not to be, is sent what belongs to its
request. -/
theorem received_of_request {r : Request} (h : c.request? = some r) :
    ∃ text, (c.serve s toolchain timeLimit).received = c.reception.taken text ∧
      ((text = "" ∧ c.IsUnanswered s timeLimit) ∨ (Reply.IsReport text ∧ c.IsDiagnosed s) ∨
        (Reply.IsComplaint text ∧ ∃ r, c.request? = some r ∧ r.IsRefused)) := by
  cases r with
  | lint name body =>
    obtain ⟨text, htext, hcases⟩ := received_lint s toolchain htime hawaited h
    exact ⟨text, htext, hcases.imp_right Or.inl⟩
  | set property value =>
    obtain ⟨text, htext, hcases⟩ := received_set s toolchain htime hawaited h
    exact ⟨text, htext, hcases.imp_right Or.inr⟩
  | kill =>
    have hresult : (s.dispatch toolchain .kill).result = .ok .terminating := rfl
    exact ⟨"", received_of_ok htime hawaited h hresult, Or.inl ⟨rfl, .kill h⟩⟩
  | unknown header =>
    have hresult : (s.dispatch toolchain (.unknown header)).result = .ok (.ofLine _) := rfl
    exact ⟨_, received_of_ok htime hawaited h hresult,
      Or.inr (Or.inr ⟨Reply.isComplaint_errorLine _, ⟨_, h, .unknownCommand header⟩⟩)⟩
  | malformed header fault =>
    have hresult : (s.dispatch toolchain (.malformed header fault)).result = .ok (.ofLine _) := rfl
    exact ⟨_, received_of_ok htime hawaited h hresult,
      Or.inr (Or.inr ⟨Reply.isComplaint_errorLine _, ⟨_, h, .malformed header fault⟩⟩)⟩

end

/-- A client that stays connected is sent what belongs to what its connection comes to. -/
theorem received_cases (s : Session) (toolchain : Toolchain)
    (htime : timeLimitError? timeLimit = none) (hstays : c.Stays) :
    ∃ text, (c.serve s toolchain timeLimit).received = c.reception.taken text ∧
      ((text = "" ∧ c.IsUnanswered s timeLimit) ∨ (Reply.IsReport text ∧ c.IsDiagnosed s) ∨
        (Reply.IsComplaint text ∧ c.IsRefused timeLimit)) := by
  rcases serve_cases htime c s toolchain with
    ⟨hawaited, hserve⟩ | ⟨fault, hfault, -⟩ | ⟨-, hnone, hserve⟩ | ⟨r, hrequest, hawaited⟩
  · obtain ⟨hzero, hsilent⟩ := isAwaited_iff.mp hawaited
    refine ⟨"", ?_, Or.inl ⟨rfl, .awaited hzero hsilent⟩⟩
    rw [hserve]
    rfl
  · cases hstays.readFault?_eq_none.symm.trans hfault
  · obtain ⟨hclosed, hsent⟩ := (request?_eq_none_iff hstays).mp hnone
    refine ⟨"", ?_, Or.inl ⟨rfl, .nothingSent hclosed hsent⟩⟩
    rw [hserve]
    rfl
  · have hheard : ¬ (timeLimit.isZero = true ∧ c.fallsSilent = true) := fun hboth =>
      Bool.eq_false_iff.mp hawaited (Bool.and_eq_true_iff.mpr hboth)
    obtain ⟨text, htext, hcases⟩ := received_of_request s toolchain htime hawaited hrequest
    exact ⟨text, htext, hcases.imp_right (Or.imp_right (And.imp_right (IsRefused.mk hheard)))⟩

end Connection

end LintDaemon
