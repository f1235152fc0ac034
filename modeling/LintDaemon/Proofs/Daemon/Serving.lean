import LintDaemon.Daemon.Server
import LintDaemon.Proofs.Protocol.Grammar

/-!
# What serving a connection comes to

`Connection.serve` unfolded once, into an equation for each way in which serving can go; what is
proved of runs, replies and endings rests on these equations and does not open it again.

* `Connection.request?`: the request that a connection carries, unless it breaks too early.
* `Connection.isAwaited_eq_false`: who is waited for without end has sent a malformed request.
* `Connection.serve_of_timeLimitError`, `Connection.serve_of_isAwaited`,
  `Connection.serve_of_readFault?`, `Connection.serve_of_request?_none`,
  `Connection.serve_of_error`, `Connection.serve_of_ok`: the six ways, and `Connection.serve_cases`
  to tell them apart.
* `Connection.isEndless_serve_iff`: which connections keep the daemon for ever.
* `Connection.ShutsDown`: the connections that end the daemon; `Connection.endsDaemon_serve_iff`.

Nothing is asked of the toolchain, of its compilers, and of the session.
-/

namespace LintDaemon

/-! ## Requests that end the daemon -/

namespace Session

variable {toolchain : Toolchain}

/-- Only a request to shut down ends the daemon. -/
theorem dispatch_terminate {s : Session} {r : Request} {reply : Reply} (hkill : r ≠ .kill)
    (h : (s.dispatch toolchain r).result = .ok reply) : reply.terminate = false := by
  cases r with
  | lint name body =>
    rw [dispatch, lint] at h
    dsimp only at h
    cases hresult : (s.compile ⟨name, body⟩).1 with
    | error e => simp [hresult] at h
    | ok diagnostics =>
      simp only [hresult, report] at h
      split_ifs at h
      · cases h
        rfl
  | set property value =>
    rw [dispatch, set] at h
    split_ifs at h
    · cases h
      rfl
    · dsimp only at h
      cases hresult : (s.setJdk toolchain value).result with
      | error e => simp [hresult, Except.map] at h
      | ok found =>
        simp only [hresult, Except.map, Except.ok.injEq] at h
        subst h
        rfl
    · cases h
      rfl
  | kill => exact absurd rfl hkill
  | unknown header =>
    cases h
    rfl
  | malformed header fault =>
    cases h
    rfl

end Session

/-- Serving that does not end has no result. -/
theorem ServeResult.isEndless_iff {result : ServeResult} :
    result.isEndless = true ↔ result = .endless := by
  cases result with
  | ended result => exact iff_of_false Bool.false_ne_true nofun
  | endless => exact iff_of_true rfl rfl

/-! ## Ways of serving -/

namespace Connection

/-- The request that a connection carries; none if its client closes without sending anything, or if
it breaks before the request is complete. -/
def request? (c : Connection) : Option Request :=
  match c.readFault? with
  | some _ => none
  | none => c.stream.read.1

/-- The requests that connections carry, in their order. -/
def requests (cs : List Connection) : List Request :=
  cs.filterMap request?

variable {toolchain : Toolchain} {timeLimit : Binary64} {c : Connection} {s : Session}

/-- A connection that breaks too early carries no request. -/
theorem request?_of_readFault? {fault : SystemFault} (h : c.readFault? = some fault) :
    c.request? = none := by
  rw [request?, h]

/-- A connection that carries a request does not break too early. -/
theorem readFault?_of_request? {r : Request} (h : c.request? = some r) : c.readFault? = none := by
  cases hfault : c.readFault? with
  | none => rfl
  | some fault => cases (request?_of_readFault? hfault).symm.trans h

/-- What is read of a connection that does not break too early is its request. -/
theorem request?_eq_read (h : c.readFault? = none) : c.request? = c.stream.read.1 := by
  rw [request?, h]

/-- Only a silent client falls silent too early. -/
theorem fallsSilent_iff :
    c.fallsSilent = true ↔ c.client = .silent ∧ c.stream.readsToEnd = true := by
  simp only [fallsSilent, Bool.and_eq_true, beq_iff_eq]

/-- A client that falls silent too early has sent a malformed request. -/
theorem exists_malformed_of_fallsSilent (h : c.fallsSilent = true) :
    ∃ header fault, c.request? = some (.malformed header fault) := by
  obtain ⟨hsilent, hreads⟩ := fallsSilent_iff.mp h
  have hfault : c.readFault? = none := by rw [readFault?, hsilent]
  have hstalled : c.stream.ending = .stalled := by
    rw [stream, hsilent]
    rfl
  rw [request?_eq_read hfault]
  exact Stream.exists_malformed_of_readsToEnd hstalled hreads

/-- A client is waited for without end if there is no time limit and it falls silent too early. -/
theorem isAwaited_iff :
    c.isAwaited timeLimit = true ↔ timeLimit.isZero = true ∧ c.fallsSilent = true :=
  Bool.and_eq_true_iff

/-- What a client that is waited for without end has sent is a malformed request. -/
theorem exists_malformed_of_isAwaited (h : c.isAwaited timeLimit = true) :
    ∃ header fault, c.request? = some (.malformed header fault) :=
  exists_malformed_of_fallsSilent (isAwaited_iff.mp h).2

/-- A client that carries no request does not fall silent too early. -/
theorem fallsSilent_of_request?_none (h : c.request? = none) : c.fallsSilent = false := by
  rw [Bool.eq_false_iff]
  intro hsilent
  obtain ⟨_, _, hmalformed⟩ := exists_malformed_of_fallsSilent hsilent
  cases h.symm.trans hmalformed

/-- A client that carries no request is not waited for without end. -/
theorem isAwaited_of_request?_none (h : c.request? = none) : c.isAwaited timeLimit = false := by
  rw [isAwaited, fallsSilent_of_request?_none h, Bool.and_false]

/-- A client whose request is not malformed is not waited for without end. -/
theorem isAwaited_eq_false {r : Request} (h : c.request? = some r)
    (hr : ∀ header fault, r ≠ .malformed header fault) : c.isAwaited timeLimit = false := by
  rw [Bool.eq_false_iff]
  intro hawaited
  obtain ⟨header, fault, hmalformed⟩ := exists_malformed_of_isAwaited hawaited
  exact hr header fault (Option.some.inj (h.symm.trans hmalformed))

/-- Under a time limit that cannot be set a connection fails before its request is read. -/
theorem serve_of_timeLimitError {e : TimeLimitError} (h : timeLimitError? timeLimit = some e) :
    c.serve s toolchain timeLimit = c.unanswered s (.ended (.error (.timeLimit e))) [] := by
  unfold serve
  rw [h]

section

variable (htime : timeLimitError? timeLimit = none)

include htime

/-- A client that is waited for without end keeps the daemon. -/
theorem serve_of_isAwaited (h : c.isAwaited timeLimit = true) :
    c.serve s toolchain timeLimit = c.unanswered s .endless [] := by
  unfold serve
  rw [htime]
  exact if_pos h

/-- A connection that breaks too early fails. -/
theorem serve_of_readFault? {fault : SystemFault} (h : c.readFault? = some fault) :
    c.serve s toolchain timeLimit = c.unanswered s (.ended (.error (.read fault))) [] := by
  unfold serve
  rw [htime, isAwaited_of_request?_none (request?_of_readFault? h), h]
  rfl

/-- A connection whose client closes without sending anything changes nothing. -/
theorem serve_of_request?_none (hfault : c.readFault? = none) (h : c.request? = none) :
    c.serve s toolchain timeLimit =
      c.unanswered s (.ended (.ok .silent))
        [.log .debug "Client closed without sending a request"] := by
  have hawaited : c.isAwaited timeLimit = false := isAwaited_of_request?_none h
  rw [request?_eq_read hfault] at h
  unfold serve
  rw [htime, hawaited, hfault, h]
  rfl

variable (hawaited : c.isAwaited timeLimit = false)

include hawaited

/-- A connection whose request fails is not answered. -/
theorem serve_of_error {r : Request} {e : Failure} (h : c.request? = some r)
    (hresult : (s.dispatch toolchain r).result = .error e) :
    c.serve s toolchain timeLimit =
      c.unanswered (s.dispatch toolchain r).session (.ended (.error (.request e)))
        (s.dispatch toolchain r).events := by
  have hfault := readFault?_of_request? h
  rw [request?_eq_read hfault] at h
  unfold serve
  rw [htime, hawaited, hfault, h]
  simp only [Bool.false_eq_true, if_false, hresult]

/-- A connection whose request succeeds is sent the reply. -/
theorem serve_of_ok {r : Request} {reply : Reply} (h : c.request? = some r)
    (hresult : (s.dispatch toolchain r).result = .ok reply) :
    c.serve s toolchain timeLimit =
      ⟨reply.send timeLimit c.reception, c.reception.taken reply.text,
        (s.dispatch toolchain r).session, (s.dispatch toolchain r).events⟩ := by
  have hfault := readFault?_of_request? h
  rw [request?_eq_read hfault] at h
  unfold serve
  rw [htime, hawaited, hfault, h]
  simp only [Bool.false_eq_true, if_false, hresult]

/-- The session and the events of a connection with a request are those of the request. -/
theorem serve_of_request?_some {r : Request} (h : c.request? = some r) :
    (c.serve s toolchain timeLimit).session = (s.dispatch toolchain r).session ∧
      (c.serve s toolchain timeLimit).events = (s.dispatch toolchain r).events := by
  cases hresult : (s.dispatch toolchain r).result with
  | error e =>
    rw [serve_of_error htime hawaited h hresult]
    exact ⟨rfl, rfl⟩
  | ok reply =>
    rw [serve_of_ok htime hawaited h hresult]
    exact ⟨rfl, rfl⟩

end

/-- Serving a connection, told by how it goes. -/
theorem serve_cases (htime : timeLimitError? timeLimit = none) (c : Connection) (s : Session)
    (toolchain : Toolchain) :
    (c.isAwaited timeLimit = true ∧
        c.serve s toolchain timeLimit = c.unanswered s .endless []) ∨
      (∃ fault, c.readFault? = some fault ∧
        c.serve s toolchain timeLimit = c.unanswered s (.ended (.error (.read fault))) []) ∨
      (c.readFault? = none ∧ c.request? = none ∧
        c.serve s toolchain timeLimit = c.unanswered s (.ended (.ok .silent))
          [.log .debug "Client closed without sending a request"]) ∨
      ∃ r, c.request? = some r ∧ c.isAwaited timeLimit = false := by
  cases hawaited : c.isAwaited timeLimit with
  | true => exact Or.inl ⟨rfl, serve_of_isAwaited htime hawaited⟩
  | false =>
    cases hfault : c.readFault? with
    | some fault => exact Or.inr (Or.inl ⟨fault, rfl, serve_of_readFault? htime hfault⟩)
    | none =>
      cases hrequest : c.request? with
      | none =>
        exact Or.inr (Or.inr (Or.inl ⟨rfl, rfl, serve_of_request?_none htime hfault hrequest⟩))
      | some r => exact Or.inr (Or.inr (Or.inr ⟨r, rfl, rfl⟩))

/-- A reply without a line is sent to every client. -/
theorem send_of_line_none {reception : Reception} {reply : Reply} (h : reply.line = none) :
    reply.send timeLimit reception = .ended (.ok reply) := by
  unfold Reply.send
  rw [h]

/-- A reply that is not taken within a time limit is an error. -/
theorem send_of_lt {reply : Reply} {count : Nat} (hshort : count < reply.text.length)
    (hended : (reply.send timeLimit (.upTo count)).isEndless = false) :
    reply.send timeLimit (.upTo count) = .ended (.error .replyTimedOut) := by
  cases hline : reply.line with
  | none =>
    rw [Reply.text, hline] at hshort
    exact absurd hshort (Nat.not_lt_zero count)
  | some line =>
    unfold Reply.send at hended ⊢
    rw [hline] at hended ⊢
    dsimp only at hended ⊢
    rw [if_neg (Nat.not_le.mpr hshort)] at hended ⊢
    split_ifs at hended ⊢
    · cases hended
    · rfl

/-- A client is waited for without end exactly if there is no time limit and it does not take the
whole reply. -/
theorem isEndless_send_iff {reception : Reception} {reply : Reply} :
    (reply.send timeLimit reception).isEndless = true ↔
      timeLimit.isZero = true ∧ ∃ count, reception = .upTo count ∧ count < reply.text.length := by
  cases hline : reply.line with
  | none =>
    rw [send_of_line_none hline]
    refine iff_of_false Bool.false_ne_true ?_
    rintro ⟨-, count, -, hshort⟩
    rw [Reply.text, hline] at hshort
    exact Nat.not_lt_zero count hshort
  | some line =>
    unfold Reply.send
    rw [hline]
    cases reception with
    | whole => exact iff_of_false Bool.false_ne_true (by rintro ⟨-, _, ⟨⟩, -⟩)
    | gone fault => exact iff_of_false Bool.false_ne_true (by rintro ⟨-, _, ⟨⟩, -⟩)
    | upTo count =>
      dsimp only
      split_ifs with hshort hzero
      · refine iff_of_false Bool.false_ne_true ?_
        rintro ⟨-, _, ⟨⟩, hlong⟩
        exact absurd hshort (Nat.not_le.mpr hlong)
      · exact iff_of_true rfl ⟨hzero, count, rfl, Nat.not_le.mp hshort⟩
      · exact iff_of_false Bool.false_ne_true fun h => hzero h.1

/-- **Serving a connection does not end exactly if** there is no time limit, and its client falls
silent before its request is complete or does not take the whole reply. -/
theorem isEndless_serve_iff (htime : timeLimitError? timeLimit = none) :
    (c.serve s toolchain timeLimit).result.isEndless = true ↔
      timeLimit.isZero = true ∧
        (c.fallsSilent = true ∨ ∃ r reply count, c.request? = some r ∧
          (s.dispatch toolchain r).result = .ok reply ∧ c.reception = .upTo count ∧
            count < reply.text.length) := by
  rcases serve_cases htime c s toolchain with
    ⟨hawaited, hserve⟩ | ⟨fault, hfault, hserve⟩ | ⟨hfault, hnone, hserve⟩ |
      ⟨r, hrequest, hawaited⟩
  · rw [hserve]
    obtain ⟨hzero, hsilent⟩ := isAwaited_iff.mp hawaited
    exact iff_of_true rfl ⟨hzero, Or.inl hsilent⟩
  · have hnone := request?_of_readFault? hfault
    rw [hserve, fallsSilent_of_request?_none hnone, hnone]
    refine iff_of_false Bool.false_ne_true ?_
    rintro ⟨-, hearly | ⟨_, _, _, ⟨⟩, -⟩⟩
    exact Bool.false_ne_true hearly
  · rw [hserve, fallsSilent_of_request?_none hnone, hnone]
    refine iff_of_false Bool.false_ne_true ?_
    rintro ⟨-, hearly | ⟨_, _, _, ⟨⟩, -⟩⟩
    exact Bool.false_ne_true hearly
  · have hsilent : timeLimit.isZero = true → c.fallsSilent = false := by
      intro hzero
      rw [isAwaited, hzero, Bool.true_and] at hawaited
      exact hawaited
    cases hresult : (s.dispatch toolchain r).result with
    | error e =>
      rw [serve_of_error htime hawaited hrequest hresult, hrequest]
      refine iff_of_false Bool.false_ne_true ?_
      rintro ⟨hzero, hearly | ⟨_, _, _, ⟨⟩, hok, -⟩⟩
      · exact absurd hearly (Bool.eq_false_iff.mp (hsilent hzero))
      · cases hresult.symm.trans hok
    | ok reply =>
      rw [serve_of_ok htime hawaited hrequest hresult, isEndless_send_iff, hrequest]
      constructor
      · rintro ⟨hzero, count, hcount, hshort⟩
        exact ⟨hzero, Or.inr ⟨r, reply, count, rfl, hresult, hcount, hshort⟩⟩
      · rintro ⟨hzero, hearly | ⟨_, _, count, ⟨⟩, hok, hcount, hshort⟩⟩
        · exact absurd hearly (Bool.eq_false_iff.mp (hsilent hzero))
        · cases hresult.symm.trans hok
          exact ⟨hzero, count, hcount, hshort⟩

/-- Under a limit for the time each connection is served to its end. -/
theorem isEndless_serve_eq_false (hzero : timeLimit.isZero = false) :
    (c.serve s toolchain timeLimit).result.isEndless = false := by
  cases htime : timeLimitError? timeLimit with
  | some e =>
    rw [serve_of_timeLimitError htime]
    rfl
  | none =>
    rw [Bool.eq_false_iff, ne_eq, isEndless_serve_iff htime, hzero]
    exact fun h => Bool.false_ne_true h.1

/-- A reply that is sent ends the daemon only if it says so. -/
theorem endsDaemon_send {reception : Reception} {reply : Reply} (h : reply.terminate = false) :
    Server.endsDaemon (reply.send timeLimit reception) = false := by
  unfold Reply.send
  split
  · exact h
  · exact h
  · rfl
  · split_ifs
    · exact h
    · rfl
    · rfl

/-- A connection that does not ask for it does not end the daemon. -/
theorem endsDaemon_serve (htime : timeLimitError? timeLimit = none) (h : c.request? ≠ some .kill) :
    Server.endsDaemon (c.serve s toolchain timeLimit).result = false := by
  rcases serve_cases htime c s toolchain with
    ⟨-, hserve⟩ | ⟨fault, -, hserve⟩ | ⟨-, -, hserve⟩ | ⟨r, hrequest, hawaited⟩
  · rw [hserve]
    rfl
  · rw [hserve]
    rfl
  · rw [hserve]
    rfl
  · have hkill : r ≠ .kill := fun hr => h (hr ▸ hrequest)
    cases hresult : (s.dispatch toolchain r).result with
    | error e =>
      rw [serve_of_error htime hawaited hrequest hresult]
      rfl
    | ok reply =>
      rw [serve_of_ok htime hawaited hrequest hresult]
      exact endsDaemon_send (Session.dispatch_terminate hkill hresult)

/-- A request to shut down ends the daemon, also if its client has gone. -/
theorem endsDaemon_serve_kill (htime : timeLimitError? timeLimit = none)
    (h : c.request? = some .kill) :
    Server.endsDaemon (c.serve s toolchain timeLimit).result = true := by
  have hresult : (s.dispatch toolchain .kill).result = .ok .terminating := rfl
  rw [serve_of_ok htime (isAwaited_eq_false h (by simp)) h hresult, send_of_line_none rfl]
  rfl

/-- A request to shut down is served to its end, however its client takes replies. -/
theorem isEndless_serve_kill (htime : timeLimitError? timeLimit = none)
    (h : c.request? = some .kill) :
    (c.serve s toolchain timeLimit).result.isEndless = false := by
  have hresult : (s.dispatch toolchain .kill).result = .ok .terminating := rfl
  rw [serve_of_ok htime (isAwaited_eq_false h (by simp)) h hresult, send_of_line_none rfl]
  rfl

/-- A connection asks the daemon to shut down, and is heard: under a time limit that cannot be set
no request is. -/
def ShutsDown (timeLimit : Binary64) (c : Connection) : Prop :=
  timeLimitError? timeLimit = none ∧ c.request? = some .kill

/-- Whether a connection shuts the daemon down can be computed. -/
instance (timeLimit : Binary64) (c : Connection) : Decidable (c.ShutsDown timeLimit) :=
  inferInstanceAs (Decidable (_ ∧ _))

/-- A connection ends the daemon exactly if it asks for it and is heard. -/
theorem endsDaemon_serve_iff :
    Server.endsDaemon (c.serve s toolchain timeLimit).result = true ↔ c.ShutsDown timeLimit := by
  constructor
  · intro hends
    cases htime : timeLimitError? timeLimit with
    | some e =>
      rw [serve_of_timeLimitError htime] at hends
      cases hends
    | none =>
      refine ⟨htime, Decidable.byContradiction fun hkill => ?_⟩
      rw [endsDaemon_serve htime hkill] at hends
      cases hends
  · rintro ⟨htime, hkill⟩
    exact endsDaemon_serve_kill htime hkill

/-- A connection that does not shut the daemon down does not end it. -/
theorem endsDaemon_serve_of_not_shutsDown (h : ¬ c.ShutsDown timeLimit) :
    Server.endsDaemon (c.serve s toolchain timeLimit).result = false :=
  Bool.eq_false_iff.mpr (mt endsDaemon_serve_iff.mp h)

end Connection

end LintDaemon
