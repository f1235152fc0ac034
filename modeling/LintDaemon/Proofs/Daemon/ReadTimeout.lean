import LintDaemon.Proofs.Daemon.Endings
import LintDaemon.Proofs.Daemon.Replies
import LintDaemon.Proofs.Settings.Accepted

/-!
# Time limits for reading

Settings accept any number of seconds. Under one that no socket takes every connection fails before
its request is read, so that the daemon cannot even be shut down by a request.

* `Binary64.IsTimeLimit`: the numbers of seconds that sockets take.
* `Connection.timeLimitError?_eq_none_iff`: a time limit can be set exactly if it is one of them.
* `Connection.ServesAll`: under a time limit all connections are served.
* `Connection.servesAll_readTimeout_iff`: settings for which that is so.
-/

namespace LintDaemon

/-- A number of seconds that a socket takes as a time limit: it is not below zero, and its
nanoseconds, rounded, can be counted. -/
def Binary64.IsTimeLimit (seconds : Binary64) : Prop :=
  seconds.isNegative = false ∧ ∃ negative mantissa exponent,
    seconds.scaleBy 1000000000 = .finite negative mantissa exponent ∧
      (ratio mantissa exponent).1 < maxNanoseconds * (ratio mantissa exponent).2

/-- Where the nanoseconds are a number, sockets take it if it is neither negative nor too great. -/
theorem Binary64.isTimeLimit_iff {seconds : Binary64} {sign : Bool} {size : Nat} {scale : Int}
    (h : seconds.scaleBy 1000000000 = .finite sign size scale) :
    seconds.IsTimeLimit ↔ seconds.isNegative = false ∧
      (ratio size scale).1 < maxNanoseconds * (ratio size scale).2 := by
  unfold IsTimeLimit
  rw [h]
  constructor
  · rintro ⟨hsign, _, _, _, ⟨⟩, hsize⟩
    exact ⟨hsign, hsize⟩
  · rintro ⟨hsign, hsize⟩
    exact ⟨hsign, _, _, _, rfl, hsize⟩

/-- Where the nanoseconds are no number, sockets do not take it. -/
theorem Binary64.not_isTimeLimit {seconds scaled : Binary64}
    (hscaled : seconds.scaleBy 1000000000 = scaled)
    (h : ∀ sign size scale, scaled ≠ .finite sign size scale) : ¬ seconds.IsTimeLimit :=
  fun ⟨_, sign, size, scale, hfinite, _⟩ => h sign size scale (hscaled.symm.trans hfinite)

/-- The size of zero is zero. -/
theorem Binary64.ratio_zero (exponent : Int) : (ratio 0 exponent).1 = 0 := by
  unfold ratio scaled
  split_ifs
  · exact Nat.zero_mul _
  · rfl

/-- Zero stays zero under every factor. -/
theorem Binary64.scaleBy_zero (negative : Bool) (exponent : Int) (factor : Nat) :
    (Binary64.finite negative 0 exponent).scaleBy factor = zero negative := by
  show ofRatio negative ((ratio 0 exponent).1 * factor) (ratio 0 exponent).2 = zero negative
  rw [ratio_zero, Nat.zero_mul]
  rfl

namespace Connection

variable {seconds : Binary64}

/-- A time limit can be set exactly if sockets take it. -/
theorem timeLimitError?_eq_none_iff : timeLimitError? seconds = none ↔ seconds.IsTimeLimit := by
  -- the nanoseconds get a name, so that nothing tries to multiply them out
  obtain ⟨scaled, hscaled⟩ : ∃ scaled, seconds.scaleBy 1000000000 = scaled := ⟨_, rfl⟩
  unfold timeLimitError?
  rw [hscaled]
  cases seconds with
  | nan => exact iff_of_false nofun (Binary64.not_isTimeLimit rfl nofun)
  | infinite negative => exact iff_of_false nofun (Binary64.not_isTimeLimit rfl nofun)
  | finite negative mantissa exponent =>
    cases scaled with
    | nan => exact iff_of_false nofun (Binary64.not_isTimeLimit hscaled nofun)
    | infinite above => exact iff_of_false nofun (Binary64.not_isTimeLimit hscaled nofun)
    | finite sign size scale =>
      rw [Binary64.isTimeLimit_iff hscaled]
      dsimp only
      by_cases hnegative : (Binary64.finite negative mantissa exponent).isNegative = true
      · have hfault : ∀ isBeyond : Bool, (if isBeyond = true then some TimeLimitError.uncountable
            else if true = true then some .negative else none) ≠ none := by decide
        rw [hnegative]
        exact iff_of_false (hfault _) fun h => absurd h.1 (by decide)
      · rw [if_neg hnegative, and_iff_right (Bool.eq_false_iff.mpr hnegative)]
        cases negative with
        | false =>
          rw [if_neg Bool.false_ne_true]
          simp only [decide_eq_true_eq, ite_eq_right_iff, reduceCtorEq, imp_false, ge_iff_le,
            not_le]
        | true =>
          -- of the numbers with a sign only zero is not negative
          obtain rfl : mantissa = 0 := by simpa [Binary64.isNegative] using hnegative
          have hzero := (Binary64.scaleBy_zero true exponent 1000000000).symm.trans hscaled
          cases hzero
          have hmost : 0 < maxNanoseconds * (Binary64.ratio 0 (-1074)).2 := by decide +kernel
          rw [Binary64.ratio_zero, if_pos rfl, decide_eq_false (Nat.not_lt_zero _)]
          exact iff_of_true rfl hmost

end Connection

/-- A run that is ended by a request has met a request that ends it. -/
theorem Server.exists_of_endOf_eq_exited {s : Server} {arrivals : List Arrival}
    (h : s.endOf arrivals = .exited) :
    ∃ a ∈ arrivals, a.endingUnder s.readTimeout = some .exited := by
  induction arrivals generalizing s with
  | nil => cases h
  | cons a rest ih =>
    rw [endOf] at h
    split_ifs at h
    cases hends : a.endingUnder s.readTimeout with
    | some finish =>
      rw [hends] at h
      exact ⟨a, List.mem_cons_self, hends.trans (congrArg some h)⟩
    | none =>
      rw [hends] at h
      obtain ⟨b, hb, hexits⟩ := ih h
      exact ⟨b, List.mem_cons_of_mem a hb, hexits⟩

/-- Under a time limit that cannot be set no request ends the daemon. -/
theorem Server.finish_ne_exited {s : Server} {e : TimeLimitError}
    (h : timeLimitError? s.readTimeout = some e) (arrivals : List Arrival) :
    (s.serveArrivals arrivals).finish ≠ .exited := by
  rw [(s.serveArrivals_left arrivals).1]
  intro hexited
  obtain ⟨a, -, ha⟩ := exists_of_endOf_eq_exited hexited
  cases a with
  | stop => cases ha
  | fault reported => cases ha
  | connection c stopMeanwhile =>
    simp only [Arrival.endingUnder] at ha
    split_ifs at ha with hshut
    · cases h.symm.trans hshut.1
    · cases ha

namespace Connection

/-- Under a time limit all connections are served, but for those of clients that fall silent too
early where there is no limit. -/
structure ServesAll (timeLimit : Binary64) : Prop where
  /-- The request of a connection is carried out. -/
  dispatched : ∀ (c : Connection) (s : Session) (toolchain : Toolchain) (r : Request),
    c.request? = some r → ¬ (timeLimit.isZero = true ∧ c.fallsSilent = true) →
      (c.serve s toolchain timeLimit).session = (s.dispatch toolchain r).session ∧
        (c.serve s toolchain timeLimit).events = (s.dispatch toolchain r).events
  /-- The client is sent the reply, if there is one. -/
  replied : ∀ (c : Connection) (s : Session) (toolchain : Toolchain) (r : Request) (reply : Reply),
    c.request? = some r → (s.dispatch toolchain r).result = .ok reply →
    ¬ (timeLimit.isZero = true ∧ c.fallsSilent = true) →
      (c.serve s toolchain timeLimit).received =
        c.reception.taken (reply.line.elim "" (· ++ "\n"))
  /-- A request to shut down ends the daemon. -/
  shutDown : ∀ (s : Server) (l : Listener) (c : Connection) (stopMeanwhile : Bool)
    (behind : List Arrival), s.readTimeout = timeLimit → s.listener = some l →
      c.request? = some .kill →
        (s.serveArrivals (.connection c stopMeanwhile :: behind)).finish = .exited

/-- A client that asks the daemon to shut down. -/
def killSample : Connection :=
  ⟨Text.Utf8.encode "KILL\n".toList, .closed, .whole⟩

/-- All connections are served exactly under the time limits that can be set. -/
theorem servesAll_iff : ServesAll seconds ↔ seconds.IsTimeLimit := by
  rw [← timeLimitError?_eq_none_iff]
  constructor
  · intro h
    cases htime : timeLimitError? seconds with
    | none => rfl
    | some e =>
      -- the request to shut down leaves a message, unless it is not read at all
      have hevents := (h.dispatched killSample Server.sample.session Server.sample.toolchain .kill
        (by decide) (fun h => absurd h.2 (by decide))).2
      rw [serve_of_timeLimitError htime] at hevents
      cases hevents
  · intro htime
    have hheard : ∀ c : Connection, ¬ (seconds.isZero = true ∧ c.fallsSilent = true) →
        c.isAwaited seconds = false := fun c h =>
      Bool.eq_false_iff.mpr fun hawaited => h (isAwaited_iff.mp hawaited)
    refine ⟨fun c s toolchain r h hnot => serve_of_request?_some htime (hheard c hnot) h,
      fun c s toolchain r reply h hresult hnot => ?_, ?_⟩
    · rw [received_of_ok htime (hheard c hnot) h hresult, Reply.text]
      cases reply.line <;> rfl
    · rintro s l c stopMeanwhile behind rfl hlistener h
      have hends : (Arrival.connection c stopMeanwhile).endingUnder s.readTimeout = some .exited :=
        if_pos ⟨htime, h⟩
      have hended : s.EndsAll (Arrival.connection c stopMeanwhile).client?.toList :=
        List.forall_mem_singleton.mpr (isEndless_serve_kill htime h)
      rw [Server.serveArrivals_ending hends hended]

/-- **With settings that are accepted all connections are served exactly if** the time for reading
is not set, or written as a number of seconds that a socket takes. With any other number no request
is carried out, and none ends the daemon. -/
theorem servesAll_readTimeout_iff {environment values : Values} {settings : Settings}
    (haccepted : Settings.ofValues environment values = .ok settings) :
    let text := Settings.effective environment values "read_timeout"
    (ServesAll settings.readTimeout ↔
      Settings.isUnset text = true ∨
        ∃ written, Numeral.float? text = some written ∧ written.IsTimeLimit) ∧
    (¬ ServesAll settings.readTimeout →
      (∃ e, ∀ (c : Connection) (s : Session) (toolchain : Toolchain),
        c.serve s toolchain settings.readTimeout =
          c.unanswered s (.ended (.error (.timeLimit e))) []) ∧
      ∀ (s : Server) (arrivals : List Arrival), s.readTimeout = settings.readTimeout →
        (s.serveArrivals arrivals).finish ≠ .exited) := by
  intro text
  rw [servesAll_iff]
  constructor
  · rcases Settings.readSeconds_eq_ok_iff.mp (Settings.ofValues_eq_ok haccepted).2.1 with
      ⟨hunset, hdefault⟩ | ⟨hset, hwritten⟩
    · have hlimit : Settings.defaultReadTimeout.IsTimeLimit :=
        timeLimitError?_eq_none_iff.mp (by decide +kernel)
      exact iff_of_true (hdefault ▸ hlimit) (Or.inl hunset)
    · constructor
      · exact fun hlimit => Or.inr ⟨_, hwritten, hlimit⟩
      · rintro (hunset | ⟨written, hsame, hlimit⟩)
        · cases hset.symm.trans hunset
        · exact Option.some.inj (hsame.symm.trans hwritten) ▸ hlimit
  · intro hlimit
    rw [← timeLimitError?_eq_none_iff] at hlimit
    obtain ⟨e, he⟩ := Option.ne_none_iff_exists'.mp hlimit
    refine ⟨⟨e, fun c s toolchain => serve_of_timeLimitError he⟩, ?_⟩
    intro s arrivals hseconds
    exact Server.finish_ne_exited (hseconds ▸ he) arrivals

/-- Half a second. -/
def halfSecond : Binary64 :=
  .finite false 4503599627370496 (-53)

/-- With half a second written in the environment all connections are served. -/
theorem servesAll_readTimeout_iff_half :
    Settings.ofValues [("JAVALINT_READ_TIMEOUT_S", " 0.5 ")] [] =
        .ok { Settings.default with readTimeout := halfSecond } ∧
      ServesAll halfSecond := by
  have haccepted : Settings.ofValues [("JAVALINT_READ_TIMEOUT_S", " 0.5 ")] [] =
      .ok { Settings.default with readTimeout := halfSecond } := by decide +kernel
  have hlimit : halfSecond.IsTimeLimit := timeLimitError?_eq_none_iff.mp (by decide +kernel)
  have hwritten : Numeral.float? " 0.5 " = some halfSecond := by decide +kernel
  exact ⟨haccepted, (servesAll_readTimeout_iff haccepted).1.mpr (Or.inr ⟨_, hwritten, hlimit⟩)⟩

/-- What is no number is accepted as a time for reading, and nobody is served with it. -/
theorem not_forall_servesAll : ¬ ∀ (environment values : Values) (settings : Settings),
    Settings.ofValues environment values = .ok settings → ServesAll settings.readTimeout := by
  intro h
  have hserves := h [("JAVALINT_READ_TIMEOUT_S", "nan")] []
    { Settings.default with readTimeout := .nan } (by decide +kernel)
  obtain ⟨-, negative, mantissa, exponent, hfinite, -⟩ := servesAll_iff.mp hserves
  cases hfinite

end Connection

end LintDaemon
