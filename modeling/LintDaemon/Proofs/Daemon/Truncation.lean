import LintDaemon.Proofs.Client.Refinement
import LintDaemon.Proofs.Daemon.Replies
import LintDaemon.Proofs.Text.Prefixes

/-!
# Requests that break off

What becomes of a request of which only some bytes arrive, because its client dies or falls silent
while it sends them.

* `Connection.IsIgnored`: a connection that changes nothing, calls no compiler, and is answered by
  a complaint.
* `Connection.isIgnored_of_asksNothing`: a connection is ignored if what it asks is refused.
* `Stream.exists_sourceBefore_iff`: a source without complete sentinel line is read only if the
  client has closed behind a last line that is the sentinel.
* `ClientCall.PassesWhole`: the cuts of a request that look like a whole one.
* `Connection.serve_cut`: a request that breaks off is ignored, but for those.

The last line of a closed stream counts as complete. So a value is cut short without a complaint,
and a source may be cut off behind a line that goes on after the letters of the sentinel.
-/

namespace LintDaemon

open LintDaemon.Text

/-! ## Connections that change nothing -/

/-- A refused request changes nothing, calls no compiler, and is answered by an error. -/
theorem Session.dispatch_of_isRefused {r : Request} (h : r.IsRefused) (s : Session)
    (toolchain : Toolchain) :
    (s.dispatch toolchain r).session = s ∧ Event.calls (s.dispatch toolchain r).events = [] ∧
      ∃ message, (s.dispatch toolchain r).result = .ok (.ofLine (Reply.errorLine message)) := by
  cases h with
  | unknownCommand header => exact ⟨rfl, rfl, _, rfl⟩
  | malformed header fault => exact ⟨rfl, rfl, _, rfl⟩
  | unknownProperty value hclasspath hjdk =>
    rw [dispatch, set, if_neg hclasspath, if_neg hjdk]
    exact ⟨rfl, rfl, _, rfl⟩

namespace Connection

/-- A connection whose request, if it has one, is refused. -/
def AsksNothing (c : Connection) : Prop :=
  ∀ r, c.request? = some r → r.IsRefused

/-- A connection that has no effect, and of which its client is told unless it sent nothing. -/
structure IsIgnored (c : Connection) (s : Session) (toolchain : Toolchain)
    (timeLimit : Binary64) : Prop where
  /-- The class path, the installation, the compiler and the count stay as they are. -/
  session_eq : (c.serve s toolchain timeLimit).session = s
  /-- No compiler is called. -/
  calls_eq : Event.calls (c.serve s toolchain timeLimit).events = []
  /-- The daemon goes on. -/
  goesOn : Server.endsDaemon (c.serve s toolchain timeLimit).result = false
  /-- If requests are read at all, a client that stays is sent a complaint, unless it closed without
  sending anything; one that falls silent has to wait for it up to the time limit, if there is
  one. -/
  answer : timeLimitError? timeLimit = none → c.Stays →
    ¬ (timeLimit.isZero = true ∧ c.fallsSilent = true) →
    ∃ text, (c.serve s toolchain timeLimit).received = c.reception.taken text ∧
      if c.client.ending = .closed ∧ c.sent = [] then text = "" else Reply.IsComplaint text

variable {c : Connection} {s : Session} {toolchain : Toolchain} {timeLimit : Binary64}

/-- Where there is a request something was sent, or is still waited for. -/
theorem not_nothingSent (hstays : c.Stays) {r : Request} (h : c.request? = some r) :
    ¬ (c.client.ending = .closed ∧ c.sent = []) := by
  rw [← request?_eq_none_iff hstays, h]
  exact Option.some_ne_none r

/-- Under a time limit that cannot be set every connection is ignored. -/
theorem isIgnored_of_timeLimitError {e : TimeLimitError} (h : timeLimitError? timeLimit = some e) :
    c.IsIgnored s toolchain timeLimit := by
  have hserve : c.serve s toolchain timeLimit = _ := serve_of_timeLimitError h
  refine ⟨by rw [hserve]; rfl, by rw [hserve]; rfl, by rw [hserve]; rfl, fun htime => ?_⟩
  cases h.symm.trans htime

/-- A connection that asks nothing is ignored. -/
theorem isIgnored_of_asksNothing (h : c.AsksNothing) : c.IsIgnored s toolchain timeLimit := by
  cases htime : timeLimitError? timeLimit with
  | some e => exact isIgnored_of_timeLimitError htime
  | none =>
    rcases serve_cases htime c s toolchain with
      ⟨hawaited, hserve⟩ | ⟨fault, hfault, hserve⟩ | ⟨-, hnone, hserve⟩ | ⟨r, hrequest, hawaited⟩
    · refine ⟨by rw [hserve]; rfl, by rw [hserve]; rfl, by rw [hserve]; rfl, fun _ _ hheard => ?_⟩
      exact absurd (isAwaited_iff.mp hawaited) hheard
    · refine ⟨by rw [hserve]; rfl, by rw [hserve]; rfl, by rw [hserve]; rfl, fun _ hstays => ?_⟩
      cases hstays.readFault?_eq_none.symm.trans hfault
    · refine ⟨by rw [hserve]; rfl, by rw [hserve]; rfl, by rw [hserve]; rfl, fun _ hstays _ => ?_⟩
      refine ⟨"", by rw [hserve]; rfl, ?_⟩
      rw [if_pos ((request?_eq_none_iff hstays).mp hnone)]
    · have hrefused := h r hrequest
      have hkill : c.request? ≠ some .kill := by
        rw [hrequest]
        rintro ⟨⟩
        cases hrefused
      obtain ⟨hsession, hcalls, message, hresult⟩ :=
        Session.dispatch_of_isRefused hrefused s toolchain
      obtain ⟨hserved, hevents⟩ := serve_of_request?_some htime hawaited hrequest
      refine ⟨hserved.trans hsession, hevents ▸ hcalls, endsDaemon_serve htime hkill,
        fun _ hstays _ => ?_⟩
      refine ⟨_, received_of_ok htime hawaited hrequest hresult, ?_⟩
      rw [if_neg (not_nothingSent hstays hrequest)]
      exact Reply.isComplaint_errorLine message

/-- A client that has closed, takes all of its reply, and is ignored asked nothing. -/
theorem asksNothing_of_isIgnored (htime : timeLimitError? timeLimit = none)
    (hclosed : c.client = .closed) (hwhole : c.reception = .whole)
    (h : c.IsIgnored s toolchain timeLimit) : c.AsksNothing := by
  intro r hr
  have hstays : c.Stays := ⟨by rw [hclosed]; nofun, by rw [hwhole]; nofun⟩
  have hheard : ¬ (timeLimit.isZero = true ∧ c.fallsSilent = true) := by
    rw [fallsSilent_iff, hclosed]
    rintro ⟨-, ⟨⟩, -⟩
  obtain ⟨text, htext, hanswer⟩ := h.answer htime hstays hheard
  rw [if_neg (not_nothingSent hstays hr)] at hanswer
  obtain ⟨text', htext', hcases⟩ := received_cases s toolchain htime hstays
  rw [htext, hwhole] at htext'
  obtain rfl := Option.some.inj htext'
  rcases hcases with ⟨rfl, -⟩ | ⟨hreport, -⟩ | ⟨-, -, r', hr', hrefused⟩
  · exact absurd rfl hanswer.ne_empty
  · exact absurd hanswer hreport.not_isComplaint
  · cases hr.symm.trans hr'
    exact hrefused

end Connection

/-! ## What is read of a text that breaks off -/

namespace Stream

/-- A source is read without a complete sentinel line only if the client has closed behind a last
line that is the sentinel. -/
theorem exists_sourceBefore_iff {ending : Ending} {text : List Char}
    (h : Request.sentinel ∉ completeLines text) :
    (∃ source, SourceBefore ending text source) ↔
      ending = .closed ∧ lastLine text = Request.sentinel := by
  constructor
  · rintro ⟨source, ls, tail, rest, hls, -, rfl, rfl, htail⟩
    have hwhole : IsWhole (ls.map (· ++ ['\n'])).flatten := by
      clear hls h
      induction ls with
      | nil => exact IsWhole.nil
      | cons line ls ih => exact (IsWhole.newline line).append ih
    have hlast : lastLine ((ls.map (· ++ ['\n'])).flatten ++ Request.sentinel) =
        Request.sentinel := by
      rw [lastLine_append_of_not_mem _ (by decide), hwhole.lastLine_eq, List.nil_append]
    generalize hsentinel : Request.sentinel = sentinel at *
    cases htail with
    | last hending => exact ⟨hending, hlast⟩
    | ended _ rest =>
      -- the sentinel line is complete
      refine absurd ?_ h
      rw [← List.append_assoc, completeLines_newline, ← completeLines_append_lastLine, hlast]
      simp
  · rintro ⟨hending, hlast⟩
    refine ⟨_, completeLines text, lastLine text, [],
      fun line hline => not_mem_of_mem_completeLines hline, h, rfl,
      (flatten_completeLines text).symm, ?_⟩
    rw [hlast]
    exact .last hending (by decide) (by decide)

end Stream

namespace Connection

variable {c : Connection}

/-- What a connection carries that does not break is told by the text that has arrived. -/
theorem request?_eq_iff (hfault : c.readFault? = none) {r : Option Request} :
    c.request? = r ↔ Stream.Carries c.client.ending (Stream.arrived c.sent c.client.ending) r := by
  rw [request?_eq_read hfault, stream, Stream.ofBytes_eq]
  exact ⟨fun h => h ▸ Stream.carries_read _ _, Stream.Carries.read_eq⟩

/-- A connection whose client closes does not break. -/
theorem readFault?_of_closed (h : c.client.ending = .closed) : c.readFault? = none := by
  unfold readFault?
  cases hclient : c.client with
  | closed => rfl
  | silent => rfl
  | broken fault =>
    rw [hclient] at h
    cases h

/-- A header without its line end asks nothing, unless it sets a property or kills. -/
theorem asksNothing_of_header {header : List Char} (hheader : '\n' ∉ header)
    (harrived : Stream.arrived c.sent c.client.ending = header)
    (h : c.client.ending = .closed → ¬ Request.Announces header .kill ∧
      ∀ property value, ¬ Request.Announces header (.set property value)) : c.AsksNothing := by
  intro r hr
  have hcarries := (request?_eq_iff (readFault?_of_request? hr)).mp hr
  rw [harrived] at hcarries
  have hlast : ∀ {line rest}, Stream.FirstLine c.client.ending header line rest →
      c.client.ending = .closed ∧ line = header ∧ rest = [] := by
    rintro line rest (⟨-, rest⟩ | ⟨hending, -, -⟩)
    · exact absurd (by simp) hheader
    · exact ⟨hending, rfl, rfl⟩
  cases hcarries with
  | headerTimedOut => exact .malformed _ _
  | bodyEnded => exact .malformed _ _
  | bodyTimedOut => exact .malformed _ _
  | lint hfirst _ hsource =>
    obtain ⟨hending, -, rfl⟩ := hlast hfirst
    cases hsource.readBody_eq.symm.trans (by rw [hending])
  | announced hfirst hannounces hlint =>
    obtain ⟨hending, rfl, -⟩ := hlast hfirst
    obtain ⟨hkill, hset⟩ := h hending
    cases r with
    | lint name body => exact absurd rfl (hlint name body)
    | set property value => exact absurd hannounces (hset property value)
    | kill => exact absurd hannounces hkill
    | unknown header => exact .unknownCommand _
    | malformed header fault => exact .malformed _ _

/-- A lint asks nothing without a source. -/
theorem asksNothing_of_lint {header rest : List Char} {name : String}
    (hfirst : Stream.FirstLine c.client.ending (Stream.arrived c.sent c.client.ending) header rest)
    (hannounces : Request.Announces header (.lint name ""))
    (hsource : ∀ source, ¬ Stream.SourceBefore c.client.ending rest source) : c.AsksNothing := by
  intro r hr
  have hfault := readFault?_of_request? hr
  cases hending : c.client.ending with
  | closed =>
    have hended :=
      (request?_eq_iff hfault).mpr (.bodyEnded hending hfirst hannounces hsource)
    cases hr.symm.trans hended
    exact .malformed _ _
  | stalled =>
    have hended :=
      (request?_eq_iff hfault).mpr (.bodyTimedOut hending hfirst hannounces hsource)
    cases hr.symm.trans hended
    exact .malformed _ _

end Connection

/-! ## The cuts of a request -/

namespace Request

/-- A header that kills begins with the method. -/
theorem Announces.kill_isPrefix {header : List Char} (h : Announces header .kill) :
    killMethod <+: header := by
  cases h with
  | kill h =>
    rcases h with ⟨-, rfl | ⟨rest, rfl⟩⟩
    · exact List.prefix_rfl
    · exact List.prefix_append _ _

/-- A header that sets a property begins with the method, and has two tabs. -/
theorem Announces.set_isPrefix {header : List Char} {property value : String}
    (h : Announces header (.set property value)) :
    setMethod <+: header ∧ 2 ≤ header.count delimiter := by
  cases h with
  | set hproperty h =>
    subst h
    refine ⟨List.prefix_append _ _, ?_⟩
    simp only [List.count_append, List.count_cons_self]
    omega

/-- A header that sets a property ends with the value. -/
theorem setHeader_eq_append (property value : List Char) :
    setHeader property value = setHeader property [] ++ value := by
  simp [setHeader]

/-- A header that sets a property named in ASCII is in ASCII up to the value. -/
theorem isAscii_setHeader {property : List Char} (hproperty : IsAscii property) :
    IsAscii (setHeader property []) := by
  have hmethod : IsAscii (setMethod ++ [delimiter]) := by decide
  have hdelimiter : IsAscii [delimiter] := by decide
  have hparts : setHeader property [] =
      (setMethod ++ [delimiter]) ++ (property ++ [delimiter]) := by
    simp [setHeader]
  rw [hparts]
  exact isAscii_append_iff.mpr ⟨hmethod, isAscii_append_iff.mpr ⟨hproperty, hdelimiter⟩⟩

/-- Up to its second tab a header that sets a property reads neither as one that kills nor as one
that sets a property. -/
theorem not_begins_of_isPrefix_setHeader {property start : List Char}
    (htab : delimiter ∉ property) (hstart : start <+: setHeader property [])
    (hne : start ≠ setHeader property []) :
    ¬ killMethod <+: start ∧ ¬ (setMethod <+: start ∧ 2 ≤ start.count delimiter) := by
  constructor
  · intro hkill
    have hmethod := hkill.trans hstart
    simp [killMethod, setHeader, setMethod] at hmethod
  · rintro ⟨-, hcount⟩
    have hlast : setHeader property [] =
        (setMethod ++ delimiter :: property) ++ [delimiter] := by
      simp [setHeader]
    rw [hlast] at hstart hne
    have hbefore := (List.prefix_concat_iff.mp hstart).resolve_left hne
    have hle := hbefore.sublist.count_le delimiter
    rw [List.count_append, List.count_cons_self, List.count_eq_zero_of_not_mem htab] at hle
    have hmethod : setMethod.count delimiter = 0 := by decide
    omega

end Request

namespace Text.Utf8.BreaksOff

variable {text read next tail : List Char} {cut : List UInt8}
  (h : BreaksOff text cut read next tail)

include h

/-- What has arrived once the client has closed. -/
theorem arrived_closed : Stream.arrived cut .closed = normalizeNewlines read ++ tail := by
  rw [Stream.arrived, h.lossy_eq]
  rcases h.tail_cases with ⟨rfl, -⟩ | ⟨rfl, -⟩
  · rw [List.append_nil, List.append_nil]
  · exact normalizeNewlines_concat read (by decide) (by decide)

/-- What has arrived while more may come. -/
theorem arrived_stalled :
    Stream.arrived cut .stalled = normalizeNewlines (withoutLastReturn read) := by
  rw [Stream.arrived, h.heldBack_eq]

/-- What has arrived of one line. -/
theorem arrived_of_isOneLine (hread : IsOneLine read) (ending : Ending) :
    ∃ tail', Stream.arrived cut ending = read ++ tail' ∧ '\n' ∉ read ++ tail' ∧
      (ending = .closed → tail' = tail) := by
  cases ending with
  | closed =>
    refine ⟨tail, ?_, ?_, fun _ => rfl⟩
    · rw [h.arrived_closed, normalizeNewlines_of_no_return hread.no_return]
    · simp [hread.no_newline, h.isOneLine_tail.no_newline]
  | stalled =>
    have hreturn : withoutLastReturn read = read := by
      unfold withoutLastReturn
      split
      · exact absurd (List.mem_of_getLast? ‹_›) hread.no_return
      · rfl
    refine ⟨[], ?_, ?_, nofun⟩
    · rw [h.arrived_stalled, hreturn, normalizeNewlines_of_no_return hread.no_return,
        List.append_nil]
    · simpa using hread.no_newline

end Text.Utf8.BreaksOff

namespace Connection

variable {cut missing : List UInt8} (client : ClientState) (reception : Reception)

/-- What breaks off inside the first line asks nothing, unless it reads as a header that kills or
sets a property. -/
theorem asksNothing_of_breaksOff {line read next tail : List Char} (hline : IsOneLine read)
    (hbreak : Utf8.BreaksOff line cut read next tail)
    (h : client.ending = .closed → ¬ Request.killMethod <+: read ++ tail ∧
      ¬ (Request.setMethod <+: read ++ tail ∧ 2 ≤ (read ++ tail).count Request.delimiter)) :
    AsksNothing ⟨cut, client, reception⟩ := by
  obtain ⟨tail', harrived, hunbroken, htail⟩ := hbreak.arrived_of_isOneLine hline client.ending
  refine asksNothing_of_header hunbroken harrived fun hclosed => ?_
  obtain ⟨hkill, hset⟩ := h hclosed
  rw [htail hclosed]
  exact ⟨fun hannounces => hkill hannounces.kill_isPrefix,
    fun _ _ hannounces => hset hannounces.set_isPrefix⟩

/-- A kill request that breaks off asks nothing. -/
theorem asksNothing_of_cut_kill (h : Utf8.encode Request.encodeKill = cut ++ missing)
    (hmissing : 2 ≤ missing.length) : AsksNothing ⟨cut, client, reception⟩ := by
  have hencode : Request.encodeKill = Request.killMethod ++ ['\n'] := rfl
  rw [hencode] at h
  obtain ⟨read, next, tail, hne, hbreak⟩ := Utf8.exists_breaksOff_line h hmissing
  have htext := hbreak.text_eq
  have hline : IsOneLine (read ++ next) := htext ▸ ⟨by decide, by decide⟩
  have hascii : IsAscii (read ++ next) := htext ▸ by decide
  have htail : tail = [] :=
    hbreak.tail_eq_nil_of_isAscii (List.append_nil next).symm hne (isAscii_append_iff.mp hascii).2
  refine asksNothing_of_breaksOff client reception hline.left hbreak fun _ => ?_
  rw [htail, List.append_nil]
  constructor
  · intro hkill
    have hlength := hkill.length_le
    rw [htext, List.length_append] at hlength
    exact hne (List.eq_nil_of_length_eq_zero (by omega))
  · rintro ⟨hset, -⟩
    have hbegins : Request.setMethod <+: Request.killMethod :=
      htext ▸ hset.trans (List.prefix_append _ _)
    exact absurd hbegins (by decide)

/-- A request that breaks off behind a header that sets a property, up to the value, sets it to what
has come of the value. -/
theorem request?_of_breaksOff_value {line next tail start : List Char} {property : String}
    (hclosed : client.ending = .closed) (htab : Request.delimiter ∉ property.toList)
    (hread : IsOneLine (Request.setHeader property.toList [] ++ start))
    (hbreak : Utf8.BreaksOff line cut (Request.setHeader property.toList [] ++ start) next tail) :
    ∃ value, request? ⟨cut, client, reception⟩ = some (.set property value) := by
  obtain ⟨tail', harrived, hunbroken, -⟩ := hbreak.arrived_of_isOneLine hread client.ending
  rw [List.append_assoc, ← Request.setHeader_eq_append] at harrived hunbroken
  refine ⟨String.ofList (start ++ tail'), (request?_eq_iff (readFault?_of_closed hclosed)).mpr ?_⟩
  have hfirst : Stream.FirstLine client.ending
      (Request.setHeader property.toList (start ++ tail'))
      (Request.setHeader property.toList (start ++ tail')) [] :=
    .last hclosed (List.cons_ne_nil _ _) hunbroken
  have hannounces : Request.Announces (Request.setHeader property.toList (start ++ tail'))
      (.set (String.ofList property.toList) (String.ofList (start ++ tail'))) := .set htab rfl
  rw [String.ofList_toList] at hannounces
  rw [harrived]
  exact .announced hfirst hannounces (by rintro - - ⟨⟩)

/-- A request that sets a property asks nothing if it breaks off before its value. If the client
closes behind that, the property is set to what has come of the value. -/
theorem asksNothing_of_cut_set {property value : String}
    (hproperty : IsAscii property.toList) (htab : Request.delimiter ∉ property.toList)
    (hline : IsOneLine property.toList) (hvalue : IsOneLine value.toList)
    (h : Utf8.encode (Request.encodeSet property.toList value.toList) = cut ++ missing)
    (hmissing : 2 ≤ missing.length) :
    (¬ (client.ending = .closed ∧
        Utf8.encode (Request.setHeader property.toList []) <+: cut) →
      AsksNothing ⟨cut, client, reception⟩) ∧
    (client.ending = .closed → Utf8.encode (Request.setHeader property.toList []) <+: cut →
      ∃ start, request? ⟨cut, client, reception⟩ = some (.set property start)) := by
  have hencode : Request.encodeSet property.toList value.toList =
      Request.setHeader property.toList value.toList ++ ['\n'] := by
    simp [Request.encodeSet, Request.setHeader]
  rw [hencode] at h
  obtain ⟨read, next, tail, hne, hbreak⟩ := Utf8.exists_breaksOff_line h hmissing
  have htext := hbreak.text_eq
  have hread : IsOneLine read := (htext ▸ Request.isOneLine_setHeader hline hvalue).left
  rw [hbreak.encode_isPrefix_iff]
  constructor
  · intro hcut
    refine asksNothing_of_breaksOff client reception hread hbreak fun hclosed => ?_
    rw [Request.setHeader_eq_append] at htext
    -- what is read reaches the value, or ends before it
    obtain ⟨start, rfl, -⟩ | ⟨k, hk, hnext⟩ := List.append_eq_append_iff.mp htext
    · exact absurd ⟨hclosed, List.prefix_append _ _⟩ hcut
    · have hbefore : read ≠ Request.setHeader property.toList [] := fun heq =>
        hcut ⟨hclosed, heq ▸ List.prefix_rfl⟩
      have hk_ne : k ≠ [] := by
        rintro rfl
        exact hbefore (by simpa using hk.symm)
      have hascii : IsAscii k :=
        (isAscii_append_iff.mp (hk ▸ Request.isAscii_setHeader hproperty)).2
      rw [hbreak.tail_eq_nil_of_isAscii hnext hk_ne hascii, List.append_nil]
      exact Request.not_begins_of_isPrefix_setHeader htab (hk ▸ List.prefix_append _ _) hbefore
  · rintro hclosed ⟨start, rfl⟩
    exact request?_of_breaksOff_value client reception hclosed htab hread hbreak

/-- A lint request asks nothing if it breaks off inside its header, and its last line is not the
sentinel then. -/
theorem asksNothing_of_cut_lintHeader {line header read next tail : List Char}
    (hheader : IsOneLine header) (hhead : header.head? = some 'L') (hread : read <+: header)
    (hbreak : Utf8.BreaksOff line cut read next tail) (hline : line.head? = some 'L') :
    AsksNothing ⟨cut, client, reception⟩ ∧
      lastLine (Stream.arrived cut .closed) ≠ Request.sentinel := by
  obtain ⟨rest, rfl⟩ := hread
  -- what is read is nothing, or begins as the header does
  have hfirst : ∀ c s, c ≠ 'L' → ¬ c :: s <+: read ++ tail := by
    rintro c s hc ⟨more, hmore⟩
    cases read with
    | cons d read =>
      obtain rfl : d = 'L' := by simpa using hhead
      exact hc (List.cons.inj hmore).1
    | nil =>
      obtain ⟨behind, hnext⟩ := List.head?_eq_some_iff.mp (hbreak.text_eq ▸ hline)
      have htail := hbreak.tail_eq_nil hnext (by decide)
      rw [htail] at hmore
      cases hmore
  constructor
  · refine asksNothing_of_breaksOff client reception hheader.left hbreak fun _ => ⟨?_, ?_⟩
    · exact hfirst 'K' _ (by decide)
    · exact fun h => hfirst 'S' _ (by decide) h.1
  · obtain ⟨tail', harrived, hunbroken, htail⟩ := hbreak.arrived_of_isOneLine hheader.left .closed
    rw [harrived, lastLine_of_not_mem hunbroken, htail rfl]
    intro hsentinel
    exact hfirst 'E' ['N', 'D'] (by decide) (hsentinel ▸ List.prefix_rfl)

/-- No complete line of what has come of a source is the sentinel. -/
theorem sentinel_not_mem_completeLines {source start : List Char}
    (hsource : Request.sentinel ∉ fields '\n' (normalizeNewlines source))
    (hstart : start <+: Request.terminated source ++ Request.sentinel) :
    Request.sentinel ∉ completeLines (normalizeNewlines start) := by
  obtain ⟨rest, hrest⟩ := hstart
  have hlines : completeLines (normalizeNewlines (start ++ rest)) =
      Request.bodyLines (normalizeNewlines source) := by
    rw [hrest, normalizeNewlines_append (Request.isWhole_terminated source),
      completeLines_append_of_not_mem _ (by decide), Request.normalizeNewlines_terminated]
    rfl
  intro hmem
  obtain ⟨more, hmore⟩ := normalizeNewlines_isPrefix start rest
  have hbegins := completeLines_isPrefix (normalizeNewlines start) more
  rw [hmore, hlines] at hbegins
  exact hsource ((Request.mem_bodyLines_iff (by decide)).mp (hbegins.subset hmem))

/-- What arrives of a lint request that breaks off in its source: the header, and lines of which
none that is complete is the sentinel. -/
theorem exists_arrived_source {line header source start next tail : List Char}
    (hheader : IsOneLine header)
    (hsource : Request.sentinel ∉ fields '\n' (normalizeNewlines source))
    (hstart : start <+: Request.terminated source ++ Request.sentinel)
    (hbreak : Utf8.BreaksOff line cut (header ++ '\n' :: start) next tail) (ending : Ending) :
    ∃ rest, Stream.arrived cut ending = header ++ '\n' :: rest ∧
      Request.sentinel ∉ completeLines rest := by
  have hnormalize : ∀ t, normalizeNewlines (header ++ '\n' :: t) =
      header ++ '\n' :: normalizeNewlines t := by
    intro t
    have hreturn : '\r' ∉ header ++ ['\n'] := by simp [hheader.no_return]
    rw [normalizeNewlines_newline, normalizeNewlines_of_no_return hreturn, List.append_assoc]
    rfl
  cases ending with
  | closed =>
    refine ⟨normalizeNewlines start ++ tail, ?_, ?_⟩
    · rw [hbreak.arrived_closed, hnormalize, List.append_assoc]
      rfl
    · rw [completeLines_append_of_not_mem _ hbreak.isOneLine_tail.no_newline]
      exact sentinel_not_mem_completeLines hsource hstart
  | stalled =>
    refine ⟨normalizeNewlines (withoutLastReturn start), ?_, ?_⟩
    · rw [hbreak.arrived_stalled, withoutLastReturn_newline, hnormalize]
    · exact sentinel_not_mem_completeLines hsource ((withoutLastReturn_isPrefix start).trans hstart)

/-- A lint request of which the header has come, and of the source no line that is the sentinel,
asks nothing unless the client closes behind a last line that is the sentinel; then its source is
what has come before. -/
theorem asksNothing_of_arrived_source {header rest : List Char} {name : String}
    (hannounces : Request.Announces header (.lint name "")) (hheader : '\n' ∉ header)
    (harrived : Stream.arrived cut client.ending = header ++ '\n' :: rest)
    (hcomplete : Request.sentinel ∉ completeLines rest) :
    (¬ (client.ending = .closed ∧ lastLine (Stream.arrived cut .closed) = Request.sentinel) →
      AsksNothing ⟨cut, client, reception⟩) ∧
    (client.ending = .closed → lastLine (Stream.arrived cut .closed) = Request.sentinel →
      ∃ start, request? ⟨cut, client, reception⟩ = some (.lint name start)) := by
  have hfirst : Stream.FirstLine client.ending (Stream.arrived cut client.ending) header rest :=
    harrived ▸ .ended hheader rest
  have hiff : (∃ source, Stream.SourceBefore client.ending rest source) ↔ _ :=
    Stream.exists_sourceBefore_iff hcomplete
  have hlast : client.ending = .closed →
      lastLine (Stream.arrived cut .closed) = lastLine rest := by
    intro hclosed
    rw [hclosed] at harrived
    rw [harrived, lastLine_newline]
  constructor
  · intro hcut
    refine asksNothing_of_lint hfirst hannounces fun source hbefore => ?_
    obtain ⟨hclosed, hsentinel⟩ := hiff.mp ⟨source, hbefore⟩
    exact hcut ⟨hclosed, (hlast hclosed).trans hsentinel⟩
  · intro hclosed hsentinel
    obtain ⟨body, hbefore⟩ := hiff.mpr ⟨hclosed, (hlast hclosed).symm.trans hsentinel⟩
    exact ⟨String.ofList body, (request?_eq_iff (readFault?_of_closed hclosed)).mpr
      (.lint hfirst hannounces hbefore)⟩

/-- A lint request asks nothing if it breaks off, unless the client closes behind a last line that
is the sentinel; then its source is what has come before. -/
theorem asksNothing_of_cut_lint {name source : String} (hname : isUnitName name = true)
    (hsource : Request.sentinel ∉ fields '\n' (normalizeNewlines source.toList))
    (h : Utf8.encode (Request.encodeLint name.toList source.toList) = cut ++ missing)
    (hmissing : 2 ≤ missing.length) :
    (¬ (client.ending = .closed ∧ lastLine (Stream.arrived cut .closed) = Request.sentinel) →
      AsksNothing ⟨cut, client, reception⟩) ∧
    (client.ending = .closed → lastLine (Stream.arrived cut .closed) = Request.sentinel →
      ∃ start, request? ⟨cut, client, reception⟩ = some (.lint name start)) := by
  have hencode : Request.encodeLint name.toList source.toList =
      (Request.lintHeader name.toList ++
        '\n' :: (Request.terminated source.toList ++ Request.sentinel)) ++ ['\n'] := by
    rw [Request.encodeLint_eq]
    simp
  rw [hencode] at h
  obtain ⟨read, next, tail, hne, hbreak⟩ := Utf8.exists_breaksOff_line h hmissing
  have hheader := Request.isOneLine_lintHeader hname
  have hinside : ∀ {header'}, Request.lintHeader name.toList = header' → read <+: header' →
      AsksNothing ⟨cut, client, reception⟩ ∧
      lastLine (Stream.arrived cut .closed) ≠ Request.sentinel := by
    rintro _ rfl hread
    exact asksNothing_of_cut_lintHeader client reception hheader rfl hread hbreak rfl
  -- what is read ends in the header, or behind it in the source
  obtain ⟨behind, hread, hnext⟩ | ⟨k, hk, -⟩ := List.append_eq_append_iff.mp hbreak.text_eq
  · cases behind with
    | nil =>
      rw [List.append_nil] at hread
      obtain ⟨hnothing, hlast⟩ := hinside rfl (hread ▸ List.prefix_rfl)
      exact ⟨fun _ => hnothing, fun _ hsentinel => absurd hsentinel hlast⟩
    | cons c start =>
      obtain ⟨rfl, hstart⟩ := List.cons.inj hnext
      subst hread
      obtain ⟨rest, harrived, hcomplete⟩ := exists_arrived_source hheader hsource
        (hstart ▸ List.prefix_append _ _) hbreak client.ending
      have hannounces : Request.Announces (Request.lintHeader name.toList) (.lint name "") := by
        have hlint := Request.ofHeader_eq_iff.mp (Request.ofHeader_lintHeader hname).2
        rwa [String.ofList_toList] at hlint
      exact asksNothing_of_arrived_source client reception hannounces hheader.no_newline harrived
        hcomplete
  · obtain ⟨hnothing, hlast⟩ := hinside hk (List.prefix_append _ _)
    exact ⟨fun _ => hnothing, fun _ hsentinel => absurd hsentinel hlast⟩

end Connection

/-! ## Truncated requests -/

/-- The cuts of a request that look like a whole one when the client closes behind them: those
inside the value of a property, and those behind a last line of the source that has the letters of
the sentinel so far. -/
def ClientCall.PassesWhole : ClientCall → List UInt8 → Prop
  | .lint _ _, cut => lastLine (Stream.arrived cut .closed) = Request.sentinel
  | .setClasspath _, cut =>
    Utf8.encode (Request.setHeader Request.classpathProperty.toList []) <+: cut
  | .setJdk _, cut => Utf8.encode (Request.setHeader Request.jdkProperty.toList []) <+: cut
  | .kill, _ => False

namespace Connection

/-- A request that breaks off asks nothing, or looks like a whole one. -/
theorem asksNothing_of_cut {call : ClientCall} (hcall : call.IsSendable) {cut missing : List UInt8}
    (hbytes : call.bytes = cut ++ missing) (hmissing : 2 ≤ missing.length) (client : ClientState)
    (reception : Reception) :
    (¬ (client.ending = .closed ∧ call.PassesWhole cut) → AsksNothing ⟨cut, client, reception⟩) ∧
    (client.ending = .closed → call.PassesWhole cut →
      ∃ r, request? ⟨cut, client, reception⟩ = some r ∧ ¬ r.IsRefused) := by
  have hset : ∀ {property value : String},
      (property = Request.classpathProperty ∨ property = Request.jdkProperty) →
      ¬ (Request.set property value).IsRefused := by
    rintro property value hproperty (⟨⟩ | ⟨-, hclasspath, hjdk⟩)
    exact hproperty.elim hclasspath hjdk
  cases call with
  | lint name source =>
    obtain ⟨hnothing, hlint⟩ :=
      asksNothing_of_cut_lint client reception hcall.1 hcall.2 hbytes hmissing
    refine ⟨hnothing, fun hclosed hpasses => ?_⟩
    obtain ⟨start, hstart⟩ := hlint hclosed hpasses
    exact ⟨_, hstart, nofun⟩
  | setClasspath value =>
    obtain ⟨hnothing, hstart⟩ := asksNothing_of_cut_set client reception (by decide) (by decide)
      ⟨by decide, by decide⟩ hcall hbytes hmissing
    refine ⟨hnothing, fun hclosed hpasses => ?_⟩
    obtain ⟨start, hstart⟩ := hstart hclosed hpasses
    exact ⟨_, hstart, hset (Or.inl rfl)⟩
  | setJdk home =>
    obtain ⟨hnothing, hstart⟩ := asksNothing_of_cut_set client reception (by decide) (by decide)
      ⟨by decide, by decide⟩ hcall hbytes hmissing
    refine ⟨hnothing, fun hclosed hpasses => ?_⟩
    obtain ⟨start, hstart⟩ := hstart hclosed hpasses
    exact ⟨_, hstart, hset (Or.inr rfl)⟩
  | kill =>
    exact ⟨fun _ => asksNothing_of_cut_kill client reception hbytes hmissing, fun _ => False.elim⟩

/-- **A request that breaks off is ignored**: it changes nothing, calls no compiler, does not end
the daemon, and is answered by a complaint, however the client goes on. The exceptions are those
that look like a whole request when the client closes behind them: they are carried out, and a
client that takes all of its reply is told nothing of what is missing. -/
theorem serve_cut {call : ClientCall} (hcall : call.IsSendable) {cut missing : List UInt8}
    (hbytes : call.bytes = cut ++ missing) (hmissing : 2 ≤ missing.length) (client : ClientState)
    (reception : Reception) (s : Session) (toolchain : Toolchain) (timeLimit : Binary64) :
    (¬ (client.ending = .closed ∧ call.PassesWhole cut) →
      IsIgnored ⟨cut, client, reception⟩ s toolchain timeLimit) ∧
    (client.ending = .closed → call.PassesWhole cut →
      (∃ r, request? ⟨cut, client, reception⟩ = some r ∧ ¬ r.IsRefused) ∧
        (timeLimitError? timeLimit = none → reception = .whole →
          ¬ IsIgnored ⟨cut, client, reception⟩ s toolchain timeLimit)) := by
  obtain ⟨hnothing, hpasses⟩ := asksNothing_of_cut hcall hbytes hmissing client reception
  constructor
  · exact fun hcut => isIgnored_of_asksNothing (hnothing hcut)
  · intro hclosed hcut
    obtain ⟨r, hr, hrefused⟩ := hpasses hclosed hcut
    refine ⟨⟨r, hr, hrefused⟩, fun htime hwhole hignored => ?_⟩
    have hclient : client = .closed := by
      cases client with
      | closed => rfl
      | silent | broken => cases hclosed
    exact hrefused (asksNothing_of_isIgnored htime hclient hwhole hignored r hr)

/-- A lint of a class whose name is not in ASCII. -/
def sampleLint : ClientCall := .lint "Grüße" "class Grüße {}\r\nENDE"

/-- Its bytes up to the middle of the second umlaut. -/
def lintCut : List UInt8 :=
  Utf8.encode "LINT\tGrüße\nclass Gr".toList ++ [0xC3]

/-- A lint of which only some bytes arrive before its client dies is ignored. -/
theorem serve_cut_sampleLint :
    sampleLint.IsSendable ∧ lintCut <+: sampleLint.bytes ∧ ¬ sampleLint.PassesWhole lintCut ∧
      IsIgnored ⟨lintCut, .closed, .whole⟩ Server.sample.session Server.sample.toolchain
        Server.sample.readTimeout := by
  have hcall : sampleLint.IsSendable := by decide +kernel
  have hbytes : sampleLint.bytes = lintCut ++ sampleLint.bytes.drop lintCut.length := by
    decide +kernel
  have hmissing : 2 ≤ (sampleLint.bytes.drop lintCut.length).length := by decide +kernel
  have hpasses : ¬ sampleLint.PassesWhole lintCut := by
    unfold sampleLint ClientCall.PassesWhole
    decide +kernel
  obtain ⟨hignored, -⟩ := serve_cut hcall hbytes hmissing .closed .whole Server.sample.session
    Server.sample.toolchain Server.sample.readTimeout
  exact ⟨hcall, hbytes ▸ List.prefix_append _ _, hpasses, hignored fun h => hpasses h.2⟩

/-- A class path of which the end is missing is set. -/
theorem not_forall_serve_cut : ¬ ∀ (call : ClientCall) (cut missing : List UInt8)
    (client : ClientState) (reception : Reception) (s : Session) (toolchain : Toolchain)
    (timeLimit : Binary64), call.IsSendable → call.bytes = cut ++ missing → 2 ≤ missing.length →
      IsIgnored ⟨cut, client, reception⟩ s toolchain timeLimit := by
  intro h
  have hignored := h (.setClasspath "/lib/a.jar")
    (Utf8.encode "SET\tCLASSPATH\t/lib/a".toList) (Utf8.encode ".jar\n".toList) .closed
    .whole Server.sample.session Server.sample.toolchain (.ofNat 30) (by decide) (by decide)
    (by decide)
  have hclasspath := congrArg Session.classpath hignored.session_eq
  exact absurd hclasspath (by decide +kernel)

end Connection

end LintDaemon
