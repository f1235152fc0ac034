import LintDaemon.Proofs.Protocol.Grammar

/-!
# Requests sent again

What the daemon has read can be sent again. The bytes of a first request may be no text, break
their lines in three ways, end inside a line and carry fields that nobody asked for; nothing of
this is left in the request, and so the text that a client writes for it is read as the same
request.

* `Request.IsCarried`: the requests that the wire carries as they are.
* `Stream.isCarried_of_read`: a request that was read is one of them, if clients send such requests.
* `Request.IsCarried.read_encode`: these are read back, with what follows them left.
* `Stream.read_encode_of_read`: what was read can be sent again.
* `Stream.read_encodeSet_iff`: the properties and values that a set request delivers.
-/

namespace LintDaemon

open LintDaemon.Text

namespace Request

/-- The requests that the wire carries as they are. -/
inductive IsCarried : Request → Prop
  /-- A lint of a valid name, with a source whose lines have ended by line feeds and are none of
  them the sentinel. -/
  | lint {name body : String} (hname : isUnitName name = true) (hwhole : IsWhole body.toList)
    (hreturn : '\r' ∉ body.toList) (hsentinel : sentinel ∉ fields '\n' body.toList) :
    IsCarried (.lint name body)
  /-- A property without a tab and a value, on one line. -/
  | set {property value : String} (htab : delimiter ∉ property.toList)
    (hproperty : IsOneLine property.toList) (hvalue : IsOneLine value.toList) :
    IsCarried (.set property value)
  /-- A request to shut down. -/
  | kill : IsCarried .kill

/-- A set request is carried exactly if its parts stay on one line and the first is one field. -/
theorem isCarried_set_iff {property value : String} :
    IsCarried (.set property value) ↔
      delimiter ∉ property.toList ∧ IsOneLine property.toList ∧ IsOneLine value.toList := by
  constructor
  · rintro ⟨⟩
    exact ⟨‹_›, ‹_›, ‹_›⟩
  · rintro ⟨htab, hproperty, hvalue⟩
    exact .set htab hproperty hvalue

/-- A source whose last line has ended is sent as it is. -/
theorem terminated_of_isWhole {source : List Char} (h : IsWhole source) :
    terminated source = source := by
  rcases h with rfl | ⟨u, rfl⟩
  · rfl
  · unfold terminated
    rw [List.getLast?_concat]
    rfl

end Request

namespace Stream

/-! ## What can be read -/

/-- No carriage return arrives. -/
theorem no_return_arrived (bytes : List UInt8) (ending : Ending) :
    '\r' ∉ arrived bytes ending := by
  cases ending <;> exact no_return_normalizeNewlines _

/-- The first line of a text without carriage returns stays on one line, and none is behind it. -/
theorem FirstLine.isOneLine {ending : Ending} {text line rest : List Char}
    (h : FirstLine ending text line rest) (hreturn : '\r' ∉ text) :
    IsOneLine line ∧ '\r' ∉ rest := by
  cases h with
  | ended h rest =>
    have hparts : '\r' ∉ line ∧ '\r' ∉ rest := by simpa using hreturn
    exact ⟨⟨h, hparts.1⟩, hparts.2⟩
  | last hending hne h => exact ⟨⟨h, hreturn⟩, List.not_mem_nil⟩

/-- The fields of lines put together are the lines, and nothing behind the last line feed. -/
theorem fields_flatten_lines {ls : List (List Char)} (h : ∀ l ∈ ls, '\n' ∉ l) :
    fields '\n' (ls.map (· ++ ['\n'])).flatten = ls ++ [[]] := by
  induction ls with
  | nil => rfl
  | cons line ls ih =>
    obtain ⟨hline, hls⟩ := List.forall_mem_cons.mp h
    have htext : ((line :: ls).map (· ++ ['\n'])).flatten =
        line ++ '\n' :: (ls.map (· ++ ['\n'])).flatten := by
      simp
    rw [htext, fields_append, fields_of_not_mem hline, ih hls]
    rfl

/-- Lines put together stop where a line does. -/
theorem isWhole_flatten_lines (ls : List (List Char)) :
    IsWhole (ls.map (· ++ ['\n'])).flatten := by
  induction ls with
  | nil => exact IsWhole.nil
  | cons line ls ih => exact (IsWhole.newline line).append ih

/-- The source that is read is whole, and no line of it is the sentinel. -/
theorem SourceBefore.isWhole {ending : Ending} {text source : List Char}
    (h : SourceBefore ending text source) :
    IsWhole source ∧ Request.sentinel ∉ fields '\n' source ∧ source <+: text := by
  obtain ⟨ls, tail, rest, hls, hsentinel, rfl, rfl, -⟩ := h
  refine ⟨isWhole_flatten_lines ls, ?_, List.prefix_append _ _⟩
  rw [fields_flatten_lines hls]
  simpa [Request.sentinel] using hsentinel

/-- What the daemon reads, if clients send such requests, is carried as it is. -/
theorem isCarried_of_read {bytes : List UInt8} {ending : Ending} {r : Request}
    (hread : (ofBytes bytes ending).read.1 = some r) (hsent : r.encode?.isSome) : r.IsCarried := by
  have hreturn := no_return_arrived bytes ending
  have hcarries := carries_read ending (arrived bytes ending)
  rw [← ofBytes_eq, hread] at hcarries
  cases hcarries with
  | headerTimedOut => cases hsent
  | bodyEnded => cases hsent
  | bodyTimedOut => cases hsent
  | lint h hr hsource =>
    obtain ⟨hwhole, hsentinel, hwithin⟩ := hsource.isWhole
    have hbehind := (h.isOneLine hreturn).2
    cases hr with
    | lint hmethod hname hvalid =>
      refine .lint (by rwa [isUnitName, String.toList_ofList]) ?_ ?_ ?_
      all_goals rw [String.toList_ofList]
      · exact hwhole
      · exact fun hmem => hbehind (hwithin.subset hmem)
      · exact hsentinel
  | announced h hr hlint =>
    have hheader := (h.isOneLine hreturn).1
    cases hr with
    | kill => exact .kill
    | lint => exact absurd rfl (hlint _ _)
    | @set property value hproperty heq =>
      subst heq
      have hnewline : '\n' ∉ property ∧ '\n' ∉ value := by
        simpa [Request.setMethod, Request.delimiter] using hheader.no_newline
      have hreturn : '\r' ∉ property ∧ '\r' ∉ value := by
        simpa [Request.setMethod, Request.delimiter] using hheader.no_return
      refine .set ?_ ?_ ?_
      all_goals rw [String.toList_ofList]
      · exact hproperty
      · exact ⟨hnewline.1, hreturn.1⟩
      · exact ⟨hnewline.2, hreturn.2⟩
    | blank => cases hsent
    | incompleteSet => cases hsent
    | namelessLint => cases hsent
    | misnamedLint => cases hsent
    | unknown => cases hsent

end Stream

/-! ## What is sent again -/

/-- The requests that the wire carries as they are are read back, and what follows is left. -/
theorem Request.IsCarried.read_encode {r : Request} (h : r.IsCarried) {text : List Char}
    (htext : r.encode? = some text) (rest : List UInt8) (ending : Ending) :
    (Stream.ofBytes (Utf8.encode text ++ rest) ending).read =
      (some r, ⟨(Stream.ofBytes rest ending).lines, ending⟩) := by
  cases h with
  | @lint name body hname hwhole hreturn hsentinel =>
    cases htext
    have hbody := normalizeNewlines_of_no_return hreturn
    rw [Stream.read_encodeLint_of_not_mem hname (hbody.symm ▸ hsentinel), hbody,
      terminated_of_isWhole hwhole, String.ofList_toList, String.ofList_toList]
  | @set property value htab hproperty hvalue =>
    cases htext
    rw [Stream.read_encodeSet htab hproperty hvalue, String.ofList_toList, String.ofList_toList]
  | kill =>
    cases htext
    exact Stream.read_encodeKill rest ending

namespace Stream

/-- **What was read can be sent again.** Whatever bytes a request was read from and however their
stream went on, the text that a client writes for it is read as the same request, and nothing is
left of it. -/
theorem read_encode_of_read {bytes : List UInt8} {ending : Ending} {r : Request}
    {text : List Char} (hread : (ofBytes bytes ending).read.1 = some r)
    (htext : r.encode? = some text) :
    r.IsCarried ∧ ∀ ending' : Ending,
      (ofBytes (Utf8.encode text) ending').read = (some r, ⟨[], ending'⟩) := by
  have hcarried := isCarried_of_read hread (htext ▸ rfl)
  refine ⟨hcarried, fun ending' => ?_⟩
  have h := hcarried.read_encode htext [] ending'
  rw [List.append_nil] at h
  rw [h]
  cases ending' <;> rfl

/-- Of a lint with a field too many, line ends of other systems, a byte that is no text and a last
line that breaks off, what was read is sent again in the one form that clients use. -/
theorem read_encode_of_read_untidy :
    let r := Request.lint "Bar" "class \uFFFD {}\n"
    (ofBytes (Utf8.encode "LINT\tBar\tx\r\nclass ".toList ++ 0xFF ::
        Utf8.encode " {}\rEND".toList) .closed).read.1 = some r ∧
      r.IsCarried ∧
      (ofBytes (Utf8.encode "LINT\tBar\nclass \uFFFD {}\nEND\n".toList) .stalled).read =
        (some r, ⟨[], .stalled⟩) := by
  have hread : (ofBytes (Utf8.encode "LINT\tBar\tx\r\nclass ".toList ++ 0xFF ::
      Utf8.encode " {}\rEND".toList) .closed).read.1 =
        some (.lint "Bar" "class \uFFFD {}\n") := by decide
  have htext : Request.encode? (.lint "Bar" "class \uFFFD {}\n") =
      some "LINT\tBar\nclass \uFFFD {}\nEND\n".toList := by decide
  obtain ⟨hcarried, hagain⟩ := read_encode_of_read hread htext
  exact ⟨hread, hcarried, hagain .stalled⟩

/-- **Which properties and values a set request delivers.** It is read as what it sets, and what
follows it is left, exactly if the property is one field on one line and the value is on one line.
Of any other property or value something else is read, whatever follows. -/
theorem read_encodeSet_iff (property value : String) (r : List Char) (ending : Ending) :
    let read := (ofBytes (Utf8.encode (Request.encodeSet property.toList value.toList ++ r))
      ending).read
    (read = (some (.set property value), ofBytes (Utf8.encode r) ending) ↔
        Request.delimiter ∉ property.toList ∧ IsOneLine property.toList ∧
          IsOneLine value.toList) ∧
      (read.1 = some (.set property value) →
        Request.delimiter ∉ property.toList ∧ IsOneLine property.toList ∧
          IsOneLine value.toList) ∧
      (ofBytes (Utf8.encode r) .closed).unread = normalizeNewlines r := by
  intro read
  have hcarried : read.1 = some (.set property value) →
      Request.IsCarried (.set property value) := fun hread => isCarried_of_read hread rfl
  rw [← Request.isCarried_set_iff]
  refine ⟨⟨fun hread => hcarried (congrArg Prod.fst hread), fun h => ?_⟩, hcarried,
    unread_ofBytes_encode r⟩
  have hread := h.read_encode rfl (Utf8.encode r) ending
  rw [← Utf8.encode_append] at hread
  refine hread.trans ?_
  cases ending <;> rfl

/-- A value with blanks around it and a tab inside is delivered as it is. -/
example : (ofBytes (Utf8.encode (Request.encodeSet "CLASSPATH".toList " a\tb ".toList))
    .closed).read.1 = some (.set "CLASSPATH" " a\tb ") := by decide

end Stream

end LintDaemon
