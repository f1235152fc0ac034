import LintDaemon.Proofs.SourceUnit
import LintDaemon.Proofs.Text.Utf8
import LintDaemon.Protocol.Stream

/-!
# Requests read back

What the daemon reads of the bytes that a client writes for a request, whatever bytes follow.

* `Stream.ofBytes_encode_append`: the lines of a text that stops where a line does stand in front
  of those of the bytes behind it.
* `Request.bodyLines`: the lines of a source as a client sends them.
* `Stream.read_encodeLint`: a lint request is read up to the first sentinel line.
* `Stream.read_encodeLint_iff`: it delivers its source, and leaves what follows it, iff no line of
  the source is the sentinel.
* `Stream.read_encodeSet`, `Stream.read_encodeKill`: the other requests.
-/

namespace LintDaemon

open LintDaemon.Text

/-! ## Headers -/

namespace Request

/-- The header of a lint request. -/
def lintHeader (name : List Char) : List Char :=
  lintMethod ++ delimiter :: name

/-- The header of a set request. -/
def setHeader (property value : List Char) : List Char :=
  setMethod ++ delimiter :: (property ++ delimiter :: value)

/-- The header of a lint request stays on one line. -/
theorem isOneLine_lintHeader {name : List Char} (hname : isUnitNameChars name = true) :
    IsOneLine (lintHeader name) := by
  have hone := isOneLine_name hname
  constructor
  · simpa [lintHeader, lintMethod, delimiter] using hone.no_newline
  · simpa [lintHeader, lintMethod, delimiter] using hone.no_return

/-- The header of a lint request is understood. -/
theorem ofHeader_lintHeader {name : List Char} (hname : isUnitNameChars name = true) :
    methodOf (lintHeader name) = lintMethod ∧
      ofHeader (lintHeader name) = .lint (String.ofList name) "" := by
  have hcut : cut delimiter (lintHeader name) = (lintMethod, some name) :=
    cut_append (by decide) name
  have hblank : allBlank (lintHeader name) = false := rfl
  have htab : delimiter ∉ name := not_mem_name hname (by decide) (by decide)
  have hne : name ≠ [] := by
    rintro rfl
    cases hname
  constructor
  · unfold methodOf
    rw [hcut]
  · unfold ofHeader
    rw [hblank, hcut]
    simp [ofLintFields, cut_of_not_mem htab, hne, hname]

/-- The header of a set request stays on one line if its parts do. -/
theorem isOneLine_setHeader {property value : List Char} (hproperty : IsOneLine property)
    (hvalue : IsOneLine value) : IsOneLine (setHeader property value) := by
  constructor
  · simpa [setHeader, setMethod, delimiter] using And.intro hproperty.no_newline hvalue.no_newline
  · simpa [setHeader, setMethod, delimiter] using And.intro hproperty.no_return hvalue.no_return

/-- The header of a set request is understood; its value may have any number of tabs. -/
theorem ofHeader_setHeader {property : List Char} (hproperty : delimiter ∉ property)
    (value : List Char) :
    methodOf (setHeader property value) = setMethod ∧
      ofHeader (setHeader property value) =
        .set (String.ofList property) (String.ofList value) := by
  have hcut : cut delimiter (setHeader property value) =
      (setMethod, some (property ++ delimiter :: value)) := cut_append (by decide) _
  have hblank : allBlank (setHeader property value) = false := rfl
  constructor
  · unfold methodOf
    rw [hcut]
  · have hlint : setMethod ≠ lintMethod := by decide
    unfold ofHeader
    rw [hblank, hcut]
    simp [ofSetFields, cut_append hproperty, hlint]

/-! ## Sources -/

/-- A source that a client sends stops where a line does. -/
theorem isWhole_terminated (source : List Char) : IsWhole (terminated source) := by
  unfold terminated
  split
  · rename_i hnone
    exact Or.inl (List.getLast?_eq_none_iff.mp hnone)
  · rename_i hlast
    obtain ⟨u, rfl⟩ := List.getLast?_eq_some_iff.mp hlast
    exact IsWhole.newline u
  · exact IsWhole.newline source

/-- Only the end of a source is changed. -/
theorem terminated_cons (c : Char) {s : List Char} (hs : s ≠ []) :
    terminated (c :: s) = c :: terminated s := by
  obtain ⟨d, hd⟩ := Option.ne_none_iff_exists'.mp (mt List.getLast?_eq_none_iff.mp hs)
  have hlast : (c :: s).getLast? = some d := by
    rw [List.getLast?_cons, hd]
    rfl
  unfold terminated
  rw [hlast, hd]
  split <;> rfl

/-- It makes no difference whether the last line is ended before or behind the unification of the
line ends. -/
theorem normalizeNewlines_terminated (source : List Char) :
    normalizeNewlines (terminated source) = terminated (normalizeNewlines source) := by
  induction source with
  | nil => rfl
  | cons c s ih =>
    by_cases hs : s = []
    · subst hs
      by_cases hreturn : c = '\r'
      · subst hreturn
        decide
      · by_cases hnewline : c = '\n'
        · subst hnewline
          decide
        · simp [terminated, normalizeNewlines, hreturn]
    · have hhead : (terminated s).head? = s.head? := by
        cases s with
        | nil => exact absurd rfl hs
        | cons d s =>
          unfold terminated
          split <;> rfl
      have hne := normalizeNewlines_ne_nil hs
      rw [terminated_cons c hs]
      by_cases hreturn : c = '\r'
      · subst hreturn
        rw [normalizeNewlines_return, normalizeNewlines_return, hhead, ih]
        split_ifs
        · rfl
        · rw [terminated_cons _ hne]
      · rw [normalizeNewlines_cons hreturn, normalizeNewlines_cons hreturn, ih,
          terminated_cons _ hne]

/-- The lines of a source as a client sends them, without their line feeds. -/
def bodyLines (source : List Char) : List (List Char) :=
  (fields '\n' (terminated source)).dropLast

/-- The body that is sent for a source is made of its lines. -/
theorem linesWithEnds_terminated (source : List Char) :
    linesWithEnds (terminated source) = (bodyLines source).map (· ++ ['\n']) := by
  unfold bodyLines
  rcases isWhole_terminated source with hnil | ⟨u, hu⟩
  · rw [hnil]
    rfl
  · rw [hu, linesWithEnds_newline, fields_append]
    simp [fields]

/-- The lines that are sent for a source are those of the source, but for the empty piece behind
its last line feed. -/
theorem mem_bodyLines_iff {source line : List Char} (hne : line ≠ []) :
    line ∈ bodyLines source ↔ line ∈ fields '\n' source := by
  unfold bodyLines terminated
  split
  · rename_i hnone
    rw [List.getLast?_eq_none_iff.mp hnone]
    simp [fields, hne]
  · rename_i hlast
    obtain ⟨u, rfl⟩ := List.getLast?_eq_some_iff.mp hlast
    rw [fields_append]
    simp [fields, hne]
  · rw [fields_append]
    simp [fields]

/-- A lint request is its header, the source and the sentinel, each with its last line ended. -/
theorem encodeLint_eq (name source : List Char) :
    encodeLint name source =
      lintHeader name ++ ['\n'] ++ (terminated source ++ (sentinel ++ ['\n'])) := by
  simp [encodeLint, lintHeader]

/-- A lint request stops where a line does. -/
theorem isWhole_encodeLint (name source : List Char) : IsWhole (encodeLint name source) := by
  rw [encodeLint_eq]
  exact (IsWhole.newline _).append ((isWhole_terminated source).append (IsWhole.newline _))

/-- The lines of a lint request: the header, the source, the sentinel. -/
theorem linesWithEnds_encodeLint {name : List Char} (hname : isUnitNameChars name = true)
    (source : List Char) :
    linesWithEnds (normalizeNewlines (encodeLint name source)) =
      (lintHeader name ++ ['\n']) ::
        ((bodyLines (normalizeNewlines source)).map (· ++ ['\n']) ++ [sentinel ++ ['\n']]) := by
  have hheader := IsWhole.newline (lintHeader name)
  have hbody := isWhole_terminated source
  have hsentinel : IsOneLine sentinel := ⟨by decide, by decide⟩
  rw [encodeLint_eq, normalizeNewlines_append hheader,
    linesWithEnds_append hheader.normalizeNewlines,
    (isOneLine_lintHeader hname).linesWithEnds, normalizeNewlines_append hbody,
    linesWithEnds_append hbody.normalizeNewlines, hsentinel.linesWithEnds,
    normalizeNewlines_terminated, linesWithEnds_terminated]
  rfl

end Request

/-! ## Streams -/

namespace Stream

/-- The lines of a text that stops where a line does stand in front of those of the bytes behind
it. -/
theorem ofBytes_encode_append {s : List Char} (hs : IsWhole s) (rest : List UInt8)
    (ending : Ending) :
    Stream.ofBytes (Utf8.encode s ++ rest) ending =
      ⟨linesWithEnds (normalizeNewlines s) ++ (Stream.ofBytes rest ending).lines, ending⟩ := by
  cases ending with
  | closed =>
    unfold ofBytes closed
    rw [Utf8.decodeLossy_encode_append, normalizeNewlines_append hs,
      linesWithEnds_append hs.normalizeNewlines]
  | stalled =>
    have hcomplete : (linesWithEnds (normalizeNewlines s)).filter (·.getLast? == some '\n') =
        linesWithEnds (normalizeNewlines s) := by
      rw [List.filter_eq_self]
      intro line hline
      rw [hs.normalizeNewlines.getLast?_of_mem hline]
      rfl
    unfold ofBytes stalled
    dsimp only
    rw [Utf8.decodeHeldBack_encode_append, withoutLastReturn_append hs,
      normalizeNewlines_append hs, linesWithEnds_append hs.normalizeNewlines, List.filter_append,
      hcomplete]

/-- What can be read of a text that has ended is the text with its line ends unified. -/
theorem unread_ofBytes_encode (r : List Char) :
    (Stream.ofBytes (Utf8.encode r) .closed).unread = normalizeNewlines r := by
  unfold ofBytes closed unread
  rw [Utf8.decodeLossy_encode, flatten_linesWithEnds]

/-- A line feed at the end is taken off. -/
theorem withoutEnd_newline (line : List Char) : withoutEnd (line ++ ['\n']) = line := by
  unfold withoutEnd
  rw [List.getLast?_concat]
  exact List.dropLast_concat

/-- Lines other than the sentinel belong to the source. -/
theorem readBody_append {ls : List (List Char)} (h : Request.sentinel ∉ ls)
    (rest : List (List Char)) :
    readBody (ls.map (· ++ ['\n']) ++ (Request.sentinel ++ ['\n']) :: rest) =
      (.complete (ls.map (· ++ ['\n'])).flatten, rest) := by
  induction ls with
  | nil =>
    rw [List.map_nil, List.nil_append, readBody, withoutEnd_newline]
    exact if_pos rfl
  | cons line ls ih =>
    have hne : line ≠ Request.sentinel := fun heq => h (heq ▸ List.mem_cons_self)
    rw [List.map_cons, List.cons_append, readBody, withoutEnd_newline]
    dsimp only
    rw [if_neg hne, ih fun hmem => h (List.mem_cons_of_mem line hmem)]
    simp [Body.cons]

/-- A lint request is read up to the first sentinel line. -/
theorem read_encodeLint {name : List Char} (hname : isUnitNameChars name = true)
    (source : List Char) (rest : List UInt8) (ending : Ending) {body : List Char}
    {unread : List (List Char)}
    (hbody : readBody ((Request.bodyLines (normalizeNewlines source)).map (· ++ ['\n']) ++
      (Request.sentinel ++ ['\n']) :: (Stream.ofBytes rest ending).lines) =
        (.complete body, unread)) :
    (Stream.ofBytes (Utf8.encode (Request.encodeLint name source) ++ rest) ending).read =
      (some (.lint (String.ofList name) (String.ofList body)), ⟨unread, ending⟩) := by
  obtain ⟨hmethod, hheader⟩ := Request.ofHeader_lintHeader hname
  rw [ofBytes_encode_append (Request.isWhole_encodeLint name source),
    Request.linesWithEnds_encodeLint hname]
  unfold read
  simp only [List.cons_append, List.append_assoc, List.nil_append, withoutEnd_newline, hmethod,
    hheader, hbody, if_pos, withBody]

/-- The lines that are sent for a source make up the source with its last line ended. -/
theorem flatten_bodyLines (source : List Char) :
    ((Request.bodyLines source).map (· ++ ['\n'])).flatten = Request.terminated source := by
  rw [← Request.linesWithEnds_terminated, flatten_linesWithEnds]

/-- A lint request delivers its source if no line of it is the sentinel. -/
theorem read_encodeLint_of_not_mem {name source : List Char} (hname : isUnitNameChars name = true)
    (hsource : Request.sentinel ∉ fields '\n' (normalizeNewlines source)) (rest : List UInt8)
    (ending : Ending) :
    (Stream.ofBytes (Utf8.encode (Request.encodeLint name source) ++ rest) ending).read =
      (some (.lint (String.ofList name)
        (String.ofList (Request.terminated (normalizeNewlines source)))),
        ⟨(Stream.ofBytes rest ending).lines, ending⟩) := by
  have hlines : Request.sentinel ∉ Request.bodyLines (normalizeNewlines source) :=
    mt (Request.mem_bodyLines_iff (by decide)).mp hsource
  refine read_encodeLint hname source rest ending ?_
  rw [readBody_append hlines, flatten_bodyLines]

/-- A lint request delivers its source only if no line of it is the sentinel: else the source is
cut off there. -/
theorem not_mem_of_read_encodeLint {name source : List Char} (hname : isUnitNameChars name = true)
    {rest : List UInt8} {ending : Ending} {s : Stream}
    (hread : (Stream.ofBytes (Utf8.encode (Request.encodeLint name source) ++ rest) ending).read =
      (some (.lint (String.ofList name)
        (String.ofList (Request.terminated (normalizeNewlines source)))), s)) :
    Request.sentinel ∉ fields '\n' (normalizeNewlines source) := by
  intro hmem
  have hlines := (Request.mem_bodyLines_iff (by decide)).mpr hmem
  obtain ⟨before, behind, hsplit, hfirst⟩ := List.eq_append_cons_of_mem hlines
  have hbody : readBody ((Request.bodyLines (normalizeNewlines source)).map (· ++ ['\n']) ++
      (Request.sentinel ++ ['\n']) :: (Stream.ofBytes rest ending).lines) =
        (.complete (before.map (· ++ ['\n'])).flatten, behind.map (· ++ ['\n']) ++
          (Request.sentinel ++ ['\n']) :: (Stream.ofBytes rest ending).lines) := by
    rw [hsplit, List.map_append, List.map_cons, List.append_assoc, List.cons_append]
    exact readBody_append hfirst _
  rw [read_encodeLint hname source rest ending hbody] at hread
  have htext : (before.map (· ++ ['\n'])).flatten =
      Request.terminated (normalizeNewlines source) := by
    have hrequest := congrArg Prod.fst hread
    simp only [Option.some.injEq, Request.lint.injEq, true_and] at hrequest
    exact String.ofList_injective hrequest
  -- the source has more lines than those before the sentinel
  have hlength := congrArg List.length (htext.trans (flatten_bodyLines _).symm)
  rw [hsplit] at hlength
  simp at hlength

/-- The source of a lint request, with the line ends of the wire, is what the daemon reads, and what
follows the request is left, exactly when no line of the source is the sentinel. -/
theorem read_encodeLint_iff {name : List Char} (hname : isUnitNameChars name = true)
    (source r : List Char) (ending : Ending) :
    ((Stream.ofBytes (Utf8.encode (Request.encodeLint name source ++ r)) ending).read =
        (some (.lint (String.ofList name)
          (String.ofList (Request.terminated (normalizeNewlines source)))),
          Stream.ofBytes (Utf8.encode r) ending) ↔
      Request.sentinel ∉ fields '\n' (normalizeNewlines source)) ∧
    (Stream.ofBytes (Utf8.encode r) .closed).unread = normalizeNewlines r := by
  have hencode : Utf8.encode (Request.encodeLint name source ++ r) =
      Utf8.encode (Request.encodeLint name source) ++ Utf8.encode r := List.flatMap_append
  refine ⟨⟨fun hread => ?_, fun hsource => ?_⟩, unread_ofBytes_encode r⟩
  · rw [hencode] at hread
    exact not_mem_of_read_encodeLint hname hread
  · rw [hencode, read_encodeLint_of_not_mem hname hsource]
    cases ending <;> rfl

/-- A source in which the sentinel stands only inside a line is delivered, and the text behind the
request is left. -/
theorem read_encodeLint_iff_inside :
    (Stream.ofBytes (Utf8.encode (Request.encodeLint "Bar".toList " END\r\nEND ".toList ++
        "KILL\r\n".toList)) .closed).read =
      (some (.lint "Bar" " END\nEND \n"), ⟨["KILL\n".toList], .closed⟩) := by
  have hname : isUnitNameChars "Bar".toList = true := by decide
  have hsource : Request.sentinel ∉ fields '\n' (normalizeNewlines " END\r\nEND ".toList) := by
    decide
  rw [(read_encodeLint_iff hname " END\r\nEND ".toList "KILL\r\n".toList .closed).1.mpr hsource]
  decide

/-- A source is not always delivered: of one that is the sentinel line nothing arrives, and the
sentinel that ends the request is left to be read. -/
theorem not_forall_read_encodeLint :
    ¬ ∀ name source r : List Char, isUnitNameChars name = true →
      (Stream.ofBytes (Utf8.encode (Request.encodeLint name source ++ r)) .closed).read =
        (some (.lint (String.ofList name)
          (String.ofList (Request.terminated (normalizeNewlines source)))),
          Stream.ofBytes (Utf8.encode r) .closed) := by
  intro h
  have hread := h "Bar".toList "END".toList [] (by decide)
  revert hread
  decide

/-- A header on one line, of a request without a source, is a request of its own. -/
theorem read_header {header : List Char} (hheader : IsOneLine header)
    (hmethod : Request.methodOf header ≠ Request.lintMethod) (rest : List UInt8)
    (ending : Ending) :
    (Stream.ofBytes (Utf8.encode (header ++ ['\n']) ++ rest) ending).read =
      (some (Request.ofHeader header), ⟨(Stream.ofBytes rest ending).lines, ending⟩) := by
  rw [ofBytes_encode_append (IsWhole.newline header), hheader.linesWithEnds]
  unfold read
  rw [List.singleton_append]
  dsimp only
  rw [withoutEnd_newline, if_neg hmethod]

/-- A set request delivers its value. -/
theorem read_encodeSet {property value : List Char} (htab : Request.delimiter ∉ property)
    (hproperty : IsOneLine property) (hvalue : IsOneLine value) (rest : List UInt8)
    (ending : Ending) :
    (Stream.ofBytes (Utf8.encode (Request.encodeSet property value) ++ rest) ending).read =
      (some (.set (String.ofList property) (String.ofList value)),
        ⟨(Stream.ofBytes rest ending).lines, ending⟩) := by
  obtain ⟨hmethod, hheader⟩ := Request.ofHeader_setHeader htab value
  have hencode : Request.encodeSet property value =
      Request.setHeader property value ++ ['\n'] := by
    simp [Request.encodeSet, Request.setHeader]
  have hne : Request.methodOf (Request.setHeader property value) ≠ Request.lintMethod := by
    rw [hmethod]
    decide
  rw [hencode, read_header (Request.isOneLine_setHeader hproperty hvalue) hne, hheader]

/-- A kill request is read. -/
theorem read_encodeKill (rest : List UInt8) (ending : Ending) :
    (Stream.ofBytes (Utf8.encode Request.encodeKill ++ rest) ending).read =
      (some .kill, ⟨(Stream.ofBytes rest ending).lines, ending⟩) := by
  have hkill : IsOneLine Request.killMethod := ⟨by decide, by decide⟩
  exact read_header hkill (by decide) rest ending

end Stream

end LintDaemon
