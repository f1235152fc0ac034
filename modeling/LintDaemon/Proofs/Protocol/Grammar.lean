import LintDaemon.Proofs.Protocol.Framing

/-!
# The grammar of requests

Which requests a stream holds, told by how its text is put together, and that the daemon reads
exactly these.

* `Request.FirstField`, `Request.SecondField`: the fields of a header.
* `Request.Announces header r`: what a header asks for; `Request.ofHeader_eq_iff`.
* `Stream.arrived`: the text of the bytes that have arrived.
* `Stream.FirstLine ending text line rest`: the first line of a text. The last line of a text may
  lack its line feed if the client has closed, but not if it is silent.
* `Stream.SourceBefore ending text source`: the lines before the first sentinel line;
  `Stream.readBody_eq_complete_iff`.
* `Stream.Carries ending text r`: the request that a text carries, or what is wrong with it.
* `Stream.readsToEnd_ofBytes_iff`, `Stream.exists_malformed_of_readsToEnd`: who falls silent too
  early, and what is read of it then.
* `Stream.read_ofBytes_eq_iff`: the daemon reads what the text that has arrived carries.

The relations cut texts by `++` and do not mention the reader.
-/

namespace LintDaemon

open LintDaemon.Text

/-! ## Headers -/

namespace Request

/-- The first field of a header. -/
def FirstField (header field : List Char) : Prop :=
  delimiter ∉ field ∧ (header = field ∨ ∃ rest, header = field ++ delimiter :: rest)

/-- The second field of a header, if it has two. -/
def SecondField (header field : List Char) : Prop :=
  ∃ method rest, delimiter ∉ method ∧ header = method ++ delimiter :: rest ∧ FirstField rest field

/-- What a header asks for. The source of a lint is still to come. -/
inductive Announces (header : List Char) : Request → Prop
  /-- Nothing but white space. -/
  | blank (h : ∀ c ∈ header, isBlank c = true) :
    Announces header (.malformed (String.ofList header) .emptyHeader)
  /-- The daemon is to end, whatever fields follow. -/
  | kill (h : FirstField header killMethod) : Announces header .kill
  /-- A property and all that follows the second tab. -/
  | set {property value : List Char} (hproperty : delimiter ∉ property)
    (h : header = setMethod ++ delimiter :: (property ++ delimiter :: value)) :
    Announces header (.set (String.ofList property) (String.ofList value))
  /-- There are fewer than two tabs. -/
  | incompleteSet (h : FirstField header setMethod) (htabs : header.count delimiter < 2) :
    Announces header (.malformed (String.ofList header) .missingValue)
  /-- A valid name in the second field. -/
  | lint {name : List Char} (h : FirstField header lintMethod) (hname : SecondField header name)
    (hvalid : isUnitNameChars name = true) : Announces header (.lint (String.ofList name) "")
  /-- No second field, or an empty one. -/
  | namelessLint (h : FirstField header lintMethod)
    (hname : ∀ name, SecondField header name → name = []) :
    Announces header (.malformed (String.ofList header) .missingName)
  /-- Something else in the second field. -/
  | misnamedLint {name : List Char} (h : FirstField header lintMethod)
    (hname : SecondField header name) (hne : name ≠ []) (hinvalid : isUnitNameChars name = false) :
    Announces header (.malformed (String.ofList header) (.invalidName (String.ofList name)))
  /-- Any other first field. -/
  | unknown (hblank : ∃ c ∈ header, isBlank c = false)
    (h : ∀ method ∈ [killMethod, setMethod, lintMethod], ¬ FirstField header method) :
    Announces header (.unknown (String.ofList header))

/-- The method of a header is its first field. -/
theorem firstField_iff {header field : List Char} :
    FirstField header field ↔ methodOf header = field := by
  unfold methodOf
  constructor
  · rintro ⟨hfield, rfl | ⟨rest, rfl⟩⟩
    · rw [cut_of_not_mem hfield]
    · rw [cut_append hfield]
  · rintro rfl
    rcases cut_cases delimiter header with ⟨htab, hcut⟩ | ⟨method, rest, htab, hheader, hcut⟩
    · rw [hcut]
      exact ⟨htab, Or.inl rfl⟩
    · rw [hcut]
      exact ⟨htab, Or.inr ⟨rest, hheader⟩⟩

/-- The second field is cut off what follows the first tab. -/
theorem secondField_iff {header field : List Char} :
    SecondField header field ↔
      ((cut delimiter header).2.map (cut delimiter)).map (·.1) = some field := by
  constructor
  · rintro ⟨method, rest, htab, rfl, hfield⟩
    rw [cut_append htab]
    exact congrArg some (firstField_iff.mp hfield)
  · intro h
    rcases cut_cases delimiter header with ⟨-, hcut⟩ | ⟨method, rest, htab, hheader, hcut⟩
    · rw [hcut] at h
      cases h
    · rw [hcut] at h
      exact ⟨method, rest, htab, hheader, firstField_iff.mpr (Option.some.inj h)⟩

/-- What the daemon makes of the fields behind the lint method. -/
theorem announces_ofLintFields {header : List Char} (h : FirstField header lintMethod) :
    Announces header (ofLintFields header (cut delimiter header).2) := by
  unfold ofLintFields
  dsimp only
  split_ifs with hempty hvalid
  · refine .namelessLint h fun name hname => ?_
    rw [secondField_iff.mp hname] at hempty
    exact hempty
  all_goals
    cases hsecond : ((cut delimiter header).2.map (cut delimiter)).map (·.1) with
    | none =>
      rw [hsecond] at hempty
      exact absurd rfl hempty
    | some name =>
      rw [hsecond] at hempty hvalid
      have hname := secondField_iff.mpr hsecond
      first
        | exact .lint h hname hvalid
        | exact .misnamedLint h hname hempty (Bool.eq_false_iff.mpr hvalid)

/-- What the daemon makes of the fields behind the set method. -/
theorem announces_ofSetFields {header : List Char} (h : FirstField header setMethod) :
    Announces header (ofSetFields header (cut delimiter header).2) := by
  unfold ofSetFields
  rcases cut_cases delimiter header with ⟨htab, hcut⟩ | ⟨method, rest, htab, rfl, hcut⟩
  · rw [hcut]
    exact .incompleteSet h (by rw [List.count_eq_zero_of_not_mem htab]; decide)
  · have hmethod : method = setMethod := by
      rw [← firstField_iff.mp h, methodOf, hcut]
    subst hmethod
    rw [hcut]
    rcases cut_cases delimiter rest with ⟨hrest, hcut⟩ | ⟨property, value, hproperty, rfl, hcut⟩
    · simp only [Option.map_some, hcut]
      refine .incompleteSet h ?_
      rw [List.count_append, List.count_cons_self, List.count_eq_zero_of_not_mem htab,
        List.count_eq_zero_of_not_mem hrest]
      decide
    · simp only [Option.map_some, hcut]
      exact .set hproperty rfl

/-- A header is not blank if its first field is not. -/
theorem allBlank_eq_false {header method : List Char} (h : FirstField header method)
    (hmethod : allBlank method = false) : allBlank header = false := by
  rcases h with ⟨-, rfl | ⟨rest, rfl⟩⟩
  · exact hmethod
  · simp only [allBlank] at hmethod ⊢
    rw [List.all_append, hmethod, Bool.false_and]

/-- A header that is not blank is read by its first field. -/
theorem ofHeader_of_not_blank {header : List Char} (h : allBlank header = false) :
    ofHeader header =
      if methodOf header = lintMethod then ofLintFields header (cut delimiter header).2
      else if methodOf header = setMethod then ofSetFields header (cut delimiter header).2
      else if methodOf header = killMethod then .kill
      else .unknown (String.ofList header) := by
  rw [ofHeader, if_neg (Bool.eq_false_iff.mp h)]
  rfl

/-- A lint header is read by what follows its method. -/
theorem ofHeader_lint {header : List Char} (h : FirstField header lintMethod) :
    ofHeader header = ofLintFields header (cut delimiter header).2 := by
  rw [ofHeader_of_not_blank (allBlank_eq_false h (by decide)), if_pos (firstField_iff.mp h)]

/-- A lint header announces a lint, or that it is malformed. -/
theorem lint_or_malformed_of_ofHeader {header : List Char} (h : methodOf header = lintMethod) :
    (∃ name, ofHeader header = .lint name "") ∨
      ∃ fault, ofHeader header = .malformed (String.ofList header) fault := by
  rw [ofHeader_lint (firstField_iff.mpr h)]
  unfold ofLintFields
  dsimp only
  split_ifs
  · exact Or.inr ⟨_, rfl⟩
  · exact Or.inl ⟨_, rfl⟩
  · exact Or.inr ⟨_, rfl⟩

/-- A set header is read by what follows its method. -/
theorem ofHeader_set {header : List Char} (h : FirstField header setMethod) :
    ofHeader header = ofSetFields header (cut delimiter header).2 := by
  rw [ofHeader_of_not_blank (allBlank_eq_false h (by decide)), firstField_iff.mp h,
    if_neg (by decide), if_pos rfl]

/-- The daemon takes a header for something that it announces. -/
theorem announces_ofHeader (header : List Char) : Announces header (ofHeader header) := by
  cases hblank : allBlank header with
  | true =>
    rw [ofHeader, if_pos hblank]
    exact .blank (List.all_eq_true.mp hblank)
  | false =>
    rw [ofHeader_of_not_blank hblank]
    split_ifs with hlint hset hkill
    · exact announces_ofLintFields (firstField_iff.mpr hlint)
    · exact announces_ofSetFields (firstField_iff.mpr hset)
    · exact .kill (firstField_iff.mpr hkill)
    · refine .unknown ?_ ?_
      · simpa [allBlank] using hblank
      · simp only [firstField_iff, List.forall_mem_cons]
        exact ⟨hkill, hset, hlint, fun _ h => nomatch h⟩

/-- The name behind the lint method decides what a lint header asks for. -/
theorem ofLintFields_of_secondField {header name : List Char} (h : SecondField header name) :
    ofLintFields header (cut delimiter header).2 =
      if name = [] then .malformed (String.ofList header) .missingName
      else if isUnitNameChars name then .lint (String.ofList name) ""
      else .malformed (String.ofList header) (.invalidName (String.ofList name)) := by
  unfold ofLintFields
  rw [secondField_iff.mp h]
  rfl

/-- What a header announces is what the daemon takes it for. -/
theorem Announces.ofHeader_eq {header : List Char} {r : Request} (h : Announces header r) :
    ofHeader header = r := by
  cases h with
  | blank h => exact if_pos (List.all_eq_true.mpr h)
  | kill h =>
    rw [ofHeader_of_not_blank (allBlank_eq_false h (by decide)), firstField_iff.mp h]
    rfl
  | @set property value hproperty h =>
    have hfirst : FirstField header setMethod := ⟨by decide, Or.inr ⟨_, h⟩⟩
    rw [ofHeader_set hfirst, h, cut_append (by decide)]
    simp only [ofSetFields, Option.map_some, cut_append hproperty]
  | incompleteSet h htabs =>
    rw [ofHeader_set h]
    rcases cut_cases delimiter header with ⟨-, hcut⟩ | ⟨method, rest, -, rfl, hcut⟩
    · rw [hcut]
      rfl
    · rcases cut_cases delimiter rest with ⟨-, hrest⟩ | ⟨property, value, -, rfl, -⟩
      · simp only [ofSetFields, hcut, Option.map_some, hrest]
      · simp only [List.count_append, List.count_cons_self] at htabs
        omega
  | @lint name h hname hvalid =>
    have hne : name ≠ [] := by
      rintro rfl
      cases hvalid
    rw [ofHeader_lint h, ofLintFields_of_secondField hname, if_neg hne, if_pos hvalid]
  | namelessLint h hname =>
    rw [ofHeader_lint h]
    cases hsecond : ((cut delimiter header).2.map (cut delimiter)).map (·.1) with
    | none => simp [ofLintFields, hsecond]
    | some name =>
      have hfield := secondField_iff.mpr hsecond
      rw [ofLintFields_of_secondField hfield, if_pos (hname name hfield)]
  | misnamedLint h hname hne hinvalid =>
    rw [ofHeader_lint h, ofLintFields_of_secondField hname, if_neg hne,
      if_neg (Bool.eq_false_iff.mp hinvalid)]
  | unknown hblank h =>
    simp only [firstField_iff, List.forall_mem_cons] at h
    obtain ⟨hkill, hset, hlint, -⟩ := h
    have hnot : allBlank header = false := by simpa [allBlank] using hblank
    rw [ofHeader_of_not_blank hnot, if_neg hlint, if_neg hset, if_neg hkill]

/-- The daemon takes a header for what it announces, and for nothing else. -/
theorem ofHeader_eq_iff {header : List Char} {r : Request} :
    ofHeader header = r ↔ Announces header r :=
  ⟨fun h => h ▸ announces_ofHeader header, Announces.ofHeader_eq⟩

end Request

/-! ## Lines -/

namespace Stream

/-- The text of the bytes that have arrived: bytes that are no text are replaced, and all line ends
are line feeds. While the client is silent, what may be the first part of something longer is left
out at the end: some bytes of a character, the first two bytes of a surrogate, and a carriage
return, which a line feed may follow. -/
def arrived (bytes : List UInt8) : Ending → List Char
  | .closed => normalizeNewlines (Utf8.decodeLossy bytes)
  | .stalled => normalizeNewlines (withoutLastReturn (Utf8.decodeHeldBack bytes))

/-- Something has arrived if something was sent and the client has closed. -/
theorem arrived_closed_eq_nil_iff {bytes : List UInt8} :
    arrived bytes .closed = [] ↔ bytes = [] := by
  constructor
  · intro h
    rw [← Utf8.decodeLossy_eq_nil_iff]
    by_cases hnil : Utf8.decodeLossy bytes = []
    · exact hnil
    · exact absurd h (normalizeNewlines_ne_nil hnil)
  · rintro rfl
    rfl

/-- The first line of a text, and the text behind it. A text that has ended may end inside its last
line, if that is not empty. -/
inductive FirstLine (ending : Ending) : List Char → List Char → List Char → Prop
  /-- Up to a line feed. -/
  | ended {line : List Char} (h : '\n' ∉ line) (rest : List Char) :
    FirstLine ending (line ++ '\n' :: rest) line rest
  /-- Up to the end. -/
  | last {line : List Char} (hending : ending = .closed) (hne : line ≠ []) (h : '\n' ∉ line) :
    FirstLine ending line line []

/-- The text before the first line that is the sentinel; all lines before it end in a line feed. -/
def SourceBefore (ending : Ending) (text source : List Char) : Prop :=
  ∃ (ls : List (List Char)) (tail rest : List Char), (∀ l ∈ ls, '\n' ∉ l) ∧
    Request.sentinel ∉ ls ∧ source = (ls.map (· ++ ['\n'])).flatten ∧ text = source ++ tail ∧
    FirstLine ending tail Request.sentinel rest

/-- The lines of a text that can be read. -/
def readableLines (ending : Ending) (text : List Char) : List (List Char) :=
  match ending with
  | .closed => linesWithEnds text
  | .stalled => (linesWithEnds text).filter (·.getLast? == some '\n')

/-- The stream of some bytes holds the lines of the text that has arrived. -/
theorem ofBytes_eq (bytes : List UInt8) (ending : Ending) :
    ofBytes bytes ending = ⟨readableLines ending (arrived bytes ending), ending⟩ := by
  cases ending <;> rfl

/-- Nothing can be read, or there is a first line. -/
theorem firstLine_cases (ending : Ending) (text : List Char) :
    (ending = .closed ∧ text = []) ∨ (ending = .stalled ∧ '\n' ∉ text) ∨
      ∃ line rest, FirstLine ending text line rest := by
  rcases cut_cases '\n' text with ⟨h, -⟩ | ⟨line, rest, h, rfl, -⟩
  · cases ending with
    | closed =>
      by_cases hnil : text = []
      · exact Or.inl ⟨rfl, hnil⟩
      · exact Or.inr (Or.inr ⟨text, [], .last rfl hnil h⟩)
    | stalled => exact Or.inr (Or.inl ⟨rfl, h⟩)
  · exact Or.inr (Or.inr ⟨line, rest, .ended h rest⟩)

/-- A text that goes on has no line before its first line feed. -/
theorem readableLines_stalled_of_unbroken {text : List Char} (h : '\n' ∉ text) :
    readableLines .stalled text = [] := by
  by_cases hnil : text = []
  · rw [hnil]
    rfl
  · have hlast : text.getLast? ≠ some '\n' := fun heq => h (List.mem_of_getLast? heq)
    unfold readableLines
    rw [linesWithEnds_of_unbroken h hnil]
    simpa using hlast

/-- The first line of a text is the first that can be read. -/
theorem FirstLine.readableLines_eq {ending : Ending} {text line rest : List Char}
    (h : FirstLine ending text line rest) :
    ∃ first, withoutEnd first = line ∧
      readableLines ending text = first :: readableLines ending rest := by
  rcases h with ⟨h, rest⟩ | ⟨hending, hne, h⟩
  · have hlines : linesWithEnds (line ++ '\n' :: rest) =
        (line ++ ['\n']) :: linesWithEnds rest := by
      rw [linesWithEnds_newline_append, linesWithEnds_newline, fields_of_not_mem h]
      rfl
    refine ⟨line ++ ['\n'], withoutEnd_newline line, ?_⟩
    cases ending with
    | closed => exact hlines
    | stalled =>
      unfold readableLines
      rw [hlines, List.filter_cons_of_pos (by simp)]
  · subst hending
    refine ⟨text, ?_, linesWithEnds_of_unbroken h hne⟩
    unfold withoutEnd
    split
    · exact absurd (List.mem_of_getLast? ‹_›) h
    · rfl

/-! ## Sources -/

/-- A source with a sentinel behind it is read. -/
theorem SourceBefore.readBody_eq {ending : Ending} {text source : List Char}
    (h : SourceBefore ending text source) :
    (readBody (readableLines ending text)).1 = .complete source := by
  obtain ⟨ls, tail, rest, hls, hsentinel, rfl, rfl, htail⟩ := h
  induction ls with
  | nil =>
    obtain ⟨first, hfirst, hlines⟩ := htail.readableLines_eq
    rw [List.map_nil, List.flatten_nil, List.nil_append, hlines, readBody, hfirst]
    exact congrArg Prod.fst (if_pos rfl)
  | cons line ls ih =>
    obtain ⟨hline, hls⟩ := List.forall_mem_cons.mp hls
    have hne : line ≠ Request.sentinel := fun heq => hsentinel (heq ▸ List.mem_cons_self)
    have htext : ((line :: ls).map (· ++ ['\n'])).flatten ++ tail =
        line ++ '\n' :: ((ls.map (· ++ ['\n'])).flatten ++ tail) := by
      simp
    have hended : FirstLine ending (line ++ '\n' :: ((ls.map (· ++ ['\n'])).flatten ++ tail)) line
        ((ls.map (· ++ ['\n'])).flatten ++ tail) := .ended hline _
    obtain ⟨first, hfirst, hlines⟩ := hended.readableLines_eq
    rw [htext, hlines, readBody, hfirst]
    dsimp only
    rw [if_neg hne, ih hls fun hmem => hsentinel (List.mem_cons_of_mem line hmem)]
    simp [Body.cons]

/-- A line in front of a text is a line in front of its source. -/
theorem SourceBefore.cons {ending : Ending} {text line rest source : List Char}
    (hsource : SourceBefore ending rest source) (h : FirstLine ending text line rest)
    (hne : line ≠ Request.sentinel) : SourceBefore ending text (line ++ '\n' :: source) := by
  rcases h with ⟨h, rest⟩ | ⟨rfl, -, -⟩
  · obtain ⟨ls, tail, behind, hls, hsentinel, rfl, rfl, htail⟩ := hsource
    refine ⟨line :: ls, tail, behind, List.forall_mem_cons.mpr ⟨h, hls⟩, ?_, ?_, ?_, htail⟩
    · exact fun hmem => (List.mem_cons.mp hmem).elim (fun heq => hne heq.symm) hsentinel
    · simp
    · simp
  · -- nothing stands behind a line without its end, and so no sentinel does
    cases hsource.readBody_eq

/-- What is read as a source has a sentinel behind it. -/
theorem sourceBefore_of_readBody {ending : Ending} {text source : List Char}
    (h : (readBody (readableLines ending text)).1 = .complete source) :
    SourceBefore ending text source := by
  -- by the lines that are read and not by the text, whose last line may lack its end
  generalize hlines : readableLines ending text = ls at h
  induction ls generalizing text source with
  | nil => cases h
  | cons first ls ih =>
    rcases firstLine_cases ending text with ⟨rfl, rfl⟩ | ⟨rfl, hnone⟩ | ⟨line, rest, hfirst⟩
    · cases hlines
    · rw [readableLines_stalled_of_unbroken hnone] at hlines
      cases hlines
    · obtain ⟨_, hline, hcons⟩ := hfirst.readableLines_eq
      rw [hlines] at hcons
      obtain ⟨rfl, rfl⟩ := List.cons.inj hcons
      rw [readBody, hline] at h
      dsimp only at h
      split_ifs at h with hend
      · subst hend
        cases h
        exact ⟨[], text, rest, List.forall_mem_nil _, List.not_mem_nil, rfl, rfl, hfirst⟩
      · cases hbody : (readBody (readableLines ending rest)).1 with
        | incomplete =>
          rw [hbody] at h
          cases h
        | complete behind =>
          rw [hbody] at h
          cases h
          exact (ih rfl hbody).cons hfirst hend

/-- The daemon reads the source before the first sentinel line. -/
theorem readBody_eq_complete_iff {ending : Ending} {text source : List Char} :
    (readBody (readableLines ending text)).1 = .complete source ↔
      SourceBefore ending text source :=
  ⟨sourceBefore_of_readBody, SourceBefore.readBody_eq⟩

/-- The reading fails if there is no sentinel line. -/
theorem readBody_eq_incomplete {ending : Ending} {text : List Char}
    (h : ∀ source, ¬ SourceBefore ending text source) :
    (readBody (readableLines ending text)).1 = .incomplete := by
  cases hbody : (readBody (readableLines ending text)).1 with
  | complete source => exact absurd (readBody_eq_complete_iff.mp hbody) (h source)
  | incomplete => rfl

/-! ## Requests -/

/-- The request that a text carries, or what is wrong with it. -/
inductive Carries (ending : Ending) (text : List Char) : Option Request → Prop
  /-- The client closed without sending anything. -/
  | nothing (hending : ending = .closed) (h : text = []) : Carries ending text none
  /-- The client fell silent inside the header. -/
  | headerTimedOut (hending : ending = .stalled) (h : '\n' ∉ text) :
    Carries ending text (some (.malformed "" .headerTimedOut))
  /-- All that the header announces, whatever follows, if it is no lint. -/
  | announced {header rest : List Char} {r : Request} (h : FirstLine ending text header rest)
    (hr : Request.Announces header r) (hlint : ∀ name body, r ≠ .lint name body) :
    Carries ending text (some r)
  /-- A lint of the source before the sentinel. -/
  | lint {header rest source : List Char} {name : String}
    (h : FirstLine ending text header rest) (hr : Request.Announces header (.lint name ""))
    (hsource : SourceBefore ending rest source) :
    Carries ending text (some (.lint name (String.ofList source)))
  /-- A lint without a sentinel; the client has closed. -/
  | bodyEnded {header rest : List Char} {name : String} (hending : ending = .closed)
    (h : FirstLine ending text header rest) (hr : Request.Announces header (.lint name ""))
    (hsource : ∀ source, ¬ SourceBefore ending rest source) :
    Carries ending text (some (.malformed (String.ofList header) .bodyEnded))
  /-- A lint without a sentinel; the client fell silent. -/
  | bodyTimedOut {header rest : List Char} {name : String} (hending : ending = .stalled)
    (h : FirstLine ending text header rest) (hr : Request.Announces header (.lint name ""))
    (hsource : ∀ source, ¬ SourceBefore ending rest source) :
    Carries ending text (some (.malformed (String.ofList header) .bodyTimedOut))

/-- Only a lint takes a source. -/
theorem withBody_of_ne_lint {ending : Ending} {header : List Char} {body : Body} {r : Request}
    (h : ∀ name body, r ≠ .lint name body) : withBody ending header body r = r := by
  cases r with
  | lint name body => exact absurd rfl (h name body)
  | set => rfl
  | kill => rfl
  | unknown => rfl
  | malformed => rfl

/-- The header is the first line. A source is read for it only if its method is lint, but what is
announced under another method does not take one. -/
theorem FirstLine.read_eq {ending : Ending} {text header rest : List Char}
    (h : FirstLine ending text header rest) :
    (read ⟨readableLines ending text, ending⟩).1 =
      some (withBody ending header (readBody (readableLines ending rest)).1
        (Request.ofHeader header)) := by
  obtain ⟨first, hfirst, hlines⟩ := h.readableLines_eq
  unfold read
  rw [hlines]
  dsimp only
  rw [hfirst]
  split_ifs with hmethod
  · rfl
  · rw [withBody_of_ne_lint]
    intro name body hlint
    cases Request.ofHeader_eq_iff.mp hlint with
    | lint h => exact hmethod (Request.firstField_iff.mp h)

/-- What the daemon reads is carried by the text. -/
theorem carries_read (ending : Ending) (text : List Char) :
    Carries ending text (read ⟨readableLines ending text, ending⟩).1 := by
  rcases firstLine_cases ending text with ⟨rfl, rfl⟩ | ⟨rfl, h⟩ | ⟨header, rest, h⟩
  · exact .nothing rfl rfl
  · rw [readableLines_stalled_of_unbroken h]
    exact .headerTimedOut rfl h
  · rw [h.read_eq]
    have hr := Request.announces_ofHeader header
    generalize Request.ofHeader header = r at hr
    cases r with
    | lint name body =>
      -- a header announces no source; what stands behind it decides
      obtain rfl : body = "" := by cases hr; rfl
      cases hbody : (readBody (readableLines ending rest)).1 with
      | complete source => exact .lint h hr (readBody_eq_complete_iff.mp hbody)
      | incomplete =>
        have hnone : ∀ source, ¬ SourceBefore ending rest source := by
          intro source hsource
          rw [readBody_eq_complete_iff.mpr hsource] at hbody
          cases hbody
        cases ending with
        | closed => exact .bodyEnded rfl h hr hnone
        | stalled => exact .bodyTimedOut rfl h hr hnone
    | set => exact .announced h hr (by rintro - - ⟨⟩)
    | kill => exact .announced h hr (by rintro - - ⟨⟩)
    | unknown => exact .announced h hr (by rintro - - ⟨⟩)
    | malformed => exact .announced h hr (by rintro - - ⟨⟩)

/-- What a text carries is read. -/
theorem Carries.read_eq {ending : Ending} {text : List Char} {r : Option Request}
    (h : Carries ending text r) : (read ⟨readableLines ending text, ending⟩).1 = r := by
  cases h with
  | nothing hending h => rw [hending, h]; rfl
  | headerTimedOut hending h =>
    rw [hending, readableLines_stalled_of_unbroken h]
    rfl
  | announced h hr hlint => rw [h.read_eq, hr.ofHeader_eq, withBody_of_ne_lint hlint]
  | lint h hr hsource =>
    rw [h.read_eq, hr.ofHeader_eq, hsource.readBody_eq]
    rfl
  | bodyEnded hending h hr hsource =>
    rw [h.read_eq, hr.ofHeader_eq, readBody_eq_incomplete hsource, hending]
    rfl
  | bodyTimedOut hending h hr hsource =>
    rw [h.read_eq, hr.ofHeader_eq, readBody_eq_incomplete hsource, hending]
    rfl

/-- A client falls silent before its request is complete if it has sent no whole line, or the header
of a lint and no sentinel behind it. -/
theorem readsToEnd_ofBytes_iff (bytes : List UInt8) :
    (ofBytes bytes .stalled).readsToEnd = true ↔
      '\n' ∉ arrived bytes .stalled ∨
        ∃ header rest, FirstLine .stalled (arrived bytes .stalled) header rest ∧
          Request.FirstField header Request.lintMethod ∧
            ∀ source, ¬ SourceBefore .stalled rest source := by
  rw [ofBytes_eq]
  generalize arrived bytes .stalled = text
  rcases firstLine_cases .stalled text with ⟨⟨⟩, -⟩ | ⟨-, hnone⟩ | ⟨header, rest, h⟩
  · rw [readableLines_stalled_of_unbroken hnone]
    exact iff_of_true rfl (Or.inl hnone)
  · obtain ⟨first, hfirst, hlines⟩ := h.readableLines_eq
    unfold readsToEnd
    rw [hlines]
    simp only [Bool.and_eq_true, beq_iff_eq, hfirst]
    constructor
    · rintro ⟨hlint, hbody⟩
      refine Or.inr ⟨header, rest, h, Request.firstField_iff.mpr hlint, fun source hsource => ?_⟩
      cases hbody.symm.trans hsource.readBody_eq
    · rintro (hnone | ⟨header', rest', h', hfield, hsource⟩)
      · cases h with
        | ended _ rest => exact absurd (by simp) hnone
        | last hclosed => cases hclosed
      · obtain ⟨first', hfirst', hlines'⟩ := h'.readableLines_eq
        obtain ⟨rfl, hrest⟩ := List.cons.inj (hlines.symm.trans hlines')
        rw [hrest, ← hfirst, hfirst']
        exact ⟨Request.firstField_iff.mp hfield, readBody_eq_incomplete hsource⟩

/-- A client that falls silent before its request is complete has sent a malformed one. -/
theorem exists_malformed_of_readsToEnd {s : Stream} (hstalled : s.ending = .stalled)
    (h : s.readsToEnd = true) : ∃ header fault, s.read.1 = some (.malformed header fault) := by
  obtain ⟨lines, ending⟩ := s
  subst hstalled
  cases lines with
  | nil => exact ⟨"", .headerTimedOut, rfl⟩
  | cons first rest =>
    simp only [readsToEnd, Bool.and_eq_true, beq_iff_eq] at h
    obtain ⟨hlint, hbody⟩ := h
    have hread : (read ⟨first :: rest, .stalled⟩).1 =
        some (withBody .stalled (withoutEnd first) .incomplete
          (Request.ofHeader (withoutEnd first))) := by
      simp only [read, if_pos hlint, hbody]
    rw [hread]
    rcases Request.lint_or_malformed_of_ofHeader hlint with ⟨name, hname⟩ | ⟨fault, hfault⟩
    · rw [hname]
      exact ⟨_, _, rfl⟩
    · rw [hfault]
      exact ⟨_, _, rfl⟩

/-- The daemon reads what the text that has arrived carries, and nothing else; with these words it
says what is wrong. -/
theorem read_ofBytes_eq_iff (bytes : List UInt8) (ending : Ending) :
    (∀ r, (ofBytes bytes ending).read.1 = r ↔ Carries ending (arrived bytes ending) r) ∧
      Malformation.emptyHeader.message = "Empty request header" ∧
      Malformation.missingName.message = "LINT requires a class name" ∧
      (∀ name, (Malformation.invalidName name).message = "Invalid class name: " ++ name) ∧
      Malformation.missingValue.message = "SET requires a property and a value" ∧
      Malformation.headerTimedOut.message = "Timed out waiting for request header" ∧
      Malformation.bodyTimedOut.message = "Timed out waiting for END line" ∧
      Malformation.bodyEnded.message = "Stream ended before END line" := by
  refine ⟨fun r => ?_, rfl, rfl, fun _ => rfl, rfl, rfl, rfl, rfl⟩
  rw [ofBytes_eq]
  exact ⟨fun h => h ▸ carries_read ending _, Carries.read_eq⟩

/-- A carriage return that ends what a silent client has sent is not read as a line end yet. -/
theorem not_forall_read_eq_iff_carries : ¬ ∀ (bytes : List UInt8) (ending : Ending)
    (r : Option Request), (ofBytes bytes ending).read.1 = r ↔
      Carries ending (normalizeNewlines (Utf8.decodeLossy bytes)) r := by
  intro h
  have hcarries : Carries .stalled
      (normalizeNewlines (Utf8.decodeLossy (Utf8.encode "KILL\r".toList))) (some .kill) := by
    rw [Utf8.decodeLossy_encode]
    have hline : FirstLine .stalled (Request.killMethod ++ ['\n']) Request.killMethod [] :=
      .ended (by decide) []
    exact .announced hline (.kill ⟨by decide, Or.inl rfl⟩) (by rintro - - ⟨⟩)
  have hread := (h _ _ _).mpr hcarries
  exact absurd hread (by decide)

end Stream

end LintDaemon
