import LintDaemon.Terminal.Emoji
import LintDaemon.Terminal.Handler
import LintDaemon.Terminal.StyledText

/-!
# Markup

A text may hold tags in square brackets: a tag lays a style over what follows it, up to a tag that
closes it or to the end of the text. A backslash in front of a tag makes it text.

* `Markup.Token`: a stretch of text, or a tag.
* `Markup.tokens`: a text cut into these.
* `Markup.read`: the styled text that a text writes.

The language is that of the library that draws the tables (section 8.3 of the specification). What a
link or a handler in a tag does when it is clicked is left out; a handler that cannot be read is an
error all the same.
-/

namespace LintDaemon.Terminal.Markup

open LintDaemon.Text

/-- A piece of a marked-up text. -/
inductive Token
  /-- Text. -/
  | text (s : List Char)
  /-- A tag: its offset, its name, and what follows an equals sign. -/
  | tag (position : Nat) (name : List Char) (parameters : Option (List Char))
  deriving DecidableEq, Repr

/-- Whether a tag may begin with a character. -/
def beginsTag (c : Char) : Bool :=
  ('a' ≤ c && c ≤ 'z') || c == '#' || c == '/' || c == '@'

/-- What a tag at the start of a text holds, without the brackets. -/
def tagAt? : List Char → Option (List Char)
  | '[' :: c :: rest =>
    if beginsTag c then
      let body := rest.takeWhile fun c => c != '[' && c != ']'
      match rest.drop body.length with
      | ']' :: _ => some (c :: body)
      | _ => none
    else none
  | _ => none

/-- Text as a token, unless it is empty. -/
def textToken (reversed : List Char) : List Token :=
  if reversed = [] then [] else [.text reversed.reverse]

/-- The tokens of a tag with backslashes in front of it, at an offset. Two backslashes write one,
and a single one makes the tag text. -/
def tagTokens (position backslashes : Nat) (content : List Char) : List Token :=
  textToken (List.replicate (backslashes / 2) '\\') ++
    if backslashes % 2 = 1 then [.text ('[' :: (content ++ [']']))]
    else
      let (name, parameters) := cut '=' content
      [.tag (position + backslashes) name parameters]

/-- The tokens of a text from an offset on. `before` holds the text since the last tag, the last
character first; `skip` counts the characters of a tag still to be passed. -/
def tokensFrom : Nat → Nat → List Char → List Char → List Token
  | _, _, before, [] => textToken before
  | skip + 1, position, before, _ :: rest => tokensFrom skip (position + 1) before rest
  | 0, position, before, c :: rest =>
    let backslashes := ((c :: rest).takeWhile (· == '\\')).length
    match tagAt? ((c :: rest).drop backslashes) with
    | none => tokensFrom 0 (position + 1) (c :: before) rest
    | some content =>
      textToken before ++ tagTokens position backslashes content ++
        tokensFrom (backslashes + content.length + 1) (position + 1) [] rest

/-- The tokens of a text. -/
def tokens (s : List Char) : List Token :=
  tokensFrom 0 0 [] s

/-- Why a text cannot be read or shown. -/
inductive Error
  /-- A closing tag names a style that no open tag has. -/
  | unmatched (tag : String) (position : Nat)
  /-- A closing tag stands where no tag is open. -/
  | nothingToClose (position : Nat)
  /-- The arguments of a handler are not written as such. -/
  | arguments (error : Handler.Error)
  /-- A part of the mixture that a style asks for is no number. -/
  | number (error : Numeral.IntError)
  deriving DecidableEq, Repr

/-- The wording of an error. -/
def Error.message : Error → String
  | .unmatched tag position =>
    "closing tag '" ++ tag ++ "' at position " ++ toString position ++
      " doesn't match any open tag"
  | .nothingToClose position =>
    "closing tag '[/]' at position " ++ toString position ++ " has nothing to close"
  | .arguments error => error.message
  | .number error => error.message

/-- A tag that is open. -/
structure OpenTag where
  /-- How many characters stand in front of it. -/
  start : Nat
  /-- Its name in its normal form. -/
  name : List Char
  /-- What follows the equals sign. -/
  parameters : Option (List Char)
  deriving DecidableEq, Repr

/-- The name of the style that a tag asks for. -/
def OpenTag.style (tag : OpenTag) : List Char :=
  tag.name ++ (tag.parameters.map (' ' :: ·)).getD []

/-- The stretch of an open tag that is closed at an offset. -/
def OpenTag.span (stop : Nat) (tag : OpenTag) : Span :=
  ⟨tag.start, stop, tag.style⟩

/-- The name of the style that says nothing. -/
def noStyle : List Char := "none".toList

/-- The stretch of an open tag that is closed at an offset by another tag. The tag of a handler
asks for no style, but it has to have arguments. -/
def OpenTag.closeAt (stop : Nat) (tag : OpenTag) : Except Error Span :=
  match tag.name with
  | '@' :: _ =>
    ((Handler.check (tag.parameters.getD [])).mapError .arguments).map fun () =>
      ⟨tag.start, stop, noStyle⟩
  | _ => .ok (tag.span stop)

/-- A text that is being read. -/
structure Reading where
  /-- The characters, the last one first. -/
  before : List Char
  /-- The open tags, the innermost one first. -/
  opened : List OpenTag
  /-- The stretches of the tags that were closed, the last one first. -/
  spans : List Span

/-- Characters that move the cursor and are left out. -/
def isCursorControl (c : Char) : Bool :=
  c.toNat ∈ [7, 8, 11, 12, 13]

/-- Text without the backslashes in front of brackets. -/
def unescape : List Char → List Char
  | '\\' :: '[' :: rest => '[' :: unescape rest
  | c :: rest => c :: unescape rest
  | [] => []

/-- The characters that text stands for. -/
def plainText (s : List Char) : List Char :=
  (replaceEmoji (unescape s)).filter fun c => !isCursorControl c

/-- The first open tag of a name, and the others. -/
def popNamed (name : List Char) : List OpenTag → Option (OpenTag × List OpenTag)
  | [] => none
  | tag :: rest =>
    if tag.name = name then some (tag, rest)
    else (popNamed name rest).map fun (found, others) => (found, tag :: others)

/-- A tag as it is written. -/
def shownTag (name : List Char) (parameters : Option (List Char)) : String :=
  String.ofList ('[' :: (name ++ (parameters.map ('=' :: ·)).getD [] ++ [']']))

/-- The open tag that a closing tag closes, and the others. One without a name closes the
innermost tag. -/
def popClosed (position : Nat) (closing : List Char) (parameters : Option (List Char))
    (opened : List OpenTag) : Except Error (OpenTag × List OpenTag) :=
  let name := trim closing
  if name = [] then
    match opened with
    | [] => .error (.nothingToClose position)
    | tag :: rest => .ok (tag, rest)
  else
    match Style.normalName name with
    | .error e => .error (.number e)
    | .ok name =>
      match popNamed name opened with
      | some found => .ok found
      | none => .error (.unmatched (shownTag ('/' :: closing) parameters) position)

/-- A token read. -/
def Reading.push (r : Reading) : Token → Except Error Reading
  | .text s => .ok { r with before := (plainText s).reverse ++ r.before }
  | .tag position ('/' :: closing) parameters => do
    let (tag, opened) ← popClosed position closing parameters r.opened
    let span ← tag.closeAt r.before.length
    return { r with opened, spans := span :: r.spans }
  | .tag _ name parameters => do
    let name ← (Style.normalName name).mapError .number
    return { r with opened := ⟨r.before.length, name, parameters⟩ :: r.opened }

/-- The tokens read from the first to the last. -/
def Reading.pushAll (r : Reading) : List Token → Except Error Reading
  | [] => .ok r
  | token :: rest =>
    match r.push token with
    | .error e => .error e
    | .ok r => r.pushAll rest

/-- The stretches of all tags, sorted by where they begin; of those that begin together the one
closed last comes first. Tags that are still open reach to the end. -/
def Reading.allSpans (r : Reading) : List Span :=
  let unclosed := r.opened.map (OpenTag.span r.before.length)
  (unclosed.reverse ++ r.spans).mergeSort fun a b => a.start ≤ b.start

/-- The styled text that a text writes, over a style for the whole. -/
def read (base s : List Char) : Except Error StyledText := do
  let r ← Reading.pushAll ⟨[], [], []⟩ (tokens s)
  return ⟨r.before.reverse, base, r.allSpans⟩

end LintDaemon.Terminal.Markup
