import LintDaemon.Terminal.Color
import LintDaemon.Text.Blank

/-!
# Styles

How characters look on a terminal.

* `Style.ofWords?`: the style that words describe.
* `Style.description`: the words for a style, one text for each style.
* `Style.normalName`: the name of a style in its normal form.
* `Style.onTop`: a style put over another one.
* `Style.paint`: a text between the escape sequences that switch a style on and off.
-/

namespace LintDaemon.Terminal

open LintDaemon.Text

/-- What can be switched on or off. -/
inductive Attribute
  /-- Thick letters. -/
  | bold
  /-- Faint letters. -/
  | dim
  /-- Slanted letters. -/
  | italic
  /-- A line below. -/
  | underline
  /-- Slow blinking. -/
  | blink
  /-- Fast blinking. -/
  | fastBlink
  /-- The two colours exchanged. -/
  | reverse
  /-- Not to be seen. -/
  | conceal
  /-- A line through the letters. -/
  | strike
  /-- Two lines below. -/
  | doubleUnderline
  /-- A frame around. -/
  | frame
  /-- A circle around. -/
  | encircle
  /-- A line above. -/
  | overline
  deriving DecidableEq, Repr

namespace Attribute

/-- The attributes in the order in which they are written. -/
def all : List Attribute :=
  [bold, dim, italic, underline, blink, fastBlink, reverse, conceal, strike, doubleUnderline,
   frame, encircle, overline]

/-- The word for an attribute. -/
def word : Attribute → String
  | bold => "bold"
  | dim => "dim"
  | italic => "italic"
  | underline => "underline"
  | blink => "blink"
  | fastBlink => "blink2"
  | reverse => "reverse"
  | conceal => "conceal"
  | strike => "strike"
  | doubleUnderline => "underline2"
  | frame => "frame"
  | encircle => "encircle"
  | overline => "overline"

/-- Short words for attributes. -/
def shortWords : List (String × Attribute) :=
  [("b", bold), ("d", dim), ("i", italic), ("u", underline), ("r", reverse), ("c", conceal),
   ("s", strike), ("uu", doubleUnderline), ("o", overline)]

/-- The attribute that a word means. -/
def ofWord? (s : List Char) : Option Attribute :=
  (all.find? fun a => a.word.toList = s).or (shortWords.lookup (String.ofList s))

/-- The number that switches an attribute on. -/
def code : Attribute → Nat
  | bold => 1
  | dim => 2
  | italic => 3
  | underline => 4
  | blink => 5
  | fastBlink => 6
  | reverse => 7
  | conceal => 8
  | strike => 9
  | doubleUnderline => 21
  | frame => 51
  | encircle => 52
  | overline => 53

end Attribute

/-- How characters look. What is not said is as below the style. -/
structure Style where
  /-- The attributes that are switched on or off; the first entry of an attribute counts. -/
  attributes : List (Attribute × Bool)
  /-- The colour of the letters. -/
  foreground : Option Color
  /-- The colour behind the letters. -/
  background : Option Color
  /-- The address to which the characters lead. -/
  link : Option (List Char)
  deriving DecidableEq, Repr

namespace Style

/-- The style that says nothing. -/
def plain : Style := ⟨[], none, none, none⟩

/-- The style of an attribute. -/
def ofAttribute (a : Attribute) : Style := { plain with attributes := [(a, true)] }

/-- A style put over another one. -/
def onTop (top base : Style) : Style :=
  ⟨top.attributes ++ base.attributes, top.foreground.or base.foreground,
    top.background.or base.background, top.link.or base.link⟩

/-- A style with what further words say, if they say something. -/
def withWords? (style : Style) : List (List Char) → Except Numeral.IntError (Option Style)
  | [] => .ok (some style)
  | word :: rest =>
    let word := lower word
    if word = "on".toList then
      match rest with
      | [] => .ok none
      | name :: rest =>
        match Color.ofWord? name with
        | .error e => .error e
        | .ok none => .ok none
        | .ok (some color) => withWords? { style with background := some color } rest
    else if word = "not".toList then
      match rest with
      | [] => .ok none
      | name :: rest =>
        match Attribute.ofWord? name with
        | none => .ok none
        | some a => withWords? { style with attributes := (a, false) :: style.attributes } rest
    else if word = "link".toList then
      match rest with
      | [] => .ok none
      | address :: rest => withWords? { style with link := some address } rest
    else
      match Attribute.ofWord? word with
      | some a => withWords? { style with attributes := (a, true) :: style.attributes } rest
      | none =>
        match Color.ofWord? word with
        | .error e => .error e
        | .ok none => .ok none
        | .ok (some color) => withWords? { style with foreground := some color } rest

/-- The style that words describe, if they describe one. -/
def ofWords? (s : List Char) : Except Numeral.IntError (Option Style) :=
  match words s with
  | [] => .ok (some plain)
  | [word] => if word = "none".toList then .ok (some plain) else withWords? plain [word]
  | several => withWords? plain several

/-- The words for the attributes of a style. -/
def attributeWords (style : Style) : List (List Char) :=
  Attribute.all.filterMap fun a =>
    (style.attributes.lookup a).map fun on =>
      if on then a.word.toList else "not ".toList ++ a.word.toList

/-- The words for a style. -/
def description (style : Style) : List Char :=
  let parts := style.attributeWords ++ (style.foreground.map (·.name)).toList ++
    (style.background.map fun color => "on ".toList ++ color.name).toList ++
    (style.link.map fun address => "link ".toList ++ address).toList
  if parts = [] then "none".toList else join [' '] parts

/-- A name of a style in its normal form: names of one style are the same. -/
def normalName (name : List Char) : Except Numeral.IntError (List Char) := do
  match ← ofWords? name with
  | some style => return style.description
  | none => return lower (trim name)

/-- The numbers that switch a style on, with colours that a terminal has. -/
def codes (palette : Palette) (style : Style) : List Nat :=
  let colorCodes (base : Nat) (color : Option Color) : List Nat :=
    (color.map fun color => (color.shade.within palette).codes base).getD []
  (Attribute.all.filter fun a => style.attributes.lookup a = some true).map Attribute.code ++
    colorCodes 30 style.foreground ++ colorCodes 40 style.background

/-- A style without its colours. -/
def withoutColors (style : Style) : Style :=
  { style with foreground := none, background := none }

/-- The character that begins an escape sequence. -/
def escape : Char := '\x1b'

/-- A text between the sequences that switch a style on and off. -/
def paint (palette : Palette) (style : Style) (text : List Char) : List Char :=
  let codes := style.codes palette
  if text = [] ∨ codes = [] then text
  else
    escape :: '[' :: (join [';'] (codes.map fun n => (toString n).toList)) ++ 'm' ::
      (text ++ [escape, '[', '0', 'm'])

end Style

end LintDaemon.Terminal
