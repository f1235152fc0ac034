import LintDaemon.Terminal.Emoji.Faces
import LintDaemon.Terminal.Emoji.Figures
import LintDaemon.Terminal.Emoji.Flags
import LintDaemon.Terminal.Emoji.Groups
import LintDaemon.Terminal.Emoji.Pictures
import LintDaemon.Terminal.Emoji.Signs
import LintDaemon.Terminal.Emoji.SkinTones
import LintDaemon.Terminal.Emoji.Travel
import LintDaemon.Text.Blank
import LintDaemon.Text.LetterCase
import LintDaemon.Text.Line

/-!
# Emoji codes

A name between colons stands for an emoji. Behind the name it may be said which of its two forms
is wanted.

* `Emoji.ofName?`: the emoji of a name.
* `replaceEmoji`: a text with the emoji in the place of their codes.
-/

namespace LintDaemon.Terminal

open LintDaemon.Text

namespace Emoji

/-- The entries of a table: each name, and what stands in front of the names of its entry. A colon
ends an entry, so that neither an emoji nor a name holds one. -/
def entries (table : String) : List (String × List Char) :=
  (fieldsOf ':' table).flatMap fun entry =>
    match words entry.toList with
    | [] => []
    | emoji :: names => names.map fun name => (String.ofList name, emoji)

/-- The names of emoji. -/
def named : List (String × List Char) :=
  [facesTable, figuresTable, groupsTable, picturesTable, signsTable, travelTable].flatMap entries

/-- The names of countries, and their codes. -/
def countries : List (String × List Char) :=
  entries flagTable

/-- The letters that write a flag, for those of the code of a country. -/
def flagOf (code : List Char) : List Char :=
  code.map fun c => Char.ofNat (c.toNat - 'A'.toNat + '🇦'.toNat)

/-- The flag of a name: that of a country, which may be called a flag. -/
def flag? (name : List Char) : Option (List Char) :=
  let country := (dropPrefix? "flag_for_".toList name).getD name
  (countries.lookup (String.ofList country)).map flagOf

/-- An emoji in a skin tone, which stands behind its first character and takes the place of the
form of that. -/
def inTone (tone : Char) : List Char → List Char
  | c :: '\ufe0f' :: rest => c :: tone :: rest
  | c :: rest => c :: tone :: rest
  | [] => [tone]

/-- The emoji of a name that says a skin tone. -/
def toned? (name : List Char) : Option (List Char) :=
  tones.findSome? fun (suffix, tone) =>
    match dropSuffix? suffix.toList name with
    | none => none
    | some bare =>
      if (words tonedNames.toList).contains bare then
        (named.lookup (String.ofList bare)).map (inTone tone)
      else none

/-- The emoji of a name. -/
def ofName? (name : List Char) : Option (List Char) :=
  ((named.lookup (String.ofList name)).or (flag? name)).or (toned? name)

end Emoji

/-- What asks for a form of an emoji, and the character that selects it. -/
def emojiForms : List (String × Char) :=
  [("-emoji", '\ufe0f'), ("-text", '\ufe0e')]

/-- The name of an emoji, and the character that selects its form if one is asked for. -/
def splitForm (code : List Char) : List (String × Char) → List Char × List Char
  | [] => (code, [])
  | (suffix, selector) :: rest =>
    match dropSuffix? suffix.toList code with
    | some name => (name, [selector])
    | none => splitForm code rest

/-- The emoji for what stands between two colons. -/
def emojiFor? (code : List Char) : Option (List Char) :=
  let (name, selector) := splitForm code emojiForms
  (Emoji.ofName? (lower name)).map (· ++ selector)

/-- What stands between a colon and the next one, without white space. -/
def codeAt? : List Char → Option (List Char)
  | ':' :: rest =>
    let code := rest.takeWhile fun c => c != ':' && !isBlank c
    match rest.drop code.length with
    | ':' :: _ => some code
    | _ => none
  | _ => none

/-- A text with emoji in the place of their codes; `skip` counts the characters of a code still to
be passed. A code without an emoji stays, and the search goes on behind it. -/
def replaceEmojiFrom : Nat → List Char → List Char
  | _, [] => []
  | skip + 1, _ :: rest => replaceEmojiFrom skip rest
  | 0, c :: rest =>
    match codeAt? (c :: rest) with
    | none => c :: replaceEmojiFrom 0 rest
    | some code =>
      (emojiFor? code).getD (':' :: (code ++ [':'])) ++ replaceEmojiFrom (code.length + 1) rest

/-- A text with emoji in the place of their codes. -/
def replaceEmoji (s : List Char) : List Char :=
  replaceEmojiFrom 0 s

end LintDaemon.Terminal
