import LintDaemon.Number.Numeral
import LintDaemon.Number.Rounding
import LintDaemon.Text.LetterCase
import LintDaemon.Text.Line

/-!
# Colours

* `Color.ofWord?`: the colour that a word names.
* `Shade.within`: the colour in which a terminal shows another one that it does not have.
* `Shade.codes`: the numbers that choose a colour.

Scope: distances between colours are exact here. Where they are computed with rounding, three greys
of all are as near to one of the 256 colours as to another, and may come out as the other one.
-/

namespace LintDaemon.Terminal

open LintDaemon.Text

/-- What a colour is. -/
inductive Shade
  /-- Whatever the terminal uses. -/
  | default
  /-- One of the 256 numbered colours, the first sixteen of which every terminal has. -/
  | numbered (n : Nat)
  /-- A mixture of red, green and blue, each at most 255. -/
  | mixed (red green blue : Nat)
  deriving DecidableEq, Repr

/-- A colour and its name. -/
structure Color where
  /-- The name. -/
  name : List Char
  /-- What it is. -/
  shade : Shade
  deriving DecidableEq, Repr

/-- The names of numbered colours. -/
def colorNames : List (String × Nat) :=
  [("black", 0), ("red", 1), ("green", 2), ("yellow", 3), ("blue", 4), ("magenta", 5), ("cyan", 6),
   ("white", 7), ("bright_black", 8), ("bright_red", 9), ("bright_green", 10),
   ("bright_yellow", 11), ("bright_blue", 12), ("bright_magenta", 13), ("bright_cyan", 14),
   ("bright_white", 15), ("grey0", 16), ("gray0", 16), ("navy_blue", 17), ("dark_blue", 18),
   ("blue3", 20), ("blue1", 21), ("dark_green", 22), ("deep_sky_blue4", 25), ("dodger_blue3", 26),
   ("dodger_blue2", 27), ("green4", 28), ("spring_green4", 29), ("turquoise4", 30),
   ("deep_sky_blue3", 32), ("dodger_blue1", 33), ("green3", 40), ("spring_green3", 41),
   ("dark_cyan", 36), ("light_sea_green", 37), ("deep_sky_blue2", 38), ("deep_sky_blue1", 39),
   ("spring_green2", 47), ("cyan3", 43), ("dark_turquoise", 44), ("turquoise2", 45),
   ("green1", 46), ("spring_green1", 48), ("medium_spring_green", 49), ("cyan2", 50),
   ("cyan1", 51), ("dark_red", 88), ("deep_pink4", 125), ("purple4", 55), ("purple3", 56),
   ("blue_violet", 57), ("orange4", 94), ("grey37", 59), ("gray37", 59), ("medium_purple4", 60),
   ("slate_blue3", 62), ("royal_blue1", 63), ("chartreuse4", 64), ("dark_sea_green4", 71),
   ("pale_turquoise4", 66), ("steel_blue", 67), ("steel_blue3", 68), ("cornflower_blue", 69),
   ("chartreuse3", 76), ("cadet_blue", 73), ("sky_blue3", 74), ("steel_blue1", 81),
   ("pale_green3", 114), ("sea_green3", 78), ("aquamarine3", 79), ("medium_turquoise", 80),
   ("chartreuse2", 112), ("sea_green2", 83), ("sea_green1", 85), ("aquamarine1", 122),
   ("dark_slate_gray2", 87), ("dark_magenta", 91), ("dark_violet", 128), ("purple", 129),
   ("light_pink4", 95), ("plum4", 96), ("medium_purple3", 98), ("slate_blue1", 99),
   ("yellow4", 106), ("wheat4", 101), ("grey53", 102), ("gray53", 102), ("light_slate_grey", 103),
   ("light_slate_gray", 103), ("medium_purple", 104), ("light_slate_blue", 105),
   ("dark_olive_green3", 149), ("dark_sea_green", 108), ("light_sky_blue3", 110),
   ("sky_blue2", 111), ("dark_sea_green3", 150), ("dark_slate_gray3", 116), ("sky_blue1", 117),
   ("chartreuse1", 118), ("light_green", 120), ("pale_green1", 156), ("dark_slate_gray1", 123),
   ("red3", 160), ("medium_violet_red", 126), ("magenta3", 164), ("dark_orange3", 166),
   ("indian_red", 167), ("hot_pink3", 168), ("medium_orchid3", 133), ("medium_orchid", 134),
   ("medium_purple2", 140), ("dark_goldenrod", 136), ("light_salmon3", 173), ("rosy_brown", 138),
   ("grey63", 139), ("gray63", 139), ("medium_purple1", 141), ("gold3", 178), ("dark_khaki", 143),
   ("navajo_white3", 144), ("grey69", 145), ("gray69", 145), ("light_steel_blue3", 146),
   ("light_steel_blue", 147), ("yellow3", 184), ("dark_sea_green2", 157), ("light_cyan3", 152),
   ("light_sky_blue1", 153), ("green_yellow", 154), ("dark_olive_green2", 155),
   ("dark_sea_green1", 193), ("pale_turquoise1", 159), ("deep_pink3", 162), ("magenta2", 200),
   ("hot_pink2", 169), ("orchid", 170), ("medium_orchid1", 207), ("orange3", 172),
   ("light_pink3", 174), ("pink3", 175), ("plum3", 176), ("violet", 177),
   ("light_goldenrod3", 179), ("tan", 180), ("misty_rose3", 181), ("thistle3", 182),
   ("plum2", 183), ("khaki3", 185), ("light_goldenrod2", 222), ("light_yellow3", 187),
   ("grey84", 188), ("gray84", 188), ("light_steel_blue1", 189), ("yellow2", 190),
   ("dark_olive_green1", 192), ("honeydew2", 194), ("light_cyan1", 195), ("red1", 196),
   ("deep_pink2", 197), ("deep_pink1", 199), ("magenta1", 201), ("orange_red1", 202),
   ("indian_red1", 204), ("hot_pink", 206), ("dark_orange", 208), ("salmon1", 209),
   ("light_coral", 210), ("pale_violet_red1", 211), ("orchid2", 212), ("orchid1", 213),
   ("orange1", 214), ("sandy_brown", 215), ("light_salmon1", 216), ("light_pink1", 217),
   ("pink1", 218), ("plum1", 219), ("gold1", 220), ("navajo_white1", 223), ("misty_rose1", 224),
   ("thistle1", 225), ("yellow1", 226), ("light_goldenrod1", 227), ("khaki1", 228),
   ("wheat1", 229), ("cornsilk1", 230), ("grey100", 231), ("gray100", 231), ("grey3", 232),
   ("gray3", 232), ("grey7", 233), ("gray7", 233), ("grey11", 234), ("gray11", 234),
   ("grey15", 235), ("gray15", 235), ("grey19", 236), ("gray19", 236), ("grey23", 237),
   ("gray23", 237), ("grey27", 238), ("gray27", 238), ("grey30", 239), ("gray30", 239),
   ("grey35", 240), ("gray35", 240), ("grey39", 241), ("gray39", 241), ("grey42", 242),
   ("gray42", 242), ("grey46", 243), ("gray46", 243), ("grey50", 244), ("gray50", 244),
   ("grey54", 245), ("gray54", 245), ("grey58", 246), ("gray58", 246), ("grey62", 247),
   ("gray62", 247), ("grey66", 248), ("gray66", 248), ("grey70", 249), ("gray70", 249),
   ("grey74", 250), ("gray74", 250), ("grey78", 251), ("gray78", 251), ("grey82", 252),
   ("gray82", 252), ("grey85", 253), ("gray85", 253), ("grey89", 254), ("gray89", 254),
   ("grey93", 255), ("gray93", 255)]

/-- The value of six hexadecimal digits in lower case. -/
def sixDigits? (s : List Char) : Option Nat :=
  if s.length = 6 ∧ s.all (fun c => c.isDigit || ('a' ≤ c && c ≤ 'f')) then
    some (s.foldl (fun n c => n * 16 + (if c.isDigit then c.toNat - 48 else c.toNat - 87)) 0)
  else none

/-- What stands between a word with a bracket behind it and a bracket at the end. -/
def arguments? (word : String) (s : List Char) : Option (List Char) :=
  (dropPrefix? (word.toList ++ ['(']) s).bind (dropSuffix? [')'])

/-- The mixture of three numbers, if each of them is at most 255. -/
def mixture? : List (List Char) → Except Numeral.IntError (Option Shade)
  | [red, green, blue] => do
    let red ← Numeral.int red
    let green ← Numeral.int green
    let blue ← Numeral.int blue
    return if red ≤ 255 ∧ green ≤ 255 ∧ blue ≤ 255 then
      some (.mixed red.toNat green.toNat blue.toNat) else none
  | _ => .ok none

/-- The colour of a number of at most three digits, if there is one. -/
def numbered? (digits : List Char) : Option Shade :=
  if digits ≠ [] ∧ digits.length ≤ 3 ∧ digits.all Char.isDigit ∧ Numeral.value digits ≤ 255 then
    some (.numbered (Numeral.value digits))
  else none

/-- The shade that a word in lower case names. -/
def Shade.ofWord? (s : List Char) : Except Numeral.IntError (Option Shade) :=
  if s = "default".toList then .ok (some .default)
  else
    match colorNames.lookup (String.ofList s) with
    | some n => .ok (some (.numbered n))
    | none =>
      match s with
      | '#' :: digits =>
        .ok ((sixDigits? digits).map fun n => .mixed (n / 65536) (n / 256 % 256) (n % 256))
      | _ =>
        match arguments? "color" s, arguments? "rgb" s with
        | some number, _ => .ok (numbered? number)
        | none, some parts =>
          if parts.all (fun c => isDecimalDigit c || c = ',') then mixture? (fields ',' parts)
          else .ok none
        | none, none => .ok none

/-- The colour that a word names, in letters of any case. A mixture whose parts are no numbers is
an error. -/
def Color.ofWord? (word : List Char) : Except Numeral.IntError (Option Color) :=
  let name := lower word
  (Shade.ofWord? name).map (Option.map (⟨name, ·⟩))

/-- The sixteen colours of a standard terminal. -/
def standardColors : List (Nat × Nat × Nat) :=
  [(0, 0, 0), (170, 0, 0), (0, 170, 0), (170, 85, 0), (0, 0, 170), (170, 0, 170), (0, 170, 170),
   (170, 170, 170), (85, 85, 85), (255, 85, 85), (85, 255, 85), (255, 255, 85), (85, 85, 255),
   (255, 85, 255), (85, 255, 255), (255, 255, 255)]

/-- A step of the colour cube. -/
def cubeLevel (n : Nat) : Nat :=
  if n = 0 then 0 else 55 + 40 * n

/-- The mixture of a numbered colour behind the first sixteen: a cube of six steps a side, then
grey tones. -/
def mixtureOf (n : Nat) : Nat × Nat × Nat :=
  if n < 232 then
    (cubeLevel ((n - 16) / 36), cubeLevel ((n - 16) / 6 % 6), cubeLevel ((n - 16) % 6))
  else
    let grey := 8 + 10 * (n - 232)
    (grey, grey, grey)

/-- The square of a difference. -/
def squareDistance (a b : Nat) : Nat :=
  (max a b - min a b) * (max a b - min a b)

/-- How different two mixtures look: red counts for more where there is much of it, blue where
there is little. -/
def lookDistance (a b : Nat × Nat × Nat) : Nat :=
  let redness := (a.1 + b.1) / 2
  (512 + redness) * squareDistance a.1 b.1 / 256 + 4 * squareDistance a.2.1 b.2.1 +
    (767 - redness) * squareDistance a.2.2 b.2.2 / 256

/-- The first standard colour, counted from `n`, that looks most like a mixture, or the best one
so far. -/
def nearestFrom (a : Nat × Nat × Nat) (best distance n : Nat) : List (Nat × Nat × Nat) → Nat
  | [] => best
  | b :: rest =>
    let d := lookDistance a b
    if d < distance then nearestFrom a n d (n + 1) rest
    else nearestFrom a best distance (n + 1) rest

/-- The standard colour that looks most like a mixture. -/
def nearestStandard (a : Nat × Nat × Nat) : Nat :=
  nearestFrom a 0 (lookDistance a (0, 0, 0)) 0 standardColors

/-- Whether a mixture looks grey: its greatest and its least part differ little, measured against
how far their sum is from black and from white. -/
def isGrey (most least : Nat) : Bool :=
  let sum := most + least
  most == least || 20 * (most - least) < 3 * min sum (510 - sum)

/-- The step of the colour cube that is nearest to a part of a mixture. -/
def cubeStep (part : Nat) : Nat :=
  if part < 95 then Number.roundDiv part 95 else Number.roundDiv (part - 55) 40

/-- The numbered colour that looks most like a mixture: a grey tone, or a colour of the cube. -/
def nearestNumbered (red green blue : Nat) : Nat :=
  let most := max red (max green blue)
  let least := min red (min green blue)
  if isGrey most least then
    match Number.roundDiv ((most + least) * 25) 510 with
    | 0 => 16
    | 25 => 231
    | grey => 231 + grey
  else 16 + 36 * cubeStep red + 6 * cubeStep green + cubeStep blue

/-- Which colours a terminal has. -/
inductive Palette
  /-- The sixteen of every terminal. -/
  | standard
  /-- The numbered ones. -/
  | numbered
  /-- All mixtures. -/
  | full
  deriving DecidableEq, Repr

/-- A shade as one that a terminal has. -/
def Shade.within : Palette → Shade → Shade
  | _, .default => .default
  | .full, shade => shade
  | .numbered, .numbered n => .numbered n
  | .numbered, .mixed red green blue => .numbered (nearestNumbered red green blue)
  | .standard, .numbered n => .numbered (if n < 16 then n else nearestStandard (mixtureOf n))
  | .standard, .mixed red green blue => .numbered (nearestStandard (red, green, blue))

/-- The numbers that choose a shade: one that is built on `base` for the first sixteen colours and
for the terminal's own, and an extended form for the others. -/
def Shade.codes (base : Nat) : Shade → List Nat
  | .default => [base + 9]
  | .numbered n =>
    if n < 8 then [base + n] else if n < 16 then [base + 52 + n] else [base + 8, 5, n]
  | .mixed red green blue => [base + 8, 2, red, green, blue]

end LintDaemon.Terminal
