import TextProtocol.Text.Integer
import TextProtocol.Text.LetterCase

/-!
# Styles

A tag in marked-up text may describe a look: attributes, a colour, a background and a link, in any
order and with abbreviations. Two descriptions of one look have the same canonical text. What
describes no look stands for itself, trimmed and in small letters.
-/

namespace TextProtocol.Console

/-- The attributes of a look in the order in which they are written, with their abbreviations. -/
def attributeNames : List (String × List String) :=
  [("bold", ["b"]), ("dim", ["d"]), ("italic", ["i"]), ("underline", ["u"]), ("blink", []),
    ("blink2", []), ("reverse", ["r"]), ("conceal", ["c"]), ("strike", ["s"]),
    ("underline2", ["uu"]), ("frame", []), ("encircle", []), ("overline", ["o"])]

def attribute? (word : String) : Option String :=
  (attributeNames.find? fun a ↦ a.1 == word || a.2.contains word).map (·.1)

def colourTable : String := r#"
  default
  black red green yellow blue magenta cyan white bright_black bright_red bright_green bright_yellow
  bright_blue bright_magenta bright_cyan bright_white grey0 gray0 navy_blue dark_blue blue3 blue1
  dark_green deep_sky_blue4 dodger_blue3 dodger_blue2 green4 spring_green4 turquoise4
  deep_sky_blue3 dodger_blue1 green3 spring_green3 dark_cyan light_sea_green deep_sky_blue2
  deep_sky_blue1 spring_green2 cyan3 dark_turquoise turquoise2 green1 spring_green1
  medium_spring_green cyan2 cyan1 dark_red deep_pink4 purple4 purple3 blue_violet orange4 grey37
  gray37 medium_purple4 slate_blue3 royal_blue1 chartreuse4 dark_sea_green4 pale_turquoise4
  steel_blue steel_blue3 cornflower_blue chartreuse3 cadet_blue sky_blue3 steel_blue1 pale_green3
  sea_green3 aquamarine3 medium_turquoise chartreuse2 sea_green2 sea_green1 aquamarine1
  dark_slate_gray2 dark_magenta dark_violet purple light_pink4 plum4 medium_purple3 slate_blue1
  yellow4 wheat4 grey53 gray53 light_slate_grey light_slate_gray medium_purple light_slate_blue
  dark_olive_green3 dark_sea_green light_sky_blue3 sky_blue2 dark_sea_green3 dark_slate_gray3
  sky_blue1 chartreuse1 light_green pale_green1 dark_slate_gray1 red3 medium_violet_red magenta3
  dark_orange3 indian_red hot_pink3 medium_orchid3 medium_orchid medium_purple2 dark_goldenrod
  light_salmon3 rosy_brown grey63 gray63 medium_purple1 gold3 dark_khaki navajo_white3 grey69
  gray69 light_steel_blue3 light_steel_blue yellow3 dark_sea_green2 light_cyan3 light_sky_blue1
  green_yellow dark_olive_green2 dark_sea_green1 pale_turquoise1 deep_pink3 magenta2 hot_pink2
  orchid medium_orchid1 orange3 light_pink3 pink3 plum3 violet light_goldenrod3 tan misty_rose3
  thistle3 plum2 khaki3 light_goldenrod2 light_yellow3 grey84 gray84 light_steel_blue1 yellow2
  dark_olive_green1 honeydew2 light_cyan1 red1 deep_pink2 deep_pink1 magenta1 orange_red1
  indian_red1 hot_pink dark_orange salmon1 light_coral pale_violet_red1 orchid2 orchid1 orange1
  sandy_brown light_salmon1 light_pink1 pink1 plum1 gold1 navajo_white1 misty_rose1 thistle1
  yellow1 light_goldenrod1 khaki1 wheat1 cornsilk1 grey100 gray100 grey3 gray3 grey7 gray7 grey11
  gray11 grey15 gray15 grey19 gray19 grey23 gray23 grey27 gray27 grey30 gray30 grey35 gray35 grey39
  gray39 grey42 gray42 grey46 gray46 grey50 gray50 grey54 gray54 grey58 gray58 grey62 gray62 grey66
  gray66 grey70 gray70 grey74 gray74 grey78 gray78 grey82 gray82 grey85 gray85 grey89 gray89 grey93
  gray93
  "#

def colourNames : List String :=
  ((colourTable.splitOn "\n").flatMap (·.splitOn " ")).filter fun w ↦ !w.isEmpty

structure Style where
  attributes : List (String × Bool) := []
  colour? : Option String := none
  background? : Option String := none
  link? : Option String := none

namespace Style

inductive ReadError where
  | unknown
  | badNumber

def argument? (opening word : String) : Option (List Char) :=
  let cs := word.toList
  if opening.toList.isPrefixOf cs && cs.getLast? == some ')' then
    some ((cs.drop opening.length).dropLast)
  else none

def level (part : List Char) : Except ReadError Nat :=
  match Text.readInteger part with
  | .ok n => .ok n.toNat
  | .error _ => .error .badNumber

/-- Whether a word is a colour as its three parts. -/
def isMixture (arguments : List Char) : Except ReadError Bool := do
  if arguments.isEmpty || !arguments.all fun c ↦ Text.isDecimal c || c == ',' then return false
  match arguments.splitOn ',' with
  | [red, green, blue] =>
    let levels := [← level red, ← level green, ← level blue]
    return levels.all (· ≤ 255)
  | _ => return false

def isColour (word : String) : Except ReadError Bool :=
  if colourNames.contains word then .ok true
  else match word.toList, argument? "color(" word, argument? "rgb(" word with
    | '#' :: digits, _, _ =>
      .ok (digits.length == 6 && digits.all fun c ↦ c.isDigit || ('a' ≤ c && c ≤ 'f'))
    | _, some digits, _ =>
      let number := digits.foldl (fun n c ↦ 10 * n + (c.toNat - 48)) 0
      .ok (!digits.isEmpty && digits.length ≤ 3 && digits.all Char.isDigit && number ≤ 255)
    | _, _, some arguments => isMixture arguments
    | _, _, _ => .ok false

def colour (word : String) : Except ReadError String := do
  let word := Text.lowered word
  if ← isColour word then return word else throw .unknown

def setAttribute (s : Style) (name : String) (on : Bool) : Style :=
  { s with attributes := (name, on) :: s.attributes.filter (·.1 != name) }

/-- The look that words describe, on top of another one. -/
def read (s : Style) : List String → Except ReadError Style
  | [] => .ok s
  | word :: rest =>
    let small := Text.lowered word
    match small, rest with
    | "on", next :: rest => do read { s with background? := some (← colour next) } rest
    | "not", next :: rest => match attribute? next with
      | some name => read (s.setAttribute name false) rest
      | none => .error .unknown
    | "link", next :: rest => read { s with link? := some next } rest
    | small, rest => match attribute? small with
      | some name => read (s.setAttribute name true) rest
      | none => do read { s with colour? := some (← colour word) } rest

def canonicalWords (s : Style) : List String :=
  (attributeNames.filterMap fun a ↦ (s.attributes.find? (·.1 == a.1)).map fun e ↦
    if e.2 then e.1 else "not " ++ e.1) ++
  s.colour?.toList ++ (s.background?.map ("on " ++ ·)).toList ++
  (s.link?.map ("link " ++ ·)).toList

def canonical (s : Style) : String :=
  match s.canonicalWords with
  | [] => "none"
  | words => " ".intercalate words

end Style

/-- The canonical text of a description, or the description itself, trimmed and in small letters;
none if a part of a colour in it is no number. -/
def canonicalStyle? (description : List Char) : Option String :=
  let words := (Text.words description).map String.ofList
  match if words == ["none"] then .ok {} else Style.read {} words with
  | .ok s => some s.canonical
  | .error .unknown => some (Text.lowered (String.ofList (Text.strip description)))
  | .error .badNumber => none

end TextProtocol.Console
