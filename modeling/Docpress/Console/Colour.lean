import Docpress.Text.Digit
/-!
Colours as console markup names them: by name, by number, or by their parts.
-/

namespace Docpress.Console

/-- The names of colours. -/
def colourNames : List String :=
  ["aquamarine1", "aquamarine3", "black", "blue", "blue1", "blue3", "blue_violet", "bright_black",
   "bright_blue", "bright_cyan", "bright_green", "bright_magenta", "bright_red", "bright_white",
   "bright_yellow", "cadet_blue", "chartreuse1", "chartreuse2", "chartreuse3", "chartreuse4",
   "cornflower_blue", "cornsilk1", "cyan", "cyan1", "cyan2", "cyan3", "dark_blue", "dark_cyan",
   "dark_goldenrod", "dark_green", "dark_khaki", "dark_magenta", "dark_olive_green1",
   "dark_olive_green2", "dark_olive_green3", "dark_orange", "dark_orange3", "dark_red",
   "dark_sea_green", "dark_sea_green1", "dark_sea_green2", "dark_sea_green3", "dark_sea_green4",
   "dark_slate_gray1", "dark_slate_gray2", "dark_slate_gray3", "dark_turquoise", "dark_violet",
   "deep_pink1", "deep_pink2", "deep_pink3", "deep_pink4", "deep_sky_blue1", "deep_sky_blue2",
   "deep_sky_blue3", "deep_sky_blue4", "dodger_blue1", "dodger_blue2", "dodger_blue3", "gold1",
   "gold3", "gray0", "gray100", "gray11", "gray15", "gray19", "gray23", "gray27", "gray3", "gray30",
   "gray35", "gray37", "gray39", "gray42", "gray46", "gray50", "gray53", "gray54", "gray58",
   "gray62", "gray63", "gray66", "gray69", "gray7", "gray70", "gray74", "gray78", "gray82",
   "gray84", "gray85", "gray89", "gray93", "green", "green1", "green3", "green4", "green_yellow",
   "grey0", "grey100", "grey11", "grey15", "grey19", "grey23", "grey27", "grey3", "grey30",
   "grey35", "grey37", "grey39", "grey42", "grey46", "grey50", "grey53", "grey54", "grey58",
   "grey62", "grey63", "grey66", "grey69", "grey7", "grey70", "grey74", "grey78", "grey82",
   "grey84", "grey85", "grey89", "grey93", "honeydew2", "hot_pink", "hot_pink2", "hot_pink3",
   "indian_red", "indian_red1", "khaki1", "khaki3", "light_coral", "light_cyan1", "light_cyan3",
   "light_goldenrod1", "light_goldenrod2", "light_goldenrod3", "light_green", "light_pink1",
   "light_pink3", "light_pink4", "light_salmon1", "light_salmon3", "light_sea_green",
   "light_sky_blue1", "light_sky_blue3", "light_slate_blue", "light_slate_gray", "light_slate_grey",
   "light_steel_blue", "light_steel_blue1", "light_steel_blue3", "light_yellow3", "magenta",
   "magenta1", "magenta2", "magenta3", "medium_orchid", "medium_orchid1", "medium_orchid3",
   "medium_purple", "medium_purple1", "medium_purple2", "medium_purple3", "medium_purple4",
   "medium_spring_green", "medium_turquoise", "medium_violet_red", "misty_rose1", "misty_rose3",
   "navajo_white1", "navajo_white3", "navy_blue", "orange1", "orange3", "orange4", "orange_red1",
   "orchid", "orchid1", "orchid2", "pale_green1", "pale_green3", "pale_turquoise1",
   "pale_turquoise4", "pale_violet_red1", "pink1", "pink3", "plum1", "plum2", "plum3", "plum4",
   "purple", "purple3", "purple4", "red", "red1", "red3", "rosy_brown", "royal_blue1", "salmon1",
   "sandy_brown", "sea_green1", "sea_green2", "sea_green3", "sky_blue1", "sky_blue2", "sky_blue3",
   "slate_blue1", "slate_blue3", "spring_green1", "spring_green2", "spring_green3", "spring_green4",
   "steel_blue", "steel_blue1", "steel_blue3", "tan", "thistle1", "thistle3", "turquoise2",
   "turquoise4", "violet", "wheat1", "wheat4", "white", "yellow", "yellow1", "yellow2", "yellow3",
   "yellow4"]

/-- Why a text is no colour. -/
inductive ColourFault where
  | unknown
  /-- One of the three parts of a colour is left empty, or has more digits than are read. -/
  | unreadablePart
deriving DecidableEq, Repr

/-- What is in the brackets of a text that begins with a word and an opening bracket and ends with
    the closing one. -/
def bracketed? (word s : Text) : Option Text :=
  match Text.dropLead? (word ++ ['(']) s with
  | some rest => if rest.getLast? == some ')' then some rest.dropLast else none
  | none => none

/-- Six hexadecimal digits after a number sign. -/
def isHexColour : Text → Bool
  | '#' :: digits => digits.length == 6 && digits.all fun c => (Text.hexDigit? c).isSome
  | _ => false

/-- A number of a colour of the palette. -/
def isPaletteNumber (s : Text) : Bool :=
  1 ≤ s.length && s.length ≤ 3 && s.all Char.isDigit && Text.digitsValue s ≤ 255

/-- Check the three parts of a colour, which commas separate. -/
def checkParts (s : Text) : Except ColourFault Unit :=
  let parts := Text.splitBy (· == ',') s
  if !s.all (fun c => isDecimalDigit c || c == ',') || parts.length != 3 then .error .unknown
  else if parts.any fun part => part.isEmpty || longestDecimal < part.length then
    .error .unreadablePart
  else if parts.all fun part => Text.digitsValue part.withAsciiDigits ≤ 255 then .ok ()
  else .error .unknown

/-- Check a colour in lower case. -/
def checkColour (s : Text) : Except ColourFault Unit :=
  if s == "default".toList || colourNames.contains (String.ofList s) || isHexColour s then .ok ()
  else match bracketed? "color".toList s, bracketed? "rgb".toList s with
    | some number, _ => if isPaletteNumber number then .ok () else .error .unknown
    | none, some parts => checkParts parts
    | none, none => .error .unknown

end Docpress.Console
