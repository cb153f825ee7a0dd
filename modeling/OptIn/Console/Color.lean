import OptIn.Fault
import OptIn.Text.DecimalDigit

/-!
# Colours

A style names a colour by a word: the name of a colour and a shade of it (`red`, `orange1`), six
hexadecimal digits (`#ff8800`), its number in the palette (`color(214)`) or the amounts of red,
green and blue in it (`rgb(255,136,0)`). `isColor` tells whether a word in small letters names one.
A missing or endless amount is a fault rather than another word.
-/

namespace OptIn.Console

/-- Colours by the shades that they come in; the empty shade is the plain colour. -/
def shadedColors : List (List String × List String) := [
  ([""], [
    "black", "blue_violet", "bright_black", "bright_blue", "bright_cyan", "bright_green",
    "bright_magenta", "bright_red", "bright_white", "bright_yellow", "cadet_blue",
    "cornflower_blue", "dark_blue", "dark_cyan", "dark_goldenrod", "dark_green", "dark_khaki",
    "dark_magenta", "dark_red", "dark_turquoise", "dark_violet", "green_yellow", "light_coral",
    "light_green", "light_sea_green", "light_slate_blue", "light_slate_gray", "light_slate_grey",
    "medium_spring_green", "medium_turquoise", "medium_violet_red", "navy_blue", "rosy_brown",
    "sandy_brown", "tan", "violet", "white"]),
  (["1"], [
    "cornsilk", "orange_red", "pale_violet_red", "royal_blue", "salmon"]),
  (["2"], [
    "honeydew"]),
  (["3"], [
    "light_yellow"]),
  (["", "1"], [
    "indian_red"]),
  (["", "3"], [
    "dark_orange"]),
  (["1", "3"], [
    "aquamarine", "gold", "khaki", "light_cyan", "light_salmon", "light_sky_blue", "misty_rose",
    "navajo_white", "pale_green", "pink", "slate_blue", "thistle"]),
  (["1", "4"], [
    "pale_turquoise", "wheat"]),
  (["2", "4"], [
    "turquoise"]),
  (["", "1", "2"], [
    "orchid"]),
  (["", "1", "3"], [
    "blue", "light_steel_blue", "medium_orchid", "red", "steel_blue"]),
  (["", "2", "3"], [
    "hot_pink"]),
  (["", "3", "4"], [
    "purple"]),
  (["1", "2", "3"], [
    "dark_olive_green", "dark_slate_gray", "dodger_blue", "light_goldenrod", "sea_green",
    "sky_blue"]),
  (["1", "3", "4"], [
    "light_pink", "orange"]),
  (["", "1", "2", "3"], [
    "cyan", "magenta"]),
  (["", "1", "3", "4"], [
    "green"]),
  (["1", "2", "3", "4"], [
    "chartreuse", "deep_pink", "deep_sky_blue", "plum", "spring_green"]),
  (["", "1", "2", "3", "4"], [
    "dark_sea_green", "medium_purple", "yellow"])]

/-- The shades of grey. -/
def greyShades : List String := [
    "0", "3", "7", "11", "15", "19", "23", "27", "30", "35", "37", "39", "42", "46", "50", "53",
    "54", "58", "62", "63", "66", "69", "70", "74", "78", "82", "84", "85", "89", "93", "100"]

/-- The names of colours. -/
def colorNames : List String :=
  "default" :: ["grey", "gray"].flatMap (fun c => greyShades.map (c ++ ·)) ++
    shadedColors.flatMap fun (shades, colors) => colors.flatMap fun c => shades.map (c ++ ·)

/-- What stands between a word and the bracket at the end, if a text begins with the word and an
opening bracket. -/
def bracketed? (word : String) (cs : List Char) : Option (List Char) :=
  let opening := word.toList ++ ['(']
  if opening.isPrefixOf cs && cs.getLast? = some ')' then some ((cs.drop opening.length).dropLast)
  else none

/-- The greatest amount of a primary colour, and the greatest number of a colour. -/
def colorLimit : Nat := 255

/-- The number that decimal digits write. -/
def amount (ds : List Char) : Except Fault Nat :=
  if ds.isEmpty then .error .noNumber
  else if Text.digitLimit < ds.length then .error (.overlongNumber ds.length)
  else .ok (ds.foldl (fun n d => n * 10 + (Text.decimalValue? d).getD 0) 0)

/-- Whether amounts of red, green and blue name a colour. -/
def areAmounts (ds : List Char) : Except Fault Bool := do
  if ds.isEmpty || !ds.all (fun c => c = ',' || (Text.decimalValue? c).isSome) then return false
  match Text.pieces (· = ',') ds with
  | [red, green, blue] =>
    let amounts ← [red, green, blue].mapM amount
    return amounts.all (· ≤ colorLimit)
  | _ => return false

/-- Whether digits are the number of a colour. -/
def isColorNumber (ds : List Char) : Bool :=
  1 ≤ ds.length && ds.length ≤ 3 && ds.all Char.isDigit &&
    ds.foldl (fun n d => n * 10 + (d.toNat - 48)) 0 ≤ colorLimit

/-- Whether a word in small letters names a colour. -/
def isColor (word : List Char) : Except Fault Bool :=
  if colorNames.contains (String.ofList word) then .ok true
  else
    match word with
    | '#' :: ds =>
      .ok (ds.length = 6 && ds.all fun c => c.isDigit || ('a' ≤ c && c ≤ 'f'))
    | _ =>
      match bracketed? "color" word, bracketed? "rgb" word with
      | some ds, _ => .ok (isColorNumber ds)
      | none, some ds => areAmounts ds
      | none, none => .ok false

end OptIn.Console
