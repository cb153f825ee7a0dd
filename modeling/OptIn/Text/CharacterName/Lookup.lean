import OptIn.Text.CharacterName.Alias
import OptIn.Text.CharacterName.EastAsian
import OptIn.Text.CharacterName.Historic
import OptIn.Text.CharacterName.Pictographs
import OptIn.Text.CharacterName.Scripts
import OptIn.Text.CharacterName.Symbols
import OptIn.Text.CodeRanges

/-!
# The character of a given name

`charNamed?` finds a character by its name. Most names stand in tables, where the case of letters
does not count. The ideographs are named by their code point, and a syllable of Hangul by the
letters it is made of; ideographs that are kept for compatibility and two further scripts of
ideographs are named by their code point as well, but without regard to case.
-/

namespace OptIn.Text

/-! ### Names by code point -/

/-- The value of a hexadecimal digit in upper case. -/
def upperHexValue? (c : Char) : Option Nat :=
  if c.isDigit then some (c.toNat - 48)
  else if 'A' ≤ c && c ≤ 'F' then some (c.toNat - 55)
  else none

/-- The code point that four or five hexadecimal digits in upper case write. -/
def codePoint? (ds : List Char) : Option Nat := do
  let vs ← ds.mapM upperHexValue?
  if vs.length = 4 || vs.length = 5 then some (vs.foldl (fun n v => n * 16 + v) 0) else none

/-- The unified ideographs. -/
def ideographRanges : List (Nat × Nat) := [
    (0x3400, 0x4DBF), (0x4E00, 0x9FFF), (0x20000, 0x2A6DF), (0x2A700, 0x2B738),
    (0x2B740, 0x2B81D), (0x2B820, 0x2CEA1), (0x2CEB0, 0x2EBE0), (0x30000, 0x3134A)]

/-- The other signs that are named by their code point, and what their names begin with. -/
def codedRanges : List (String × List (Nat × Nat)) := [
    ("CJK COMPATIBILITY IDEOGRAPH-", [(0xF900, 0xFA6D), (0xFA70, 0xFAD9), (0x2F800, 0x2FA1D)]),
    ("KHITAN SMALL SCRIPT CHARACTER-", [(0x18B00, 0x18CD5)]),
    ("NUSHU CHARACTER-", [(0x1B170, 0x1B2FB)])]

/-- The code point, written with no zero in front, of a sign whose name begins in a given way. -/
def codedPoint? (name : List Char) (coded : String × List (Nat × Nat)) : Option Nat := do
  let digits ← afterBeginning? coded.1.toList name
  let n ← codePoint? digits
  if digits.head? ≠ some '0' && inRanges coded.2 n then some n else none

/-! ### Syllables -/

/-- The consonants that a syllable begins with. -/
def leadingSounds : List String :=
  ["G", "GG", "N", "D", "DD", "R", "M", "B", "BB", "S", "SS", "", "J", "JJ", "C", "K", "T", "P",
    "H"]

/-- The vowels of a syllable. -/
def vowelSounds : List String :=
  ["A", "AE", "YA", "YAE", "EO", "E", "YEO", "YE", "O", "WA", "WAE", "OE", "YO", "U", "WEO", "WE",
    "WI", "YU", "EU", "YI", "I"]

/-- The consonants that a syllable ends with. -/
def trailingSounds : List String :=
  ["", "G", "GG", "GS", "N", "NJ", "NH", "D", "L", "LG", "LM", "LB", "LS", "LT", "LP", "LH", "M",
    "B", "BS", "S", "SS", "NG", "J", "C", "K", "T", "P", "H"]

/-- The longest of the sounds that a text begins with: its number, and what follows it. -/
def longestSound? (sounds : List String) (cs : List Char) : Option (Nat × List Char) :=
  let found := sounds.zipIdx.filterMap fun (s, i) =>
    (afterBeginning? s.toList cs).map fun rest => (i, rest)
  found.foldl (fun best next => match best with
    | none => some next
    | some b => if next.2.length < b.2.length then some next else some b) none

/-- The code point of the syllable that is spelled in this way. -/
def syllable? (spelling : List Char) : Option Nat := do
  let (l, rest) ← longestSound? leadingSounds spelling
  let (v, rest) ← longestSound? vowelSounds rest
  let (t, rest) ← longestSound? trailingSounds rest
  if rest.isEmpty then
    some (0xAC00 + (l * vowelSounds.length + v) * trailingSounds.length + t)
  else none

/-! ### All names -/

/-- The code point that some run of names has for a name. -/
def tabledPoint? (name : List Char) : Option Nat :=
  [scriptNames, symbolNames, eastAsianNames, historicNames, pictographNames, aliasNames].findSome?
    fun runs => runs.findSome? fun r => r.find? name

/-- The character of a given name. -/
def charNamed? (name : List Char) : Option Char :=
  Char.ofNat <$>
    match afterBeginning? "HANGUL SYLLABLE ".toList name,
        afterBeginning? "CJK UNIFIED IDEOGRAPH-".toList name with
    | some spelling, _ => syllable? spelling
    | _, some digits => (codePoint? digits).filter (inRanges ideographRanges)
    | none, none =>
      let upper := name.map Char.toUpper
      (tabledPoint? upper).or (codedRanges.findSome? (codedPoint? upper))

end OptIn.Text
