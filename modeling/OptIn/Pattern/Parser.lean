import OptIn.Pattern.Basic
import OptIn.Pattern.Problem
import OptIn.Text.CharacterName.Lookup
import OptIn.Text.DecimalDigit
import OptIn.Text.Identifier

/-!
# Reading written patterns

`Pattern.parse` reads the written form of a regular expression. It gives the pattern as a tree, or
the first problem of the text with its place. The reader works on tokens, which are characters or a
backslash with the character behind it, and recursion is bounded by the length of the text.
-/

namespace OptIn.Pattern

/-- A **token** is a character, or a backslash with the character behind it, and its index. -/
structure Token where
  text : List Char
  position : Nat
  deriving DecidableEq, Repr

/-- The tokens of a text from a given index on. A backslash at the very end stands alone. -/
def tokenize : Nat → List Char → List Token
  | _, [] => []
  | i, ['\x5c'] => [⟨['\x5c'], i⟩]
  | i, '\x5c' :: c :: cs => ⟨['\x5c', c], i⟩ :: tokenize (i + 2) cs
  | i, c :: cs => ⟨[c], i⟩ :: tokenize (i + 1) cs

/-- The settings that flags in a pattern turn on and off. -/
structure Flags where
  ignoreCase : Bool := false
  multiline : Bool := false
  dotAll : Bool := false
  verbose : Bool := false
  deriving DecidableEq, Repr

/-- What is left to read and what has been learnt about groups. -/
structure Reader where
  tokens : List Token
  size : Nat
  /-- The widths of the groups opened so far, first group first; none while a group is open. -/
  widths : List (Option Width) := []
  names : List (String × Nat) := []
  /-- Inside a look-behind, the number of groups opened before it. -/
  lookBehindGroups : Option Nat := none
  /-- The groups that conditions ask for by number, and where. -/
  conditions : List (Nat × Nat) := []
  /-- Whether some look-behind has no fixed width. -/
  looseLookBehind : Bool := false

/-- A step of the reader. -/
abbrev Parser := StateT Reader (Except Problem)

/-- The index of the next token. -/
def tell : Parser Nat := do
  let s ← get
  return match s.tokens with
    | [] => s.size
    | t :: _ => t.position

/-- Stops at a place so many characters before the next token. -/
def fail {α : Type} (cause : Cause) (back : Nat) : Parser α := do
  let i ← tell
  throw ⟨cause, some (i - back)⟩

/-- The text of the next token. -/
def next? : Parser (Option (List Char)) := return (← get).tokens.head?.map (·.text)

/-- Refuses a backslash at the end of the pattern as soon as it comes next. -/
def checkNext (tokens : List Token) : Parser Unit :=
  match tokens with
  | [⟨['\x5c'], i⟩] => throw ⟨.danglingEscape, some i⟩
  | _ => pure ()

/-- Takes the next token. -/
def take? : Parser (Option (List Char)) := do
  match (← get).tokens with
  | [] => return none
  | t :: rest =>
    modify fun s => { s with tokens := rest }
    checkNext rest
    return some t.text

/-- Takes the next token if it is the given character. -/
def accept (c : Char) : Parser Bool := do
  if (← next?) = some [c] then
    let _ ← take?
    return true
  else return false

/-- Takes up to so many characters that satisfy `p`. -/
def takeSome (p : Char → Bool) : Nat → Parser (List Char)
  | 0 => return []
  | n + 1 => do
    match ← next? with
    | some [c] =>
      if p c then
        let _ ← take?
        return c :: (← takeSome p n)
      else return []
    | _ => return []

/-- Takes what stands before a closing character, which is taken as well. -/
def takeUntil (closing : Char) (what : String) : Nat → List Char → Parser (List Char)
  | 0, found => return found
  | n + 1, found => do
    match ← take? with
    | none =>
      if found.isEmpty then fail (.missing what) 0
      else fail (.unterminatedName (String.singleton closing)) found.length
    | some t =>
      if t = [closing] then
        if found.isEmpty then fail (.missing what) 1 else return found
      else takeUntil closing what n (found ++ t)

/-! ### Escapes -/

/-- What an escape stands for. -/
inductive Escape where
  | char (c : Char)
  | ofClass (c : CharClass) (complement : Bool)
  | spot (s : Spot)
  | group (n : Nat)
  deriving DecidableEq, Repr

/-- Whether a character is an octal digit. -/
def isOctal (c : Char) : Bool := '0' ≤ c && c ≤ '7'

/-- Whether a character is a hexadecimal digit. -/
def isHex (c : Char) : Bool := c.isDigit || ('a' ≤ c && c ≤ 'f') || ('A' ≤ c && c ≤ 'F')

/-- The value of a digit. -/
def digitValue (c : Char) : Nat :=
  if c.isDigit then c.toNat - 48
  else if 'a' ≤ c then c.toNat - 87
  else c.toNat - 55

/-- The number that digits write in a base. -/
def numeral (base : Nat) (ds : List Char) : Nat :=
  ds.foldl (fun n d => n * base + digitValue d) 0

/-- The escapes that name a class of characters. -/
def classEscape? : Char → Option (CharClass × Bool)
  | 'd' => some (.digit, false)
  | 'D' => some (.digit, true)
  | 's' => some (.space, false)
  | 'S' => some (.space, true)
  | 'w' => some (.word, false)
  | 'W' => some (.word, true)
  | _ => none

/-- The escapes that name a place. -/
def spotEscape? : Char → Option Spot
  | 'A' => some .textStart
  | 'Z' => some .textEnd
  | 'b' => some .wordEdge
  | 'B' => some .insideWord
  | _ => none

/-- The escapes that name a control character. -/
def controlEscape? : Char → Option Char
  | 'a' => some '\x07'
  | 'b' => some '\x08'
  | 'f' => some '\x0C'
  | 'n' => some '\n'
  | 'r' => some '\r'
  | 't' => some '\t'
  | 'v' => some '\x0B'
  | _ => none

/-- The rest of an escape that is written with exactly so many hexadecimal digits. -/
def hexEscape (c : Char) (width : Nat) : Parser Escape := do
  let ds ← takeSome isHex width
  let text := '\x5c' :: c :: ds
  if ds.length ≠ width then fail (.incompleteEscape (String.ofList text)) text.length
  else if 0x10FFFF < numeral 16 ds then fail (.badEscape (String.ofList text)) text.length
  else return .char (Char.ofNat (numeral 16 ds))

/-- The rest of an escape that gives a character by its name. -/
def namedEscape : Parser Escape := do
  if ← accept '\x7b' then
    let name ← takeUntil '\x7d' "character name" (← get).size []
    match Text.charNamed? name with
    | some c => return .char c
    | none => fail (.unknownCharacterName (String.ofList name)) (name.length + 4)
  else fail (.missing "\x7b") 0

/-- An escape in octal digits, the first of which has been taken. -/
def octalEscape (c : Char) : Parser Escape := do
  let ds := c :: (← takeSome isOctal 2)
  let text := '\x5c' :: ds
  if 0o377 < numeral 8 ds then fail (.octalOutOfRange (String.ofList text)) text.length
  else return .char (Char.ofNat (numeral 8 ds))

/-- Refuses a group that is open, or that was opened inside the look-behind being read. -/
def checkLookBehind (group : Nat) : Parser Unit := do
  let s ← get
  match s.lookBehindGroups with
  | none => return ()
  | some opened =>
    if ((s.widths[group - 1]?).join).isNone then fail .openReference 0
    else if opened < group then fail .referenceInsideLookBehind 0
    else return ()

/-- A reference to a group by number, or an octal escape; the first digit has been taken. -/
def digitEscape (c : Char) : Parser Escape := do
  let second ← takeSome Char.isDigit 1
  match second with
  | [d] =>
    if isOctal c && isOctal d then
      match ← takeSome isOctal 1 with
      | [e] =>
        let ds := [c, d, e]
        if 0o377 < numeral 8 ds then fail (.octalOutOfRange (String.ofList ('\x5c' :: ds))) 4
        else return .char (Char.ofNat (numeral 8 ds))
      | _ => reference [c, d]
    else reference [c, d]
  | _ => reference [c]
where
  /-- A reference to the group that digits number. -/
  reference (ds : List Char) : Parser Escape := do
    let group := numeral 10 ds
    let s ← get
    match s.widths[group - 1]? with
    | none => fail (.invalidReference group) ds.length
    | some none => fail .openReference (ds.length + 1)
    | some (some _) =>
      checkLookBehind group
      return .group group

/-- The rest of an escape outside sets of characters, from the character behind the backslash. -/
def readEscape (c : Char) : Parser Escape := do
  match spotEscape? c, classEscape? c, controlEscape? c with
  | some s, _, _ => return .spot s
  | _, some (k, complement), _ => return .ofClass k complement
  | _, _, some d => return .char d
  | none, none, none =>
    if c = 'x' then hexEscape c 2
    else if c = 'u' then hexEscape c 4
    else if c = 'U' then hexEscape c 8
    else if c = 'N' then namedEscape
    else if c = '0' then octalEscape c
    else if c.isDigit then digitEscape c
    else if c.isAlpha then fail (.badEscape (String.ofList ['\x5c', c])) 2
    else return .char c

/-- The rest of an escape inside a set of characters. -/
def readSetEscape (c : Char) : Parser Escape := do
  match controlEscape? c, classEscape? c with
  | some d, _ => return .char d
  | _, some (k, complement) => return .ofClass k complement
  | none, none =>
    if c = 'x' then hexEscape c 2
    else if c = 'u' then hexEscape c 4
    else if c = 'U' then hexEscape c 8
    else if c = 'N' then namedEscape
    else if isOctal c then octalEscape c
    else if c.isDigit || c.isAlpha then fail (.badEscape (String.ofList ['\x5c', c])) 2
    else return .char c

/-! ### Sets of characters -/

/-- The cases of a letter of ASCII, or the character alone. -/
def caseVariants (c : Char) : List Char :=
  if c.isUpper then [c, c.toLower] else if c.isLower then [c, c.toUpper] else [c]

/-- A pattern for one character. -/
def literal (flags : Flags) (c : Char) : Pattern :=
  if flags.ignoreCase && c.isAlpha then
    .set false ((caseVariants c).map fun d => .range d d)
  else .char c

/-- The member of a set that an escape or a character makes. -/
def memberOf : Escape → SetMember
  | .char c => .range c c
  | .ofClass k complement => .ofClass k complement
  | .spot _ | .group _ => .range '\x00' '\x00'

/-- One token of a set: what it stands for. -/
def setToken (t : List Char) : Parser Escape :=
  match t with
  | ['\x5c', c] => readSetEscape c
  | c :: _ => return .char c
  | [] => return .char '\x00'

/-- The members of a set up to its closing bracket; `start` is the index of the opening one. -/
def setMembers (start : Nat) : Nat → Bool → Parser (List SetMember)
  | 0, _ => return []
  | fuel + 1, first => do
    match ← take? with
    | none => throw ⟨.unterminatedSet, some start⟩
    | some this =>
      if this = [']'] && !first then return []
      else
        let low ← setToken this
        if ← accept '-' then
          match ← take? with
          | none => throw ⟨.unterminatedSet, some start⟩
          | some that =>
            if that = [']'] then return [memberOf low, .range '-' '-']
            else
              let high ← setToken that
              let bad : Parser (List SetMember) :=
                fail (.badRange (String.ofList this) (String.ofList that))
                  (this.length + 1 + that.length)
              match low, high with
              | .char a, .char b =>
                if b < a then bad else return .range a b :: (← setMembers start fuel false)
              | _, _ => bad
        else return memberOf low :: (← setMembers start fuel false)

/-- Adds the other case of every range of letters to the members of a set. -/
def foldCase (flags : Flags) (ms : List SetMember) : List SetMember :=
  if flags.ignoreCase then
    ms.flatMap fun
      | .range a b =>
        if a.isAlpha && b.isAlpha && a.isUpper == b.isUpper then
          [.range a b, .range a.toLower b.toLower, .range a.toUpper b.toUpper]
        else [.range a b]
      | m => [m]
  else ms

/-! ### Flags -/

/-- The letters that name flags. -/
def isFlag (c : Char) : Bool := "iLmsxatu".toList.contains c

/-- Sets one flag. -/
def Flags.set (f : Flags) (value : Bool) : Char → Flags
  | 'i' => { f with ignoreCase := value }
  | 'm' => { f with multiline := value }
  | 's' => { f with dotAll := value }
  | 'x' => { f with verbose := value }
  | _ => f

/-- Reads flags that are turned on, up to the character behind them. -/
def flagsOn : Nat → Char → List Char → Parser (List Char × Char)
  | 0, c, on => return (on, c)
  | fuel + 1, c, on => do
    if c = 'L' then fail (.badFlags "cannot use 'L' flag with a str pattern") 0
    else if (c = 'a' && on.contains 'u') || (c = 'u' && on.contains 'a') then
      fail (.badFlags "flags 'a', 'u' and 'L' are incompatible") 0
    else
      match ← take? with
      | some [d] =>
        if d = ')' || d = '-' || d = ':' then return (c :: on, d)
        else if isFlag d then flagsOn fuel d (c :: on)
        else fail (if Text.isLetter d then .unknownFlag else .missing "-, : or )") 1
      | some t => fail (.missing "-, : or )") t.length
      | none => fail (.missing "-, : or )") 0

/-- Reads flags that are turned off, up to the colon behind them. -/
def flagsOff (what : String) : Nat → List Char → Parser (List Char)
  | 0, off => return off
  | fuel + 1, off => do
    match ← take? with
    | some [c] =>
      if c = ':' && !off.isEmpty then return off
      else if isFlag c then
        if c = 'a' || c = 'u' || c = 'L' then
          fail (.badFlags "cannot turn off flags 'a', 'u' and 'L'") 0
        else flagsOff ":" fuel (c :: off)
      else fail (if Text.isLetter c then .unknownFlag else .missing what) 1
    | some t => fail (.missing what) t.length
    | none => fail (.missing what) 0

/-- Reads flags behind `(?`; gives the new settings, or none if they are meant for the whole
pattern. -/
def readFlags (flags : Flags) (c : Char) : Parser (Option Flags) := do
  let fuel := (← get).size + 1
  let (on, stop) ← if c = '-' then pure ([], '-') else flagsOn fuel c []
  if stop = ')' then return none
  else if on.contains 't' then fail (.badFlags "cannot turn on global flag") 1
  else
    let off ← if stop = '-' then flagsOff "flag" fuel [] else pure []
    if off.contains 't' then fail (.badFlags "cannot turn off global flag") 1
    else if on.any off.contains then fail (.badFlags "flag turned on and off") 1
    else return some (off.foldl (·.set false ·) (on.foldl (·.set true ·) flags))

/-! ### Sequences and groups -/

/-- An item of a sequence, with what a repetition behind it has to know. -/
structure Item where
  pattern : Pattern
  isSpot : Bool := false
  isRepeat : Bool := false

/-- The pattern of items in a row, last item first. -/
def Item.joined (items : List Item) : Pattern :=
  items.foldl (fun acc i => match acc with
    | .empty => i.pattern
    | p => .seq i.pattern p) .empty

/-- The widths of the groups that are closed. -/
def groupWidths : Parser (Nat → Width) := do
  let ws := (← get).widths
  return fun g => ((ws[g - 1]?).join).getD (0, none)

/-- The number of turns that digits write. -/
def boundOf (ds : List Char) : Parser Nat :=
  if Text.digitLimit < ds.length then throw ⟨.overlongNumber ds.length, none⟩
  else if repeatLimit ≤ numeral 10 ds then throw ⟨.hugeRepeat, none⟩
  else return numeral 10 ds

/-- The bounds that stand between braces behind an item, if they are well formed; the opening brace
has been taken. -/
def readBounds : Parser (Option (Nat × Option Nat)) := do
  let saved ← get
  let start ← tell
  let lo ← takeSome Char.isDigit saved.size
  let comma ← accept ','
  let hi ← if comma then takeSome Char.isDigit saved.size else pure lo
  if !(← accept '\x7d') then
    modify fun _ => saved
    return none
  else
    let least ← boundOf lo
    let most ← if hi.isEmpty then pure none else some <$> boundOf hi
    if most.any (· < least) then do
      let i ← tell
      fail .reversedRepeat (i - start)
    else return some (least, most)

/-- The mark behind a repetition that says how it chooses. -/
def readAppetite : Parser Appetite := do
  match ← next? with
  | some ['?'] =>
    let _ ← take?
    return .lazy
  | some ['+'] =>
    let _ ← take?
    return .possessive
  | _ => return .greedy

/-- Puts a repetition around the last item of a sequence. -/
def addRepeat (start : Nat) (items : List Item) (least : Nat) (most : Option Nat) :
    Parser (List Item) := do
  match items with
  | [] => throw ⟨.nothingToRepeat, some start⟩
  | item :: rest =>
    if item.isSpot then throw ⟨.nothingToRepeat, some start⟩
    else if item.isRepeat then throw ⟨.multipleRepeat, some start⟩
    else
      let appetite ← readAppetite
      return { pattern := .many least most appetite item.pattern, isRepeat := true } :: rest

/-- Takes a group name up to a closing character. -/
def readGroupName (closing : Char) : Parser String := do
  let name ← takeUntil closing "group name" ((← get).size + 1) []
  if Text.isIdentifier name then return String.ofList name
  else fail (.badGroupName (String.ofList name)) (name.length + 1)

/-- Opens the next group. -/
def openGroup (name : Option String) : Parser Nat := do
  let s ← get
  let group := s.widths.length + 1
  modify fun s => { s with widths := s.widths ++ [none] }
  match name with
  | none => return group
  | some n =>
    match s.names.lookup n with
    | some first => fail (.repeatedGroupName n group first) (n.length + 1)
    | none =>
      modify fun s => { s with names := s.names ++ [(n, group)] }
      return group

/-- Closes a group around a pattern. -/
def closeGroup (group : Nat) (p : Pattern) : Parser Unit := do
  let ws ← groupWidths
  modify fun s => { s with widths := s.widths.set (group - 1) (some (p.width ws)) }

/-- The group that a reference by name means. -/
def groupNamed (name : String) : Parser Nat := do
  match (← get).names.lookup name with
  | some g => return g
  | none => fail (.unknownGroupName name) (name.length + 1)

/-- Takes the parenthesis that closes a group opened at `start`. -/
def expectClose (start : Nat) : Parser Unit := do
  if ← accept ')' then return () else throw ⟨.unterminatedGroup, some start⟩

/-- Skips a comment up to its closing parenthesis. -/
def skipComment (start : Nat) : Nat → Parser Unit
  | 0 => return ()
  | fuel + 1 => do
    match ← take? with
    | none => throw ⟨.unterminatedComment, some start⟩
    | some t => if t = [')'] then return () else skipComment start fuel

/-- Skips to the end of the line. -/
def skipLine : Nat → Parser Unit
  | 0 => return ()
  | fuel + 1 => do
    match ← take? with
    | none => return ()
    | some t => if t = ['\n'] then return () else skipLine fuel

/-- No group has a number as great as this. -/
def groupLimit : Nat := 1073741823

/-- The group that a condition asks for, by name or by number. -/
def readCondition : Parser Nat := do
  let name ← takeUntil ')' "group name" ((← get).size + 1) []
  let group ←
    if Text.isIdentifier name then groupNamed (String.ofList name)
    else
      match Text.integer? name with
      | some (.ofNat 0) => fail .badGroupNumber (name.length + 1)
      | some (.ofNat g) =>
        if groupLimit ≤ g then fail (.invalidReference g) (name.length + 1)
        else
          let i ← tell
          modify fun s => { s with conditions := s.conditions ++ [(g, i - name.length - 1)] }
          pure g
      | _ => fail (.badGroupName (String.ofList name)) (name.length + 1)
  checkLookBehind group
  return group

mutual

/-- Reads alternatives between bars. -/
def alternatives : Nat → Flags → Parser Pattern
  | 0, _ => return .empty
  | fuel + 1, flags => do
    let p ← sequence fuel flags []
    if ← accept '|' then return .alt p (← alternatives fuel flags) else return p

/-- Reads the items of a sequence, given those read already, last one first. -/
def sequence : Nat → Flags → List Item → Parser Pattern
  | 0, _, items => return Item.joined items
  | fuel + 1, flags, items => do
    let add (i : Item) := sequence fuel flags (i :: items)
    let again (least : Nat) (most : Option Nat) (start : Nat) := do
      sequence fuel flags (← addRepeat start items least most)
    let start ← tell
    match ← next? with
    | none => return Item.joined items
    | some ['|'] | some [')'] => return Item.joined items
    | some this =>
      let _ ← take?
      match this with
      | ['\x5c', c] =>
        match ← readEscape c with
        | .char d => add { pattern := literal flags d }
        | .ofClass k complement => add { pattern := .set false [.ofClass k complement] }
        | .spot s => add { pattern := .spot s, isSpot := true }
        | .group g => add { pattern := .again g }
      | ['['] =>
        let complement ← accept '^'
        let members ← setMembers start fuel true
        add { pattern := .set complement (foldCase flags members) }
      | ['?'] => again 0 (some 1) start
      | ['*'] => again 0 none start
      | ['+'] => again 1 none start
      | ['\x7b'] =>
        if (← next?) = some ['\x7d'] then add { pattern := .char '\x7b' }
        else
          match ← readBounds with
          | none => add { pattern := .char '\x7b' }
          | some (least, most) => again least most start
      | ['.'] => add { pattern := if flags.dotAll then .anyChar else .anyButNewline }
      | ['^'] =>
        let place : Spot := if flags.multiline then .lineStart else .textStart
        add { pattern := .spot place, isSpot := true }
      | ['$'] =>
        let place : Spot := if flags.multiline then .lineEnd else .lastLineEnd
        add { pattern := .spot place, isSpot := true }
      | ['('] =>
        match ← group fuel flags start with
        | none => sequence fuel flags items
        | some p => add { pattern := p }
      | c :: _ =>
        if flags.verbose && (c = ' ' || (9 ≤ c.toNat && c.toNat ≤ 13)) then
          sequence fuel flags items
        else if flags.verbose && c = '#' then
          skipLine fuel
          sequence fuel flags items
        else add { pattern := literal flags c }
      | [] => return Item.joined items

/-- Reads a group whose parenthesis has been taken; a comment makes no item. -/
def group : Nat → Flags → Nat → Parser (Option Pattern)
  | 0, _, _ => return none
  | fuel + 1, flags, start => do
    let body (flags : Flags) : Parser Pattern := do
      let p ← alternatives fuel flags
      expectClose start
      return p
    let captured (name : Option String) : Parser (Option Pattern) := do
      let g ← openGroup name
      let p ← body flags
      closeGroup g p
      return some (.capture g p)
    let look (wanted : Bool) : Parser (Option Pattern) := do
      let p ← body flags
      if p = .empty && !wanted then return some .never else return some (.ahead wanted p)
    let lookBack (wanted : Bool) : Parser (Option Pattern) := do
      let outer := (← get).lookBehindGroups
      modify fun s => { s with lookBehindGroups := some (outer.getD s.widths.length) }
      let p ← alternatives fuel flags
      modify fun s => { s with lookBehindGroups := outer }
      expectClose start
      let w := p.width (← groupWidths)
      if !w.isFixed then modify fun s => { s with looseLookBehind := true }
      if p = .empty && !wanted then return some .never else return some (.behind wanted w.1 p)
    if !(← accept '?') then captured none
    else
      match ← take? with
      | none => fail .unexpectedEnd 0
      | some ['P'] =>
        match ← take? with
        | some ['<'] => captured (some (← readGroupName '>'))
        | some ['='] =>
          let name ← readGroupName ')'
          let g ← groupNamed name
          if (((← get).widths[g - 1]?).join).isNone then fail .openReference (name.length + 1)
          else
            checkLookBehind g
            return some (.again g)
        | none => fail .unexpectedEnd 0
        | some t => fail (.unknownExtension (String.ofList ('P' :: t))) (t.length + 2)
      | some [':'] => return some (← body flags)
      | some ['>'] => return some (.atomic (← body flags))
      | some ['#'] =>
        skipComment start fuel
        return none
      | some ['='] => look true
      | some ['!'] => look false
      | some ['<'] =>
        match ← take? with
        | none => fail .unexpectedEnd 0
        | some ['='] => lookBack true
        | some ['!'] => lookBack false
        | some t => fail (.unknownExtension (String.ofList ('<' :: t))) (t.length + 2)
      | some ['('] =>
        let g ← readCondition
        let yes ← sequence fuel flags []
        let no ←
          if ← accept '|' then
            let no ← sequence fuel flags []
            if (← next?) = some ['|'] then fail .tooManyBranches 0 else pure no
          else pure .empty
        expectClose start
        return some (.ifCaptured g yes no)
      | some [c] =>
        if isFlag c || c = '-' then
          match ← readFlags flags c with
          | none => do
            let i ← tell
            fail .lateFlags (i - start)
          | some inner => return some (← body inner)
        else fail (.unknownExtension (String.ofList [c])) 2
      | some t => fail (.unknownExtension (String.ofList t)) (t.length + 1)

end

/-- Reads a whole pattern. -/
def wholePattern : Parser Pattern := do
  let s ← get
  checkNext s.tokens
  let p ← alternatives (3 * s.size + 3) {}
  match ← next? with
  | some _ => fail .unbalancedParenthesis 0
  | none =>
    let s ← get
    match s.conditions.find? (fun c => s.widths.length < c.1) with
    | some (g, i) => throw ⟨.invalidReference g, some i⟩
    | none => if s.looseLookBehind then throw ⟨.looseLookBehind, none⟩ else return p

/-- The pattern that a text writes, or what is wrong with the text. -/
def parse (source : String) : Except Problem Pattern :=
  let cs := source.toList
  (wholePattern.run { tokens := tokenize 0 cs, size := cs.length }).map (·.1)

end OptIn.Pattern
