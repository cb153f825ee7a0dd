import OptIn.Literal.Token

/-!
# Expressions

`expression?` reads the tokens of an expression: names, numbers and texts, signs between them and
before them, calls, tuples, sets and tables. Most expressions are no literals, but they have to be
read to tell what is wrong with the others.

A text that is no expression is read a second time, now looking for the usual slips, such as a
missing comma. A slip is reported where it is found; without one the text is only unreadable. A flaw
in the tokens that were not reached comes before both.
-/

namespace OptIn.Literal

/-- An **expression**, as far as it matters whether it is a literal. -/
inductive Expression where
  | name (text : String)
  | constant (text : String)
  | number (imaginary : Bool)
  | text
  | ellipsis
  | tuple (items : List Expression)
  | set (items : List Expression)
  | table (keys values : List Expression)
  /-- What stands for the key where a table takes in another one. -/
  | spread
  | call (head : Expression) (bare : Bool)
  | signed (sign : String) (operand : Expression)
  | binary (sign : String) (left right : Expression)
  /-- Any other expression, with the word for it. -/
  | other (what : String)

/-- The word for an expression. -/
def Expression.word : Expression → String
  | name _ => "name"
  | constant c => c
  | number _ | .text => "literal"
  | ellipsis => "ellipsis"
  | tuple _ => "tuple"
  | set _ => "set display"
  | table _ _ => "dict literal"
  | call _ _ => "function call"
  | signed _ _ | binary _ _ _ | spread => "expression"
  | other what => what

/-- A reader gives what it has read and the tokens behind it, or nothing, or it finds a flaw. -/
abbrev Reading (α : Type) : Type := OptionT (Except Flaw) α

/-- A reader that has found a flaw. -/
def slip {α : Type} (flaw : Flaw) : Reading α := OptionT.mk (.error flaw)

/-- The next token; the place where the tokens break off is a flaw as soon as it is reached. -/
def peek : List Token → Reading Token
  | [] => pure .finish
  | .broken flaw :: _ => slip flaw
  | t :: _ => pure t

/-- Whether the next token is a sign or a word. -/
def isNext (s : String) (ts : List Token) : Reading Bool := do
  match ← peek ts with
  | .sign t | .name t => return t = s
  | _ => return false

/-- The tokens behind a sign or a word that must stand there. -/
def expect (s : String) (ts : List Token) : Reading (List Token) := do
  if ← isNext s ts then return ts.tail else failure

/-- What a reader gives, if it reads anything. -/
def attempt {α : Type} (r : Reading α) : Reading (Option α) :=
  OptionT.mk (r.run.map fun x => some x)

/-- The words that are no names. -/
def reservedWords : List String := [
  "False", "None", "True", "and", "as", "assert", "async", "await", "break", "class", "continue",
  "def", "del", "elif", "else", "except", "finally", "for", "from", "global", "if", "import", "in",
  "is", "lambda", "nonlocal", "not", "or", "pass", "raise", "return", "try", "while", "with",
  "yield"]

/-- The name that stands next. -/
def name? (ts : List Token) : Reading String := do
  match ← peek ts with
  | .name t => if reservedWords.contains t then failure else return t
  | _ => failure

/-- Whether a name stands next, and a sign behind it. -/
def isNamed (s : String) (ts : List Token) : Reading Bool := do
  match ← attempt (name? ts) with
  | some _ => isNext s ts.tail
  | none => return false

/-- The signs between operands, from those that bind loosest on; comparisons have a level of their
own, and so has negation before them. -/
def binarySigns : Nat → List String
  | 0 => ["or"]
  | 1 => ["and"]
  | 4 => ["|"]
  | 5 => ["^"]
  | 6 => ["&"]
  | 7 => ["<<", ">>"]
  | 8 => ["+", "-"]
  | 9 => ["*", "/", "//", "%", "@"]
  | _ => []

/-- The level of negation. -/
def negationLevel : Nat := 2

/-- The level of comparisons. -/
def comparisonLevel : Nat := 3

/-- The level of operands that stand on both sides of a comparison. -/
def operandLevel : Nat := 4

/-- The level of signs before operands. -/
def signLevel : Nat := 10

/-- The tokens behind a comparing sign. -/
def behindComparison (ts : List Token) : Reading (List Token) := do
  match ← peek ts with
  | .sign s =>
    if ["==", "!=", "<=", "<", ">=", ">"].contains s then return ts.tail else failure
  | .name "in" => return ts.tail
  | .name "not" => expect "in" ts.tail
  | .name "is" => if ← isNext "not" ts.tail then return ts.tail.tail else return ts.tail
  | _ => failure

/-- What a sign between operands makes of them. -/
def joined (level : Nat) (s : String) (left right : Expression) : Expression :=
  if level ≤ 1 then .other "expression" else .binary s left right

/-- The text that quoted texts behind each other make, with the kind of the first one. -/
def joinedTexts (bytes formatted : Bool) : List Token → Reading Expression
  | .quoted b f flaw :: ts => do
    if let some flaw := flaw then slip flaw
    if b ≠ bytes then slip .mixedTexts
    joinedTexts bytes (formatted || f) ts
  | _ => return if formatted then .other "f-string expression" else .text

/-- Whether a token is a quoted text. -/
def Token.isQuoted : Token → Bool
  | .quoted .. => true
  | _ => false

/-- Quoted texts behind each other. -/
def quotedTexts (bytes : Bool) (ts : List Token) : Reading (Expression × List Token) := do
  let rest := ts.dropWhile Token.isQuoted
  let _ ← peek rest
  return (← joinedTexts bytes false ts, rest)

/-- Whether an expression is the name of a command that takes its operands without brackets. -/
def isOldCommand : Expression → Bool
  | .name t => t = "print" || t = "exec"
  | _ => false

/-- How an expression is read: whether slips are looked for, and whether it stands in brackets. -/
structure Manner where
  slips : Bool
  nested : Bool
  deriving DecidableEq, Repr

/-- Whether the tokens may begin with something else than an expression: a name before a text may be
a misspelt prefix of it, and some names begin clauses. -/
def looksLikePrefix (ts : List Token) : Reading Bool := do
  match ← peek ts with
  | .name t =>
    if ["_", "case", "match"].contains t then return true
    if reservedWords.contains t then return false
    match ← peek ts.tail with
    | .quoted .. => return true
    | _ => return false
  | _ => return false

mutual

/-- An expression that signs of a level, or of one that binds tighter, hold together. -/
def level (m : Manner) : Nat → Nat → List Token → Reading (Expression × List Token)
  | 0, _, _ => failure
  | steps + 1, n, ts => do
    if n = negationLevel then
      if ← isNext "not" ts then
        let (_, rest) ← level m steps negationLevel ts.tail
        return (.other "expression", rest)
      level m steps comparisonLevel ts
    else if n = comparisonLevel then
      let (left, rest) ← level m steps operandLevel ts
      comparisons m steps left rest
    else if n < signLevel then
      let (left, rest) ← level m steps (n + 1) ts
      joins m steps n left rest
    else if n = signLevel then
      match ← peek ts with
      | .sign s =>
        if ["+", "-", "~"].contains s then
          let (operand, rest) ← level m steps signLevel ts.tail
          return (.signed s operand, rest)
        level m steps (n + 1) ts
      | _ => level m steps (n + 1) ts
    else
      let (head, rest) ← atom m steps ts
      let (base, rest) ← trailers m steps head rest
      if ← isNext "**" rest then
        match ← attempt (level m steps signLevel rest.tail) with
        | some (power, rest) => return (.binary "**" base power, rest)
        | none => return (base, rest)
      return (base, rest)

/-- What follows an operand on its level. -/
def joins (m : Manner) :
    Nat → Nat → Expression → List Token → Reading (Expression × List Token)
  | 0, _, _, _ => failure
  | steps + 1, n, left, ts => do
    match ← peek ts with
    | .sign s | .name s =>
      if (binarySigns n).contains s then
        match ← attempt (level m steps (n + 1) ts.tail) with
        | some (right, rest) => joins m steps n (joined n s left right) rest
        | none => return (left, ts)
      else return (left, ts)
    | _ => return (left, ts)

/-- The comparisons behind an operand. -/
def comparisons (m : Manner) :
    Nat → Expression → List Token → Reading (Expression × List Token)
  | 0, _, _ => failure
  | steps + 1, left, ts => do
    match ← attempt (behindComparison ts) with
    | none => return (left, ts)
    | some rest =>
      match ← attempt (level m steps operandLevel rest) with
      | some (_, rest) => comparisons m steps (.other "comparison") rest
      | none => return (left, ts)

/-- The attributes and calls behind an operand. A curly bracket ends it, but what is inside may
still hold a slip. -/
def trailers (m : Manner) :
    Nat → Expression → List Token → Reading (Expression × List Token)
  | 0, _, _ => failure
  | steps + 1, head, ts => do
    if ← isNext "." ts then
      match ← attempt (name? ts.tail) with
      | some _ => trailers m steps (.other "attribute") ts.tail.tail
      | none => return (head, ts)
    else if ← isNext "(" ts then
      let inner := { m with nested := true }
      if ← isNext ")" ts.tail then trailers m steps (.call head true) ts.tail.tail
      else
        match ← attempt (arguments inner steps none ts.tail) with
        | some rest => trailers m steps (.call head false) rest
        | none => return (head, ts)
    else
      if m.slips then
        if ← isNext "\x7b" ts then
          let inner := { m with nested := true }
          if ← isNext "*" ts.tail then
            if (← attempt (conditional inner steps ts.tail.tail)).isNone then slip .emptyStar
          let _ ← attempt (items inner steps ts.tail)
      return (head, ts)

/-- The arguments of a call up to the closing bracket; a late one is one behind an argument with a
name. -/
def arguments (m : Manner) : Nat → Option Flaw → List Token → Reading (List Token)
  | 0, _, _ => failure
  | steps + 1, late, ts => do
    let next (late : Option Flaw) (rest : List Token) : Reading (List Token) := do
      if ← isNext "," rest then
        if ← isNext ")" rest.tail then return rest.tail.tail
        arguments m steps late rest.tail
      else expect ")" rest
    if ← isNext "**" ts then
      let (_, rest) ← conditional m steps ts.tail
      next (some .lateUnpackedArgument) rest
    else if ← isNext "*" ts then
      match ← attempt (conditional m steps ts.tail) with
      | some (_, rest) => next late rest
      | none => slip .emptyStar
    else if ← isNamed "=" ts then
      let (_, rest) ← conditional m steps ts.tail.tail
      next (some (late.getD .lateArgument)) rest
    else if ← isNamed ":=" ts then
      let (_, rest) ← conditional m steps ts.tail.tail
      next late rest
    else
      let (e, rest) ← conditional m steps ts
      if ← isNext "=" rest then
        if m.slips then
          match e with
          | .constant c => slip (.constantAssignment c)
          | _ => slip .argumentAssignment
        failure
      match late with
      | some flaw => if m.slips then slip flaw else failure
      | none => next none rest

/-- An expression with or without a condition. -/
def conditional (m : Manner) : Nat → List Token → Reading (Expression × List Token)
  | 0, _ => failure
  | steps + 1, ts => do
    let (e, rest) ← level m steps 0 ts
    withCondition m steps ts e rest

/-- An expression with or without a condition; what may stand before the condition has been read. -/
def withCondition (m : Manner) :
    Nat → List Token → Expression → List Token → Reading (Expression × List Token)
  | 0, _, _, _ => failure
  | steps + 1, ts, e, rest => do
    let plain := { m with slips := false }
    let condition : Reading (Option (List Token)) := do
      if ← isNext "if" rest then return (← attempt (level m steps 0 rest.tail)).map (·.2)
      return none
    let hasFollower : Reading Bool := do
      if ← looksLikePrefix ts then return false
      return (← attempt (conditional plain steps rest)).isSome
    if m.slips then
      if ← hasFollower then
        if m.nested && !isOldCommand e then slip .missingComma
    let behind? ← condition
    if m.slips then
      if let some behind := behind? then
        if !(← isNext "else" behind) && !(← isNext ":" behind) then slip .missingElse
      if let some command ← attempt (name? ts) then
        if !(← isNext "(" ts.tail) then
          let read := ts.tail.length = rest.length && !(← looksLikePrefix ts)
          if let some _ ← attempt (operands m read steps ts.tail) then
            if isOldCommand (.name command) then slip (.missingParentheses command)
    match behind? with
    | none => return (e, rest)
    | some behind =>
      if ← isNext "else" behind then
        match ← attempt (conditional m steps behind.tail) with
        | some (_, behind) => return (.other "conditional expression", behind)
        | none => return (e, rest)
      return (e, rest)

/-- The operands behind a command that takes them without brackets; the first one may have been read
already without looking for slips. -/
def operands (m : Manner) : Bool → Nat → List Token → Reading (List Token)
  | _, 0, _ => failure
  | read, steps + 1, ts => do
    let rest ←
      if ← isNext "*" ts then do
        let (_, rest) ← level m steps operandLevel ts.tail
        pure rest
      else do
        let (e, rest) ← level (if read then { m with slips := false } else m) steps 0 ts
        let (_, rest) ← withCondition m steps ts e rest
        pure rest
    if ← isNext "," rest then
      match ← attempt (operands m false steps rest.tail) with
      | some behind => return behind
      | none => return rest.tail
    return rest

/-- An expression that may be given a name. -/
def named (m : Manner) : Nat → List Token → Reading (Expression × List Token)
  | 0, _ => failure
  | steps + 1, ts => do
    if ← isNamed ":=" ts then
      let (_, rest) ← conditional m steps ts.tail.tail
      return (.other "named expression", rest)
    let (e, rest) ← conditional m steps ts
    unnamed m steps ts e rest

/-- An expression that has been read and is not given a name. -/
def unnamed (m : Manner) :
    Nat → List Token → Expression → List Token → Reading (Expression × List Token)
  | 0, _, _, _ => failure
  | steps + 1, ts, e, rest => do
    if m.slips then
      if ← isNext ":=" rest then
        if let some _ ← attempt (conditional m steps rest.tail) then slip (.namedExpression e.word)
      if ← isNext "=" rest then
        let isAssigned : Reading Bool := do
          match ← attempt (level m steps operandLevel rest.tail) with
          | some (_, behind) => return !(← isNext "=" behind) && !(← isNext ":=" behind)
          | none => return false
        if ← isNamed "=" ts then
          if ← isAssigned then slip .assignment
        match ← attempt (atom m steps ts) with
        | some (.tuple _, _) | some (.constant _, _) => pure ()
        | _ =>
          if let some (target, behind) ← attempt (level m steps operandLevel ts) then
            if ← isNext "=" behind then
              if ← isAssigned then slip (.assignmentTo target.word)
    if ← isNext ":=" rest then failure
    return (e, rest)

/-- An item of a tuple or a set. -/
def item (m : Manner) : Nat → List Token → Reading (Expression × List Token)
  | 0, _ => failure
  | steps + 1, ts => do
    if ← isNext "*" ts then
      let (_, rest) ← level m steps operandLevel ts.tail
      return (.other "starred", rest)
    named m steps ts

/-- Items with commas between them, and perhaps one behind them. -/
def items (m : Manner) : Nat → List Token → Reading (List Expression × List Token)
  | 0, _ => failure
  | steps + 1, ts => do
    let (e, rest) ← item m steps ts
    if ← isNext "," rest then
      match ← attempt (items m steps rest.tail) with
      | some (es, behind) => return (e :: es, behind)
      | none => return ([e], rest.tail)
    return ([e], rest)

/-- What stands in round brackets: a tuple, or one expression. -/
def group (m : Manner) : Nat → List Token → Reading (Expression × List Token)
  | 0, _ => failure
  | steps + 1, ts => do
    if ← isNext ")" ts then return (.tuple [], ts.tail)
    if let some (first, rest) ← attempt (item m steps ts) then
      if ← isNext "," rest then
        let more ← attempt (items m steps rest.tail)
        let (others, behind) := more.getD ([], rest.tail)
        if ← isNext ")" behind then return (.tuple (first :: others), behind.tail)
      else if !(← isNext "*" ts) && (← isNext ")" rest) then return (first, rest.tail)
    if m.slips then
      if ← isNext "*" ts then
        match ← attempt (conditional m steps ts.tail) with
        | some (_, rest) => if ← isNext ")" rest then slip .starred
        | none => slip .emptyStar
      if ← isNext "**" ts then
        if let some (_, rest) ← attempt (conditional m steps ts.tail) then
          if ← isNext ")" rest then slip .doubleStarred
    failure

/-- Entries of a table behind others, each with its key and its value, up to the closing bracket. An
expression without a value is a flaw. -/
def entries (m : Manner) :
    Nat → List Token → Reading (List (Expression × Expression) × List Token)
  | 0, _ => failure
  | steps + 1, ts => do
    if ← isNext "\x7d" ts then return ([], ts.tail)
    let rest ← expect "," ts
    if ← isNext "\x7d" rest then return ([], rest.tail)
    if ← isNext "**" rest then
      let (e, rest) ← level m steps operandLevel rest.tail
      let (es, rest) ← entries m steps rest
      return ((.spread, e) :: es, rest)
    let (key, rest) ← conditional m steps rest
    unless ← isNext ":" rest do slip .missingColon
    match ← attempt (conditional m steps rest.tail) with
    | some (value, rest) =>
      let (es, rest) ← entries m steps rest
      return ((key, value) :: es, rest)
    | none =>
      badValue m steps rest.tail
      failure

/-- What is wrong behind the colon of an entry that has no value. -/
def badValue (m : Manner) : Nat → List Token → Reading Unit
  | 0, _ => failure
  | steps + 1, ts => do
    if ← isNext "*" ts then
      if let some _ ← attempt (level m steps operandLevel ts.tail) then slip .starredValue
    if ← isNext "\x7d" ts then slip .missingValue
    if ← isNext "," ts then slip .missingValue

/-- What stands in curly brackets: a table or a set. -/
def braces (m : Manner) : Nat → List Token → Reading (Expression × List Token)
  | 0, _ => failure
  | steps + 1, ts => do
    let table (first : Expression × Expression) (rest : List Token) := do
      let (es, rest) ← entries m steps rest
      let es := first :: es
      return (Expression.table (es.map (·.1)) (es.map (·.2)), rest)
    let set (first : Expression) (rest : List Token) : Reading (Expression × List Token) := do
      if ← isNext "," rest then
        match ← attempt (items m steps rest.tail) with
        | some (es, rest) => return (.set (first :: es), ← expect "\x7d" rest)
        | none => return (.set [first], ← expect "\x7d" rest.tail)
      return (.set [first], ← expect "\x7d" rest)
    if ← isNext "\x7d" ts then return (.table [] [], ts.tail)
    if ← isNext "**" ts then
      let (e, rest) ← level m steps operandLevel ts.tail
      table (.spread, e) rest
    else if ← isNext "*" ts then
      let read : Reading (Expression × List Token) := do
        let (e, rest) ← item m steps ts
        set e rest
      match ← attempt read with
      | some result => return result
      | none =>
        if m.slips then
          if (← attempt (conditional m steps ts.tail)).isNone then slip .emptyStar
        failure
    else if ← isNamed ":=" ts then
      let (e, rest) ← named m steps ts
      set e rest
    else
      let (e, rest) ← conditional m steps ts
      if ← isNext ":" rest then
        match ← attempt (conditional m steps rest.tail) with
        | some (value, behind) => table (e, value) behind
        | none =>
          badValue m steps rest.tail
          failure
      else
        let (e, rest) ← unnamed m steps ts e rest
        set e rest

/-- A name, a constant, a number, texts, or something in brackets. -/
def atom (m : Manner) : Nat → List Token → Reading (Expression × List Token)
  | 0, _ => failure
  | steps + 1, ts => do
    match ← peek ts with
    | .name t =>
      if ["True", "False", "None"].contains t then return (.constant t, ts.tail)
      if reservedWords.contains t then failure
      return (.name t, ts.tail)
    | .number imaginary flaw =>
      if let some flaw := flaw then slip flaw
      return (.number imaginary, ts.tail)
    | .quoted bytes _ _ => quotedTexts bytes ts
    | .sign "..." => return (.ellipsis, ts.tail)
    | .sign "(" => group { m with nested := true } steps ts.tail
    | .sign "\x7b" => braces { m with nested := true } steps ts.tail
    | _ => failure

end

/-- Expressions with commas between them, and perhaps one behind them. -/
def expressions (m : Manner) : Nat → List Token → Reading (List Expression × List Token)
  | 0, _ => failure
  | steps + 1, ts => do
    let (e, rest) ← conditional m steps ts
    if ← isNext "," rest then
      match ← attempt (expressions m steps rest.tail) with
      | some (es, behind) => return (e :: es, behind)
      | none => return ([e], rest.tail)
    return ([e], rest)

/-- The expression that all the tokens of a text write; with a comma it is a tuple. -/
def wholeText (m : Manner) (steps : Nat) (ts : List Token) : Reading Expression := do
  let (first, rest) ← conditional m steps ts
  let (e, rest) ←
    if ← isNext "," rest then do
      let more ← attempt (expressions m steps rest.tail)
      let (others, rest) := more.getD ([], rest.tail)
      pure (Expression.tuple (first :: others), rest)
    else pure (first, rest)
  match ← peek (rest.dropWhile (· = .lineEnd)) with
  | .indent => slip .indented
  | .finish => return e
  | _ => failure

/-- The steps that suffice for reading so many tokens. -/
def stepsFor (count : Nat) : Nat := 24 * (count + 2)

/-- The expression that a text writes. -/
def expression? (cs : List Char) : Except Flaw Expression :=
  let ts := tokens cs
  let steps := stepsFor ts.length
  let told (flaw : Flaw) : Except Flaw Expression := .error ((cuttingFlaw? ts).getD flaw)
  match (wholeText ⟨false, false⟩ steps ts).run with
  | .ok (some e) => .ok e
  | .error flaw => told flaw
  | .ok none =>
    match (wholeText ⟨true, false⟩ steps ts).run with
    | .error flaw => told flaw
    | .ok _ => told .unreadable

end OptIn.Literal
