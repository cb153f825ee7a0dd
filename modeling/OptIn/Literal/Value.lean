import OptIn.Literal.Expression

/-!
# Literals

An expression is a literal when it writes a value without computing anything: a number with or
without a sign, a complex number as a sum, a text, a constant, or a tuple, set or table of literals.
What is in a set or is a key of a table must not be able to change. `flaw?` tells why a text is no
literal.
-/

namespace OptIn.Literal

/-- Whether an expression is a number without a sign. -/
def Expression.isNumber : Expression → Bool
  | number _ => true
  | _ => false

/-- Whether an expression is a number with or without a sign. -/
def Expression.isSignedNumber : Expression → Bool
  | number _ => true
  | signed s e => (s = "+" || s = "-") && e.isNumber
  | _ => false

/-- Whether an expression is an imaginary number with or without a sign. -/
def Expression.isImaginary : Expression → Bool
  | number imaginary => imaginary
  | signed _ (number imaginary) => imaginary
  | _ => false

mutual

/-- The kind of value that makes a literal changeable, if there is one; an expression that is no
literal is a flaw. -/
def Expression.changeable? : Expression → Except Flaw (Option String)
  | .constant _ | .number _ | .text | .ellipsis => .ok none
  | .tuple es => changeableIn es
  | .set es => do
    unchangeable es
    return some "set"
  | .table keys values => do
    unchangeable keys
    let _ ← changeableIn values
    return some "dict"
  | .spread => .error .spread
  | .call (.name "set") true => .ok (some "set")
  | .signed s e => if (s = "+" || s = "-") && e.isNumber then .ok none else .error .computed
  | .binary s left right =>
    if (s = "+" || s = "-") && left.isSignedNumber && !left.isImaginary && right.isNumber &&
        right.isImaginary then .ok none
    else .error .computed
  | _ => .error .computed

/-- The first changeable kind of some literals. -/
def changeableIn : List Expression → Except Flaw (Option String)
  | [] => .ok none
  | e :: es => do
    let kind ← e.changeable?
    let kinds ← changeableIn es
    return kind.or kinds

/-- That literals cannot change. -/
def unchangeable : List Expression → Except Flaw Unit
  | [] => .ok ()
  | e :: es => do
    if let some kind ← e.changeable? then throw (.changeable kind)
    unchangeable es

end

/-- Why a text is no literal, if it is none. -/
def flaw? (cs : List Char) : Option Flaw :=
  match expression? cs >>= Expression.changeable? with
  | .ok _ => none
  | .error flaw => some flaw

end OptIn.Literal
