import OptIn.Console.Message
import OptIn.Console.StyleName
import OptIn.Literal.Value
import OptIn.Text.Alphanumeric

/-!
# Marked-up texts

A text may carry tags in brackets, which name styles: `[red]` opens a style, `[/red]` or `[/]`
closes one. A bracket behind an odd number of backslashes opens no tag, and brackets around anything
that does not start with a small letter, `#`, `/` or `@` are plain. A tag such as
`[@click=open('x')]` names an action, whose arguments are literals.

`plainText` gives the text without its tags. A closing tag for which nothing is open is a problem,
and so are arguments of an action that are no literals, as soon as its tag is closed.
-/

namespace OptIn.Console

/-- A part of a marked-up text. -/
inductive MarkupPart where
  | plain (text : List Char)
  /-- A tag, the place where it stands, its name, and what follows the sign `=`. -/
  | tag (position : Nat) (name : List Char) (parameters : Option (List Char))
  deriving DecidableEq, Repr

/-- Whether a character can start a tag. -/
def startsTag (c : Char) : Bool :=
  ('a' ≤ c && c ≤ 'z') || c = '#' || c = '/' || c = '@'

/-- The body of a tag whose opening bracket has been taken. -/
def tagBody? (cs : List Char) : Option (List Char) :=
  match cs with
  | [] => none
  | c :: rest =>
    if startsTag c then
      let body := rest.takeWhile fun d => d ≠ '[' && d ≠ ']'
      if (rest.drop body.length).head? = some ']' then some (c :: body) else none
    else none

/-- The number of backslashes that a text starts with, and the body of the tag behind them. -/
def tagAhead? (cs : List Char) : Option (Nat × List Char) :=
  let slashes := cs.takeWhile (· = '\x5c')
  match cs.drop slashes.length with
  | '[' :: rest => (tagBody? rest).map fun body => (slashes.length, body)
  | _ => none

/-- The parts that backslashes and a tag behind them make at a place. -/
def tagParts (position slashes : Nat) (body : List Char) : List MarkupPart :=
  let kept := List.replicate (slashes / 2) '\x5c'
  let name := body.takeWhile (· ≠ '=')
  let parameters := match body.drop name.length with
    | [] => none
    | _ :: ps => some ps
  .plain kept ::
    if slashes % 2 = 1 then [.plain ('[' :: body ++ [']'])]
    else [.tag (position + 2 * (slashes / 2)) name parameters]

/-- Backslashes in front of a bracket in plain text: one of them is taken away. -/
def unescape : List Char → List Char
  | [] => []
  | '\x5c' :: '[' :: cs => '[' :: unescape cs
  | c :: cs => c :: unescape cs

/-- The parts of a text from a place on; `skip` counts the characters that a tag has used up, and
`plain` holds what has been read since, last character first. -/
def markupPartsFrom (position skip : Nat) (plain : List Char) : List Char → List MarkupPart
  | [] => [.plain (unescape plain.reverse)]
  | c :: cs =>
    if skip = 0 then
      match tagAhead? (c :: cs) with
      | some (slashes, body) =>
        .plain (unescape plain.reverse) :: tagParts position slashes body ++
          markupPartsFrom (position + 1) (slashes + body.length + 1) [] cs
      | none => markupPartsFrom (position + 1) 0 (c :: plain) cs
    else markupPartsFrom (position + 1) (skip - 1) plain cs

/-- The parts of a text. -/
def markupParts (cs : List Char) : List MarkupPart := markupPartsFrom 0 0 [] cs

/-! ### Actions -/

/-- Whether the name of a tag is that of an action. -/
def isAction (name : String) : Bool := name.startsWith "@"

/-- Whether a character belongs to the name of a handler. -/
def isHandlerChar (c : Char) : Bool := c = '.' || c = '_' || Text.isAlphanumeric c

/-- The arguments in the parameters of an action: what stands in brackets behind the name of a
handler, or else all of it. -/
def argumentsOf (parameters : List Char) : List Char :=
  match parameters.dropWhile isHandlerChar with
  | [] => "()".toList
  | '(' :: rest =>
    if rest.getLast? = some ')' && !rest.contains '\n' then '(' :: rest else parameters
  | _ => parameters

/-- What is wrong with the arguments of an action. -/
def actionProblem? (parameters : List Char) : Option MarkupProblem :=
  let arguments := argumentsOf (Text.trim parameters)
  (Literal.flaw? arguments).map fun flaw =>
    .badArguments (String.ofList arguments) (String.ofList parameters) flaw

/-! ### Plain text -/

/-- A style that is open: where it was opened, its name, and what follows the sign `=`. -/
structure OpenTag where
  start : Nat
  name : String
  parameters : Option (List Char)
  deriving DecidableEq, Repr

/-- A part of the text that a tag has covered, and the words of the tag. -/
structure Span where
  start : Nat
  stop : Nat
  words : List Char
  deriving DecidableEq, Repr

/-- The part of the text that a tag covers when it is closed. -/
def OpenTag.span (t : OpenTag) (stop : Nat) : Span :=
  let parameters := match t.parameters with
    | some ps => ' ' :: ps
    | none => []
  ⟨t.start, stop, t.name.toList ++ parameters⟩

/-- The state of a text while it is put together: what is printed, last character first, the tags
that are open, latest first, and the parts that tags have covered. -/
structure Rendering where
  reversed : List Char := []
  opened : List OpenTag := []
  spans : List Span := []
  deriving DecidableEq, Repr

namespace Rendering

/-- The length of the text. -/
def length (r : Rendering) : Nat := r.reversed.length

/-- The text with more of it. -/
def append (r : Rendering) (cs : List Char) : Rendering :=
  { r with reversed := (shown (String.ofList cs)).reverse ++ r.reversed }

/-- The text with a tag opened. -/
def openTag (r : Rendering) (name : List Char) (parameters : Option (List Char)) :
    Except Fault Rendering := do
  return { r with opened := ⟨r.length, ← styleName name, parameters⟩ :: r.opened }

/-- The text with one of its open tags closed. -/
def close (r : Rendering) (t : OpenTag) : Except Fault Rendering :=
  let closed := { r with opened := r.opened.erase t }
  if isAction t.name then
    match t.parameters with
    | none | some [] => .ok closed
    | some ps =>
      match actionProblem? ps with
      | some problem => .error (.badMarkup problem)
      | none => .ok closed
  else .ok { closed with spans := t.span r.length :: r.spans }

/-- The text with the tag closed that was opened last. -/
def closeLast (r : Rendering) (position : Nat) : Except Fault Rendering :=
  match r.opened with
  | t :: _ => r.close t
  | [] => .error (.badMarkup (.nothingOpen "[/]" position))

/-- The text with the tag closed that was opened last with a name. -/
def closeNamed (r : Rendering) (position : Nat) (name : List Char)
    (parameters : Option (List Char)) : Except Fault Rendering := do
  let style ← styleName (Text.trim name)
  match r.opened.find? (·.name = style) with
  | some t => r.close t
  | none =>
    let written := match parameters with
      | some ps => '/' :: name ++ '=' :: ps
      | none => '/' :: name
    throw (.badMarkup (.unopened ("[" ++ String.ofList written ++ "]") position))

/-- The text with another part. -/
def step (r : Rendering) : MarkupPart → Except Fault Rendering
  | .plain cs => .ok (r.append cs)
  | .tag position ('/' :: name) parameters =>
    if (Text.trim name).isEmpty then r.closeLast position
    else r.closeNamed position name parameters
  | .tag _ name parameters => r.openTag name parameters

/-- The parts that tags have covered, those that are still open among them. -/
def covered (r : Rendering) : List Span :=
  r.spans.reverse ++ r.opened.map fun t => t.span r.length

end Rendering

/-- Whether a span covers anything but ends of lines. -/
def Span.isSeen (s : Span) (text : List Char) : Bool :=
  ((text.take s.stop).drop s.start).any (· ≠ '\n')

/-- The text without its tags, as it is shown. The words of a tag that covers some of the text are
read once more, together with what follows the sign `=`. -/
def plainText (s : String) : Except Fault String := do
  let r ← (markupParts s.toList).foldlM Rendering.step {}
  let text := r.reversed.reverse
  let _ ← (r.covered.filter (·.isSeen text)).mapM fun span => style? span.words
  return String.ofList text

/-! ### Texts without brackets -/

theorem tagAhead?_of_not_mem {cs : List Char} (h : '[' ∉ cs) : tagAhead? cs = none := by
  rw [tagAhead?]
  split
  · next rest hd =>
    exact absurd (List.mem_of_mem_drop (hd ▸ List.mem_cons_self)) h
  · rfl

theorem unescape_of_not_mem {cs : List Char} (h : '[' ∉ cs) : unescape cs = cs := by
  induction cs with
  | nil => rfl
  | cons c cs ih =>
    have hcs : '[' ∉ cs := fun hm => h (List.mem_cons_of_mem _ hm)
    rw [unescape]
    · rw [ih hcs]
    · rintro ds rfl rfl
      exact hcs List.mem_cons_self

/-- A text without an opening bracket is one part. -/
theorem markupParts_of_not_mem {cs : List Char} (h : '[' ∉ cs) : markupParts cs = [.plain cs] := by
  suffices H : ∀ (position : Nat) (plain : List Char), '[' ∉ plain.reverse ++ cs →
      markupPartsFrom position 0 plain cs = [.plain (plain.reverse ++ cs)] from
    H 0 [] h
  clear h
  induction cs with
  | nil =>
    intro position plain h
    rw [markupPartsFrom, unescape_of_not_mem (by simpa using h), List.append_nil]
  | cons c cs ih =>
    intro position plain h
    have hc : '[' ∉ c :: cs := fun hm => h (List.mem_append_right _ hm)
    rw [markupPartsFrom, if_pos rfl, tagAhead?_of_not_mem hc]
    have h' : '[' ∉ (c :: plain).reverse ++ cs := by simpa using h
    simpa using ih (position + 1) (c :: plain) h'

/-- A text without an opening bracket is shown as it is. -/
theorem plainText_of_not_mem {s : String} (h : '[' ∉ s.toList) :
    plainText s = .ok (String.ofList (shown s)) := by
  rw [plainText, markupParts_of_not_mem h]
  simp [Rendering.step, Rendering.append, Rendering.covered, Pure.pure, Except.pure, Bind.bind,
    Except.bind]

end OptIn.Console
