import StackExport.Grammar.Rule
/-!
The grammar of expressions and of the templates in them.

The rules call each other, and each call costs a step of fuel, which a text of a given length never
uses up. The depth is the number of parts that an expression is nested in.
-/
namespace StackExport.Grammar

/-- How deep the parts of a configuration may be nested. -/
def nestingLimit : Nat := 64

/-- How many operators may stand between the operands of one expression. -/
def operatorLimit : Nat := 128

/-- The operators between two operands, the longer ones first. -/
def operators : List String :=
  ["==", "!=", "<=", ">=", "&&", "||", "+", "-", "*", "/", "%", "<", ">"]

/-- What goes on behind an operand. -/
inductive Continuation where
  | access
  | choice
  | operator

/-- Two characters tell what goes on behind an operand, if anything does. -/
def continuation? : List Char → Option Continuation
  | '.' :: c :: _ => if c == '.' then none else some .access
  | '[' :: _ :: _ => some .access
  | '?' :: _ :: _ => some .choice
  | '=' :: c :: _ => if c == '=' then some .operator else none
  | '/' :: c :: _ => if c == '/' || c == '*' then none else some .operator
  | c :: _ :: _ => if "!<>+-*%&|".toList.contains c then some .operator else none
  | _ => none

/-- True at the word of a loop, behind which there is a blank. -/
def startsLoop : List Char → Bool
  | 'f' :: 'o' :: 'r' :: c :: _ => c == ' ' || c == '\t' || c == '\n'
  | _ => false

/-- Where a template stands. -/
inductive Place where
  | quoted
  /-- A text over lines, up to a line that begins with a marker. -/
  | lines (marker : String)
  /-- The body of a directive. -/
  | directive
deriving DecidableEq, Repr

/-- The text behind the end of a line and a marker at the start of the next. -/
def afterMarker? (marker : String) (rest : List Char) : Option (List Char) :=
  (afterLineBreak? rest).bind fun rest =>
    behind? marker.toList (rest.dropWhile fun c => c == ' ' || c == '\t')

namespace Rule

/-- Reads one of the operators. -/
def operator : Rule Unit := do
  let (symbol, rest) ← ofTake fun ahead =>
    operators.findSome? fun o => (behind? o.toList ahead).map fun rest => ((o, rest), rest)
  moveTo rest
  note (.mark symbol)

/-- Reads a backslash and what makes an escape of it, which has to follow. -/
def escape : Rule Unit := do
  ofTake fun ahead => (behind? ['\\'] ahead).map fun rest => ((), rest)
  let c ← insist (ofTake takeEscape?)
  note (.letter c)

/-- Ends an interpolation or a directive. -/
def templateEnd : Rule Unit := do
  gap true
  let _ ← optional (mark "~")
  insist (mark "\x7d")

/-- Starts a directive, up to its word. -/
def directiveStart : Rule Unit := do
  mark "%\x7b"
  let _ ← optional (mark "~")
  gap true

/-- Reads the directive that ends another one. -/
def directiveEnd (word : String) : Rule Unit := do
  directiveStart
  insist (mark word)
  templateEnd

/-- Reads the names of a loop, up to the word behind them. -/
def loopNames : Rule Unit := do
  gap true
  let _ ← insist name
  gap true
  if let some _ ← optional (mark ",") then
    gap true
    let _ ← insist name
    gap true
  insist (mark "in")
  gap true

mutual

/-- Reads an operand. -/
def operand (fuel depth : Nat) (wide : Bool) : Rule Unit :=
  match fuel with
  | 0 => stop
  | fuel + 1 => do
    if nestingLimit < depth then stop
    match ← ahead with
    | [] => retreat
    | '"' :: _ =>
      mark "\""
      template fuel depth .quoted
      mark "\""
    | '<' :: _ => lines fuel depth
    | '[' :: _ => list fuel depth
    | '\x7b' :: _ => object fuel depth
    | '(' :: _ =>
      mark "("
      wideExpression fuel depth
      insist (mark ")")
    | '-' :: rest =>
      moveTo rest
      gap false
      negated (operand fuel (depth + 1) wide)
    | '!' :: _ =>
      mark "!"
      gap false
      operand fuel (depth + 1) wide
    | c :: _ =>
      if c.isDigit then number
      else if startsName c then
        let _ ← name
        qualified fuel depth wide false
      else stop

/-- Reads an expression. Where it is wide, its parts may be spread over lines. -/
def expression (fuel depth : Nat) (wide : Bool) : Rule Unit :=
  match fuel with
  | 0 => stop
  | fuel + 1 => do
    operand fuel depth wide
    continued fuel depth wide 0

/-- Reads an expression in brackets, with the gaps around it. -/
def wideExpression (fuel depth : Nat) : Rule Unit :=
  match fuel with
  | 0 => stop
  | fuel + 1 => do
    gap true
    expression fuel (depth + 1) true
    gap true

/-- Reads what goes on behind an operand, as far as it does. -/
def continued (fuel depth : Nat) (wide : Bool) (operators : Nat) : Rule Unit :=
  match fuel with
  | 0 => stop
  | fuel + 1 => do
    let here ← ahead
    gap wide
    match continuation? (← ahead) with
    | none => moveTo here
    | some .access =>
      access fuel depth wide
      continued fuel depth wide operators
    | some .choice =>
      mark "?"
      gap wide
      expression fuel (depth + 1) wide
      gap wide
      insist (mark ":")
      gap wide
      expression fuel (depth + 1) wide
      continued fuel depth wide operators
    | some .operator =>
      if operators == operatorLimit then stop
      operator
      gap wide
      operand fuel depth wide
      continued fuel depth wide (operators + 1)

/-- Reads an access to a part of a value, or to all of its parts. -/
def access (fuel depth : Nat) (wide : Bool) : Rule Unit :=
  match fuel with
  | 0 => stop
  | fuel + 1 => do
    if let some _ ← optional (mark ".") then
      gap wide
      match ← ahead with
      | '*' :: _ => mark "*"
      | '0' :: rest =>
        moveTo rest
        note (.integer 0)
      | c :: _ =>
        if c.isDigit then integer
        else
          let _ ← insist name
      | [] => stop
    else
      mark "["
      gap true
      match ← ahead with
      | '*' :: _ => mark "*"
      | _ => expression fuel (depth + 1) true
      gap true
      insist (mark "]")

/-- Goes on behind a name: with the arguments of a call, or with another name in its name space.
Only functions have names in a name space. -/
def qualified (fuel depth : Nat) (wide inSpace : Bool) : Rule Unit :=
  match fuel with
  | 0 => stop
  | fuel + 1 => do
    let here ← ahead
    gap wide
    match ← ahead with
    | '(' :: _ =>
      mark "("
      gap true
      items fuel depth ')'
      insist (mark ")")
    | ':' :: ':' :: _ =>
      mark "::"
      gap wide
      let _ ← insist name
      qualified fuel depth wide true
    | _ => if inSpace then stop else moveTo here

/-- Reads the items up to a closing mark. The last argument of a call may stand for many. -/
def items (fuel depth : Nat) (close : Char) : Rule Unit :=
  match fuel with
  | 0 => stop
  | fuel + 1 => do
    let here ← ahead
    if here.head? == some close then return
    match ← optional (expression fuel (depth + 1) true) with
    | none => moveTo here
    | some _ =>
      gap true
      if let some _ ← optional (mark ",") then
        gap true
        items fuel depth close
      else if close == ')' then
        let _ ← optional (mark "...")
        gap true

/-- Reads a list, or a loop that makes one. -/
def list (fuel depth : Nat) : Rule Unit :=
  match fuel with
  | 0 => stop
  | fuel + 1 => do
    mark "["
    gap true
    if startsLoop (← ahead) then
      loopStart fuel depth
      loopCondition fuel depth
    else items fuel depth ']'
    insist (mark "]")

/-- Reads a loop up to the first value that it makes. -/
def loopStart (fuel depth : Nat) : Rule Unit :=
  match fuel with
  | 0 => stop
  | fuel + 1 => do
    mark "for"
    loopNames
    expression fuel (depth + 1) false
    gap true
    insist (mark ":")
    gap true
    expression fuel (depth + 1) false
    gap true

/-- Reads the condition at the end of a loop, if there is one. -/
def loopCondition (fuel depth : Nat) : Rule Unit :=
  match fuel with
  | 0 => stop
  | fuel + 1 => do
    if let some _ ← optional (mark "if") then
      gap true
      expression fuel (depth + 1) false
      gap true

/-- Reads an object, or a loop that makes one. -/
def object (fuel depth : Nat) : Rule Unit :=
  match fuel with
  | 0 => stop
  | fuel + 1 => do
    mark "\x7b"
    gap true
    if startsLoop (← ahead) then
      loopStart fuel depth
      insist (mark "=>")
      gap true
      expression fuel (depth + 1) false
      gap true
      let _ ← optional (mark "...")
      gap true
      loopCondition fuel depth
    else entries fuel depth []
    insist (mark "\x7d")

/-- Reads the entries of an object. A key is given once; keys are compared without their layout. -/
def entries (fuel depth : Nat) (keys : List (List Sign)) : Rule Unit :=
  match fuel with
  | 0 => stop
  | fuel + 1 => do
    gap true
    let here ← ahead
    match here with
    | [] => retreat
    | '\x7d' :: _ => return
    | _ =>
      let (_, key) ← withSigns (expression fuel (depth + 1) false)
      if keys.contains key then stopAt here
      gap false
      match ← ahead with
      | [] => retreat
      | c :: rest => if c == '=' || c == ':' then moveTo rest else stopAt rest
      note (.mark "=")
      gap false
      expression fuel (depth + 1) false
      gap false
      let behind ← ahead
      match behind with
      | [] => retreat
      | '\x7d' :: _ => return
      | ',' :: rest =>
        moveTo rest
        entries fuel depth (key :: keys)
      | _ =>
        if (afterLineBreak? behind).isSome || (afterLineComment? behind).isSome then
          entries fuel depth (key :: keys)
        else stop

/-- Reads a text over lines. Its end is not looked for in the line of its start, nor in the next. -/
def lines (fuel depth : Nat) : Rule Unit :=
  match fuel with
  | 0 => stop
  | fuel + 1 => do
    mark "<<"
    let _ ← optional (mark "-")
    let marker ← insist name
    insist (ofTake fun ahead => (afterLineBreak? ahead).map fun rest => ((), rest))
    template fuel depth (.lines marker)
    insist (ofTake fun ahead => (afterMarker? marker ahead).map fun rest => ((), rest))

/-- Reads a template, up to what ends it at its place. A doubled mark before a brace stands for
itself. -/
def template (fuel depth : Nat) (place : Place) : Rule Unit :=
  match fuel with
  | 0 => stop
  | fuel + 1 => do
    let here ← ahead
    match here with
    | [] => return
    | '$' :: '$' :: '\x7b' :: rest =>
      moveTo rest
      note (.letter '$')
      note (.letter '\x7b')
      template fuel depth place
    | '%' :: '%' :: '\x7b' :: rest =>
      moveTo rest
      note (.letter '%')
      note (.letter '\x7b')
      template fuel depth place
    | '$' :: '\x7b' :: _ =>
      match ← optional (interpolation fuel depth) with
      | some _ => template fuel depth place
      | none => return
    | '%' :: '\x7b' :: _ =>
      match ← optional (directive fuel (depth + 1)) with
      | some _ => template fuel depth place
      | none => return
    | c :: rest =>
      match place with
      | .quoted =>
        if c == '"' then return
        if c == '\\' then escape
        else
          moveTo rest
          note (.letter c)
      | .lines marker =>
        if (afterMarker? marker here).isSome then return
        moveTo rest
        note (.letter c)
      | .directive =>
        moveTo rest
        note (.letter c)
      template fuel depth place

/-- Reads an expression in a template. -/
def interpolation (fuel depth : Nat) : Rule Unit :=
  match fuel with
  | 0 => stop
  | fuel + 1 => do
    mark "$\x7b"
    let _ ← optional (mark "~")
    gap true
    expression fuel (depth + 1) false
    templateEnd

/-- Reads a directive with its body: a choice or a loop. -/
def directive (fuel depth : Nat) : Rule Unit :=
  match fuel with
  | 0 => stop
  | fuel + 1 => do
    directiveStart
    if let some _ ← optional (mark "if") then
      gap true
      expression fuel depth false
      templateEnd
      template fuel depth .directive
      if let some _ ← optional (do directiveStart; mark "else") then
        templateEnd
        template fuel depth .directive
      directiveEnd "endif"
    else
      mark "for"
      loopNames
      expression fuel depth false
      templateEnd
      template fuel depth .directive
      directiveEnd "endfor"

end

end Rule

end StackExport.Grammar
