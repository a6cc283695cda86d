import StackExport.Grammar.Expression
/-!
The grammar of bodies: attributes and blocks, which may have bodies of their own.
-/
namespace StackExport.Grammar.Rule

/-- Reads the rest of a quoted label. A label is no template: an interpolation in it is not
expected. -/
def label : Nat → Rule Unit
  | 0 => stop
  | fuel + 1 => do
    match ← ahead with
    | '"' :: rest => moveTo rest
    | '\\' :: _ =>
      escape
      label fuel
    | '$' :: '$' :: '\x7b' :: rest =>
      moveTo rest
      label fuel
    | '%' :: '%' :: '\x7b' :: rest =>
      moveTo rest
      label fuel
    | '$' :: '\x7b' :: _ => retreat
    | '%' :: '\x7b' :: _ => retreat
    | _ :: rest =>
      moveTo rest
      label fuel
    | [] => retreat

/-- Reads the labels of a block. -/
def labels : Nat → Rule Unit
  | 0 => stop
  | fuel + 1 => do
    let label : Rule Unit := do
      match ← ahead with
      | '"' :: rest =>
        moveTo rest
        label fuel
      | _ =>
        let _ ← name
    if let some _ ← optional label then
      gap false
      labels fuel

/-- Reads an attribute behind its name. -/
def assignment (fuel depth : Nat) : Rule Unit := do
  gap false
  mark "="
  gap false
  expression fuel depth false

mutual

/-- Reads the members of a body in which attributes with the given names came before. -/
def members (fuel depth : Nat) (given : List String) : Rule Unit :=
  match fuel with
  | 0 => stop
  | fuel + 1 => do
    if let some given ← optional (member fuel depth given) then
      gap false
      insist lineEnd
      gap true
      members fuel depth given

/-- Reads a member of a body: an attribute, which is given once, or a block. The answer is the
names of the attributes up to it. -/
def member (fuel depth : Nat) (given : List String) : Rule (List String) :=
  match fuel with
  | 0 => stop
  | fuel + 1 => do
    let here ← ahead
    let key ← name
    gap false
    match ← ahead with
    | [] => retreat
    | '=' :: _ =>
      if given.contains key then stopAt here
      assignment fuel depth
      return key :: given
    | c :: _ =>
      if c == '\x7b' || c == '"' || startsName c then
        labels fuel
        insist (mark "\x7b")
        blockBody fuel (depth + 1)
        return given
      else stop

/-- Reads the body of a block: over lines, or with one attribute at most in the line where it
starts. -/
def blockBody (fuel depth : Nat) : Rule Unit :=
  match fuel with
  | 0 => stop
  | fuel + 1 => do
    if nestingLimit < depth then stop
    gap false
    let here ← ahead
    match afterLineBreak? ((afterLineComment? here).getD here) with
    | some rest =>
      moveTo rest
      gap true
      members fuel depth []
    | none =>
      let _ ← optional (do let _ ← name; assignment fuel depth)
      gap false
    insist (mark "\x7d")

end

/-- Reads a configuration. -/
def configuration (fuel : Nat) : Rule Unit := do
  gap true
  members fuel 0 []

end StackExport.Grammar.Rule
