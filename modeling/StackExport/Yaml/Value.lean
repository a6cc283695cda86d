import StackExport.Yaml.Node
import StackExport.Decimal.Reader
import StackExport.Decimal.Layout
/-!
The values of a YAML document: plain scalars resolved, aliases followed, tags kept.

A plain scalar is null, a boolean, an integer or a number where it reads as one, and a string
otherwise. Zeros in front of other digits make a string.
-/
namespace StackExport.Yaml

/-- A value. A tag is kept without its exclamation mark, unless it is nothing else. -/
inductive Value where
  | null
  | bool (value : Bool)
  | int (value : Int)
  | float (value : Float)
  | string (value : String)
  | sequence (items : List Value)
  | mapping (entries : List (Value × Value))
  | tagged (tag : String) (value : Value)

instance : Inhabited Value := ⟨.null⟩

/-! ### Scalars -/

def readNull (s : String) : Bool := ["null", "Null", "NULL", "~"].contains s

def readBool (s : String) : Option Bool :=
  if ["true", "True", "TRUE"].contains s then some true
  else if ["false", "False", "FALSE"].contains s then some false
  else none

/-- True for digits that start with a zero but are no number. -/
def isZeroPadded (s : String) : Bool :=
  let digits := match s.toList with
    | '-' :: rest | '+' :: rest => rest
    | cs => cs
  match digits with
  | '0' :: c :: rest => (c :: rest).all Char.isDigit
  | _ => false

/-- The number that digits of a base stand for. -/
def digitsIn (base : Nat) (cs : List Char) : Option Nat :=
  if cs.isEmpty then none
  else cs.foldlM (fun n c =>
    (hexDigit? c).bind fun d => if d < base then some (n * base + d) else none) 0

/-- The digits behind the mark of a base other than ten. -/
def based (cs : List Char) : Option Nat :=
  match cs with
  | '0' :: 'x' :: rest => digitsIn 16 rest
  | '0' :: 'o' :: rest => digitsIn 8 rest
  | '0' :: 'b' :: rest => digitsIn 2 rest
  | _ => none

/-- Reads an integer of any size. -/
def readInt (s : String) : Option Int :=
  let decimal (cs : List Char) : Option Nat := if isZeroPadded s then none else digitsIn 10 cs
  match s.toList with
  | '-' :: rest => ((based rest).or (decimal rest)).map fun n => -(n : Int)
  | '+' :: rest => ((based rest).or (decimal rest)).map fun n => (n : Int)
  | cs => ((based cs).or (decimal cs)).map fun n => (n : Int)

/-- Reads a number; an infinite one only as a word of its own. -/
def readFloat (s : String) : Option Float :=
  let positive := match s.toList with
    | '+' :: rest => String.ofList rest
    | _ => s
  let doubled := s != positive && (positive.startsWith "+" || positive.startsWith "-")
  if doubled then none
  else if [".inf", ".Inf", ".INF"].contains positive then some (1.0 / 0.0)
  else if ["-.inf", "-.Inf", "-.INF"].contains s then some (-1.0 / 0.0)
  else if [".nan", ".NaN", ".NAN"].contains s then some (0.0 / 0.0)
  else (Decimal.float? positive).filter Float.isFinite

/-- What an integer amounts to. -/
inductive Magnitude where
  /-- It fits a word of 64 bits. -/
  | word
  /-- It fits 128 bits and no word. -/
  | long
  | huge
deriving DecidableEq

/-- What an integer amounts to. -/
def magnitude (n : Int) : Magnitude :=
  if -Int.pow 2 63 ≤ n && n < Int.pow 2 64 then .word
  else if -Int.pow 2 127 ≤ n && n < Int.pow 2 128 then .long
  else .huge

/-- The value of a plain scalar. An integer that fits 128 bits but no word is an error. -/
def readPlain (s : String) : Option Value :=
  if s.isEmpty || readNull s then some .null
  else
    match readBool s with
    | some b => some (.bool b)
    | none =>
      let number : Value :=
        if isZeroPadded s then .string s
        else
          match readFloat s with
          | some x => .float x
          | none => .string s
      match readInt s with
      | some n =>
        match magnitude n with
        | .word => some (.int n)
        | .long => none
        | .huge => some number
      | none => some number

/-- The value of a scalar of one of the standard types, which its text must fit. -/
def readTyped (tag s : String) (plain : Bool) : Option Value :=
  if tag == "tag:yaml.org,2002:bool" then (readBool s).map .bool
  else if tag == "tag:yaml.org,2002:int" then
    match readInt s with
    | some n => if magnitude n == .word then some (.int n) else none
    | none => none
  else if tag == "tag:yaml.org,2002:float" then (readFloat s).map .float
  else if tag == "tag:yaml.org,2002:null" then if readNull s then some .null else none
  else if plain && tag.startsWith "!" then readPlain s
  else some (.string s)

/-- A tag without one exclamation mark in front; a lone exclamation mark stays. -/
def unmarked (tag : List Char) : List Char :=
  match tag with
  | '!' :: c :: rest => c :: rest
  | tag => tag

/-- The local tag of a node: that of an application, which starts with an exclamation mark. It is
kept without it, and another one in front does not count either. -/
def localTag? : Option String → Option String
  | some tag =>
    match tag.toList with
    | '!' :: rest => some (String.ofList (unmarked (unmarked ('!' :: rest))))
    | _ => none
  | none => none

/-! ### Equality -/

mutual

/-- Equality of values; the order of a mapping's entries does not matter to it. -/
def Value.beq : Value → Value → Bool
  | .null, .null => true
  | .bool a, .bool b => a == b
  | .int a, .int b => a == b
  | .float a, .float b => a == b || (a.isNaN && b.isNaN)
  | .string a, .string b => a == b
  | .sequence a, .sequence b => Value.beqItems a b
  | .mapping a, .mapping b => a.length == b.length && Value.beqEntries a b
  | .tagged t a, .tagged u b => t == u && Value.beq a b
  | _, _ => false

/-- Equality of items, one by one. -/
def Value.beqItems : List Value → List Value → Bool
  | [], [] => true
  | a :: as, b :: bs => Value.beq a b && Value.beqItems as bs
  | _, _ => false

/-- True when every entry of the first mapping stands in the second. -/
def Value.beqEntries : List (Value × Value) → List (Value × Value) → Bool
  | [], _ => true
  | (k, v) :: rest, other => Value.hasEntry k v other && Value.beqEntries rest other

/-- True when an entry stands in a mapping. -/
def Value.hasEntry (k v : Value) : List (Value × Value) → Bool
  | [] => false
  | (l, w) :: rest => (Value.beq k l && Value.beq v w) || Value.hasEntry k v rest

end

instance : BEq Value := ⟨Value.beq⟩

/-! ### Documents -/

mutual

/-- How many events a node gives rise to: one for a scalar or alias, two more than its parts for a
collection. -/
def Node.events : Node → Nat
  | .alias _ => 1
  | .scalar _ _ _ => 1
  | .sequence _ items => 2 + Node.eventsOfItems items
  | .mapping _ entries => 2 + Node.eventsOfEntries entries

/-- The events of a sequence's items. -/
def Node.eventsOfItems : List Node → Nat
  | [] => 0
  | n :: rest => n.events + Node.eventsOfItems rest

/-- The events of a mapping's entries. -/
def Node.eventsOfEntries : List (Node × Node) → Nat
  | [] => 0
  | (k, v) :: rest => k.events + v.events + Node.eventsOfEntries rest

end

namespace Document

/-- Reads a document while counting how many aliases may still be followed. -/
abbrev Reading := StateT Nat Option

/-- How many collections may be nested. -/
def maxDepth : Nat := 128

/-- How many aliases may be followed: a hundred for each event. -/
def aliasBudget (d : Document) : Nat :=
  match d.root with
  | some n => 100 * n.events
  | none => 0

/-- The node itself, or the one behind an alias. -/
def follow (d : Document) (n : Node) : Reading Node :=
  match n with
  | .alias id => do
    match ← get with
    | 0 => failure
    | left + 1 =>
      set left
      match d.anchored.find? (·.1 == id) with
      | some (_, target) => return target
      | none => failure
  | n => return n

/-- The value of a node, whose tag may have been read already. A key that stands twice in one
mapping is an error. -/
def valueOf (d : Document) : (depth : Nat) → (tagRead : Bool) → Node → Reading Value
  | depth, tagRead, n => do
    let n ← d.follow n
    let tag? := match n with
      | .scalar tag _ _ | .sequence tag _ | .mapping tag _ => if tagRead then none else localTag? tag
      | .alias _ => none
    let content : Reading Value :=
      match n, depth with
      | .alias _, _ => failure
      | .scalar tag text plain, _ =>
        match tag, tagRead with
        | some t, false =>
          if (localTag? tag).isSome then
            if plain then (readPlain text : Option Value) else return .string text
          else (readTyped t text plain : Option Value)
        | _, _ => if plain then (readPlain text : Option Value) else return .string text
      | .sequence _ items, depth + 1 => do
        return .sequence (← items.mapM (d.valueOf depth false))
      | .mapping _ entries, depth + 1 => do
        let entries ← entries.foldlM (fun (taken : List (Value × Value)) (k, v) => do
          let key ← d.valueOf depth false k
          if taken.any (·.1 == key) then failure
          else
            let value ← d.valueOf depth false v
            return (key, value) :: taken) []
        return .mapping entries.reverse
      | _, 0 => failure
    match tag? with
    | some tag => return .tagged tag (← content)
    | none => content

/-- The value of a document; that of the empty one is null. -/
def value? (d : Document) : Option Value :=
  match d.root with
  | some n => ((d.valueOf maxDepth false n).run d.aliasBudget).map (·.1)
  | none => some .null

end Document

/-- The value of the only document of a text. -/
def parse? (text : String) : Option Value :=
  (Document.parse? text).bind Document.value?

end StackExport.Yaml
