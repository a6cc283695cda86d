/-!
Paths into a resource's attribute tree, and the patterns they are matched with.

A path is written `ingress.0.cidr_blocks`; `ingress[0].cidr_blocks` is read as the same path.
Numeric segments address the elements of lists. In a pattern a star covers any run of characters
inside one segment.
-/
namespace StackExport

/-- A path to an attribute within a resource's attribute tree. -/
structure Path where
  segments : List String
deriving DecidableEq, Inhabited, Repr

namespace Path

/-- The path of the resource body itself. -/
def root : Path := ⟨[]⟩

/-- Puts a segment, given in reverse, in front of others; an empty one is dropped. -/
def putSegment (taken : List Char) (segments : List String) : List String :=
  if taken.isEmpty then segments else String.ofList taken.reverse :: segments

/-- A quote character, as it may stand around a name in brackets. -/
def isQuote (c : Char) : Bool :=
  c == '\'' || c == '"'

/-- What stands in brackets, without the quotes around it. -/
def trimQuotes (cs : List Char) : List Char :=
  ((cs.dropWhile isQuote).reverse.dropWhile isQuote).reverse

/-- The segments of a written path. `taken` is the segment under way, in reverse; inside brackets
everything up to the closing one belongs to it. -/
def scan : (inBrackets : Bool) → (taken : List Char) → List Char → List String
  | false, taken, [] => putSegment taken []
  | false, taken, '.' :: rest => putSegment taken (scan false [] rest)
  | false, taken, '[' :: rest => putSegment taken (scan true [] rest)
  | false, taken, c :: rest => scan false (c :: taken) rest
  | true, taken, [] => putSegment (trimQuotes taken) []
  | true, taken, ']' :: rest => putSegment (trimQuotes taken) (scan false [] rest)
  | true, taken, c :: rest => scan true (c :: taken) rest

/-- Reads a path; every text is one. -/
def parse (text : String) : Path :=
  ⟨scan false [] text.toList⟩

/-- The path in dotted form. -/
def display (p : Path) : String :=
  String.intercalate "." p.segments

def child (p : Path) (name : String) : Path :=
  ⟨p.segments ++ [name]⟩

def element (p : Path) (index : Nat) : Path :=
  p.child (toString index)

/-- The number of segments. -/
def depth (p : Path) : Nat := p.segments.length

/-- The last segment; the root has the empty name. -/
def name (p : Path) : String := p.segments.getLast?.getD ""

/-- True for the path of the resource body. -/
def isRoot (p : Path) : Bool := p.segments.isEmpty

/-! ### Patterns -/

/-- A search for a way to match a text with a pattern, from left to right. -/
structure Search where
  pattern : List Char
  text : List Char
  /-- The last star passed: the pattern behind it, and the text behind what it covers so far. -/
  star : Option (List Char × List Char)

namespace Search

/-- Goes back to the last star, which now covers one character more. -/
def retreat (s : Search) : Bool ⊕ Search :=
  match s.star with
  | some (behind, left) => .inr ⟨behind, left.tail, some (behind, left.tail)⟩
  | none => .inl false

/-- One turn of the search, with an answer or with the search that goes on. A star covers nothing at
first, and only the last star passed is ever gone back to. -/
def turn (s : Search) : Bool ⊕ Search :=
  match s.pattern, s.text with
  | pattern, [] => .inl (pattern.all (· == '*'))
  | '*' :: pattern, d :: text => .inr ⟨pattern, d :: text, some (pattern, d :: text)⟩
  | c :: pattern, d :: text => if c = d then .inr ⟨pattern, text, s.star⟩ else s.retreat
  | [], _ :: _ => s.retreat

/-- The answer of a search that ends within a number of turns. -/
def answer? : Nat → Search → Option Bool
  | 0, _ => none
  | turns + 1, s =>
    match s.turn with
    | .inl answer => some answer
    | .inr s => s.answer? turns

/-- No search goes on for more turns than this. Going back gives the pattern behind the star again,
but takes a character from the text that is left to it. -/
def turnsLeft (s : Search) : Nat :=
  match s.star with
  | some (behind, left) => left.length * (behind.length + 1) + s.pattern.length
  | none => s.text.length * (s.pattern.length + 1) + s.pattern.length

end Search

/-- True when a text is an instance of a pattern in which a star covers any run of characters. -/
def globMatch (pattern text : List Char) : Bool :=
  let search : Search := ⟨pattern, text, none⟩
  (search.answer? (search.turnsLeft + 1)).getD false

/-- True when the segments of a path match those of a pattern one by one. -/
def isLikeSegments (p pattern : Path) : Bool :=
  pattern.segments.length == p.segments.length &&
    (pattern.segments.zip p.segments).all fun (q, s) => globMatch q.toList s.toList

/-- True when a path matches a written pattern. -/
def isLike (p : Path) (pattern : String) : Bool :=
  p.isLikeSegments (parse pattern)

/-- True when a path matches one of several written patterns. -/
def isLikeAny (p : Path) (patterns : List String) : Bool :=
  patterns.any p.isLike

end Path

end StackExport
