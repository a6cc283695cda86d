import StackExport.Diagnostic
import StackExport.Rendering
import StackExport.Template.Evaluation
/-!
Putting references in place of literal values.

The state of a resource has values only. Every call among the properties of the resource's
declaration is evaluated against the deployed stack, and a value of the state that equals one of the
results is replaced by the rendered call. A call is rendered once, when its result is met for the
first time.
-/
namespace StackExport

/-- The result of a call, in the form that it takes in the state. -/
inductive Evaluated where
  | text (value : String)
  | list (items : List String)
deriving DecidableEq, Repr

namespace Evaluated

/-- The form of a value in the state; an empty value has none. -/
def ofJson? : Json → Option Evaluated
  | .string s => if s.isEmpty then none else some (.text s)
  | .number n => some (.text n.text)
  | .array items =>
    if items.isEmpty then none else (items.mapM Json.string?).map .list
  | _ => none

end Evaluated

/-- A call whose result may stand in the state. -/
structure Candidate where
  call : Intrinsic
  evaluated : Evaluated
  /-- What rendering gave, once the result has been met. -/
  rendered : Option (Except RenderError Reference)

namespace Candidate

/-- The calls with results. Of two with one result the first counts. -/
def ofCalls (s : Stack) (calls : List Intrinsic) : List Candidate :=
  calls.foldl (fun candidates call =>
    match (s.evaluateCall call).bind Evaluated.ofJson? with
    | some e =>
      if candidates.any (·.evaluated == e) then candidates else candidates ++ [⟨call, e, none⟩]
    | none => candidates) []

/-- The warning about a call that could not be rendered. -/
def warning? (address : String) (c : Candidate) : Option Diagnostic :=
  match c.rendered with
  | some (.error e) =>
    some (.warning (some address) ("could not render " ++ c.call.tag) e.message)
  | _ => none

end Candidate

/-- What changes while the attributes of a resource are walked. -/
structure Progress where
  candidates : List Candidate
  declarations : Declarations
  replaced : Nat

namespace Resolution

/-- Walks while references are put in place. -/
abbrev Walk := StateM Progress

/-- The reference in place of a value; the call that gives it is rendered if it was not yet. -/
def referenceFor (c : RenderContext) (value : Evaluated) : Walk (Option Reference) := fun p =>
  match p.candidates.findIdx? (·.evaluated == value) with
  | none => (none, p)
  | some i =>
    match p.candidates[i]? with
    | none => (none, p)
    | some candidate =>
      let (rendered, declarations) := match candidate.rendered with
        | some rendered => (rendered, p.declarations)
        | none => (c.render candidate.call none).run p.declarations
      let p := { p with
        candidates := p.candidates.set i { candidate with rendered := some rendered }
        declarations := declarations }
      match rendered with
      | .ok r => (some r, { p with replaced := p.replaced + 1 })
      | .error _ => (none, p)

/-- The texts of a list, if it has some and holds nothing else. -/
def listTexts? (items : List AttributeTree) : Option (List String) :=
  if items.isEmpty then none else items.mapM AttributeTree.string?

mutual

/-- Puts references into a document. -/
def walkDocument (c : RenderContext) : AttributeTree → Walk AttributeTree
  | .string s => do
    match ← referenceFor c (.text s) with
    | some r => return .reference r
    | none => return .string s
  | .list items => do return .list (← walkDocumentItems c items)
  | .object entries => do return .object (← walkDocumentEntries c entries)
  | .document inner => do return .document (← walkDocument c inner)
  | value => return value

def walkDocumentItems (c : RenderContext) : List AttributeTree → Walk (List AttributeTree)
  | [] => return []
  | item :: rest => do
    let item ← walkDocument c item
    let rest ← walkDocumentItems c rest
    return item :: rest

/-- Puts references into the entries of an object of a document. -/
def walkDocumentEntries (c : RenderContext) :
    List (String × AttributeTree) → Walk (List (String × AttributeTree))
  | [] => return []
  | (key, item) :: rest => do
    let item ← walkDocument c item
    let rest ← walkDocumentEntries c rest
    return (key, item) :: rest

end

/-- Puts a reference in place of a string, or references into the document that it holds. -/
def walkString (c : RenderContext) (s : String) : Walk AttributeTree := do
  match ← referenceFor c (.text s) with
  | some r => return .reference r
  | none =>
    match Json.document? s with
    | some doc => return .document (← walkDocument c (.ofJson doc))
    | none => return .string s

/-- True for a path at which nothing is replaced. -/
def isOpaque (traits : ResourceTraits) (path : Path) : Bool :=
  !path.isRoot && traits.isUnconfigurable path

mutual

/-- Puts references into the value at a path. -/
def walk (c : RenderContext) (traits : ResourceTraits) (path : Path) :
    AttributeTree → Walk AttributeTree
  | .string s => if isOpaque traits path then return .string s else walkString c s
  | .number n => do
    if isOpaque traits path then return .number n
    else
      match ← referenceFor c (.text n.text) with
      | some r => return .reference r
      | none => return .number n
  | .list items => do
    if isOpaque traits path then return .list items
    else
      let found ← match listTexts? items with
        | some texts => referenceFor c (.list texts)
        | none => pure none
      match found with
      | some r => return .reference r
      | none => return .list (← walkItems c traits path 0 items)
  | .object entries => do
    if isOpaque traits path then return .object entries
    else return .object (← walkEntries c traits path entries)
  | .document inner => do
    if isOpaque traits path then return .document inner
    else return .document (← walkDocument c inner)
  | value => return value

/-- Puts references into the items of a list from an index on. -/
def walkItems (c : RenderContext) (traits : ResourceTraits) (path : Path) (index : Nat) :
    List AttributeTree → Walk (List AttributeTree)
  | [] => return []
  | item :: rest => do
    let item ← walk c traits (path.element index) item
    let rest ← walkItems c traits path (index + 1) rest
    return item :: rest

/-- Puts references into the entries of an object. -/
def walkEntries (c : RenderContext) (traits : ResourceTraits) (path : Path) :
    List (String × AttributeTree) → Walk (List (String × AttributeTree))
  | [] => return []
  | (key, item) :: rest => do
    let item ← walk c traits (path.child key) item
    let rest ← walkEntries c traits path rest
    return (key, item) :: rest

end

end Resolution

/-- A resource whose values have been replaced by references where they can be. -/
structure Resolved where
  attributes : AttributeTree
  declarations : Declarations
  /-- The warnings about calls that could not be rendered. -/
  warnings : Diagnostics
  /-- The number of values that were replaced. -/
  replaced : Nat

/-- Puts references into the attributes of a mapped resource. -/
def resolve (c : RenderContext) (s : Stack) (m : ResourceMapping) (traits : ResourceTraits)
    (attributes : AttributeTree) (declarations : Declarations) : Resolved :=
  let candidates := match c.template.resource? m.logicalId with
    | some r => Candidate.ofCalls s r.properties.intrinsics
    | none => []
  if candidates.isEmpty then ⟨attributes, declarations, [], 0⟩
  else
    let (attributes, p) :=
      (Resolution.walk c traits .root attributes).run ⟨candidates, declarations, 0⟩
    ⟨attributes, p.declarations, p.candidates.filterMap (Candidate.warning? m.address), p.replaced⟩

end StackExport
