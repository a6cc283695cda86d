import StackExport.Scalar
import StackExport.Path
import StackExport.Text.SnakeCase
/-!
Emission rules by resource type.

A table has an entry that is shared by all types and entries for single types. The rules of a type
are the shared ones followed by its own; where both give a value to one key, its own wins.
-/
namespace StackExport

/-- The value at which a conditional attribute is left out. -/
structure ConditionalAttribute where
  name : String
  value : Json

/-- The emission rules of a resource type. Attributes are named by path patterns. -/
structure ResourceTraits where
  resourceType : String
  /-- Always written, even when empty. -/
  required : List String
  /-- Computed by the provider and never written. -/
  unconfigurable : List String
  /-- Lists of objects written as a list. -/
  nonBlock : List String
  /-- Objects written as a single block. -/
  blockObject : List String
  /-- Lists written as one block for each element. -/
  repeatedBlock : List String
  /-- Values in place of null, sorted by pattern. -/
  defaults : List (String × Json)
  /-- Groups of mutually exclusive attributes, of which the first populated one wins. -/
  conflicts : List (List String)
  conditional : List ConditionalAttribute
  /-- Names of template attributes and the attributes that they stand for, sorted by name. -/
  attributeMap : List (String × String)

namespace ResourceTraits

/-- No rules. -/
def none (resourceType : String) : ResourceTraits :=
  ⟨resourceType, [], [], [], [], [], [], [], [], []⟩

/-- The shared rules together with those of one type. -/
def consolidate (shared specific : ResourceTraits) : ResourceTraits where
  resourceType := specific.resourceType
  required := shared.required ++ specific.required
  unconfigurable := shared.unconfigurable ++ specific.unconfigurable
  nonBlock := shared.nonBlock ++ specific.nonBlock
  blockObject := shared.blockObject ++ specific.blockObject
  repeatedBlock := shared.repeatedBlock ++ specific.repeatedBlock
  defaults := sortEntries (shared.defaults ++ specific.defaults)
  conflicts := shared.conflicts ++ specific.conflicts
  conditional := shared.conditional ++ specific.conditional
  attributeMap := sortEntries (shared.attributeMap ++ specific.attributeMap)

/-- True for an attribute that is always written. -/
def isRequired (t : ResourceTraits) (path : Path) : Bool :=
  path.isLikeAny t.required

/-- True for an attribute that is never written unless it is required. -/
def isUnconfigurable (t : ResourceTraits) (path : Path) : Bool :=
  path.isLike "tags_all" || path.isLikeAny t.unconfigurable

/-- True for a list of objects that is written as a list. -/
def isNonBlock (t : ResourceTraits) (path : Path) : Bool :=
  path.isLikeAny t.nonBlock

/-- True for an object that is written as a single block. -/
def isBlockObject (t : ResourceTraits) (path : Path) : Bool :=
  path.isLikeAny t.blockObject

/-- True for a list that is written as one block for each element. -/
def isRepeatedBlock (t : ResourceTraits) (path : Path) : Bool :=
  path.isLikeAny t.repeatedBlock

/-- The default at a path: that of the first matching pattern. -/
def defaultFor (t : ResourceTraits) (path : Path) : Option Json :=
  (t.defaults.find? fun (pattern, _) => path.isLike pattern).map (·.2)

/-- Puts the default in place of a null scalar. Arrays and objects are no defaults of scalars. -/
def applyDefault (t : ResourceTraits) (path : Path) (scalar : Scalar) : Scalar :=
  match scalar with
  | .null => ((t.defaultFor path).bind Scalar.ofJson?).getD .null
  | scalar => scalar

/-- True when a conditional attribute is left out at this value. -/
def isConditionalDefault (t : ResourceTraits) (path : Path) (value : Json) : Bool :=
  t.conditional.any fun c => path.isLike c.name && c.value == value

/-- True when a path stands in a group behind a pattern that some populated path matches. -/
def losesIn (path : Path) (populated : List Path) (group : List String) : Bool :=
  match group.findIdx? path.isLike with
  | some position =>
    (group.take position).any fun winner => populated.any fun p => p.isLike winner
  | Option.none => false

def isConflictLoser (t : ResourceTraits) (path : Path) (populated : List Path) : Bool :=
  t.conflicts.any (losesIn path populated)

/-- Decides whether an attribute is written. A required one always is, the loser of a conflict and
an unconfigurable one never, and any other when it has content. -/
def shouldEmit (t : ResourceTraits) (path : Path) (content : Content) (populated : List Path) :
    Bool :=
  if t.isRequired path then true
  else if t.isConflictLoser path populated || t.isUnconfigurable path then false
  else !content.isEmpty

/-- The attribute that a template's attribute name stands for: a name of the table, or else the
name in snake case, segment by segment. -/
def mapAttributeName (t : ResourceTraits) (name : String) : String :=
  match lookup? name t.attributeMap with
  | some mapped => mapped
  | Option.none =>
    String.intercalate "." ((Text.splitAt '.' name).map Text.snakeCase)

end ResourceTraits

/-- The emission rules of all resource types. -/
structure TraitTable where
  shared : ResourceTraits
  byType : List (String × ResourceTraits)

/-- Why a table of rules cannot be read. -/
inductive TraitError where
  | malformed
  | duplicate (resourceType : String)
deriving DecidableEq, Repr

/-- The message for a refused table. -/
def TraitError.message : TraitError → String
  | .malformed => "invalid traits document"
  | .duplicate resourceType => "duplicate traits entry for '" ++ resourceType ++ "'"

namespace TraitTable

def sharedName : String := "all"

/-- Adds an entry. A later shared entry replaces an earlier one; a type has at most one. -/
def add (table : TraitTable) (entry : ResourceTraits) : Except TraitError TraitTable :=
  if entry.resourceType == sharedName then .ok { table with shared := entry }
  else if (lookup? entry.resourceType table.byType).isSome then
    .error (.duplicate entry.resourceType)
  else .ok { table with byType := table.byType ++ [(entry.resourceType, entry)] }

def ofEntries (entries : List ResourceTraits) : Except TraitError TraitTable :=
  entries.foldlM add ⟨.none sharedName, []⟩

/-- The rules of a resource type; an unknown type has the shared ones alone. -/
def get (table : TraitTable) (resourceType : String) : ResourceTraits :=
  match lookup? resourceType table.byType with
  | some specific => .consolidate table.shared specific
  | none => { table.shared with resourceType := resourceType }

end TraitTable

end StackExport
