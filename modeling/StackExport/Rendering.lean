import StackExport.Declaration
import StackExport.Mapping
import StackExport.Reference
import StackExport.Template.Display
import StackExport.Template.Interpolation
import StackExport.Traits
/-!
Rendering the intrinsic functions of a template as expressions of the configuration.

Rendering adds the declarations that an expression needs to an accumulator; those that were added
before a failure stay in it.
-/
namespace StackExport

/-- What is wrong with a call that cannot be rendered. -/
inductive CallFault where
  | itemsNotList
  | itemsNotScalar
  | indexNotLiteral
  | literalSelected
  | indexOutOfRange (index count : Nat)
  | countNotLiteral
  | bitsNotLiteral
  | notBlock (text : String)
  | exportNotStatic
  | fieldNotText
  | variableNotScalar (name : String)
  | objectArgument
deriving DecidableEq, Repr

def CallFault.detail : CallFault → String
  | .itemsNotList => "items must be a list"
  | .itemsNotScalar => "items must be scalars"
  | .indexNotLiteral => "index must be a literal number"
  | .literalSelected => "selected item is a literal"
  | .indexOutOfRange index count =>
    "index " ++ toString index ++ " out of range for " ++ toString count ++ " items"
  | .countNotLiteral => "count must be a literal number"
  | .bitsNotLiteral => "cidr bits must be a literal number"
  | .notBlock text => "'" ++ text ++ "' is not a CIDR block"
  | .exportNotStatic => "export name must be known before deployment"
  | .fieldNotText => "attribute name must be a string or a Ref"
  | .variableNotScalar name => "variable '" ++ name ++ "' is not a scalar"
  | .objectArgument => "objects cannot be function arguments"

/-- Why a call cannot be rendered. -/
inductive RenderError where
  | noRendererFor (tag : String)
  | unresolvedReference (name : String)
  | unsupportedPseudoParameter (name : String)
  /-- A key of a look-up that is no scalar: a call other than a reference, a list or an object. -/
  | invalidFindInMapKey (key : Expr)
  | invalidIntrinsic (tag : String) (fault : CallFault)
deriving Repr

/-- The message for a call that cannot be rendered. -/
def RenderError.message : RenderError → String
  | .noRendererFor tag => "no renderer for '" ++ tag ++ "'"
  | .unresolvedReference name => "reference \"" ++ name ++ "\" cannot be resolved"
  | .unsupportedPseudoParameter name =>
    "pseudo parameter \"" ++ name ++ "\" cannot be referenced by terraform"
  | .invalidFindInMapKey (.intrinsic call) =>
    "invalid Fn::FindInMap key: intrinsic \"" ++ call.tag ++ "\" cannot be resolved"
  | .invalidFindInMapKey key => "invalid Fn::FindInMap key: " ++ key.display ++ " is not a key"
  | .invalidIntrinsic tag fault => "invalid " ++ tag ++ ": " ++ fault.detail

/-- What is known while calls are rendered. -/
structure RenderContext where
  template : Template
  mappings : List ResourceMapping
  table : TraitTable
  /-- The nested stacks that became modules. -/
  modules : List NestedModule

/-- Renders while declarations accumulate. -/
abbrev Rendering := ExceptT RenderError (StateM Declarations)

/-- The data source that gives a pseudo parameter. -/
def pseudoSource? : String → Option (String × String × String)
  | "AWS::Region" => some ("aws_region", "current", "name")
  | "AWS::AccountId" => some ("aws_caller_identity", "current", "account_id")
  | "AWS::Partition" => some ("aws_partition", "partition", "partition")
  | "AWS::URLSuffix" => some ("aws_partition", "url_suffix", "dns_suffix")
  | _ => none

/-- The text of a scalar. -/
def Expr.literalText? : Expr → Option String
  | .string s => some s
  | .number x => some (Decimal.format x)
  | .bool b => some (toString b)
  | _ => none

/-- The number of bits by which a block's prefix grows when its parts keep `bits` for hosts. -/
def subnetBits? (block : String) (bits : Nat) : Option Nat := do
  let (address, length) ← Text.splitOnce? '/' block
  let length ← Decimal.word? (Text.trim length)
  let width := if address.toList.contains ':' then 128 else 32
  if bits + length ≤ width then some (width - bits - length) else none

namespace Template

/-- Fills the placeholders of a text; each must have a value. -/
def fillStatic (value : String → Option String) : List Interpolation.Part → Option String
  | [] => some ""
  | .literal text :: rest => do return text ++ (← fillStatic value rest)
  | .placeholder name :: rest => do
    let text ← value name
    return text ++ (← fillStatic value rest)

/-- The value of a parameter. -/
def parameterText? (t : Template) (name : String) : Option String :=
  (t.parameter? name).bind Parameter.value

mutual

/-- The text of an expression that depends on parameters alone. -/
def staticText? (t : Template) : Expr → Option String
  | .intrinsic (.ref name) => t.parameterText? name
  | .intrinsic (.sub text bindings) =>
    let given := t.staticVariables bindings
    fillStatic (fun name => (lookup? name given).getD (t.parameterText? name))
      (Interpolation.parts text)
  | other => other.literalText?

/-- The texts of the variables beside a text. -/
def staticVariables (t : Template) : List (String × Expr) → List (String × Option String)
  | [] => []
  | (name, item) :: rest => (name, t.staticText? item) :: t.staticVariables rest

end

end Template

namespace RenderContext

/-- Adds a declaration. -/
def declare (d : Declaration) : Rendering Unit :=
  modify fun ds => ds.register d

/-- An element of an expression, on request. -/
def indexed (r : Reference) : Option Nat → Reference
  | some i => r.withIndex i
  | none => r

/-- The resource that a resource of the template became. -/
def mappingOf (c : RenderContext) (logicalId : String) : Except RenderError ResourceMapping :=
  match findMapping? c.mappings logicalId with
  | some m => if (c.template.resource? logicalId).isSome then .ok m else .error (.unresolvedReference logicalId)
  | none => .error (.unresolvedReference logicalId)

/-- Renders a reference to a pseudo parameter, a parameter or a resource. -/
def renderRef (c : RenderContext) (name : String) (index : Option Nat) : Rendering Reference := do
  if name.startsWith "AWS::" then
    match pseudoSource? name with
    | some (type, source, field) =>
      declare (.dataSource ⟨type, source, []⟩)
      return .dataSource type source field true
    | none => throw (.unsupportedPseudoParameter name)
  else
    match c.template.parameter? name with
    | some p =>
      declare (.ofParameter p)
      if p.isStored then return .dataSource "aws_ssm_parameter" name "value" true
      else return .variable name index
    | none =>
      let m ← c.mappingOf name
      return indexed (.direct m.address) index

/-- What stands before the name of an output in an attribute of a nested stack. -/
def outputQualifier : String := "Outputs."

/-- The module output that an attribute of a nested stack became. -/
def moduleOutput? (c : RenderContext) (logicalId field : String) : Option Reference := do
  let output ← Text.dropStart? outputQualifier field
  let module ← c.modules.find? fun m => m.logicalId == logicalId && m.outputs.contains output
  return .module (module.name ++ "." ++ output)

/-- Renders an attribute of a resource. A nested stack that became no module has its outputs in a
map. -/
def renderField (c : RenderContext) (logicalId field : String) : Except RenderError Reference :=
  match c.moduleOutput? logicalId field with
  | some r => .ok r
  | none => do
    let m ← c.mappingOf logicalId
    let name := match Text.dropStart? outputQualifier field with
      | some output => "outputs." ++ output
      | none => (c.table.get m.type).mapAttributeName field
    return .indirect (m.address ++ "." ++ name)

/-- The attribute name that an expression gives. -/
def fieldName (c : RenderContext) : Expr → Except RenderError String
  | .string s => .ok s
  | .intrinsic (.ref name) =>
    match c.template.parameterText? name with
    | some s => .ok s
    | none => .error (.unresolvedReference name)
  | _ => .error (.invalidIntrinsic "Fn::GetAtt" .fieldNotText)

/-- An expression inside a quoted template. One that is a quoted template itself is spliced in. -/
def splice : Reference → String
  | .interpolation body => body
  | r => "$\x7b" ++ r.expression ++ "\x7d"

/-- Renders a placeholder that has no value beside its text. -/
def renderPlaceholder (c : RenderContext) (name : String) : Rendering Reference :=
  match Text.splitOnce? '.' name with
  | some (id, field) =>
    if name.startsWith "AWS::" then c.renderRef name none else c.renderField id field
  | none => c.renderRef name none

/-- Renders the pieces of a text with placeholders. `given` renders the variables beside it. -/
def renderParts (c : RenderContext) (given : String → Option (Rendering String)) :
    List Interpolation.Part → Rendering String
  | [] => return ""
  | .literal text :: rest => do
    let tail ← c.renderParts given rest
    return Text.escape text ++ tail
  | .placeholder name :: rest => do
    let text ← match given name with
      | some rendered => rendered
      | none => splice <$> c.renderPlaceholder name
    let tail ← c.renderParts given rest
    return text ++ tail

/-- The look-up of an exported value. -/
def exportSource (name : String) : DataSource :=
  ⟨"aws_cloudformation_export", Text.label name, [("name", name)]⟩

/-- The look-up of the zones of the region. -/
def zonesSource : DataSource :=
  ⟨"aws_availability_zones", "available", [("state", "available")]⟩

/-- The number that a literal stands for. -/
def literalIndex (e : Expr) (tag : String) (fault : CallFault) : Except RenderError Nat :=
  match e.index? with
  | some n => .ok n
  | none => .error (.invalidIntrinsic tag fault)

/-- The bits by which the prefix of a literal block grows; a computed one is taken to grow by the
bits given. -/
def newBits (block : Expr) (bits : Nat) : Except RenderError Nat :=
  match block with
  | .string s =>
    match subnetBits? s bits with
    | some n => .ok n
    | none => .error (.invalidIntrinsic "Fn::Cidr" (.notBlock s))
  | _ => .ok bits

mutual

/-- Renders a call, or an element of what it stands for. -/
def render (c : RenderContext) (call : Intrinsic) (index : Option Nat) : Rendering Reference :=
  match call with
  | .ref name => c.renderRef name index
  | .getAtt resource field => do
    let field ← c.fieldName field
    return indexed (← c.renderField resource field) index
  | .sub text bindings => do
    let body ← c.renderParts (fun name => c.renderVariable name bindings)
      (Interpolation.parts text)
    return indexed (.interpolation body) index
  | .join delimiter items => do
    let items ← c.renderJoined items
    return indexed (.call "join" [.string delimiter, items]) index
  | .select selector items => do
    let selected ← literalIndex selector "Fn::Select" .indexNotLiteral
    c.renderSelected items selected index
  | .split delimiter source => do
    let source ← c.renderArgument "Fn::Split" source
    return indexed (.call "split" [.string delimiter, source]) index
  | .base64 value => do
    let value ← c.renderArgument "Fn::Base64" value
    return indexed (.call "base64encode" [value]) index
  | .cidr block count bits => do
    let count ← literalIndex count "Fn::Cidr" .countNotLiteral
    let bits ← literalIndex bits "Fn::Cidr" .bitsNotLiteral
    let grown ← newBits block bits
    let block ← c.renderArgument "Fn::Cidr" block
    return indexed (.function "cidrsubnets"
      (block :: List.replicate count (.number (Float.ofNat grown))) index) index
  | .findInMap map top second => do
    let map ← c.renderKey map
    let top ← c.renderKey top
    let second ← c.renderKey second
    return .map ("local.mappings" ++ map ++ top ++ second ++ indexSuffix index)
  | .zones _ => do
    declare (.dataSource zonesSource)
    return .dataSource zonesSource.type zonesSource.name ("names" ++ indexSuffix index) false
  | .importValue name => do
    match c.template.staticText? name with
    | none => throw (.invalidIntrinsic "Fn::ImportValue" .exportNotStatic)
    | some name =>
      let source := exportSource name
      declare (.dataSource source)
      return indexed (.dataSource source.type source.name "value" false) index
  | .unsupported tag => throw (.noRendererFor tag)

/-- Renders what an index selects: an element of what a call stands for, or the call among the items
of a list. -/
def renderSelected (c : RenderContext) (items : Expr) (selected : Nat) (index : Option Nat) :
    Rendering Reference :=
  match items with
  | .intrinsic inner => c.render inner (some selected)
  | .list items => c.renderItem items selected selected items.length index
  | _ => throw (.invalidIntrinsic "Fn::Select" .itemsNotList)

/-- Renders the call at a position of a list; `selected` and `count` are for the message. -/
def renderItem (c : RenderContext) (items : List Expr) (position selected count : Nat)
    (index : Option Nat) : Rendering Reference :=
  match items, position with
  | [], _ => throw (.invalidIntrinsic "Fn::Select" (.indexOutOfRange selected count))
  | .intrinsic inner :: _, 0 => c.render inner index
  | _ :: _, 0 => throw (.invalidIntrinsic "Fn::Select" .literalSelected)
  | _ :: rest, position + 1 => c.renderItem rest position selected count index

/-- Renders the variable with a name beside a text, if there is one. -/
def renderVariable (c : RenderContext) (name : String) :
    List (String × Expr) → Option (Rendering String)
  | [] => none
  | (key, value) :: rest =>
    if key == name then
      some (match value with
        | .intrinsic inner => do return splice (← c.render inner none)
        | literal =>
          match literal.literalText? with
          | some text => return Text.escape text
          | none => throw (.invalidIntrinsic "Fn::Sub" (.variableNotScalar name)))
    else c.renderVariable name rest

def renderJoined (c : RenderContext) : Expr → Rendering Argument
  | .list items => do return .list (← c.renderJoinedItems items)
  | .intrinsic inner => do return .reference (← c.render inner none)
  | _ => throw (.invalidIntrinsic "Fn::Join" .itemsNotList)

/-- Renders the items of a list that is joined; they are texts. -/
def renderJoinedItems (c : RenderContext) : List Expr → Rendering (List Argument)
  | [] => return []
  | item :: rest => do
    let item ← match item with
      | .intrinsic inner => do pure (Argument.reference (← c.render inner none))
      | literal =>
        match literal.literalText? with
        | some text => pure (Argument.string text)
        | none => throw (.invalidIntrinsic "Fn::Join" .itemsNotScalar)
    let rest ← c.renderJoinedItems rest
    return item :: rest

def renderArgument (c : RenderContext) (tag : String) : Expr → Rendering Argument
  | .intrinsic inner => do return .reference (← c.render inner none)
  | .string s => return .string s
  | .number x => return .number x
  | .bool b => return .bool b
  | .null => return .string ""
  | .list items => do return .list (← c.renderArguments tag items)
  | .object _ => throw (.invalidIntrinsic tag .objectArgument)

def renderArguments (c : RenderContext) (tag : String) : List Expr → Rendering (List Argument)
  | [] => return []
  | item :: rest => do
    let item ← c.renderArgument tag item
    let rest ← c.renderArguments tag rest
    return item :: rest

/-- Renders a step into the look-up tables. -/
def renderKey (c : RenderContext) : Expr → Rendering String
  | .string s => return if Text.isIdentifier s then "." ++ s else "[" ++ Text.quote s ++ "]"
  | .intrinsic inner =>
    match inner with
    | .ref name => do return "[" ++ (← c.renderRef name none).expression ++ "]"
    | other => throw (.invalidFindInMapKey (.intrinsic other))
  | value => throw (.invalidFindInMapKey value)

end

end RenderContext

end StackExport
