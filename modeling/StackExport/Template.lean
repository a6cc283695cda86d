import StackExport.Json.Basic
import StackExport.Template.Expr
/-!
Templates: the declarations from which a stack was deployed.
-/
namespace StackExport

structure Parameter where
  name : String
  type : String
  default : Option String
  description : Option String
  /-- True for a value that is not shown. -/
  hidden : Bool
  /-- The value with which the stack was deployed, when it is known. -/
  current : Option String

namespace Parameter

/-- The value of a parameter: the deployed one, or else the default. -/
def value (p : Parameter) : Option String := p.current.or p.default

/-- True for parameters whose value is a list in one text. -/
def isList (p : Parameter) : Bool :=
  p.type == "CommaDelimitedList" || p.type.startsWith "List<"

/-- True for parameters whose value names an entry of the parameter store. -/
def isStored (p : Parameter) : Bool :=
  p.type.startsWith "AWS::SSM::Parameter::Value<"

end Parameter

structure TemplateResource where
  id : String
  type : String
  /-- An object, which may be empty. -/
  properties : Expr
  dependsOn : List String
  condition : Option String

structure TemplateOutput where
  name : String
  value : Expr
  description : Option String

structure Template where
  description : Option String
  parameters : List Parameter
  /-- The look-up tables, by name. -/
  mappings : List (String × Json)
  /-- The names of the conditions. -/
  conditions : List String
  resources : List TemplateResource
  outputs : List TemplateOutput

namespace Template

/-- The template that declares nothing. -/
def empty : Template := ⟨none, [], [], [], [], []⟩

def parameter? (t : Template) (name : String) : Option Parameter :=
  t.parameters.find? (·.name == name)

/-- The resource with an identifier. -/
def resource? (t : Template) (id : String) : Option TemplateResource :=
  t.resources.find? (·.id == id)

/-- Records the values with which the stack was deployed. -/
def withValues (t : Template) (values : List (String × String)) : Template :=
  { t with parameters := t.parameters.map fun p =>
      match lookup? p.name values with
      | some v => { p with current := some v }
      | none => p }

end Template

end StackExport
