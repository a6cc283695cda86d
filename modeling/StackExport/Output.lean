import StackExport.Mapping
import StackExport.Template.Evaluation
/-!
The outputs of a configuration.
-/
namespace StackExport

/-- An output and the expression that it shows. -/
structure OutputValue where
  name : String
  reference : String
  description : Option String
deriving DecidableEq, Repr

def OutputValue.block (o : OutputValue) : String :=
  let description := match o.description with
    | some d => "  description = " ++ Text.quote d ++ "\n"
    | none => ""
  "output " ++ Text.quote o.name ++ " \x7b\n  value = " ++ o.reference ++ "\n" ++ description ++
    "\x7d\n"

/-- The output of the configuration for an output of the template, if that refers to a resource. A
reference that stands for a resource name of the provider shows the attribute that holds the name. -/
def outputValue? (mappings : List ResourceMapping) (s : Stack) (o : TemplateOutput) :
    Option OutputValue :=
  match o.value with
  | .intrinsic (.ref name) =>
    (findMapping? mappings name).map fun m =>
      let isName := match s.evaluateText o.value with
        | some text => text.startsWith "arn:"
        | none => false
      { name := o.name
        reference := m.address ++ if isName then ".arn" else ".id"
        description := o.description.filter fun d => !d.isEmpty }
  | _ => none

/-- The outputs of the configuration. -/
def resolveOutputs (mappings : List ResourceMapping) (s : Stack) : List OutputValue :=
  s.template.outputs.filterMap (outputValue? mappings s)

end StackExport
