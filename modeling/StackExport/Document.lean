import StackExport.Emitter
import StackExport.Locals
import StackExport.Output
import StackExport.Provider
import StackExport.Resolution
import StackExport.Resource.Events
import StackExport.Script
import StackExport.Settings
import StackExport.State
import StackExport.Template.Dependency
/-!
The documents of an export: the configuration and the file of variable values.

The configuration is written in a fixed order: the provider, declarations, look-up tables, resources
and outputs. A resource that cannot be written is reported and left out.
-/
namespace StackExport

/-- The documents of an export. -/
structure Documents where
  main : String
  assignments : String
  diagnostics : Diagnostics

/-- What is known about the exported stack. -/
structure StackInputs where
  template : Template
  state : State
  mappings : List ResourceMapping
  modules : List NestedModule

/-- What decides over the text of resources. -/
structure Rulebook where
  table : TraitTable
  schema : ProviderSchema

/-- A resource of the state, the pair that it belongs to and its attributes. -/
structure StackEntry where
  resource : StateResource
  mapping : Option ResourceMapping
  attributes : AttributeTree

/-- The attributes of a resource of the state, as a tree. -/
def StateResource.tree (r : StateResource) : AttributeTree :=
  (r.attributes.map AttributeTree.ofJson).getD .null

namespace StackEntry

def ofResource (mappings : List ResourceMapping) (r : StateResource) : StackEntry where
  resource := r
  mapping := mappings.find? fun m => m.type == r.type && m.name == r.name
  attributes := r.tree

/-- The place of an entry among the resources of the template; those that are not in it come last. -/
def rank (order : List String) (e : StackEntry) : Nat :=
  match e.mapping with
  | some m => (order.findIdx? (· == m.logicalId)).getD order.length
  | none => order.length

/-- What evaluation knows about an entry. -/
def live? (e : StackEntry) : Option (String × LiveResource) :=
  e.mapping.map fun m => (m.logicalId, ⟨m.type, m.physicalId, some e.attributes⟩)

end StackEntry

/-- The warning about a pair whose resource the state lacks. -/
def missingWarning (m : ResourceMapping) : Diagnostic :=
  .warning (some m.address) "resource not found in state"
    (m.logicalId ++ " (" ++ m.sourceType ++ ") was not imported")

namespace StackInputs

/-- The entries for the resources of a module, in the order of the state. -/
def foundEntries (i : StackInputs) (module : Option String) : List StackEntry :=
  (i.state.managed module).map (StackEntry.ofResource i.mappings)

/-- The warnings about pairs without an entry. -/
def missingWarnings (i : StackInputs) (module : Option String) : Diagnostics :=
  (i.mappings.filter fun m => !(i.foundEntries module).any (·.mapping == some m)).map
    missingWarning

/-- The entries for the resources of a module, each after those that it depends on. -/
def entries (i : StackInputs) (module : Option String) : List StackEntry :=
  let order := i.template.resourceOrder
  (i.foundEntries module).mergeSort fun a b => a.rank order ≤ b.rank order

/-- The stack that the entries make up. -/
def stackOf (i : StackInputs) (table : TraitTable) (pseudo : PseudoValues)
    (entries : List StackEntry) : Stack where
  template := i.template
  pseudo := pseudo
  table := table
  resources := mergeEntries (entries.filterMap StackEntry.live?)
  exports := []

end StackInputs

def Rulebook.events (rules : Rulebook) (r : StateResource) (attributes : AttributeTree) :
    List Event :=
  (Resource.Rules.mk (rules.table.get r.type) (rules.schema.resourceSchema r.type)).events
    r.type r.name attributes

/-- The events of the managed resources of a module. -/
def State.events (s : State) (rules : Rulebook) (module : Option String) : List Event :=
  (s.managed module).flatMap fun r => rules.events r r.tree

/-- The configuration under way: the resources written so far, the declarations that they need and
what there is to report. -/
structure Assembly where
  emitter : Emitter
  declarations : Declarations
  diagnostics : Diagnostics

namespace Assembly

/-- Writes the resource of an entry. -/
def add (rules : Rulebook) (c : RenderContext) (s : Stack) (a : Assembly) (e : StackEntry) :
    Assembly :=
  let resolved := match e.mapping with
    | some m => resolve c s m (rules.table.get e.resource.type) e.attributes a.declarations
    | none => ⟨e.attributes, a.declarations, [], 0⟩
  let (emitter, faults) := a.emitter.emitAll (rules.events e.resource resolved.attributes)
  ⟨emitter, resolved.declarations, a.diagnostics ++ resolved.warnings ++ faults⟩

/-- The text of the resources, and the diagnostic for one that is left open. -/
def finish (a : Assembly) : String × Diagnostics :=
  match a.emitter.finish with
  | .ok text => (text, [])
  | .error fault => (a.emitter.text, [Emitter.diagnosticOf fault])

end Assembly

def writeDocuments (rules : Rulebook) (settings : Settings) (i : StackInputs) :
    Except Provider.ConfigError Documents := do
  let provider ← Provider.block settings.region
    (if settings.addDefaultTag then some settings.stackName else none)
  let entries := i.entries settings.module
  let stack := i.stackOf rules.table settings.pseudoValues entries
  let context : RenderContext := ⟨i.template, i.mappings, rules.table, i.modules⟩
  let assembly := entries.foldl (Assembly.add rules context stack)
    ⟨.fresh rules.table, .ofTemplate i.template, i.missingWarnings settings.module⟩
  let (resources, faults) := assembly.finish
  let outputs := String.join ((resolveOutputs i.mappings stack).map fun o => o.block ++ "\n")
  let main := provider ++ assembly.declarations.blocks ++ Locals.block i.template.mappings ++
    resources ++ outputs
  let (script, replaced) := (Script.ofText main).referToAll assembly.declarations.inputs
  return {
    main := if 0 < replaced then script.text else main
    assignments := assembly.declarations.assignments settings.stackName
    diagnostics := assembly.diagnostics ++ faults }

end StackExport
