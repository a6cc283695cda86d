import StackExport.Validation
/-!
The command line of an export: its options, and a run over given files.
-/
namespace StackExport.CommandLine

/-- The options that name a file or directory. -/
def pathOptions : List String :=
  ["template", "state", "mappings", "parameters", "schema", "traits", "out-dir", "terraform"]

/-- The options whose value is any text. -/
def textOptions : List String := ["stack-name", "region", "account-id", "partition", "module"]

/-- The option whose value is a number. -/
def roundsOption : String := "max-repair-rounds"

/-- The options that take no value. -/
def switches : List String := ["add-default-tag", "no-validate"]

/-- The options given so far: those with a value, and those without. -/
structure Given where
  values : List (String × String)
  switches : List String

/-- The options of an export. -/
structure Options where
  template : String
  state : String
  mappings : String
  parameters : Option String
  schema : Option String
  traits : Option String
  outDir : String
  settings : Settings
  validate : Bool
  tool : String

inductive Command where
  | help
  | version
  | misuse
  | run (options : Options)

def takesValue (name : String) : Bool :=
  pathOptions.contains name || textOptions.contains name || name == roundsOption

/-- True for a value that an option may have. -/
def accepts (name value : String) : Bool :=
  if pathOptions.contains name then !value.isEmpty
  else if name == roundsOption then (Decimal.word? value).isSome
  else true

namespace Given

/-- Takes an option with a value; none may be given twice. -/
def withValue (g : Given) (name value : String) : Option Given :=
  if accepts name value && (lookup? name g.values).isNone then
    some { g with values := g.values ++ [(name, value)] }
  else none

/-- Takes an option without a value; none may be given twice. -/
def withSwitch (g : Given) (name : String) : Option Given :=
  if g.switches.contains name then none else some { g with switches := name :: g.switches }

/-- The settings that the options make up. -/
def settings? (g : Given) : Option Settings := do
  return {
    stackName := ← lookup? "stack-name" g.values
    region := ← lookup? "region" g.values
    accountId := ← lookup? "account-id" g.values
    partition := lookup? "partition" g.values
    addDefaultTag := g.switches.contains "add-default-tag"
    maxRepairRounds := ((lookup? roundsOption g.values).bind Decimal.word?).getD
      Settings.defaultRepairRounds
    module := lookup? "module" g.values
    workspace := (lookup? "out-dir" g.values).getD "." }

/-- The options of an export, if none is missing. -/
def options? (g : Given) : Option Options := do
  return {
    template := ← lookup? "template" g.values
    state := ← lookup? "state" g.values
    mappings := ← lookup? "mappings" g.values
    parameters := lookup? "parameters" g.values
    schema := lookup? "schema" g.values
    traits := lookup? "traits" g.values
    outDir := (lookup? "out-dir" g.values).getD "."
    settings := ← g.settings?
    validate := !g.switches.contains "no-validate"
    tool := (lookup? "terraform" g.values).getD "terraform" }

end Given

/-- An argument as it is written. -/
inductive Argument where
  /-- An option, with the value that is written behind an equals sign. -/
  | option (name : String) (value : Option String)
  /-- The mark behind which no options stand. -/
  | endOfOptions
  | other

/-- Reads an argument. A short option has one letter, and its value may follow at once. -/
def Argument.ofText (text : String) : Argument :=
  match text.toList with
  | ['-', '-'] => .endOfOptions
  | '-' :: '-' :: rest =>
    match Text.splitOnce? '=' (String.ofList rest) with
    | some (name, value) => .option name (some value)
    | none => .option (String.ofList rest) none
  | '-' :: 'h' :: _ => .option "help" none
  | '-' :: 'V' :: _ => .option "version" none
  | ['-', 'o'] => .option "out-dir" none
  | '-' :: 'o' :: '=' :: rest => .option "out-dir" (some (String.ofList rest))
  | '-' :: 'o' :: rest => .option "out-dir" (some (String.ofList rest))
  | _ => .other

/-- True for an argument that may be the value of the option before it. -/
def isValue (text : String) : Bool := text == "-" || !text.startsWith "-"

/-- Takes arguments one by one. -/
def parseFrom (g : Given) : List String → Command
  | [] =>
    match g.options? with
    | some o => .run o
    | none => .misuse
  | arg :: rest =>
    match Argument.ofText arg with
    | .other => .misuse
    | .endOfOptions => if rest.isEmpty then parseFrom g rest else .misuse
    | .option name (some value) =>
      if takesValue name then
        match g.withValue name value with
        | some g => parseFrom g rest
        | none => .misuse
      else .misuse
    | .option name none =>
      if name == "help" then .help
      else if name == "version" then .version
      else if switches.contains name then
        match g.withSwitch name with
        | some g => parseFrom g rest
        | none => .misuse
      else
        match rest with
        | value :: rest =>
          if takesValue name && isValue value then
            match g.withValue name value with
            | some g => parseFrom g rest
            | none => .misuse
          else .misuse
        | [] => .misuse

def parse (args : List String) : Command := parseFrom ⟨[], []⟩ args

/-! ### Runs -/

/-- How a run ended: a fault, or the diagnostics of an export. -/
abbrev Ending := Except ExportError Diagnostics

namespace Options

/-- What the files contain that the options name. -/
def inputTexts (o : Options) (read : String → Option String) : InputTexts where
  template := read o.template
  state := read o.state
  mappings := read o.mappings
  parameters := o.parameters.map read
  schema := o.schema.map read
  traits := o.traits.map read

/-- Validates and repairs the configuration, if that is asked for. -/
def validated (o : Options) (tool : Tool) (directory : List String) (r : ExportResult)
    (w : Workspace) : Except ExportError ExportResult × Workspace :=
  if o.validate then
    let (result, session) :=
      r.repair o.settings (Session.compiler tool o.tool directory) ⟨w, false⟩
    (result, session.workspace)
  else (.ok r, w)

/-- Exports a stack from the files of a workspace, in a directory from which paths are read. -/
def run (o : Options) (tool : Tool) (directory : List String) (w : Workspace) :
    Ending × Workspace :=
  let texts := o.inputTexts fun path => w.read? (Workspace.resolve directory path)
  let outDir := Workspace.resolve directory o.outDir
  match texts.load with
  | .error e => (.error (.input e), w)
  | .ok inputs =>
    match ExportResult.ofInputs o.settings inputs with
    | .error e => (.error e, w)
    | .ok result =>
      match o.validated tool outDir result w with
      | (.error e, w) => (.error e, w)
      | (.ok result, w) =>
        match result.save w outDir o.outDir with
        | .error e => (.error e, w)
        | .ok w => (.ok result.diagnostics, w)

end Options

namespace Ending

/-- The status with which the program ends. -/
def status : Ending → Nat
  | .error _ => 1
  | .ok ds => if Diagnostics.hasErrors ds then 2 else 0

/-- What the program reports at the end of an export. -/
def report : Ending → String
  | .error _ => ""
  | .ok ds =>
    String.join (ds.map fun d => d.display ++ "\n") ++ toString ds.length ++ " diagnostic(s), " ++
      toString (Diagnostics.errorCount ds) ++ " error(s)\n"

end Ending

end StackExport.CommandLine
