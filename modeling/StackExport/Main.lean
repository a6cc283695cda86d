import StackExport.CommandLine
/-!
The program: it reads the files that the command line names, exports the stack, and writes the
documents and the report.
-/
namespace StackExport.CommandLine

/-- How the program is called. -/
def usage : String :=
  "Export a deployed CloudFormation stack as Terraform configuration\n\n" ++
  "Options: " ++
  String.intercalate ", " ((pathOptions ++ textOptions ++ [roundsOption] ++ switches).map
    fun name => "--" ++ name) ++ ", --help, --version\n"

/-- The paths of the files that an export reads. -/
def Options.paths (o : Options) : List String :=
  [o.template, o.state, o.mappings] ++ o.parameters.toList ++ o.schema.toList ++ o.traits.toList

def readFiles (directory : List String) (paths : List String) : IO Workspace := do
  let mut files := []
  for path in paths do
    try
      files := (Workspace.resolve directory path, ← IO.FS.readFile path) :: files
    catch _ => pure ()
  return ⟨files⟩

/-- The path that segments make up. -/
def pathText (segments : List String) : String :=
  "/" ++ String.intercalate "/" segments

def writeFiles (before after : Workspace) : IO Unit := do
  for (path, text) in after.files do
    if before.read? path != some text then
      IO.FS.createDirAll (pathText path.dropLast)
      IO.FS.writeFile (pathText path) text

/-- Programs are not started from here, so a configuration can be exported but not validated. -/
def noTool : Tool := fun _ _ _ => .error "this program starts no others"

/-- Exports a stack, and gives the status to end with. -/
def Options.execute (o : Options) : IO UInt32 := do
  let directory := Workspace.resolve [] (toString (← IO.currentDir))
  let before ← readFiles directory o.paths
  let (ending, after) := o.run noTool directory before
  writeFiles before after
  match ending with
  | .error e => IO.eprintln e.message
  | .ok _ => IO.eprint ending.report
  return ending.status.toUInt32

end StackExport.CommandLine

open StackExport in
def main (args : List String) : IO UInt32 := do
  match CommandLine.parse args with
  | .help =>
    IO.print CommandLine.usage
    return 0
  | .version =>
    IO.println "0.3.0"
    return 0
  | .misuse =>
    IO.eprint CommandLine.usage
    return 2
  | .run options =>
    try
      options.execute
    catch _ => return 1
