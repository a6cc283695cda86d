import StackExport.Json.Record
import StackExport.Pseudo
/-!
What is exported, and from where.
-/
namespace StackExport

/-- The settings of an export. -/
structure Settings where
  stackName : String
  region : String
  accountId : String
  /-- Takes the place of the partition that belongs to the region. -/
  partition : Option String
  /-- Tags all resources with the name of the stack. -/
  addDefaultTag : Bool
  maxRepairRounds : Nat
  /-- The module that is exported; none is the root module. -/
  module : Option String
  workspace : String

namespace Settings

/-- The number of repair rounds where none is given. -/
def defaultRepairRounds : Nat := 3

/-- Reads settings. -/
def ofDraft? (draft : Json.Draft) : Option Settings := do
  let fields ← draft.record? ["stackName", "region", "accountId", "partition", "addDefaultTag",
    "maxRepairRounds", "module", "workspace"]
  return {
    stackName := ← Json.required? fields "stackName" Json.text?
    region := ← Json.required? fields "region" Json.text?
    accountId := ← Json.required? fields "accountId" Json.text?
    partition := ← Json.defaulted? fields "partition" none (Json.nullable? Json.text?)
    addDefaultTag := ← Json.defaulted? fields "addDefaultTag" false Json.bool?
    maxRepairRounds :=
      ← Json.defaulted? fields "maxRepairRounds" defaultRepairRounds (Json.word? 64)
    module := ← Json.defaulted? fields "module" none (Json.nullable? Json.text?)
    workspace := ← Json.defaulted? fields "workspace" "" Json.text? }

/-- Reads settings from a value. -/
def ofJson? (json : Json) : Option Settings := ofDraft? (.ofJson json)

/-- Reads the settings that a text holds. -/
def parse? (text : String) : Option Settings := Json.parseRecord? ofDraft? text

/-- The pseudo parameters of the exported stack. -/
def pseudoValues (s : Settings) : PseudoValues :=
  let values := PseudoValues.ofRegion s.region s.accountId s.stackName
  match s.partition with
  | some partition => { values with partition := partition }
  | none => values

end Settings

end StackExport
