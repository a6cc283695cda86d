import StackExport.Json.Basic
import StackExport.Text.Identifier
/-!
The look-up tables of a template as a local value of the configuration.
-/
namespace StackExport.Locals

def indent (level : Nat) : String := String.join (List.replicate level "  ")

mutual

/-- A value as a literal that starts at a level. -/
def literal (level : Nat) : Json → String
  | .null => "null"
  | .bool b => toString b
  | .number n => n.configText
  | .string s => Text.quote s
  | .array items =>
    if items.isEmpty then "[]" else "[\n" ++ itemLines (level + 1) items ++ indent level ++ "]"
  | .object entries =>
    if entries.isEmpty then "\x7b\x7d"
    else "\x7b\n" ++ entryLines (level + 1) entries ++ indent level ++ "\x7d"

def itemLines (level : Nat) : List Json → String
  | [] => ""
  | item :: rest => indent level ++ literal level item ++ ",\n" ++ itemLines level rest

/-- The lines of an object's entries. -/
def entryLines (level : Nat) : List (String × Json) → String
  | [] => ""
  | (key, item) :: rest =>
    indent level ++ Text.objectKey key ++ " = " ++ literal level item ++ "\n" ++
      entryLines level rest

end

/-- The block that holds the tables; without tables there is none. -/
def block (tables : List (String × Json)) : String :=
  if tables.isEmpty then ""
  else "locals \x7b\n  mappings = " ++ literal 1 (.object tables) ++ "\n\x7d\n\n"

end StackExport.Locals
