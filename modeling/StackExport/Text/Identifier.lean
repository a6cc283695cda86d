import StackExport.Text.Quoted
/-!
Names as the configuration language writes them: bare identifiers, object keys and block labels.
-/
namespace StackExport.Text

def isNameStart (c : Char) : Bool :=
  c.isAlpha || c == '_'

/-- A character that may follow the first one of a bare identifier. -/
def isNameRest (c : Char) : Bool :=
  c.isAlphanum || c == '_' || c == '-'

/-- Words that read as values when they are left bare. -/
def keywords : List String := ["true", "false", "null"]

/-- True when a name may stand without quotes. -/
def isIdentifier (s : String) : Bool :=
  !keywords.contains s &&
    match s.toList with
    | [] => false
    | c :: rest => isNameStart c && rest.all isNameRest

/-- The key of an object entry, quoted where a bare name would not be read as one. -/
def objectKey (key : String) : String :=
  if isIdentifier key then key else quote key

/-- The characters of a block label: what a name may not hold becomes an underscore, and so does
the missing start of a name. -/
def labelChars (cs : List Char) : List Char :=
  let kept := cs.map fun c => if isNameRest c then c else '_'
  match kept with
  | c :: _ => if isNameStart c then kept else '_' :: kept
  | [] => ['_']

/-- A block label made from any name. -/
def label (name : String) : String :=
  String.ofList (labelChars name.toList)

end StackExport.Text
