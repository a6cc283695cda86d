import StackExport.Grammar.Body
import StackExport.Repair.Loop
/-!
Finding the line of a configuration that breaks its grammar.
-/
namespace StackExport.Grammar

/-- The steps that reading a text may take one inside the other. Between two characters of it a
rule leads to the next one in fewer steps than the factor says. -/
def stepBound (text : List Char) : Nat := 16 * (text.length + 1)

/-- The text from the place on that breaks the grammar. -/
def broken? (text : List Char) : Option (List Char) :=
  match Rule.configuration (stepBound text) ⟨text, []⟩ with
  | .found _ ⟨[], _⟩ => none
  | .found _ ⟨ahead, _⟩ => some ahead
  | .retreat => some text
  | .stop ahead => some ahead

/-- The number of the line in which reading stops, counted from one on. At the end of the text that
is the line of the last character. -/
def lineOfStop (text rest : List Char) : Nat :=
  (text.take (min (text.length - rest.length) (text.length - 1))).count '\n' + 1

/-- The number of the line at which a configuration breaks its grammar. -/
def brokenLine? (document : String) : Option Nat :=
  let text := document.toList
  (broken? text).map (lineOfStop text)

/-- The report about a configuration that breaks its grammar. -/
def problems (filename document : String) : List Problem :=
  match brokenLine? document with
  | some line =>
    [(Problem.error "Missing attribute separator" "unexpected text").inLines filename line line]
  | none => []

/-- Compiles a document by checking its grammar only. -/
def compiler {σ : Type} (filename : String) : TrialCompiler σ := fun s document =>
  (.ok (problems filename document), s)

end StackExport.Grammar
