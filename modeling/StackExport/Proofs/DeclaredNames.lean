import Mathlib
import StackExport.Proofs.RenderedWords
/-!
Rendered calls name nothing that is not declared behind them.

A word of code names an input variable when it begins with `var` and a name, and a data source when it
begins with `data`, a type and a name.
-/
namespace StackExport.Proofs.DeclaredNames

open StackExport
open StackExport.Proofs.CodeWords
open StackExport.Proofs.ExpressionWords
open StackExport.Proofs.Lexemes
open StackExport.Proofs.NumeralReading
open StackExport.Proofs.ReferenceMeaning
open StackExport.Proofs.RegisteredDeclarations
open StackExport.Proofs.RenderedWords
open StackExport.Proofs.RenderingSteps
open StackExport.Proofs.RenderingIndependence
open StackExport.Proofs.SubstitutionReading
open StackExport.Proofs.TemplatePieces

/-- The parts of a word between its dots. -/
def segments (word : List Char) : List String := Text.splitAt '.' (String.ofList word)

/-- What a word names, if it is a variable or a data source, is among some declarations. -/
structure Declared (ds : Declarations) (word : List Char) : Prop where
  named : ∀ name rest, segments word = "var" :: name :: rest → ds.has ("var." ++ name) = true
  lookedUp : ∀ type name rest, segments word = "data" :: type :: name :: rest →
    ds.has ("data." ++ type ++ "." ++ name) = true

variable {c : RenderContext} {ds : Declarations}

theorem segments_of_not_mem {word : List Char} (h : '.' ∉ word) :
    segments word = [String.ofList word] := by
  rw [segments, Text.splitAt, String.toList_ofList, Text.splitWhere_of_not_mem h,
    List.map_singleton]

theorem segments_append {first : String} (h : '.' ∉ first.toList) (rest : List Char) :
    segments (first.toList ++ '.' :: rest) = first :: segments rest := by
  rw [segments, Text.splitAt, String.toList_ofList, Text.splitWhere_append,
    Text.splitWhere_of_not_mem h, List.singleton_append, List.map_cons, String.ofList_toList,
    segments, Text.splitAt, String.toList_ofList]

theorem exists_first {word : List Char} (h : '.' ∈ word) :
    ∃ (first : String) (rest : List Char), word = first.toList ++ '.' :: rest ∧
      '.' ∉ first.toList := by
  obtain ⟨first, rest, hword, hfirst⟩ := List.eq_append_cons_of_mem h
  refine ⟨String.ofList first, rest, ?_, ?_⟩
  · rw [String.toList_ofList, hword]
  · rwa [String.toList_ofList]

theorem toList_variable (name : String) :
    ("var." ++ name).toList = "var".toList ++ '.' :: name.toList := by
  rw [String.toList_append]
  rfl

theorem toList_dataSource (type name field : String) :
    ("data." ++ type ++ "." ++ name ++ "." ++ field).toList =
      "data".toList ++ '.' :: (type.toList ++ '.' :: (name.toList ++ '.' :: field.toList)) := by
  simp

theorem toList_resource (m : ResourceMapping) (field : String) :
    (m.address ++ "." ++ field).toList =
      m.type.toList ++ '.' :: (m.name.toList ++ '.' :: field.toList) := by
  simp [ResourceMapping.address]

theorem toList_module (path : String) :
    ("module." ++ path).toList = "module".toList ++ '.' :: path.toList := by
  rw [String.toList_append]
  rfl

/-- A word that begins with some other name is of no concern. -/
theorem declared_of_first {first : String} (h : '.' ∉ first.toList)
    (hother : first ≠ "var" ∧ first ≠ "data") (rest : List Char) :
    Declared ds (first.toList ++ '.' :: rest) := by
  constructor
  · intro name tail heq
    rw [segments_append h] at heq
    exact absurd (List.cons.inj heq).1 hother.1
  · intro type name tail heq
    rw [segments_append h] at heq
    exact absurd (List.cons.inj heq).1 hother.2

theorem declared_of_not_mem {word : List Char} (h : '.' ∉ word) : Declared ds word := by
  have hone := segments_of_not_mem h
  constructor
  · intro name rest heq
    rw [hone] at heq
    cases (List.cons.inj heq).2
  · intro type name rest heq
    rw [hone] at heq
    cases (List.cons.inj heq).2

theorem not_dot_of_isName {name : String} (h : IsName name) : '.' ∉ name.toList := by
  intro hdot
  have hcontinues := h '.' hdot
  revert hcontinues
  decide

theorem declared_variable {name : String} (h : IsName name) (hhas : ds.has ("var." ++ name) = true) :
    Declared ds ("var." ++ name).toList := by
  have hsegments : segments ("var." ++ name).toList = ["var", name] := by
    rw [toList_variable, segments_append (by decide), segments_of_not_mem (not_dot_of_isName h),
      String.ofList_toList]
  constructor
  · intro other rest heq
    rw [hsegments] at heq
    cases heq
    exact hhas
  · intro type other rest heq
    rw [hsegments] at heq
    exact absurd (List.cons.inj heq).1 (by decide)

theorem declared_dataSource {type name field : String} (htype : IsName type) (hname : IsName name)
    (hhas : ds.has ("data." ++ type ++ "." ++ name) = true) :
    Declared ds ("data." ++ type ++ "." ++ name ++ "." ++ field).toList := by
  have hsegments : segments ("data." ++ type ++ "." ++ name ++ "." ++ field).toList =
      "data" :: type :: name :: segments field.toList := by
    rw [toList_dataSource, segments_append (by decide),
      segments_append (not_dot_of_isName htype), segments_append (not_dot_of_isName hname)]
  constructor
  · intro other rest heq
    rw [hsegments] at heq
    exact absurd (List.cons.inj heq).1 (by decide)
  · intro other other' rest heq
    rw [hsegments] at heq
    cases heq
    exact hhas

/-- A numeral begins with no letter. -/
theorem declared_numeral {word : List Char} {q : ℚ} (h : numeral? word = some q) :
    Declared ds word := by
  by_cases hdot : '.' ∈ word
  · obtain ⟨first, rest, rfl, hfirst⟩ := exists_first hdot
    refine declared_of_first hfirst ⟨?_, ?_⟩ rest
    · rintro rfl
      cases h
    · rintro rfl
      cases h
  · exact declared_of_not_mem hdot

theorem declared_resource (hnamed : Named c) {m : ResourceMapping} (hm : m ∈ c.mappings)
    (field : String) : Declared ds (m.address ++ "." ++ field).toList := by
  obtain ⟨hname, hnot⟩ := hnamed.types m hm
  rw [toList_resource]
  refine declared_of_first (not_dot_of_isName hname) ⟨?_, ?_⟩ _
  · intro heq
    exact hnot (heq ▸ by decide)
  · intro heq
    exact hnot (heq ▸ by decide)

theorem admits_declared (hnamed : Named c) (ds : Declarations) :
    Admits c (fun a => ds.has a = true) (Declared ds) where
  plain := fun _ => declared_of_not_mem
  hanging := declared_of_first (show '.' ∉ "".toList by decide) (by decide)
  numeral := fun _ _ => declared_numeral
  ofVariable := fun _ => declared_variable
  ofDataSource := fun _ _ _ => declared_dataSource
  ofResource := fun _ => declared_resource hnamed
  ofLookUps := fun rest =>
    declared_of_first (show '.' ∉ "local".toList by decide) (by decide) ("mappings".toList ++ rest)
  ofModule := fun path => by
    rw [toList_module]
    exact declared_of_first (by decide) (by decide) _

/-- Rendering keeps the declarations that there were and their addresses apart, and whatever the
expression names as a variable or as a data source is declared behind it. The latter takes names of the
configuration language, and substitutions in which no sign meets a brace. -/
theorem rendered_names_declared (c : RenderContext) (call : Intrinsic) (index : Option Nat)
    (ds ds' : Declarations) (r : Reference) (h : (c.render call index).run ds = (.ok r, ds')) :
    ds <+: ds' ∧
      ((ds.map Declaration.address).Nodup → (ds'.map Declaration.address).Nodup) ∧
      (Named c → Legible c call →
        ∀ word ∈ words (lexemes r.expression), Declared ds' word) := by
  have hadded : ds' = registerAll ds (requested c call index) := by
    rw [← snd_run_render, h]
  refine ⟨?_, ?_, fun hnamed hlegible => ?_⟩
  · rw [hadded]
    exact prefix_registerAll ds _
  · rw [hadded]
    intro hnodup
    exact nodup_registerAll hnodup _
  · have hwrites := writes_render (admits_declared hnamed ds') hnamed call index hlegible
    have hreads := (hwrites ds r ds' h fun _ => id).1
    exact (allWords_iff _).mp (hreads.words [])

def regionText : Intrinsic := .base64 (.intrinsic (.sub "in $\x7bAWS::Region\x7d" []))

def regionSource : Declaration := .dataSource ⟨"aws_region", "current", []⟩

theorem legible_regionText : Legible undeclared regionText := by
  have hpieces : callPieces undeclared (.sub "in $\x7bAWS::Region\x7d" []) =
      some [.literal "in ", .live "data.aws_region.current.name"] := by cbv
  have hparts : Interpolation.parts "in $\x7bAWS::Region\x7d" =
      [.literal "in ", .placeholder "AWS::Region"] := by cbv
  have hwhole : Text.splitOnce? '.' "AWS::Region" = none := by decide
  refine ⟨?_, ?_, trivial⟩
  · intro ps hps
    obtain rfl := Option.some.inj (hpieces.symm.trans hps)
    exact ⟨by decide, by decide, trivial⟩
  · intro name id field hname hsplit
    rw [hparts] at hname
    obtain rfl : name = "AWS::Region" := by simpa using hname
    rw [hwhole] at hsplit
    cases hsplit

theorem rendered_names_declared_region :
    ∃ r, (undeclared.render regionText none).run [] = (.ok r, [regionSource]) ∧
      r.expression = "base64encode(\"in $\x7bdata.aws_region.current.name\x7d\")" ∧
      ∀ word ∈ words (lexemes r.expression), Declared [regionSource] word := by
  have hrun : (undeclared.render regionText none).run [] =
      (.ok (.function "base64encode"
        [.reference (.interpolation "in $\x7bdata.aws_region.current.name\x7d")] none),
        [regionSource]) := by cbv
  have hnamed : Named undeclared := ⟨List.forall_mem_nil _, List.forall_mem_nil _⟩
  exact ⟨_, hrun, by decide,
    (rendered_names_declared _ _ none _ _ _ hrun).2.2 hnamed legible_regionText⟩

/-- The brace of a variable's value opens a live sequence behind the sign of the text, so the value
names a variable that no declaration is for. -/
theorem undeclared_name_alive :
    (undeclared.render (.sub "$$\x7bX\x7d" [("X", .string "\x7bvar.Ghost\x7d")]) none).run [] =
        (.ok (.interpolation "$\x7bvar.Ghost\x7d"), []) ∧
      "var.Ghost".toList ∈
        words (lexemes (Reference.interpolation "$\x7bvar.Ghost\x7d").expression) ∧
      ¬Declared [] "var.Ghost".toList := by
  refine ⟨by cbv, by decide, fun h => ?_⟩
  cases h.named "Ghost" [] (by decide)

end StackExport.Proofs.DeclaredNames
