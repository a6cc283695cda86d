import Mathlib
import StackExport.Proofs.CodeWords
import StackExport.Proofs.NumeralReading
import StackExport.Proofs.ReferenceMeaning
/-!
The words of expressions.

The words of a call are those of its arguments, and the words of references are paths: of variables,
data sources, resources of the mappings, modules and the look-up tables. A property that all these
have is one that all words of an expression have which is put together from them.
-/
namespace StackExport.Proofs.ExpressionWords

open StackExport
open StackExport.RenderContext
open StackExport.Proofs.CodeWords
open StackExport.Proofs.NumeralReading
open StackExport.Proofs.ReferenceMeaning

/-! ### What words may be written -/

def IsName (name : String) : Prop := ∀ l ∈ name.toList, Grammar.continuesName l = true

/-- The parameters and the types of resources have names of the configuration language. -/
structure Named (c : RenderContext) : Prop where
  parameters : ∀ p ∈ c.template.parameters, IsName p.name
  types : ∀ m ∈ c.mappings, IsName m.type ∧ m.type ∉ qualifiers

/-- A property of words that all those have which rendering may write when the addresses in `D` are
declared. -/
structure Admits (c : RenderContext) (D : String → Prop) (P : List Char → Prop) : Prop where
  plain : ∀ w, '.' ∉ w → P w
  /-- What stands behind a bracket. -/
  hanging : ∀ w, P ('.' :: w)
  numeral : ∀ w q, numeral? w = some q → P w
  ofVariable : ∀ name, IsName name → D ("var." ++ name) → P ("var." ++ name).toList
  ofDataSource : ∀ type name field, IsName type → IsName name → D ("data." ++ type ++ "." ++ name) →
    P ("data." ++ type ++ "." ++ name ++ "." ++ field).toList
  ofResource : ∀ m ∈ c.mappings, ∀ field, P (m.address ++ "." ++ field).toList
  ofLookUps : ∀ rest, P ("local.mappings".toList ++ rest)
  ofModule : ∀ path, P ("module." ++ path).toList

theorem Admits.nil {c : RenderContext} {D : String → Prop} {P : List Char → Prop}
    (h : Admits c D P) : P [] := h.plain [] nofun

variable {c : RenderContext} {D : String → Prop} {P : List Char → Prop}

def IsPath (path : String) : Prop := ∀ l ∈ path.toList, isWordChar l = true

theorem isPath_of_isName {name : String} (h : IsName name) : IsPath name := by
  intro l hl
  rw [isWordChar, h l hl, Bool.true_or]

theorem isPath_append {a b : String} (ha : IsPath a) (hb : IsPath b) : IsPath (a ++ b) := by
  intro l hl
  rw [String.toList_append, List.mem_append] at hl
  exact hl.elim (ha l) (hb l)

theorem isPath_dot : IsPath "." := by
  intro l hl
  have hl : l ∈ ['.'] := hl
  obtain rfl := List.mem_singleton.mp hl
  rw [isWordChar, beq_self_eq_true, Bool.or_true]

theorem isName_of_isNameRest {name : String} (h : ∀ l ∈ name.toList, Text.isNameRest l = true) :
    IsName name := fun l hl => LiteralReading.continuesName_of_isNameRest (h l hl)

theorem isName_of_all {name : String} (h : name.toList.all Text.isNameRest = true) : IsName name :=
  isName_of_isNameRest (List.all_eq_true.mp h)

theorem isName_label (name : String) : IsName (Text.label name) :=
  isName_of_isNameRest (isNameRest_of_label name)

theorem isPath_of_isWord {text : String} (h : text.toList.all IsWord = true) : IsPath text := by
  intro l hl
  have hword := List.all_eq_true.mp h l hl
  unfold IsWord at hword
  unfold isWordChar
  rcases Bool.or_eq_true_iff.mp hword with hname | hdot
  · rw [LiteralReading.continuesName_of_isNameRest hname, Bool.true_or]
  · rw [hdot, Bool.or_true]

theorem reads_path {path : String} (h : IsPath path) (hP : P path.toList) : Reads P path.toList :=
  reads_word h hP

/-! ### Expressions made of others -/

abbrev ReadsText (P : List Char → Prop) (text : String) : Prop := Reads P text.toList

theorem readsText_indexSuffix (h : Admits c D P) {text : String} (ht : ReadsText P text)
    (index : Option Nat) : ReadsText P (text ++ indexSuffix index) := by
  cases index with
  | none => simpa [indexSuffix] using ht
  | some i =>
      have hdigits : Reads P (toString i).toList := by
        have hword := all_isWord_int i
        have hdot : '.' ∉ (toString i).toList := by
          intro hmem
          have hdigit := Nat.isDigit_of_mem_toDigits (by decide) (by decide)
            (show '.' ∈ Nat.toDigits 10 i by simpa using hmem)
          cases hdigit
        exact reads_path (isPath_of_isWord hword) (h.plain _ hdot)
      have hsuffix := ht.separated (c := '[') (by decide)
        (hdigits.separated (c := ']') (by decide) (reads_nil h.nil))
      have htext : (text ++ indexSuffix (some i)).toList =
          text.toList ++ '[' :: ((toString i).toList ++ [']']) := by
        simp [indexSuffix]
      rw [ReadsText, htext]
      exact hsuffix

theorem readsText_list (h : Admits c D P) {texts : List String}
    (ht : ∀ text ∈ texts, ReadsText P text) : ReadsText P (String.intercalate ", " texts) := by
  induction texts with
  | nil => exact reads_nil h.nil
  | cons text texts ih =>
      cases texts with
      | nil => simpa using ht text List.mem_cons_self
      | cons next texts =>
          have hrest := ih fun t hmem => ht t (List.mem_cons_of_mem _ hmem)
          have hall := (ht text List.mem_cons_self).separated (c := ',') (by decide)
            ((reads_nil h.nil).separated (c := ' ') (by decide) hrest)
          have htext : (String.intercalate ", " (text :: next :: texts)).toList = text.toList ++
              ',' :: ([] ++ ' ' :: (String.intercalate ", " (next :: texts)).toList) := by
            rw [String.intercalate_cons_cons, String.toList_append, String.toList_append]
            simp
          rw [ReadsText, htext]
          exact hall

theorem expressions_eq_map (args : List Argument) :
    Argument.expressions args = args.map Argument.expression := by
  induction args with
  | nil => rfl
  | cons arg args ih => rw [Argument.expressions, ih, List.map_cons]

abbrev ReadsArgument (P : List Char → Prop) (arg : Argument) : Prop := ReadsText P arg.expression

theorem readsText_arguments (h : Admits c D P) {args : List Argument}
    (hargs : ∀ arg ∈ args, ReadsArgument P arg) :
    ReadsText P (String.intercalate ", " (Argument.expressions args)) := by
  rw [expressions_eq_map]
  refine readsText_list h fun text htext => ?_
  obtain ⟨arg, harg, rfl⟩ := List.mem_map.mp htext
  exact hargs arg harg

theorem readsArgument_list (h : Admits c D P) {items : List Argument}
    (hitems : ∀ item ∈ items, ReadsArgument P item) : ReadsArgument P (.list items) := by
  have hinner := readsText_arguments h hitems
  have hall := (reads_nil h.nil).separated (c := '[') (by decide)
    (hinner.separated (c := ']') (by decide) (reads_nil h.nil))
  have htext : (Argument.list items).expression.toList = [] ++
      '[' :: ((String.intercalate ", " (Argument.expressions items)).toList ++ [']']) := by
    rw [Argument.expression, String.toList_append, String.toList_append]
    simp
  rw [ReadsArgument, ReadsText, htext]
  exact hall

theorem readsArgument_string (h : Admits c D P) (s : String) : ReadsArgument P (.string s) :=
  reads_quote h.nil s

theorem readsText_word (h : Admits c D P) {word : String}
    (hword : word.toList.all Text.isNameRest = true) : ReadsText P word := by
  exact reads_path (isPath_of_isName (isName_of_all hword))
    (h.plain _ (not_dot_of_isNameRest (List.all_eq_true.mp hword)))

theorem format_cases (x : Float) :
    (∃ q, numeral? (Decimal.format x).toList = some q) ∨
      Decimal.format x ∈ ["NaN", "inf", "-inf"] :=
  configText_cases (.float x)

theorem readsArgument_number (h : Admits c D P) (x : Float) : ReadsArgument P (.number x) := by
  have hpath : IsPath (Decimal.format x) := isPath_of_isWord (all_isWord_configText (.float x))
  rw [ReadsArgument, Argument.expression]
  rcases format_cases x with ⟨q, hq⟩ | hword
  · exact reads_path hpath (h.numeral _ q hq)
  · refine reads_path hpath (h.plain _ ?_)
    revert hword
    generalize Decimal.format x = text
    revert text
    decide

theorem readsArgument_bool (h : Admits c D P) (b : Bool) : ReadsArgument P (.bool b) := by
  cases b with
  | true => exact readsText_word h (by decide : "true".toList.all Text.isNameRest = true)
  | false => exact readsText_word h (by decide : "false".toList.all Text.isNameRest = true)

theorem reads_function (h : Admits c D P) {name : String}
    (hname : name.toList.all Text.isNameRest = true)
    {args : List Argument} (hargs : ∀ arg ∈ args, ReadsArgument P arg) (index : Option Nat) :
    ReadsText P (Reference.function name args index).expression := by
  have hcall := (readsText_word h hname).separated (c := '(') (by decide)
    ((readsText_arguments h hargs).separated (c := ')') (by decide) (reads_nil h.nil))
  have htext : (name ++ "(" ++ String.intercalate ", " (Argument.expressions args) ++ ")").toList =
      name.toList ++ '(' ::
        ((String.intercalate ", " (Argument.expressions args)).toList ++ [')']) := by
    rw [String.toList_append, String.toList_append, String.toList_append]
    simp
  rw [← htext] at hcall
  exact readsText_indexSuffix h hcall index

/-- True of expressions that take an index themselves. -/
def takesIndex : Reference → Bool
  | .variable _ _ | .function _ _ _ | .map _ => true
  | _ => false

theorem reads_element (h : Admits c D P) {r : Reference} (hr : ReadsText P r.expression)
    (htakes : takesIndex r = false) (index : Option Nat) :
    ReadsText P (indexed r index).expression := by
  cases index with
  | none => exact hr
  | some i =>
      have helement : indexed r (some i) =
          .function "element" [.reference r, .number (UInt64.ofNat i).toFloat] none := by
        cases r <;> first | rfl | cases htakes
      rw [helement]
      refine reads_function h (by decide) (fun arg harg => ?_) none
      rcases List.mem_cons.mp harg with rfl | harg
      · exact hr
      · obtain rfl := List.mem_singleton.mp harg
        exact readsArgument_number h _

theorem reads_call (h : Admits c D P) {name : String}
    (hname : name.toList.all Text.isNameRest = true) {args : List Argument}
    (hargs : ∀ arg ∈ args, ReadsArgument P arg) (given index : Option Nat) :
    ReadsText P (indexed (.function name args given) index).expression := by
  cases index with
  | none => exact reads_function h hname hargs given
  | some i => exact reads_function h hname hargs (some i)

theorem isPath_address {m : ResourceMapping} (hnamed : Named c) (hm : m ∈ c.mappings) :
    IsPath m.address :=
  isPath_append (isPath_append (isPath_of_isName (hnamed.types m hm).1) isPath_dot)
    (isPath_of_isName (isName_label m.logicalId))

theorem reads_direct (h : Admits c D P) (hnamed : Named c) {m : ResourceMapping}
    (hm : m ∈ c.mappings) : ReadsText P (Reference.direct m.address).expression := by
  have hid : m.address ++ ".id" = m.address ++ "." ++ "id" := by
    rw [String.append_assoc]
    rfl
  have hpath : IsPath (m.address ++ ".id") :=
    isPath_append (isPath_address hnamed hm) (isPath_of_isWord (by decide))
  refine reads_path hpath ?_
  rw [Reference.expression, hid]
  exact h.ofResource m hm "id"

theorem reads_variable (h : Admits c D P) {name : String} (hname : IsName name)
    (hdeclared : D ("var." ++ name)) (index : Option Nat) :
    ReadsText P (Reference.variable name index).expression := by
  refine readsText_indexSuffix h (reads_path ?_ (h.ofVariable name hname hdeclared)) index
  have hlead : IsPath "var." := isPath_of_isWord (by decide)
  exact isPath_append hlead (isPath_of_isName hname)

theorem reads_dataSource (h : Admits c D P) {type name field : String} (htype : IsName type)
    (hname : IsName name) (hfield : IsPath field) (hdeclared : D ("data." ++ type ++ "." ++ name))
    (parameter : Bool) :
    ReadsText P (Reference.dataSource type name field parameter).expression := by
  refine reads_path ?_ (h.ofDataSource type name field htype hname hdeclared)
  have hlead : IsPath "data." := isPath_of_isWord (by decide)
  have hhead : IsPath ("data." ++ type ++ "." ++ name) :=
    isPath_append (isPath_append (isPath_append hlead (isPath_of_isName htype)) isPath_dot)
      (isPath_of_isName hname)
  exact isPath_append (isPath_append hhead isPath_dot) hfield

end StackExport.Proofs.ExpressionWords
