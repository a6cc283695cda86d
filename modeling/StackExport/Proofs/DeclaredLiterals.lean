import StackExport.Proofs.ParameterValues
/-!
Which values of variables are declared as literals of their types.

Text that is no number stands in quotes, also where numbers are wanted. But the words for infinity
and for no number read as numbers, and so does a numeral beyond the largest number; all of these are
written as names.
-/
namespace StackExport.Proofs.DeclaredLiterals

open StackExport
open StackExport.Proofs.NumeralReading
open StackExport.Proofs.LiteralReading
open StackExport.Proofs.LayoutReading
open StackExport.Proofs.ParameterValues

/-! ### Literals of a type -/

/-- A quoted text, or a numeral where numbers are wanted. -/
def IsItem (numeric : Bool) : Literal → Prop
  | .text _ => True
  | .number _ => numeric = true
  | _ => False

def OfType (type : VariableType) (l : Literal) : Prop :=
  match type with
  | .string => IsItem false l
  | .number => IsItem true l
  | .stringList => ∃ items, l = .list items ∧ ∀ item ∈ items, IsItem false item
  | .numberList => ∃ items, l = .list items ∧ ∀ item ∈ items, IsItem true item

/-- A text that is a literal of a type. -/
def IsLiteralOf (type : VariableType) (text : String) : Prop :=
  ∃ l, read (pieces text) = some l ∧ OfType type l

/-- What an item of a value stands for: the number that it reads as where numbers are wanted, and
itself without the blanks around it otherwise. -/
inductive ItemMeans (numeric : Bool) (item : String) : Literal → Prop
  | number {x : Float} {q : ℚ} (hnumeric : numeric = true)
      (hread : Decimal.float? (Text.trim item) = some x) (hq : IsReadAs x q) :
      ItemMeans numeric item (.number q)
  | text (hread : numeric = true → Decimal.float? (Text.trim item) = none) :
      ItemMeans numeric item (.text (Text.trim item))

/-- What a value of a type stands for. -/
def Means (type : VariableType) (value : String) (l : Literal) : Prop :=
  match type with
  | .string => l = .text value
  | .number => ItemMeans true value l
  | .stringList => ∃ items, l = .list items ∧
      List.Forall₂ (ItemMeans false) (VariableType.listItems value) items
  | .numberList => ∃ items, l = .list items ∧
      List.Forall₂ (ItemMeans true) (VariableType.listItems value) items

/-! ### Numbers -/

/-- The items of a value that are written as the numbers that they read as. -/
def numericItems (type : VariableType) (value : String) : List String :=
  match type with
  | .number => [value]
  | .numberList => VariableType.listItems value
  | .string | .stringList => []

def IsFiniteItem (item : String) : Prop :=
  ∀ x, Decimal.float? (Text.trim item) = some x → IsFinite (.float x)

/-- No item of a value reads as a number that is not finite. -/
def HoldsFinite (type : VariableType) (value : String) : Prop :=
  ∀ item ∈ numericItems type value, IsFiniteItem item

theorem ofWord_of_finite {x : Float} (h : IsFinite (.float x)) :
    ∃ q, ofWord (Decimal.format x).toList = .number q ∧ IsReadAs x q := by
  obtain ⟨q, hq, hread⟩ := numeral_configText h
  have hnumeral : numeral? (Decimal.format x).toList = some q := hq
  exact ⟨q, by rw [ofWord, hnumeral], hread⟩

theorem ofWord_of_not_finite {x : Float} (h : ¬IsFinite (.float x)) (numeric : Bool) :
    ¬IsItem numeric (ofWord (Decimal.format x).toList) := by
  have hmem := format_of_not_finite h
  generalize Decimal.format x = word at hmem
  simp only [List.mem_cons, List.not_mem_nil, or_false] at hmem
  rcases hmem with rfl | rfl | rfl <;> exact id

/-! ### Items -/

theorem isItem_text (item : String) : IsItem false (itemLiteral false item) := by
  rw [itemLiteral_text]
  trivial

theorem means_text (item : String) : ItemMeans false item (itemLiteral false item) := by
  rw [itemLiteral_text]
  exact .text nofun

theorem isItem_number_iff (item : String) :
    IsItem true (itemLiteral true item) ↔ IsFiniteItem item := by
  unfold itemLiteral IsFiniteItem
  cases hread : Decimal.float? (Text.trim item) with
  | none => simp [IsItem]
  | some x =>
      simp only [if_true, Option.some.injEq, forall_eq']
      constructor
      · intro h
        by_contra hinfinite
        exact ofWord_of_not_finite hinfinite true h
      · intro hfinite
        obtain ⟨q, hq, -⟩ := ofWord_of_finite hfinite
        rw [hq]
        rfl

theorem means_number {item : String} (h : IsFiniteItem item) :
    ItemMeans true item (itemLiteral true item) := by
  unfold itemLiteral
  cases hread : Decimal.float? (Text.trim item) with
  | none => exact .text fun _ => hread
  | some x =>
      obtain ⟨q, hq, hvalue⟩ := ofWord_of_finite (h x hread)
      simp only [if_true, hq]
      exact .number rfl hread hvalue

/-! ### Values -/

theorem ofType_declaredLiteral_iff (type : VariableType) (value : String) :
    OfType type (declaredLiteral type value) ↔ HoldsFinite type value := by
  have hlist (numeric : Bool) (items : List String) :
      (∃ ls, Literal.list (items.map (itemLiteral numeric)) = .list ls ∧
        ∀ l ∈ ls, IsItem numeric l) ↔ ∀ item ∈ items, IsItem numeric (itemLiteral numeric item) := by
    simp
  cases type with
  | string => simp [OfType, declaredLiteral, IsItem, HoldsFinite, numericItems]
  | number =>
      simp only [OfType, declaredLiteral, isItem_number_iff, HoldsFinite, numericItems,
        List.forall_mem_singleton]
  | stringList =>
      simp only [OfType, declaredLiteral, hlist, isItem_text, HoldsFinite, numericItems,
        List.not_mem_nil, false_imp_iff, implies_true]
  | numberList =>
      simp only [OfType, declaredLiteral, hlist, isItem_number_iff, HoldsFinite, numericItems]

theorem means_declaredLiteral {type : VariableType} {value : String} (h : HoldsFinite type value) :
    Means type value (declaredLiteral type value) := by
  have hforall {numeric : Bool} {items : List String}
      (hitems : ∀ item ∈ items, ItemMeans numeric item (itemLiteral numeric item)) :
      List.Forall₂ (ItemMeans numeric) items (items.map (itemLiteral numeric)) :=
    List.forall₂_map_right_iff.mpr (List.forall₂_same.mpr hitems)
  cases type with
  | string => rfl
  | number => exact means_number (h value List.mem_cons_self)
  | stringList => exact ⟨_, rfl, hforall fun item _ => means_text item⟩
  | numberList => exact ⟨_, rfl, hforall fun item hitem => means_number (h item hitem)⟩

theorem isLiteralOf_iff {type : VariableType} {value text : String}
    (h : read (pieces text) = some (declaredLiteral type value)) :
    IsLiteralOf type text ↔ HoldsFinite type value := by
  rw [IsLiteralOf, h, ← ofType_declaredLiteral_iff]
  simp

/-- The default in the block of a variable and the assignment of its value are literals of its type
exactly when no item of theirs reads as a number that is not finite; and then both literals stand for
the value that they are written for. -/
theorem declared_literals_iff (v : Variable) (ds : Declarations) (stackName value : String) :
    (v.default = some value →
      (∃ front, v.block =
        front ++ ("  default     = " ++ v.type.literal "  " value ++ "\n\x7d\n")) ∧
      (IsLiteralOf v.type (v.type.literal "  " value) ↔ HoldsFinite v.type value)) ∧
    (v.current = some value → v ∈ ds.inputs →
      StandsIn (v.name ++ " = " ++ v.type.assignedLiteral value ++ "\n\n")
        (ds.assignments stackName) ∧
      (IsLiteralOf v.type (v.type.assignedLiteral value) ↔ HoldsFinite v.type value)) ∧
    (HoldsFinite v.type value → ∃ l, Means v.type value l ∧
      read (pieces (v.type.literal "  " value)) = some l ∧
      read (pieces (v.type.assignedLiteral value)) = some l) := by
  have hblock := read_literal (isSpaces_indentation 1) v.type value
  have hassigned := read_assignedLiteral v.type value
  refine ⟨fun hdefault => ?_, fun hcurrent hv => ?_, fun hfinite => ?_⟩
  · exact ⟨block_of_default hdefault, isLiteralOf_iff hblock⟩
  · exact ⟨standsIn_assignment hv hcurrent stackName, isLiteralOf_iff hassigned⟩
  · exact ⟨_, means_declaredLiteral hfinite, hblock, hassigned⟩

def ports : Variable := ⟨"Ports", .numberList, none, some "1e3,any", some "1e3,any", false⟩

theorem declared_literals_iff_ports :
    ports.default = some "1e3,any" ∧ ports.current = some "1e3,any" ∧
      ports ∈ Declarations.inputs [.variable ports] ∧ HoldsFinite ports.type "1e3,any" ∧
      IsLiteralOf ports.type (ports.type.literal "  " "1e3,any") ∧
      IsLiteralOf ports.type (ports.type.assignedLiteral "1e3,any") ∧
      ports.type.assignedLiteral "1e3,any" = "[ 1000, \"any\" ]" := by
  have hmem : ports ∈ Declarations.inputs [.variable ports] := List.mem_cons_self
  have hitems : numericItems ports.type "1e3,any" = ["1e3", "any"] := by decide
  have hfinite : HoldsFinite ports.type "1e3,any" := by
    rw [HoldsFinite, hitems]
    refine List.forall_mem_cons.mpr ⟨fun x hx => ?_, List.forall_mem_singleton.mpr fun x hx => ?_⟩
    · have hread : (Decimal.float? (Text.trim "1e3")).all
          (fun x => !x.isNaN && !x.isInf) = true := by decide
      simp only [hx, Option.all_some, Bool.and_eq_true, Bool.not_eq_true'] at hread
      exact hread
    · have hnone : Decimal.float? (Text.trim "any") = none := by rfl
      rw [hnone] at hx
      cases hx
  obtain ⟨hdefault, hcurrent, -⟩ :=
    declared_literals_iff ports [.variable ports] "jobs" "1e3,any"
  exact ⟨rfl, rfl, hmem, hfinite, (hdefault rfl).2.mpr hfinite, (hcurrent rfl hmem).2.mpr hfinite,
    by decide⟩

/-- The words for no number and for infinity are written without quotes, and so is a numeral beyond
the largest number. -/
theorem not_finite_written_bare :
    VariableType.number.literal "  " "NaN" = "NaN" ∧
      ¬IsLiteralOf .number (VariableType.number.literal "  " "NaN") ∧
      VariableType.numberList.assignedLiteral "1, 1e999" = "[ 1, inf ]" ∧
      ¬IsLiteralOf .numberList (VariableType.numberList.assignedLiteral "1, 1e999") := by
  have hread : Decimal.float? (Text.trim "NaN") = some (0.0 / 0.0) := by rfl
  have hread' : Decimal.float? (Text.trim " 1e999") = some (1.0 / 0.0) := by rfl
  have hitems : " 1e999" ∈ VariableType.listItems "1, 1e999" := by decide
  refine ⟨by decide, fun h => ?_, by decide, fun h => ?_⟩
  · have hfinite := (isLiteralOf_iff (read_literal (isSpaces_indentation 1) .number "NaN")).mp h
    obtain ⟨hnan, -⟩ := hfinite "NaN" List.mem_cons_self _ hread
    exact absurd hnan (by decide)
  · have hfinite := (isLiteralOf_iff (read_assignedLiteral .numberList "1, 1e999")).mp h
    obtain ⟨-, hinf⟩ := hfinite " 1e999" hitems _ hread'
    exact absurd hinf (by decide)

end StackExport.Proofs.DeclaredLiterals
