import Mathlib
import StackExport.Proofs.RenderingAgreement
/-!
What becomes of an index that is asked of a call.

A reference is read in an environment that says what names, quoted templates and calls of functions
stand for. An index is then kept when the indexed reference stands for the element of what the plain
one stands for.
-/
namespace StackExport.Proofs.IndexedReferences

open StackExport
open StackExport.RenderContext
open StackExport.Proofs.ReferenceAgreement
open StackExport.Proofs.ReferenceMeaning
open StackExport.Proofs.RenderingAgreement
open StackExport.Proofs.RenderingIndependence
open StackExport.Proofs.RenderingResult
open StackExport.Proofs.RenderingSteps

/-! ### What references stand for -/

/-- What stands behind names, quoted templates and functions. -/
structure Environment where
  named : String → Option Json
  template : String → Option Json
  /-- The results of functions; that of `element` is fixed. -/
  result : String → List Json → Option Json

/-- An index at the end of an expression, and what stands in front of it. -/
def splitIndex? (text : List Char) : Option (List Char × Nat) :=
  match text.reverse with
  | ']' :: rest =>
    match rest.takeWhile Char.isDigit, rest.dropWhile Char.isDigit with
    | digit :: digits, '[' :: front =>
      some (front.reverse, Nat.ofDigitChars 10 (digit :: digits).reverse 0)
    | _, _ => none
  | _ => none

theorem length_of_splitIndex? {text front : List Char} {i : Nat}
    (h : splitIndex? text = some (front, i)) : front.length < text.length := by
  unfold splitIndex? at h
  split at h
  · next rest hrest =>
      split at h
      · next digit digits front' hdigits hfront =>
          cases h
          have hlength := congrArg List.length hrest
          have hle := congrArg List.length hfront
          have hdrop := (List.dropWhile_sublist Char.isDigit (l := rest)).length_le
          simp only [List.length_reverse, List.length_cons] at hlength hle ⊢
          omega
      · cases h
  · cases h

/-- What an expression made of a name and indices stands for. -/
def readName (named : String → Option Json) (text : List Char) : Option Json :=
  match _h : splitIndex? text with
  | some (front, i) => (readName named front).bind fun v => elementAt v (some i)
  | none => named (String.ofList text)
termination_by text.length
decreasing_by exact length_of_splitIndex? ‹_›

def Environment.read (env : Environment) (expression : String) : Option Json :=
  readName env.named expression.toList

def Environment.call (env : Environment) (name : String) (values : List Json) : Option Json :=
  if name = "element" then callResult? name values else env.result name values

mutual

def denote (env : Environment) : Reference → Option Json
  | .function name args index =>
    (denoteAll env args).bind fun values =>
      (env.call name values).bind fun v => elementAt v index
  | .interpolation body => env.template body
  | r => env.read r.expression

def denoteOf (env : Environment) : Argument → Option Json
  | .string text => some (.string text)
  | .number x => some (Stack.numberValue x)
  | .bool b => some (.bool b)
  | .reference r => denote env r
  | .list items => (denoteAll env items).map .array

def denoteAll (env : Environment) : List Argument → Option (List Json)
  | [] => some []
  | arg :: rest => (denoteOf env arg).bind fun v => (denoteAll env rest).map (v :: ·)

end

/-- True for a reference that is a name, perhaps with indices. -/
def isName : Reference → Bool
  | .function _ _ _ | .interpolation _ => false
  | _ => true

theorem denote_of_isName {env : Environment} {r : Reference} (h : isName r = true) :
    denote env r = env.read r.expression := by
  cases r with
  | function name args index => cases h
  | interpolation body => cases h
  | _ =>
      rw [denote]
      all_goals simp

theorem splitIndex?_append (front : List Char) (i : Nat) :
    splitIndex? (front ++ (indexSuffix (some i)).toList) = some (front, i) := by
  have hdigits : ∀ c ∈ (Nat.toDigits 10 i).reverse, Char.isDigit c = true := fun c hc =>
    Nat.isDigit_of_mem_toDigits (by decide) (by decide) (List.mem_reverse.mp hc)
  have hreverse : (front ++ (indexSuffix (some i)).toList).reverse =
      ']' :: ((Nat.toDigits 10 i).reverse ++ '[' :: front.reverse) := by
    simp [indexSuffix]
  have htake : ((Nat.toDigits 10 i).reverse ++ '[' :: front.reverse).takeWhile Char.isDigit =
      (Nat.toDigits 10 i).reverse := by
    rw [List.takeWhile_append_of_pos hdigits]
    simp
  have hdrop : ((Nat.toDigits 10 i).reverse ++ '[' :: front.reverse).dropWhile Char.isDigit =
      '[' :: front.reverse := by
    rw [List.dropWhile_append_of_pos hdigits]
    simp
  have hne : (Nat.toDigits 10 i).reverse ≠ [] := by simp [Nat.toDigits_ne_nil]
  have hvalue : Nat.ofDigitChars 10 (Nat.toDigits 10 i).reverse.reverse 0 = i := by
    rw [List.reverse_reverse, Nat.ofDigitChars_ten_toDigits]
  simp only [splitIndex?, hreverse]
  obtain ⟨digit, digits, hsplit⟩ := List.exists_cons_of_ne_nil hne
  rw [htake, hdrop, hsplit]
  rw [hsplit] at hvalue
  simp only [hvalue, List.reverse_reverse]

/-- An index at the end of an expression selects from what the expression stands for. -/
theorem read_append (env : Environment) (expression : String) (i : Nat) :
    env.read (expression ++ indexSuffix (some i)) =
      (env.read expression).bind fun v => elementAt v (some i) := by
  rw [Environment.read, String.toList_append, readName]
  split
  · next front j h =>
      rw [splitIndex?_append, Option.some.injEq, Prod.mk.injEq] at h
      obtain ⟨rfl, rfl⟩ := h
      rfl
  · next h =>
      rw [splitIndex?_append] at h
      cases h

/-! ### References with an index -/

/-- True for a reference that has taken an index itself. -/
def holdsIndex : Reference → Bool
  | .variable _ index | .function _ _ index => index.isSome
  | _ => false

/-- True for a reference that has room for one index, which the next one takes. -/
def keepsLast : Reference → Bool
  | .variable _ _ | .function _ _ _ => true
  | _ => false

section

variable {env : Environment} {items : List Json} {i : Nat} {w : Json}

theorem elementAt_array (h : items[i]? = some w) : elementAt (.array items) (some i) = some w :=
  elementAt_of_pick h

theorem denote_element {r : Reference} (hi : i < indexBound)
    (hr : denote env r = some (.array items)) (hw : items[i]? = some w) :
    denote env (.call "element" [.reference r, .number (UInt64.ofNat i).toFloat]) = some w := by
  obtain ⟨hlt, -⟩ := List.getElem?_eq_some_iff.mp hw
  simp [Reference.call, denote, denoteAll, denoteOf, hr, numberValue_index hi, Environment.call,
    callResult?, Stack.indexOf?, Number.word?, Nat.mod_eq_of_lt hlt, hw, elementAt]

theorem denote_suffix {r r' : Reference} (hr : isName r = true) (hr' : isName r' = true)
    (hexpression : r'.expression = r.expression ++ indexSuffix (some i))
    (hitems : denote env r = some (.array items)) (hw : items[i]? = some w) :
    denote env r' = some w := by
  rw [denote_of_isName hr', hexpression, read_append, ← denote_of_isName hr, hitems,
    Option.bind_some, elementAt_array hw]

/-- An index that is put on a reference that has none yet selects from what it stands for. -/
theorem denote_withIndex {r : Reference} (hi : i < indexBound) (hfree : holdsIndex r = false)
    (hr : denote env r = some (.array items)) (hw : items[i]? = some w) :
    denote env (r.withIndex i) = some w := by
  cases r with
  | «variable» name index =>
      cases index with
      | none =>
          refine denote_suffix rfl rfl ?_ hr hw
          simp [Reference.withIndex, Reference.expression, indexSuffix]
      | some j => cases hfree
  | function name args index =>
      cases index with
      | none =>
          rw [denote] at hr
          obtain ⟨values, hvalues, hr⟩ := Option.bind_eq_some_iff.mp hr
          obtain ⟨v, hv, hr⟩ := Option.bind_eq_some_iff.mp hr
          obtain rfl : v = .array items := Option.some.inj hr
          rw [Reference.withIndex, denote, hvalues, Option.bind_some, hv, Option.bind_some,
            elementAt_array hw]
      | some j => cases hfree
  | map path =>
      refine denote_suffix rfl rfl ?_ hr hw
      simp [Reference.withIndex, Reference.expression]
  | direct address => exact denote_element hi hr hw
  | indirect path => exact denote_element hi hr hw
  | dataSource type name field isParameter => exact denote_element hi hr hw
  | module path => exact denote_element hi hr hw
  | interpolation body => exact denote_element hi hr hw

/-- Of two indices on a variable or a call, the first one is lost. -/
theorem withIndex_withIndex {r : Reference} (h : keepsLast r = true) (i j : Nat) :
    (r.withIndex i).withIndex j = r.withIndex j := by
  cases r with
  | «variable» name index => rfl
  | function name args index => rfl
  | _ => cases h

theorem holdsIndex_withIndex {r : Reference} (h : keepsLast r = false) (i : Nat) :
    holdsIndex r = false ∧ holdsIndex (r.withIndex i) = false := by
  cases r with
  | «variable» name index => cases h
  | function name args index => cases h
  | _ => exact ⟨rfl, rfl⟩

/-- Two indices on any other reference select one after the other. -/
theorem denote_withIndex_withIndex {r : Reference} {j : Nat} {inner : List Json}
    (hi : i < indexBound) (hj : j < indexBound) (h : keepsLast r = false)
    (hr : denote env r = some (.array items)) (hinner : items[i]? = some (.array inner))
    (hw : inner[j]? = some w) : denote env ((r.withIndex i).withIndex j) = some w := by
  obtain ⟨hfree, hfree'⟩ := holdsIndex_withIndex h i
  exact denote_withIndex hj hfree' (denote_withIndex hi hfree hr hinner) hw

end

/-! ### Calls with an index -/

mutual

/-- The call that is rendered for a selection from a literal list, or the call itself. -/
def target? : Intrinsic → Option Intrinsic
  | .select selector (.list items) => selector.index?.bind (itemTarget? items)
  | call => some call

def itemTarget? : List Expr → Nat → Option Intrinsic
  | .intrinsic inner :: _, 0 => target? inner
  | _ :: rest, position + 1 => itemTarget? rest position
  | _, _ => none

end

/-- True of a call that takes no notice of an index: a pseudo parameter, a parameter from the
parameter store, or a selection from a call. -/
def ignores (c : RenderContext) : Intrinsic → Bool
  | .ref name => name.startsWith "AWS::" || (c.template.parameter? name).any Parameter.isStored
  | .select _ (.intrinsic _) => true
  | _ => false

def dropsIndex (c : RenderContext) (call : Intrinsic) : Bool := (target? call).any (ignores c)

def isFromList : Intrinsic → Bool
  | .select _ (.list _) => true
  | _ => false

section

variable {c : RenderContext}

mutual

theorem isFromList_target? (call : Intrinsic) {t : Intrinsic} (h : target? call = some t) :
    isFromList t = false := by
  cases call with
  | select selector items =>
      cases items with
      | list items =>
          obtain ⟨position, -, h⟩ := Option.bind_eq_some_iff.mp h
          exact isFromList_itemTarget? items position h
      | _ => cases h; rfl
  | _ => cases h; rfl

theorem isFromList_itemTarget? (items : List Expr) (position : Nat) {t : Intrinsic}
    (h : itemTarget? items position = some t) : isFromList t = false := by
  cases items with
  | nil => cases h
  | cons item rest =>
      cases position with
      | succ position =>
          rw [itemTarget?] at h
          exact isFromList_itemTarget? rest position h
      | zero =>
          cases item with
          | intrinsic inner => exact isFromList_target? inner h
          | _ => cases h

end

mutual

/-- What is rendered is the target. -/
theorem returns_target (call : Intrinsic) (index : Option Nat) {P : Reference → Prop}
    (h : ∀ t, target? call = some t → Returns (c.render t index) P) :
    Returns (c.render call index) P := by
  cases call with
  | select selector items =>
      cases items with
      | list items =>
          rw [render]
          refine (returns_lift fun _ => index?_of_literalIndex).bind fun selected hselected => ?_
          rw [renderSelected]
          refine returns_itemTarget items selected selected items.length index fun t ht => h t ?_
          rw [target?, hselected, Option.bind_some, ht]
      | _ => exact h _ rfl
  | _ => exact h _ rfl

theorem returns_itemTarget (items : List Expr) (position selected count : Nat)
    (index : Option Nat) {P : Reference → Prop}
    (h : ∀ t, itemTarget? items position = some t → Returns (c.render t index) P) :
    Returns (c.renderItem items position selected count index) P := by
  cases items with
  | nil =>
      rw [renderItem]
      exact returns_throw _
  | cons item rest =>
      cases position with
      | succ position =>
          rw [renderItem]
          exact returns_itemTarget rest position selected count index fun t ht => h t (by
            rw [itemTarget?]; exact ht)
      | zero =>
          cases item with
          | intrinsic inner =>
              rw [renderItem]
              exact returns_target inner index fun t ht => h t ht
          | _ =>
              rw [renderItem]
              · exact returns_throw _
              all_goals simp

end

/-! ### Calls that keep their index -/

/-- What an index makes of a reference: it is put on the reference, or into the attribute of a data
source. -/
inductive Indexed (k : Nat) : Reference → Reference → Prop
  | asked {r : Reference} (hfree : holdsIndex r = false) : Indexed k r (r.withIndex k)
  | written (type name field : String) (isParameter : Bool) :
      Indexed k (.dataSource type name field isParameter)
        (.dataSource type name (field ++ indexSuffix (some k)) isParameter)

theorem Indexed.denote_eq {env : Environment} {k : Nat} {r r' : Reference} (h : Indexed k r r')
    (hk : k < indexBound) {items : List Json} {w : Json}
    (hr : denote env r = some (.array items)) (hw : items[k]? = some w) :
    denote env r' = some w := by
  cases h with
  | asked hfree => exact denote_withIndex hk hfree hr hw
  | written type name field isParameter =>
      refine denote_suffix rfl rfl ?_ hr hw
      simp [Reference.expression, String.append_assoc]

/-- What the second rendering returns is what the first one returns, with an index. -/
def Follows (k : Nat) (x y : Rendering Reference) : Prop :=
  ∀ ds r d ds' r' d', x.run ds = (.ok r, d) → y.run ds' = (.ok r', d') → Indexed k r r'

section

variable {α : Type} {k : Nat}

theorem follows_pure {r r' : Reference} (h : Indexed k r r') : Follows k (pure r) (pure r') := by
  intro ds s d ds' s' d' hr hr'
  cases hr
  cases hr'
  exact h

theorem follows_throw (e e' : RenderError) : Follows k (throw e) (throw e') := by
  intro ds r d ds' r' d' hr
  cases hr

theorem follows_bind {x : Rendering α} {f g : α → Rendering Reference} (hx : Composed c x)
    (h : ∀ a, Follows k (f a) (g a)) : Follows k (x >>= f) (x >>= g) := by
  intro ds r d ds' r' d' hr hr'
  have hsame := independent_of_composed hx ds ds'
  rw [run_bind] at hr hr'
  rcases hrun : x.run ds with ⟨e | a, d₁⟩
  · rw [hrun] at hr
    cases hr
  · rcases hrun' : x.run ds' with ⟨e | a', d₁'⟩
    · rw [hrun'] at hr'
      cases hr'
    · rw [hrun, hrun'] at hsame
      obtain rfl : a = a' := Except.ok.inj hsame
      rw [hrun] at hr
      rw [hrun'] at hr'
      exact h a d₁ r d d₁' r' d' hr hr'

theorem follows_indexed {r : Reference} (hfree : holdsIndex r = false) :
    Follows k (pure (indexed r none)) (pure (indexed r (some k))) :=
  follows_pure (.asked hfree)

theorem follows_renderRef {name : String} (h : ignores c (.ref name) = false) :
    Follows k (c.renderRef name none) (c.renderRef name (some k)) := by
  obtain ⟨haws, hstored⟩ := Bool.or_eq_false_iff.mp h
  unfold renderRef
  rw [if_neg (by simp [haws]), if_neg (by simp [haws])]
  split
  · next p hp =>
      refine follows_bind (.declaration (.parameter (by simp [haws]) hp)) fun _ => ?_
      rw [hp] at hstored
      have hgiven : p.isStored = false := hstored
      rw [if_neg (by simp [hgiven]), if_neg (by simp [hgiven])]
      exact follows_pure (.asked (r := .variable name none) rfl)
  · exact follows_bind (c := c) (composed_lift _) fun m => follows_indexed rfl

theorem holdsIndex_renderField {resource field : String} {r : Reference}
    (h : c.renderField resource field = .ok r) : holdsIndex r = false := by
  rcases renderField_cases h with ⟨path, rfl⟩ | ⟨m, name, -, rfl⟩ <;> rfl

/-- A call that does not ignore an index puts it where it belongs. -/
theorem follows_render (call : Intrinsic) (hkeeps : ignores c call = false)
    (hsingle : isFromList call = false) :
    Follows k (c.render call none) (c.render call (some k)) := by
  have hargument (tag : String) (e : Expr) : Composed c (c.renderArgument tag e) :=
    (alike_renderArgument (comparable_self c) tag e fun _ _ => trivial).composed
  have hkey (e : Expr) : Composed c (c.renderKey e) := composed_renderKey c e
  cases call with
  | ref name =>
      rw [render, render]
      exact follows_renderRef hkeeps
  | getAtt resource field =>
      rw [render, render]
      refine follows_bind (c := c) (composed_lift _) fun name => ?_
      rcases hfield : c.renderField resource name with e | r
      · exact follows_throw e e
      · exact follows_indexed (holdsIndex_renderField hfield)
  | sub text bindings =>
      rw [render, render]
      exact follows_bind (composed_renderParts c (composed_renderVariable c · bindings) _)
        fun body => follows_indexed rfl
  | join delimiter items =>
      rw [render, render]
      exact follows_bind
        (alike_renderJoined (comparable_self c) items fun _ _ => trivial).composed
        fun items => follows_indexed rfl
  | split delimiter source =>
      rw [render, render]
      exact follows_bind (hargument _ _) fun source => follows_indexed rfl
  | base64 value =>
      rw [render, render]
      exact follows_bind (hargument _ _) fun value => follows_indexed rfl
  | cidr block count bits =>
      rw [render, render]
      refine follows_bind (c := c) (composed_lift _) fun count => ?_
      refine follows_bind (c := c) (composed_lift _) fun bits => ?_
      refine follows_bind (c := c) (composed_lift _) fun grown => ?_
      refine follows_bind (hargument _ _) fun block => follows_pure ?_
      exact .asked (r := .function "cidrsubnets" _ none) rfl
  | findInMap map top second =>
      rw [render, render]
      refine follows_bind (hkey _) fun map => follows_bind (hkey _) fun top =>
        follows_bind (hkey _) fun second => follows_pure ?_
      have hpath : "local.mappings" ++ map ++ top ++ second ++ indexSuffix none =
          "local.mappings" ++ map ++ top ++ second := by simp [indexSuffix]
      rw [hpath]
      exact .asked (r := .map _) rfl
  | zones region =>
      rw [render, render]
      refine follows_bind (c := c) (.declaration (.zones region)) fun _ => follows_pure ?_
      exact .written zonesSource.type zonesSource.name "names" false
  | importValue name =>
      rw [render, render]
      split
      · exact follows_throw _ _
      · next text htext =>
          exact follows_bind (.declaration (.exported htext)) fun _ => follows_indexed rfl
  | select selector items =>
      rw [render, render]
      refine follows_bind (c := c) (composed_lift _) fun selected => ?_
      cases items with
      | intrinsic inner => cases hkeeps
      | list items => cases hsingle
      | _ =>
          rw [renderSelected, renderSelected]
          · exact follows_throw _ _
          all_goals simp
  | unsupported tag =>
      rw [render, render]
      exact follows_throw _ _

/-- A call that ignores an index is rendered as without one. -/
theorem render_of_ignores {call : Intrinsic} (h : ignores c call = true) :
    c.render call (some k) = c.render call none := by
  cases call with
  | ref name =>
      rw [render, render]
      unfold renderRef
      by_cases haws : name.startsWith "AWS::" = true
      · rw [if_pos haws, if_pos haws]
      · rw [if_neg haws, if_neg haws]
        rcases hp : c.template.parameter? name with _ | p
        · simp [ignores, haws, hp] at h
        · have hstored : p.isStored = true := by simpa [ignores, haws, hp] using h
          simp only [if_pos hstored]
  | select selector items =>
      cases items with
      | intrinsic inner =>
          rw [render, render]
          rfl
      | _ => cases h
  | _ => cases h

end

/-! ### Which indices are kept -/

/-- What a call renders as is what its target renders as. -/
theorem exists_target {call : Intrinsic} {index : Option Nat} {ds d : Declarations} {r : Reference}
    (h : (c.render call index).run ds = (.ok r, d)) :
    ∃ t, target? call = some t ∧ ((c.render t index).run []).1 = .ok r := by
  refine returns_target (P := fun r => ∃ t, target? call = some t ∧
    ((c.render t index).run []).1 = .ok r) call index (fun t ht => ?_) ds r d h
  exact (returns_of_independent (independent_render c t index)).mono fun r hr => ⟨t, ht, hr⟩

/-- An index that is asked of a call is kept just when the call does not drop it. -/
theorem denote_eq_iff (env : Environment) {call : Intrinsic} {k : Nat} (hk : k < indexBound)
    {r r' : Reference} {ds d ds' d' : Declarations}
    (hr : (c.render call none).run ds = (.ok r, d))
    (hr' : (c.render call (some k)).run ds' = (.ok r', d')) {items : List Json} {w : Json}
    (hitems : denote env r = some (.array items)) (hw : items[k]? = some w) :
    denote env r' = some w ↔ dropsIndex c call = false := by
  obtain ⟨t, ht, hrun⟩ := exists_target hr
  obtain ⟨t', ht', hrun'⟩ := exists_target hr'
  obtain rfl : t = t' := Option.some.inj (ht.symm.trans ht')
  have hdrops : dropsIndex c call = ignores c t := by rw [dropsIndex, ht, Option.any_some]
  rw [hdrops]
  constructor
  · intro hkept
    by_contra hignores
    rw [render_of_ignores (by simpa using hignores), hrun] at hrun'
    cases hrun'
    rw [hitems] at hkept
    cases hkept
    -- No list is an element of itself.
    have hsize := List.sizeOf_lt_of_mem (List.mem_of_getElem? hw)
    simp at hsize
  · intro hkeeps
    have hindexed := follows_render t hkeeps (isFromList_target? call ht) (k := k) [] r
      ((c.render t none).run []).2 [] r' ((c.render t (some k)).run []).2 (Prod.ext hrun rfl)
      (Prod.ext hrun' rfl)
    exact hindexed.denote_eq hk hitems hw

end

/-- An index that is asked of a call selects the element from what the call is rendered as, just when
the call does not drop it. Two indices on a reference select one after the other, unless the reference
is a variable or a call of a function, which only keeps the last one. -/
theorem indices_kept_iff (env : Environment) :
    (∀ (c : RenderContext) (call : Intrinsic) (k : Nat) (r r' : Reference)
        (ds d ds' d' : Declarations) (items : List Json) (w : Json),
      k < indexBound → (c.render call none).run ds = (.ok r, d) →
      (c.render call (some k)).run ds' = (.ok r', d') → denote env r = some (.array items) →
      items[k]? = some w → (denote env r' = some w ↔ dropsIndex c call = false)) ∧
    ∀ (r : Reference) (i j : Nat),
      (keepsLast r = true → (r.withIndex i).withIndex j = r.withIndex j) ∧
      (keepsLast r = false → i < indexBound → j < indexBound →
        ∀ (items inner : List Json) (w : Json), denote env r = some (.array items) →
          items[i]? = some (.array inner) → inner[j]? = some w →
          denote env ((r.withIndex i).withIndex j) = some w) :=
  ⟨fun _ _ _ _ _ _ _ _ _ _ _ hk hr hr' hitems hw => denote_eq_iff env hk hr hr' hitems hw,
    fun _ i j => ⟨fun h => withIndex_withIndex h i j,
      fun h hi hj _ _ _ hr hinner hw => denote_withIndex_withIndex hi hj h hr hinner hw⟩⟩

/-! ### Tables of tables -/

/-- The tables of the sample, and a variable with a table. -/
def tables : Environment where
  named
    | "local.mappings.M.t.s" | "var.Rows" =>
      some (.array [.array [.string "a", .string "b"], .array [.string "c", .string "d"]])
    | _ => none
  template := fun _ => none
  result := fun _ _ => none

theorem read_tables {name : String} (h : splitIndex? name.toList = none) :
    tables.read name = tables.named name := by
  rw [Environment.read, readName]
  split
  · next hsplit =>
      rw [h] at hsplit
      cases hsplit
  · rw [String.ofList_toList]

theorem denote_table : denote tables (.map "local.mappings.M.t.s") =
    some (.array [.array [.string "a", .string "b"], .array [.string "c", .string "d"]]) := by
  rw [denote_of_isName rfl, Reference.expression]
  exact read_tables (by decide)

theorem denote_rows : denote tables (.variable "Rows" none) =
    some (.array [.array [.string "a", .string "b"], .array [.string "c", .string "d"]]) := by
  have hexpression : (Reference.variable "Rows" none).expression = "var.Rows" := by
    rw [Reference.expression]
    decide
  rw [denote_of_isName rfl, hexpression]
  exact read_tables (by decide)

def rowsOfTable : Intrinsic := .findInMap (.string "M") (.string "t") (.string "s")

/-- A row of a table is kept. -/
theorem indices_kept_sample :
    ((nestedContext.render rowsOfTable none).run []).1 = .ok (.map "local.mappings.M.t.s") ∧
      ((nestedContext.render rowsOfTable (some 1)).run []).1 =
        .ok (.map "local.mappings.M.t.s[1]") ∧
      denote tables (.map "local.mappings.M.t.s[1]") =
        some (.array [.string "c", .string "d"]) := by
  have hplain : (nestedContext.render rowsOfTable none).run [] =
      (.ok (.map "local.mappings.M.t.s"), []) := by cbv
  have hasked : (nestedContext.render rowsOfTable (some 1)).run [] =
      (.ok (.map "local.mappings.M.t.s[1]"), []) := by cbv
  refine ⟨congrArg Prod.fst hplain, congrArg Prod.fst hasked, ?_⟩
  exact ((indices_kept_iff tables).1 nestedContext rowsOfTable 1 _ _ [] [] [] [] _ _
    (by simp [indexBound]) hplain hasked denote_table rfl).mpr rfl

/-- An element of a row is rendered as the row, and an element of an element of a variable is written
as an element of the variable. -/
theorem indices_lost :
    (∃ r r', rendering nestedContext nestedRow = .ok r ∧
      ((nestedContext.render nestedRow (some 0)).run []).1 = .ok r' ∧
      denote tables r = some (.array [.string "c", .string "d"]) ∧
      denote tables r' ≠ some (.string "c")) ∧
    denote tables (.variable "Rows" none) =
      some (.array [.array [.string "a", .string "b"], .array [.string "c", .string "d"]]) ∧
    denote tables (((Reference.variable "Rows" none).withIndex 1).withIndex 0) ≠
      some (.string "c") := by
  have hindex : (Expr.string "1").index? = some 1 := by decide
  have hrow : rendering nestedContext nestedRow = .ok (.map "local.mappings.M.t.s[1]") := by
    rw [rendering, nestedRow, render_select_intrinsic _ hindex]
    cbv
  have hdenote : denote tables (.map "local.mappings.M.t.s[1]") =
      some (.array [.string "c", .string "d"]) := by
    have hpath : (Reference.map "local.mappings.M.t.s").withIndex 1 =
        .map "local.mappings.M.t.s[1]" := by
      rw [Reference.withIndex]
      exact congrArg Reference.map (by decide)
    rw [← hpath]
    exact denote_withIndex (by simp [indexBound]) rfl denote_table rfl
  refine ⟨⟨_, .map "local.mappings.M.t.s[1]", hrow, ?_, hdenote, ?_⟩, denote_rows, ?_⟩
  · rw [render_of_ignores rfl]
    exact hrow
  · rw [hdenote]
    simp
  · rw [withIndex_withIndex rfl, denote_withIndex (by simp [indexBound]) rfl denote_rows rfl]
    simp

end StackExport.Proofs.IndexedReferences
