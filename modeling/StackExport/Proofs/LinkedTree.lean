import StackExport.Resolution
import StackExport.Proofs.RenderingIndependence
/-!
What is to become of the nodes of an attribute tree.

`Linked` relates a tree to what becomes of it, with the number of references put into it and the
values that were looked up on the way. It does not speak of the order of a walk.
-/
namespace StackExport.Proofs.LinkedTree

open StackExport
open StackExport.Resolution
open StackExport.Proofs.RenderingIndependence

/-! ### Values and calls -/

/-- What a call evaluates to, in the form that it takes in the state. -/
def result? (s : Stack) (call : Intrinsic) : Option Evaluated :=
  (s.evaluateCall call).bind Evaluated.ofJson?

/-- The call that stands for a value: the first that evaluates to it. -/
def claimant (s : Stack) (calls : List Intrinsic) (v : Evaluated) : Option Intrinsic :=
  calls.find? fun call => result? s call = some v

/-- The reference that may take the place of a value. -/
def link (c : RenderContext) (s : Stack) (calls : List Intrinsic) (v : Evaluated) :
    Option Reference :=
  (claimant s calls v).bind fun call => (rendering c call).toOption

section

variable {c : RenderContext} {s : Stack} {calls : List Intrinsic} {v : Evaluated} {r : Reference}

theorem link_eq_some_iff :
    link c s calls v = some r ↔
      ∃ call, claimant s calls v = some call ∧ rendering c call = .ok r := by
  rw [link, Option.bind_eq_some_iff]
  refine exists_congr fun call => and_congr_right fun _ => ?_
  cases rendering c call <;> simp [Except.toOption]

theorem exists_call_of_link (h : link c s calls v = some r) :
    ∃ call ∈ calls, result? s call = some v ∧ rendering c call = .ok r := by
  obtain ⟨call, hcall, hr⟩ := link_eq_some_iff.1 h
  exact ⟨call, List.mem_of_find?_eq_some hcall, by simpa using List.find?_some hcall, hr⟩

end

/-! ### What becomes of a node -/

/-- Where a node stands: at a path of the attributes, or inside a document. -/
inductive Scope where
  | attributes (path : Path)
  | document

namespace Scope

def child : Scope → String → Scope
  | .attributes path, name => .attributes (path.child name)
  | .document, _ => .document

def element : Scope → Nat → Scope
  | .attributes path, index => .attributes (path.element index)
  | .document, _ => .document

/-- Inside a document no path is unconfigurable. -/
def isOpaque (traits : ResourceTraits) : Scope → Bool
  | .attributes path => Resolution.isOpaque traits path
  | .document => false

/-- The value that a node is compared by. Inside a document only strings are. -/
def value? : Scope → AttributeTree → Option Evaluated
  | _, .string s => some (.text s)
  | .attributes _, .number n => some (.text n.text)
  | .attributes _, .list items => (listTexts? items).map .list
  | _, _ => none

/-- Nodes that have no parts: scalars, and strings that hold no document or stand in one. -/
def IsLeaf : Scope → AttributeTree → Prop
  | .attributes _, .string s => Json.document? s = none
  | _, .list _ | _, .object _ | _, .document _ => False
  | _, _ => True

end Scope

section

variable (traits : ResourceTraits) (link : Evaluated → Option Reference)

mutual

/-- What becomes of a node, the number of references put in its place or into its parts, and the
values that were looked up. -/
inductive Linked : Scope → AttributeTree → AttributeTree → Nat → List Evaluated → Prop where
  | untouched {scope : Scope} {tree : AttributeTree} (ho : scope.isOpaque traits = true) :
      Linked scope tree tree 0 []
  | reference {scope : Scope} {tree : AttributeTree} {v : Evaluated} {r : Reference}
      (ho : scope.isOpaque traits = false) (hv : scope.value? tree = some v)
      (hl : link v = some r) : Linked scope tree (.reference r) 1 [v]
  | leaf {scope : Scope} {tree : AttributeTree} (ho : scope.isOpaque traits = false)
      (hleaf : scope.IsLeaf tree) (hl : ∀ v ∈ scope.value? tree, link v = none) :
      Linked scope tree tree 0 (scope.value? tree).toList
  | expanded {path : Path} {s : String} {doc : Json} {inner : AttributeTree} {n : Nat}
      {met : List Evaluated} (ho : (Scope.attributes path).isOpaque traits = false)
      (hl : link (.text s) = none) (hd : Json.document? s = some doc)
      (h : Linked .document (.ofJson doc) inner n met) :
      Linked (.attributes path) (.string s) (.document inner) n (.text s :: met)
  | list {scope : Scope} {items items' : List AttributeTree} {n : Nat} {met : List Evaluated}
      (ho : scope.isOpaque traits = false)
      (hl : ∀ v ∈ scope.value? (.list items), link v = none)
      (h : LinkedItems scope 0 items items' n met) :
      Linked scope (.list items) (.list items') n ((scope.value? (.list items)).toList ++ met)
  | object {scope : Scope} {entries entries' : List (String × AttributeTree)} {n : Nat}
      {met : List Evaluated} (ho : scope.isOpaque traits = false)
      (h : LinkedEntries scope entries entries' n met) :
      Linked scope (.object entries) (.object entries') n met
  | document {scope : Scope} {inner inner' : AttributeTree} {n : Nat} {met : List Evaluated}
      (ho : scope.isOpaque traits = false) (h : Linked .document inner inner' n met) :
      Linked scope (.document inner) (.document inner') n met

/-- What becomes of the items of a list from an index on. -/
inductive LinkedItems : Scope → Nat → List AttributeTree → List AttributeTree → Nat →
    List Evaluated → Prop where
  | nil {scope : Scope} {index : Nat} : LinkedItems scope index [] [] 0 []
  | cons {scope : Scope} {index : Nat} {item item' : AttributeTree}
      {rest rest' : List AttributeTree} {n n' : Nat} {met met' : List Evaluated}
      (h : Linked (scope.element index) item item' n met)
      (hrest : LinkedItems scope (index + 1) rest rest' n' met') :
      LinkedItems scope index (item :: rest) (item' :: rest') (n + n') (met ++ met')

/-- What becomes of the entries of an object. -/
inductive LinkedEntries : Scope → List (String × AttributeTree) →
    List (String × AttributeTree) → Nat → List Evaluated → Prop where
  | nil {scope : Scope} : LinkedEntries scope [] [] 0 []
  | cons {scope : Scope} {key : String} {item item' : AttributeTree}
      {rest rest' : List (String × AttributeTree)} {n n' : Nat} {met met' : List Evaluated}
      (h : Linked (scope.child key) item item' n met)
      (hrest : LinkedEntries scope rest rest' n' met') :
      LinkedEntries scope ((key, item) :: rest) ((key, item') :: rest') (n + n') (met ++ met')

end

end

/-! What `Linked` says is decided by the node. -/

section

variable {traits : ResourceTraits} {link : Evaluated → Option Reference} {scope : Scope}
variable {tree after : AttributeTree} {n : Nat} {met : List Evaluated}

/-- Nothing happens at and under an unconfigurable path. -/
theorem Linked.untouched_of_isOpaque (h : Linked traits link scope tree after n met)
    (ho : scope.isOpaque traits = true) : after = tree ∧ n = 0 ∧ met = [] := by
  cases h with
  | untouched => exact ⟨rfl, rfl, rfl⟩
  | document ho' => simp [ho] at ho'
  | _ ho' => simp [ho] at ho'

/-- Elsewhere a value with a reference is always replaced. -/
theorem Linked.eq_reference (h : Linked traits link scope tree after n met)
    (ho : scope.isOpaque traits = false) {v : Evaluated} {r : Reference}
    (hv : scope.value? tree = some v) (hl : link v = some r) : after = .reference r := by
  cases h with
  | untouched ho' => simp [ho] at ho'
  | reference _ hv' hl' =>
      obtain rfl := Option.some.inj (hv.symm.trans hv')
      exact congrArg _ (Option.some.inj (hl'.symm.trans hl))
  | leaf _ _ hnone => simpa [hl] using hnone v hv
  | list _ hnone => simpa [hl] using hnone v hv
  | expanded _ hnone =>
      cases hv
      simp [hl] at hnone
  | object => cases hv
  | document => cases hv

/-- A string that holds a document is expanded unless it is replaced. -/
theorem Linked.exists_document {path : Path} {s : String} {doc : Json}
    (h : Linked traits link (.attributes path) (.string s) after n met)
    (ho : (Scope.attributes path).isOpaque traits = false) (hl : link (.text s) = none)
    (hd : Json.document? s = some doc) :
    ∃ inner met', after = .document inner ∧
      Linked traits link .document (.ofJson doc) inner n met' := by
  cases h with
  | untouched ho' => simp [ho] at ho'
  | reference _ hv hl' =>
      cases hv
      simp [hl] at hl'
  | leaf _ hleaf => simp [Scope.IsLeaf, hd] at hleaf
  | expanded _ _ hd' h =>
      obtain rfl := Option.some.inj (hd.symm.trans hd')
      exact ⟨_, _, rfl, h⟩

/-- An object keeps its keys. -/
theorem Linked.of_object_singleton {key : String} {item : AttributeTree}
    (h : Linked traits link scope (.object [(key, item)]) after n met)
    (ho : scope.isOpaque traits = false) :
    ∃ item' n' met', after = .object [(key, item')] ∧
      Linked traits link (scope.child key) item item' n' met' := by
  cases h with
  | untouched ho' => simp [ho] at ho'
  | reference _ hv => cases scope <;> cases hv
  | leaf _ hleaf => cases scope <;> exact hleaf.elim
  | object _ hentries =>
      obtain _ | ⟨hitem, hrest⟩ := hentries
      cases hrest
      exact ⟨_, _, _, rfl, hitem⟩

end

end StackExport.Proofs.LinkedTree
