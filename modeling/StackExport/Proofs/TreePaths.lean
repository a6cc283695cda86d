import Mathlib.Logic.Function.Basic
import StackExport.AttributeTree
/-!
Where the paths of an attribute tree lead.
-/
namespace StackExport.Proofs.TreePaths

open StackExport

variable {path : Path} {tree item : AttributeTree} {name : String} {items : List AttributeTree}
  {entries : List (String × AttributeTree)}

/-! ### Trees whose nodes have paths of their own -/

mutual

/-- A property of a tree and of all trees in it. -/
def Everywhere (P : AttributeTree → Prop) : AttributeTree → Prop
  | .list items => P (.list items) ∧ EverywhereInItems P items
  | .object entries => P (.object entries) ∧ EverywhereInEntries P entries
  | .document inner => P (.document inner) ∧ Everywhere P inner
  | leaf => P leaf

def EverywhereInItems (P : AttributeTree → Prop) : List AttributeTree → Prop
  | [] => True
  | item :: rest => Everywhere P item ∧ EverywhereInItems P rest

def EverywhereInEntries (P : AttributeTree → Prop) : List (String × AttributeTree) → Prop
  | [] => True
  | (_, item) :: rest => Everywhere P item ∧ EverywhereInEntries P rest

end

/-- No two children of a node have one segment: the keys of an object are distinct, and a list has
no more items than a word of 64 bits can count. -/
def Addressable : AttributeTree → Prop
  | .list items => items.length ≤ Nat.pow 2 64
  | .object entries => (entries.map (·.1)).Nodup
  | _ => True

/-! ### Segments -/

theorem ofDigits_toDigits (n : Nat) : Decimal.ofDigits (Nat.toDigits 10 n) = n := by
  have hstep : (fun (n : Nat) (c : Char) => n * 10 + (c.toNat - '0'.toNat)) =
      fun n c => 10 * n + (c.toNat - '0'.toNat) := by
    funext n c
    rw [Nat.mul_comm]
  rw [Decimal.ofDigits, hstep]
  exact Nat.ofDigitChars_ten_toDigits

theorem word_toString {n : Nat} (hn : n < Nat.pow 2 64) : Decimal.word? (toString n) = some n := by
  have hdigits : (Nat.toDigits 10 n).all Char.isDigit = true :=
    List.all_eq_true.2 fun _ hc => Nat.isDigit_of_mem_toDigits (by decide) (by decide) hc
  have hne : (Nat.toDigits 10 n).isEmpty = false := by simp
  have htext : (toString n).toList = Nat.toDigits 10 n := by simp
  unfold Decimal.word?
  rw [htext]
  split
  -- a digit is no plus sign
  case h_1 rest heq => simp [heq, Char.isDigit] at hdigits
  case h_2 => simp only [hne, hdigits, ofDigits_toDigits, Bool.not_true, Bool.or_self,
    Bool.false_eq_true, if_false, if_pos hn]

theorem toString_injective : Function.Injective (toString : Nat → String) := by
  intro m n h
  have hdigits : Nat.toDigits 10 m = Nat.toDigits 10 n := by
    simpa using congrArg String.toList h
  rw [← ofDigits_toDigits m, hdigits, ofDigits_toDigits]

/-! ### Children -/

theorem getPath_child (tree : AttributeTree) (path : Path) (name : String) :
    tree.getPath? (path.child name) = (tree.getPath? path).bind (·.step? name) := by
  simp [AttributeTree.getPath?, Path.child, List.foldlM_append]

/-- Items stand at the paths of a list's elements from an index on. -/
def ItemsAt (tree : AttributeTree) (path : Path) (index : Nat) (items : List AttributeTree) :
    Prop :=
  ∀ i item, items[i]? = some item → tree.getPath? (path.element (index + i)) = some item

/-- Entries stand at the paths of an object's children. -/
def EntriesAt (tree : AttributeTree) (path : Path) (entries : List (String × AttributeTree)) :
    Prop :=
  ∀ name item, (name, item) ∈ entries → tree.getPath? (path.child name) = some item

theorem itemsAt_of_list (hlist : tree.getPath? path = some (.list items))
    (h : Addressable (.list items)) : ItemsAt tree path 0 items := by
  intro i item hitem
  have hlength : items.length ≤ Nat.pow 2 64 := h
  have hi : i < items.length := (List.getElem?_eq_some_iff.1 hitem).1
  have hword : Decimal.word? (toString i) = some i := word_toString (Nat.lt_of_lt_of_le hi hlength)
  rw [Nat.zero_add, Path.element, getPath_child, hlist]
  change (Decimal.word? (toString i)).bind (fun i => items[i]?) = some item
  rw [hword]
  exact hitem

theorem entriesAt_of_object (hobject : tree.getPath? path = some (.object entries))
    (h : Addressable (.object entries)) : EntriesAt tree path entries := by
  intro name item hentry
  rw [getPath_child, hobject]
  exact lookup?_of_mem h hentry

theorem getPath_eq_none_of_not_mem (hobject : tree.getPath? path = some (.object entries))
    (hname : name ∉ entries.map (·.1)) : tree.getPath? (path.child name) = none := by
  rw [getPath_child, hobject]
  refine Option.eq_none_iff_forall_ne_some.2 fun item hitem => hname ?_
  exact List.mem_map.2 ⟨_, mem_of_lookup? hitem, rfl⟩

section

variable {index : Nat}

theorem ItemsAt.head (h : ItemsAt tree path index (item :: items)) :
    tree.getPath? (path.element index) = some item :=
  h 0 item rfl

theorem ItemsAt.tail (h : ItemsAt tree path index (item :: items)) :
    ItemsAt tree path (index + 1) items := by
  intro i other hother
  rw [Nat.add_assoc, Nat.add_comm 1 i]
  exact h (i + 1) other hother

theorem EntriesAt.head (h : EntriesAt tree path ((name, item) :: entries)) :
    tree.getPath? (path.child name) = some item :=
  h name item List.mem_cons_self

theorem EntriesAt.tail (h : EntriesAt tree path ((name, item) :: entries)) :
    EntriesAt tree path entries :=
  fun other tree htree => h other tree (List.mem_cons_of_mem _ htree)

end

end StackExport.Proofs.TreePaths
