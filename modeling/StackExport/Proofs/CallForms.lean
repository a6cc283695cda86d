import Mathlib
import StackExport.Template.Reader
/-!
Reading calls of attributes that are written in different forms.

Documents are alike when they differ only in the calls of attributes, whose argument is a dotted
text in one and a list of two in the other. Both forms are read as the same call. A substitution may
have such a call in place of its variables, and takes it for a variable there; what it reads then is
all in which the expressions that are read from two documents differ.
-/
namespace StackExport.Proofs.CallForms

open StackExport
open StackExport.Expr

/-! ### Results that agree -/

/-- Both results are there and related, or neither is and for the same reason. -/
inductive Together {ε α β : Type} (R : α → β → Prop) : Except ε α → Except ε β → Prop where
  | ok {a : α} {b : β} (h : R a b) : Together R (.ok a) (.ok b)
  | error (e : ε) : Together R (.error e) (.error e)

namespace Together

variable {ε α β γ δ : Type} {R : α → β → Prop} {S : γ → δ → Prop}

theorem pure {a : α} {b : β} (h : R a b) :
    Together R (Pure.pure a : Except ε α) (Pure.pure b) := .ok h

theorem bind {x : Except ε α} {y : Except ε β} {f : α → Except ε γ} {g : β → Except ε δ}
    (hx : Together R x y) (hf : ∀ a b, R a b → Together S (f a) (g b)) :
    Together S (x >>= f) (y >>= g) := by
  cases hx with
  | ok h => exact hf _ _ h
  | error e => exact .error e

theorem refl {R : α → α → Prop} (hR : ∀ a, R a a) (x : Except ε α) : Together R x x := by
  cases x with
  | ok a => exact .ok (hR a)
  | error e => exact .error e

theorem symm {R : α → α → Prop} (hR : ∀ a b, R a b → R b a) {x y : Except ε α}
    (h : Together R x y) : Together R y x := by
  cases h with
  | ok h => exact .ok (hR _ _ h)
  | error e => exact .error e

theorem mono {R' : α → β → Prop} {x : Except ε α} {y : Except ε β} (h : Together R x y)
    (hR : ∀ a b, R a b → R' a b) : Together R' x y := by
  cases h with
  | ok h => exact .ok (hR _ _ h)
  | error e => exact .error e

end Together

/-! ### Calls in place of variables -/

/-- The variable of a substitution that has no other and whose name is that of a call. -/
def callVariable : List (String × Expr) → List Expr
  | [(key, value)] => if key = "Fn::GetAtt" then [value] else []
  | _ => []

mutual

/-- What substitutions in a value read for a call that stands in place of their variables. -/
def slots : Expr → List Expr
  | .list items => itemSlots items
  | .object entries => entrySlots entries
  | .intrinsic call => callSlots call
  | _ => []

def itemSlots : List Expr → List Expr
  | [] => []
  | item :: rest => slots item ++ itemSlots rest

def entrySlots : List (String × Expr) → List Expr
  | [] => []
  | (_, value) :: rest => slots value ++ entrySlots rest

def callSlots : Intrinsic → List Expr
  | .getAtt _ field => slots field
  | .sub _ bindings => callVariable bindings ++ entrySlots bindings
  | .join _ items => slots items
  | .select index items => slots index ++ slots items
  | .split _ source => slots source
  | .base64 value | .zones value | .importValue value => slots value
  | .cidr block count bits => slots block ++ slots count ++ slots bits
  | .findInMap map top second => slots map ++ slots top ++ slots second
  | .ref _ | .unsupported _ => []

end

/-- Two things that are the same if what `f` lists of them is, and of which it lists as much. -/
structure SameBut {α : Type} (f : α → List Expr) (a b : α) : Prop where
  length : (f a).length = (f b).length
  eq : f a = f b → a = b

namespace SameBut

variable {α β γ δ : Type} {f : α → List Expr} {g : β → List Expr} {h : γ → List Expr}
  {k : δ → List Expr} {a a' : α} {b b' : β} {c c' : γ}

theorem refl (f : α → List Expr) (a : α) : SameBut f a a := ⟨rfl, fun _ => rfl⟩

theorem symm (h : SameBut f a a') : SameBut f a' a :=
  ⟨h.length.symm, fun heq => (h.eq heq.symm).symm⟩

/-- Putting something around. -/
theorem within (build : α → δ) (hk : ∀ a, k (build a) = f a) (ha : SameBut f a a') :
    SameBut k (build a) (build a') where
  length := by rw [hk, hk, ha.length]
  eq heq := by
    rw [hk, hk] at heq
    rw [ha.eq heq]

theorem pair (build : α → β → δ) (hk : ∀ a b, k (build a b) = f a ++ g b) (ha : SameBut f a a')
    (hb : SameBut g b b') : SameBut k (build a b) (build a' b') where
  length := by rw [hk, hk, List.length_append, List.length_append, ha.length, hb.length]
  eq heq := by
    rw [hk, hk] at heq
    obtain ⟨hfa, hgb⟩ := List.append_inj heq ha.length
    rw [ha.eq hfa, hb.eq hgb]

theorem triple {build : α → β → γ → δ} (hk : ∀ a b c, k (build a b c) = f a ++ g b ++ h c)
    (ha : SameBut f a a') (hb : SameBut g b b') (hc : SameBut h c c') :
    SameBut k (build a b c) (build a' b' c') where
  length := by simp only [hk, List.length_append, ha.length, hb.length, hc.length]
  eq heq := by
    rw [hk, hk] at heq
    obtain ⟨hab, hhc⟩ := List.append_inj heq (by
      rw [List.length_append, List.length_append, ha.length, hb.length])
    obtain ⟨hfa, hgb⟩ := List.append_inj hab ha.length
    rw [ha.eq hfa, hb.eq hgb, hc.eq hhc]

theorem flatMap {as bs : List α} (h : List.Forall₂ (SameBut f) as bs) :
    SameBut (fun as => as.flatMap f) as bs := by
  induction h with
  | nil => exact refl _ []
  | cons hab _ ih => exact pair _ (fun _ _ => List.flatMap_cons) hab ih

end SameBut

/-- Entries one by one with keys of the same text and related values. -/
inductive Matching {κ α β : Type} (text : κ → String) (R : String → α → β → Prop) :
    List (κ × α) → List (κ × β) → Prop where
  | nil : Matching text R [] []
  | cons {k l : κ} {a : α} {b : β} {as : List (κ × α)} {bs : List (κ × β)}
      (hkey : text k = text l) (h : R (text k) a b) (hrest : Matching text R as bs) :
      Matching text R ((k, a) :: as) ((l, b) :: bs)

namespace Matching

variable {α β γ δ ε : Type} {R : String → α → β → Prop} {entries : List (String × α)}
  {entries' : List (String × β)}

theorem refl {R : String → α → α → Prop} (hR : ∀ key a, R key a a) (entries : List (String × α)) :
    Matching id R entries entries := by
  induction entries with
  | nil => exact .nil
  | cons entry entries ih => exact .cons rfl (hR _ _) ih

theorem lookup?_cases (h : Matching id R entries entries') (key : String) :
    (lookup? key entries = none ∧ lookup? key entries' = none) ∨
      ∃ a b, lookup? key entries = some a ∧ lookup? key entries' = some b ∧ R key a b := by
  induction h with
  | nil => exact .inl ⟨rfl, rfl⟩
  | @cons k l a b _ _ hkey hab _ ih =>
      obtain rfl : k = l := hkey
      simp only [lookup?]
      by_cases hk : k = key
      · subst hk
        exact .inr ⟨a, b, by simp, by simp, hab⟩
      · simpa [hk] using ih

theorem putEntry (h : Matching id R entries entries') {key : String} {a : α} {b : β}
    (hab : R key a b) :
    Matching id R (putEntry key a entries) (StackExport.putEntry key b entries') := by
  induction h with
  | nil => exact .cons rfl hab .nil
  | @cons k l c d _ _ hkey hcd hrest ih =>
      obtain rfl : k = l := hkey
      simp only [StackExport.putEntry]
      by_cases hk : k = key
      · subst hk
        simpa using Matching.cons rfl hab hrest
      · simpa [hk] using Matching.cons rfl hcd ih

theorem mergeEntries (h : Matching id R entries entries') :
    Matching id R (mergeEntries entries) (StackExport.mergeEntries entries') := by
  have hfold {taken : List (String × α)} {taken' : List (String × β)}
      (htaken : Matching id R taken taken') :
      Matching id R (entries.foldl (fun merged e => StackExport.putEntry e.1 e.2 merged) taken)
        (entries'.foldl (fun merged e => StackExport.putEntry e.1 e.2 merged) taken') := by
    induction h generalizing taken taken' with
    | nil => exact htaken
    | cons hkey hab _ ih =>
        cases hkey
        exact ih (htaken.putEntry hab)
  exact hfold .nil

theorem mapM {S : γ → δ → Prop} (h : Matching id R entries entries')
    {f : String × α → Except ε γ} {g : String × β → Except ε δ}
    (hf : ∀ key a b, R key a b → Together S (f (key, a)) (g (key, b))) :
    Together (List.Forall₂ S) (entries.mapM f) (entries'.mapM g) := by
  induction h with
  | nil => exact .pure .nil
  | cons hkey hab _ ih =>
      cases hkey
      rw [List.mapM_cons, List.mapM_cons]
      exact (hf _ _ _ hab).bind fun _ _ hfirst => ih.bind fun _ _ hrest =>
        .pure (.cons hfirst hrest)

end Matching

/-! ### Documents that are alike -/

/-- Documents that differ only in the form of calls of attributes. -/
inductive Alike : Json → Json → Prop where
  | null : Alike .null .null
  | bool (b : Bool) : Alike (.bool b) (.bool b)
  | number (n : Number) : Alike (.number n) (.number n)
  | string (s : String) : Alike (.string s) (.string s)
  | array {items items' : List Json} (h : List.Forall₂ Alike items items') :
      Alike (.array items) (.array items')
  | object {entries entries' : List (String × Json)}
      (h : Matching id (fun _ => Alike) entries entries') :
      Alike (.object entries) (.object entries')
  | listed {text resource field : String}
      (h : Text.splitOnce? '.' text = some (resource, field)) :
      Alike (.object [("Fn::GetAtt", .string text)])
        (.object [("Fn::GetAtt", .array [.string resource, .string field])])
  | dotted {text resource field : String}
      (h : Text.splitOnce? '.' text = some (resource, field)) :
      Alike (.object [("Fn::GetAtt", .array [.string resource, .string field])])
        (.object [("Fn::GetAtt", .string text)])

theorem Alike.misuse_eq {a b : Json} (h : Alike a b) (tag : String) (least most : Nat) :
    misuse tag least most a = misuse tag least most b := by
  cases h with
  | array hitems => rw [misuse, misuse, hitems.length_eq]
  | _ => rfl

theorem Alike.textArgument_eq {a b : Json} (h : Alike a b) (tag : String) :
    textArgument tag a = textArgument tag b := by
  cases h <;> rfl

/-- Alike documents are both objects, or neither is. -/
theorem Alike.objects {a b : Json} (h : Alike a b) :
    (∃ entries entries', a = .object entries ∧ b = .object entries') ∨
      (∀ entries, a ≠ .object entries) ∧ ∀ entries, b ≠ .object entries := by
  cases h with
  | object _ => exact .inl ⟨_, _, rfl, rfl⟩
  | listed _ => exact .inl ⟨_, _, rfl, rfl⟩
  | dotted _ => exact .inl ⟨_, _, rfl, rfl⟩
  | _ => exact .inr ⟨by simp, by simp⟩

/-- What the variables of a substitution show of calls in their place, and inside them. -/
def bindingSlots (bindings : List (String × Expr)) : List Expr :=
  callVariable bindings ++ entrySlots bindings

/-- Two documents are read as expressions that are the same but for their slots, whether they stand
for a value, for the argument of a call or for the variables of a substitution. -/
structure ReadAlike (a b : Json) : Prop where
  value : Together (SameBut slots) (ofJson a) (ofJson b)
  call : ∀ tag, Together (SameBut callSlots) (callOf tag a) (callOf tag b)
  bindings : ∀ entries entries', a = .object entries → b = .object entries' →
    Together (SameBut bindingSlots) (ofJsonEntries entries) (ofJsonEntries entries')

theorem ReadAlike.refl (a : Json) : ReadAlike a a where
  value := .refl (SameBut.refl _) _
  call _ := .refl (SameBut.refl _) _
  bindings entries entries' h h' := by
    cases h.symm.trans h'
    exact .refl (SameBut.refl _) _

theorem ReadAlike.symm {a b : Json} (h : ReadAlike a b) : ReadAlike b a where
  value := h.value.symm fun _ _ => SameBut.symm
  call tag := (h.call tag).symm fun _ _ => SameBut.symm
  bindings entries entries' hb ha :=
    (h.bindings entries' entries ha hb).symm fun _ _ => SameBut.symm

/-- Alike documents whose items, if they are lists, are read alike. -/
structure Arguments (a b : Json) : Prop where
  alike : Alike a b
  items : ∀ items items', a = .array items → b = .array items' → List.Forall₂ ReadAlike items items'

namespace Arguments

variable {a b : Json}

/-- Arguments are both lists of a length, or neither are. -/
theorem ofLength (h : Arguments a b) (n : Nat) :
    (∃ items items', a = .array items ∧ b = .array items' ∧ items.length = n ∧
        List.Forall₂ (fun x y => Alike x y ∧ ReadAlike x y) items items') ∨
      (∀ items, a = .array items → items.length ≠ n) ∧
        ∀ items, b = .array items → items.length ≠ n := by
  obtain ⟨halike, hitems⟩ := h
  cases halike with
  | @array items items' hargs =>
      by_cases hn : items.length = n
      · have hboth := hargs.mp (fun _ _ => And.intro) (hitems _ _ rfl rfl)
        exact .inl ⟨_, _, rfl, rfl, hn, hboth⟩
      · have hn' : items'.length ≠ n := hargs.length_eq ▸ hn
        exact .inr ⟨by simpa using hn, by simpa using hn'⟩
  | _ => exact .inr ⟨by simp, by simp⟩

/-- Arguments are both two, or neither are. -/
theorem pair (h : Arguments a b) :
    (∃ x y x' y', a = .array [x, y] ∧ b = .array [x', y'] ∧
        Alike x x' ∧ ReadAlike x x' ∧ ReadAlike y y') ∨
      (∀ x y, a ≠ .array [x, y]) ∧ ∀ x y, b ≠ .array [x, y] := by
  rcases h.ofLength 2 with ⟨items, items', rfl, rfl, hlength, hargs⟩ | ⟨ha, hb⟩
  · match hargs, hlength with
    | .cons hx (.cons hy .nil), _ => exact .inl ⟨_, _, _, _, rfl, rfl, hx.1, hx.2, hy.2⟩
  · exact .inr ⟨fun x y hxy => ha _ hxy rfl, fun x y hxy => hb _ hxy rfl⟩

/-- Arguments are both three, or neither are. -/
theorem triple (h : Arguments a b) :
    (∃ x y z x' y' z', a = .array [x, y, z] ∧ b = .array [x', y', z'] ∧
        ReadAlike x x' ∧ ReadAlike y y' ∧ ReadAlike z z') ∨
      (∀ x y z, a ≠ .array [x, y, z]) ∧ ∀ x y z, b ≠ .array [x, y, z] := by
  rcases h.ofLength 3 with ⟨items, items', rfl, rfl, hlength, hargs⟩ | ⟨ha, hb⟩
  · match hargs, hlength with
    | .cons hx (.cons hy (.cons hz .nil)), _ =>
        exact .inl ⟨_, _, _, _, _, _, rfl, rfl, hx.2, hy.2, hz.2⟩
  · exact .inr ⟨fun x y z hxyz => ha _ hxyz rfl, fun x y z hxyz => hb _ hxyz rfl⟩

/-- Arguments are both four, or neither are; the fourth is of no account. -/
theorem quadruple (h : Arguments a b) :
    (∃ x y z w x' y' z' w', a = .array [x, y, z, w] ∧ b = .array [x', y', z', w'] ∧
        ReadAlike x x' ∧ ReadAlike y y' ∧ ReadAlike z z') ∨
      (∀ x y z w, a ≠ .array [x, y, z, w]) ∧ ∀ x y z w, b ≠ .array [x, y, z, w] := by
  rcases h.ofLength 4 with ⟨items, items', rfl, rfl, hlength, hargs⟩ | ⟨ha, hb⟩
  · match hargs, hlength with
    | .cons hx (.cons hy (.cons hz (.cons _ .nil))), _ =>
        exact .inl ⟨_, _, _, _, _, _, _, _, rfl, rfl, hx.2, hy.2, hz.2⟩
  · exact .inr ⟨fun x y z w hall => ha _ hall rfl, fun x y z w hall => hb _ hall rfl⟩

theorem misuse (h : Arguments a b) (tag : String) (least most : Nat) :
    Together (SameBut callSlots) (.error (Expr.misuse tag least most a))
      (.error (Expr.misuse tag least most b)) := by
  rw [h.alike.misuse_eq]
  exact .error _

end Arguments

/-! ### Calls with arguments of different kinds -/

section Kinds

variable {tag : String} {x y z x' y' z' : Json}

theorem together_text {γ : Type} {f : γ → List Expr} (hx : Alike x x')
    {rest rest' : String → Except TemplateError γ}
    (hrest : ∀ text, Together (SameBut f) (rest text) (rest' text)) :
    Together (SameBut f) (textArgument tag x >>= rest) (textArgument tag x' >>= rest') := by
  rw [hx.textArgument_eq]
  refine (Together.refl (fun _ => rfl) (textArgument tag x')).bind ?_
  rintro text _ rfl
  exact hrest text

theorem together_one (hx : ReadAlike x x') {build : Expr → Intrinsic}
    (hslots : ∀ e, callSlots (build e) = slots e) :
    Together (SameBut callSlots) (do return build (← ofJson x)) (do return build (← ofJson x')) :=
  hx.value.bind fun _ _ he => .pure (he.within _ hslots)

theorem together_two (hx : ReadAlike x x') (hy : ReadAlike y y') {build : Expr → Expr → Intrinsic}
    (hslots : ∀ e f, callSlots (build e f) = slots e ++ slots f) :
    Together (SameBut callSlots)
      (do let e ← ofJson x; return build e (← ofJson y))
      (do let e ← ofJson x'; return build e (← ofJson y')) :=
  hx.value.bind fun _ _ he => hy.value.bind fun _ _ hf => .pure (he.pair _ hslots hf)

theorem together_three (hx : ReadAlike x x') (hy : ReadAlike y y') (hz : ReadAlike z z')
    {build : Expr → Expr → Expr → Intrinsic}
    (hslots : ∀ e f g, callSlots (build e f g) = slots e ++ slots f ++ slots g) :
    Together (SameBut callSlots)
      (do let e ← ofJson x; let f ← ofJson y; return build e f (← ofJson z))
      (do let e ← ofJson x'; let f ← ofJson y'; return build e f (← ofJson z')) :=
  hx.value.bind fun _ _ he => hy.value.bind fun _ _ hf => hz.value.bind fun _ _ hg =>
    .pure (he.triple hslots hf hg)

end Kinds

section Calls

variable {a b : Json}

theorem together_getAtt (h : Arguments a b) :
    Together (SameBut callSlots) (callOf "Fn::GetAtt" a) (callOf "Fn::GetAtt" b) := by
  rcases h.pair with ⟨x, y, x', y', rfl, rfl, hx, -, hy⟩ | ⟨ha, hb⟩
  · rw [callOf, callOf]
    exact together_text hx fun _ => together_one hy fun _ => by rw [callSlots]
  · by_cases hstring : ∃ s, a = .string s
    · obtain ⟨s, rfl⟩ := hstring
      cases h.alike
      exact .refl (SameBut.refl _) _
    · have ha' : ∀ s, a ≠ .string s := fun s hs => hstring ⟨s, hs⟩
      have hb' : ∀ s, b ≠ .string s := by
        rintro s rfl
        cases h.alike
        exact hstring ⟨s, rfl⟩
      rw [callOf, callOf]
      · exact h.misuse ..
      all_goals assumption

/-- The variables of a substitution are read as entries, also where a call stands in their place. -/
theorem together_sub (h : Arguments a b) :
    Together (SameBut callSlots) (callOf "Fn::Sub" a) (callOf "Fn::Sub" b) := by
  have hmisuse := h.misuse "Fn::Sub" 1 2
  obtain ⟨halike, hitems⟩ := h
  cases halike with
  | null | bool | number | string => exact .refl (SameBut.refl _) _
  | array hargs =>
      have hread := hitems _ _ rfl rfl
      rcases hargs with _ | ⟨hx, _ | ⟨hy, _ | _⟩⟩
      · exact .refl (SameBut.refl _) _
      · rw [callOf, callOf]
        exact together_text hx fun _ => .pure (.refl _ _)
      · obtain ⟨-, hry⟩ : ReadAlike _ _ ∧ ReadAlike _ _ := by simpa using hread
        rcases hy.objects with ⟨entries, entries', rfl, rfl⟩ | ⟨ha, hb⟩
        · rw [callOf, callOf]
          refine (hry.bindings _ _ rfl rfl).bind fun _ _ hbindings => ?_
          refine together_text hx fun text => .pure (hbindings.within _ fun _ => ?_)
          rw [callSlots, bindingSlots]
        · rw [callOf, callOf]
          · exact .error _
          all_goals assumption
      · rw [callOf, callOf]
        · exact hmisuse
        all_goals simp
  | _ =>
      rw [callOf, callOf]
      · exact hmisuse
      all_goals simp

theorem together_join (h : Arguments a b) :
    Together (SameBut callSlots) (callOf "Fn::Join" a) (callOf "Fn::Join" b) := by
  rcases h.pair with ⟨x, y, x', y', rfl, rfl, hx, -, hy⟩ | ⟨ha, hb⟩
  · rw [callOf, callOf]
    exact together_text hx fun _ => together_one hy fun _ => by rw [callSlots]
  · rw [callOf, callOf]
    · exact h.misuse ..
    all_goals assumption

theorem together_select (h : Arguments a b) :
    Together (SameBut callSlots) (callOf "Fn::Select" a) (callOf "Fn::Select" b) := by
  rcases h.pair with ⟨x, y, x', y', rfl, rfl, -, hx, hy⟩ | ⟨ha, hb⟩
  · rw [callOf, callOf]
    exact together_two hx hy fun _ _ => by rw [callSlots]
  · rw [callOf, callOf]
    · exact h.misuse ..
    all_goals assumption

theorem together_split (h : Arguments a b) :
    Together (SameBut callSlots) (callOf "Fn::Split" a) (callOf "Fn::Split" b) := by
  rcases h.pair with ⟨x, y, x', y', rfl, rfl, hx, -, hy⟩ | ⟨ha, hb⟩
  · rw [callOf, callOf]
    exact together_text hx fun _ => together_one hy fun _ => by rw [callSlots]
  · rw [callOf, callOf]
    · exact h.misuse ..
    all_goals assumption

theorem together_cidr (h : Arguments a b) :
    Together (SameBut callSlots) (callOf "Fn::Cidr" a) (callOf "Fn::Cidr" b) := by
  rcases h.triple with ⟨x, y, z, x', y', z', rfl, rfl, hx, hy, hz⟩ | ⟨ha, hb⟩
  · rw [callOf, callOf]
    exact together_three hx hy hz fun _ _ _ => by rw [callSlots]
  · rw [callOf, callOf]
    · exact h.misuse ..
    all_goals assumption

theorem together_findInMap (h : Arguments a b) :
    Together (SameBut callSlots) (callOf "Fn::FindInMap" a) (callOf "Fn::FindInMap" b) := by
  rcases h.triple with ⟨x, y, z, x', y', z', rfl, rfl, hx, hy, hz⟩ | ⟨ha, hb⟩
  · rw [callOf, callOf]
    exact together_three hx hy hz fun _ _ _ => by rw [callSlots]
  rcases h.quadruple with ⟨x, y, z, w, x', y', z', w', rfl, rfl, hx, hy, hz⟩ | ⟨ha', hb'⟩
  · rw [callOf, callOf]
    exact together_three hx hy hz fun _ _ _ => by rw [callSlots]
  · rw [callOf, callOf]
    · exact h.misuse ..
    all_goals assumption

/-- A call is read alike with whatever arguments are. -/
theorem together_callOf (h : Arguments a b)
    (hvalue : Together (SameBut slots) (ofJson a) (ofJson b)) (tag : String) :
    Together (SameBut callSlots) (callOf tag a) (callOf tag b) := by
  have hone {build : Expr → Intrinsic} (hslots : ∀ e, callSlots (build e) = slots e) :
      Together (SameBut callSlots) (do return build (← ofJson a)) (do return build (← ofJson b)) :=
    hvalue.bind fun _ _ he => .pure (he.within _ hslots)
  by_cases href : tag = "Ref"
  · subst href
    rw [callOf, callOf]
    exact together_text h.alike fun _ => .pure (.refl _ _)
  by_cases hgetAtt : tag = "Fn::GetAtt"
  · exact hgetAtt ▸ together_getAtt h
  by_cases hsub : tag = "Fn::Sub"
  · exact hsub ▸ together_sub h
  by_cases hjoin : tag = "Fn::Join"
  · exact hjoin ▸ together_join h
  by_cases hselect : tag = "Fn::Select"
  · exact hselect ▸ together_select h
  by_cases hsplit : tag = "Fn::Split"
  · exact hsplit ▸ together_split h
  by_cases hbase64 : tag = "Fn::Base64"
  · subst hbase64
    rw [callOf, callOf]
    exact hone fun _ => by rw [callSlots]
  by_cases hcidr : tag = "Fn::Cidr"
  · exact hcidr ▸ together_cidr h
  by_cases hfind : tag = "Fn::FindInMap"
  · exact hfind ▸ together_findInMap h
  by_cases hzones : tag = "Fn::GetAZs"
  · subst hzones
    rw [callOf, callOf]
    exact hone fun _ => by rw [callSlots]
  by_cases himport : tag = "Fn::ImportValue"
  · subst himport
    rw [callOf, callOf]
    exact hone fun _ => by rw [callSlots]
  · have hother (argument : Json) : callOf tag argument = .ok (.unsupported tag) := by
      rw [callOf] <;> assumption
    rw [hother, hother]
    exact .ok (.refl _ _)

end Calls

/-! ### Reading alike documents -/

theorem Matching.single {R : String → Json → Json → Prop} {entries entries' : List (String × Json)}
    (h : Matching id R entries entries') :
    (∃ key x x', entries = [(key, x)] ∧ entries' = [(key, x')] ∧ R key x x') ∨
      (∀ key x, entries ≠ [(key, x)]) ∧ ∀ key x, entries' ≠ [(key, x)] := by
  rcases h with _ | ⟨hkey, hx, _ | _⟩
  · exact .inr ⟨by simp, by simp⟩
  · cases hkey
    exact .inl ⟨_, _, _, rfl, rfl, hx⟩
  · exact .inr ⟨by simp, by simp⟩

theorem together_ofJsonItems {items items' : List Json}
    (h : List.Forall₂ ReadAlike items items') :
    Together (SameBut itemSlots) (ofJsonItems items) (ofJsonItems items') := by
  induction h with
  | nil => exact .refl (SameBut.refl _) _
  | cons hx _ ih =>
      rw [ofJsonItems, ofJsonItems]
      exact hx.value.bind fun _ _ he => ih.bind fun _ _ hrest =>
        .pure (he.pair _ (fun _ _ => by rw [itemSlots]) hrest)

theorem together_ofJsonEntries {entries entries' : List (String × Json)}
    (h : Matching id (fun _ => ReadAlike) entries entries') :
    Together (fun es es' => es.map (·.1) = es'.map (·.1) ∧ SameBut entrySlots es es')
      (ofJsonEntries entries) (ofJsonEntries entries') := by
  induction h with
  | nil => exact .refl (fun _ => ⟨rfl, SameBut.refl _ _⟩) _
  | @cons k l x x' rest rest' hkey hx _ ih =>
      cases hkey
      rw [ofJsonEntries, ofJsonEntries]
      refine hx.value.bind fun _ _ he => ih.bind fun _ _ hrest => .pure ⟨?_, ?_⟩
      · rw [List.map_cons, List.map_cons, hrest.1]
      · exact he.pair (fun e es => (k, e) :: es) (fun _ _ => by rw [entrySlots]) hrest.2

theorem length_callVariable (bindings : List (String × Expr)) :
    (callVariable bindings).length =
      if bindings.map (·.1) = ["Fn::GetAtt"] then 1 else 0 := by
  rcases bindings with _ | ⟨⟨key, value⟩, _ | _⟩
  · rfl
  · rw [callVariable]
    split_ifs <;> simp_all
  · simp [callVariable]

theorem sameBut_bindingSlots {bindings bindings' : List (String × Expr)}
    (hkeys : bindings.map (·.1) = bindings'.map (·.1)) (h : SameBut entrySlots bindings bindings') :
    SameBut bindingSlots bindings bindings' := by
  have hlength : (callVariable bindings).length = (callVariable bindings').length := by
    rw [length_callVariable, length_callVariable, hkeys]
  refine ⟨?_, fun heq => h.eq (List.append_inj heq hlength).2⟩
  rw [bindingSlots, bindingSlots, List.length_append, List.length_append, hlength, h.length]

/-- Both forms of a call of an attribute are read as the same call. -/
theorem ofJson_getAtt_forms {text resource field : String}
    (h : Text.splitOnce? '.' text = some (resource, field)) :
    ofJson (.object [("Fn::GetAtt", .string text)]) =
        .ok (.intrinsic (.getAtt resource (.string field))) ∧
      ofJson (.object [("Fn::GetAtt", .array [.string resource, .string field])]) =
        .ok (.intrinsic (.getAtt resource (.string field))) := by
  have hkey : isCallKey "Fn::GetAtt" = true := by simp [isCallKey]
  have hfield : ofJson (.string field) = .ok (.string field) := by rw [ofJson]
  constructor
  · rw [ofJson, if_pos hkey, callOf, h]
    rfl
  · rw [ofJson, if_pos hkey, callOf, hfield]
    rfl

theorem readAlike_listed {text resource field : String}
    (h : Text.splitOnce? '.' text = some (resource, field)) :
    ReadAlike (.object [("Fn::GetAtt", .string text)])
      (.object [("Fn::GetAtt", .array [.string resource, .string field])]) := by
  obtain ⟨htext, hlist⟩ := ofJson_getAtt_forms h
  have hvalue : Together (SameBut slots) (ofJson (.object [("Fn::GetAtt", .string text)]))
      (ofJson (.object [("Fn::GetAtt", .array [.string resource, .string field])])) := by
    rw [htext, hlist]
    exact .ok (.refl _ _)
  refine ⟨hvalue, together_callOf ⟨.listed h, by simp⟩ hvalue, ?_⟩
  rintro entries entries' hentries hentries'
  obtain rfl := Json.object.inj hentries
  obtain rfl := Json.object.inj hentries'
  simp only [ofJsonEntries, ofJson, ofJsonItems]
  exact .ok ⟨rfl, fun heq => by simp [bindingSlots, callVariable] at heq⟩

theorem together_ofJson_object {entries entries' : List (String × Json)}
    (h : Matching id (fun _ => ReadAlike) entries entries') :
    Together (SameBut slots) (ofJson (.object entries)) (ofJson (.object entries')) := by
  rcases h.single with ⟨key, x, x', rfl, rfl, hx⟩ | ⟨hmany, hmany'⟩
  · rw [ofJson, ofJson]
    split_ifs
    · exact (hx.call key).bind fun _ _ hcall => .pure (hcall.within _ fun _ => by rw [slots])
    · refine hx.value.bind fun _ _ he => .pure ?_
      exact he.within (fun e => Expr.object [(key, e)]) fun _ => by
        rw [slots, entrySlots, entrySlots, List.append_nil]
  · rw [ofJson, ofJson]
    · exact (together_ofJsonEntries h).bind fun _ _ hes =>
        .pure (hes.2.within _ fun _ => by rw [slots])
    all_goals assumption

mutual

/-- Alike documents are read alike. -/
theorem readAlike_of_alike {a b : Json} (h : Alike a b) : ReadAlike a b := by
  cases a with
  | array items =>
      cases h with
      | @array _ items' hitems =>
          have hread := forall_readAlike_of_alike hitems
          have hvalue : Together (SameBut slots) (ofJson (.array items))
              (ofJson (.array items')) := by
            rw [ofJson, ofJson]
            exact (together_ofJsonItems hread).bind fun _ _ hes =>
              .pure (hes.within _ fun _ => by rw [slots])
          refine ⟨hvalue, together_callOf ⟨.array hitems, ?_⟩ hvalue, by simp⟩
          rintro _ _ ⟨⟩ ⟨⟩
          exact hread
  | object entries =>
      cases h with
      | object hentries =>
          have hread := matching_readAlike_of_alike hentries
          have hvalue := together_ofJson_object hread
          refine ⟨hvalue, together_callOf ⟨.object hentries, by simp⟩ hvalue, ?_⟩
          rintro _ _ ⟨⟩ ⟨⟩
          exact (together_ofJsonEntries hread).mono fun _ _ hes => sameBut_bindingSlots hes.1 hes.2
      | listed hsplit => exact readAlike_listed hsplit
      | dotted hsplit => exact (readAlike_listed hsplit).symm
  | _ =>
      cases h
      exact .refl _

theorem forall_readAlike_of_alike {items items' : List Json} (h : List.Forall₂ Alike items items') :
    List.Forall₂ ReadAlike items items' := by
  cases items with
  | nil =>
      cases h
      exact .nil
  | cons x items =>
      cases h with
      | cons hx hrest => exact .cons (readAlike_of_alike hx) (forall_readAlike_of_alike hrest)

theorem matching_readAlike_of_alike {entries entries' : List (String × Json)}
    (h : Matching id (fun _ => Alike) entries entries') :
    Matching id (fun _ => ReadAlike) entries entries' := by
  cases entries with
  | nil =>
      cases h
      exact .nil
  | cons entry entries =>
      cases h with
      | cons hkey hx hrest =>
          exact .cons hkey (readAlike_of_alike hx) (matching_readAlike_of_alike hrest)

end

end StackExport.Proofs.CallForms
