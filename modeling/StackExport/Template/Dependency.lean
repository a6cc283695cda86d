import StackExport.Template
import StackExport.Template.Interpolation
import StackExport.Text.Pieces
/-!
What the resources of a template depend on, and the order in which they can be created.

In that order a resource follows everything that it depends on, as far as no cycle stands in the
way; resources from which a cycle can be reached come last.
-/
namespace StackExport

/-- How a resource depends on something. -/
inductive DependencyKind where
  /-- A reference to a resource. -/
  | reference
  /-- A reference to an attribute of a resource. -/
  | field
  /-- A reference to a parameter. -/
  | parameter
  /-- An explicit declaration. -/
  | dependsOn
deriving DecidableEq, Repr

/-- Something that a value depends on. -/
structure Dependency where
  target : String
  kind : DependencyKind
deriving DecidableEq, Repr

/-- Something that a resource depends on. -/
structure DependencyEdge where
  source : String
  target : String
  kind : DependencyKind
deriving DecidableEq, Repr

namespace Template

/-- The dependency that a name stands for. A resource hides a parameter of the same name. -/
def named (t : Template) (name : String) (kind : DependencyKind) : List Dependency :=
  if t.resources.any (·.id == name) then [⟨name, kind⟩]
  else if t.parameters.any (·.name == name) then [⟨name, .parameter⟩]
  else []

/-- The dependencies that a placeholder stands for: a name, or a resource and an attribute. -/
def placeholderDependencies (t : Template) (name : String) : List Dependency :=
  match Text.splitOnce? '.' name with
  | some (resource, _) => t.named resource .field
  | none => t.named name .reference

/-- The dependencies of a text with placeholders. Those with a value beside it stand for nothing
else. -/
def textDependencies (t : Template) (text : String) (bindings : List (String × Expr)) :
    List Dependency :=
  (Interpolation.parts text).flatMap fun
    | .literal _ => []
    | .placeholder name =>
      if bindings.any (·.1 == name) then [] else t.placeholderDependencies name

mutual

/-- The dependencies of a value, in the order of the template. -/
def dependenciesOf (t : Template) : Expr → List Dependency
  | .list items => t.dependenciesOfItems items
  | .object entries => t.dependenciesOfEntries entries
  | .intrinsic call => t.dependenciesOfCall call
  | _ => []

def dependenciesOfItems (t : Template) : List Expr → List Dependency
  | [] => []
  | item :: rest => t.dependenciesOf item ++ t.dependenciesOfItems rest

/-- The dependencies of the values of an object. -/
def dependenciesOfEntries (t : Template) : List (String × Expr) → List Dependency
  | [] => []
  | (_, item) :: rest => t.dependenciesOf item ++ t.dependenciesOfEntries rest

def dependenciesOfCall (t : Template) : Intrinsic → List Dependency
  | .ref name => t.named name .reference
  | .getAtt resource field => t.named resource .field ++ t.dependenciesOf field
  | .sub text bindings => t.textDependencies text bindings ++ t.dependenciesOfEntries bindings
  | .join _ items => t.dependenciesOf items
  | .select index items => t.dependenciesOf index ++ t.dependenciesOf items
  | .split _ source => t.dependenciesOf source
  | .base64 value => t.dependenciesOf value
  | .cidr block count bits =>
    t.dependenciesOf block ++ t.dependenciesOf count ++ t.dependenciesOf bits
  | .findInMap map top second =>
    t.dependenciesOf map ++ t.dependenciesOf top ++ t.dependenciesOf second
  | .zones region => t.dependenciesOf region
  | .importValue name => t.dependenciesOf name
  | .unsupported _ => []

end

/-- The edges that leave a resource, each once: those of its properties, then the explicit ones. -/
def edgesFrom (t : Template) (r : TemplateResource) : List DependencyEdge :=
  let found := t.dependenciesOf r.properties ++ r.dependsOn.map fun id => ⟨id, .dependsOn⟩
  (found.eraseDups).map fun d => ⟨r.id, d.target, d.kind⟩

/-- All edges, in the order of the resources. -/
def edges (t : Template) : List DependencyEdge :=
  t.resources.flatMap t.edgesFrom

/-- The pairs of a resource and one that it depends on, each once. What is no resource of the
template plays no part. -/
def links (t : Template) : List (String × String) :=
  ((t.edges.filter fun e =>
    e.kind != .parameter && t.resources.any (·.id == e.target)).map fun e =>
      (e.source, e.target)).eraseDups

end Template

/-! ### Order -/

/-- Resources that are put in order. -/
structure Placement where
  /-- For each resource, how many of those that it depends on have no place yet. -/
  waits : List (String × Nat)
  /-- Those that wait for nothing and have no place yet, first come, first served. -/
  ready : List String
  placed : List String

namespace Placement

/-- Counts one off what a resource waits for. There is no counting below zero; a resource that waits
for nothing more gets ready. -/
def countOff (p : Placement) (id : String) : Option Placement :=
  match lookup? id p.waits with
  | some (n + 1) =>
    some { p with
      waits := putEntry id n p.waits
      ready := if n = 0 then p.ready ++ [id] else p.ready }
  | some 0 => none
  | none => some p

/-- The resources that depend on a resource. -/
def dependents (links : List (String × String)) (id : String) : List String :=
  (links.filter (·.2 == id)).map (·.1)

/-- Gives a place to a resource, which those that depend on it wait for no longer. -/
def place (links : List (String × String)) (p : Placement) (next : String) (rest : List String) :
    Option Placement :=
  (dependents links next).foldlM countOff { p with ready := rest, placed := p.placed ++ [next] }

/-- All counts together. -/
def total : List (String × Nat) → Nat
  | [] => 0
  | (_, n) :: rest => n + total rest

/-- How much there is still to do. -/
def size (p : Placement) : Nat := p.ready.length + total p.waits

theorem total_putEntry {id : String} {n : Nat} {waits : List (String × Nat)}
    (h : lookup? id waits = some (n + 1)) : total (putEntry id n waits) + 1 = total waits := by
  induction waits with
  | nil => simp [lookup?] at h
  | cons entry rest ih =>
    obtain ⟨key, m⟩ := entry
    by_cases hkey : (key == id) = true
    · obtain rfl : m = n + 1 := by simpa [lookup?, hkey] using h
      simp [putEntry, hkey, total]
      omega
    · have hrest : lookup? id rest = some (n + 1) := by simpa [lookup?, hkey] using h
      have := ih hrest
      simp [putEntry, hkey, total]
      omega

theorem size_countOff {p p' : Placement} {id : String} (h : p.countOff id = some p') :
    p'.size ≤ p.size := by
  unfold countOff at h
  split at h
  · next n hn =>
    cases h
    have hsum := total_putEntry hn
    by_cases hzero : n = 0
    · simp [size, hzero] at hsum ⊢
      omega
    · simp [size, hzero]
      omega
  · cases h
  · cases h
    exact Nat.le_refl _

theorem size_foldlM {p p' : Placement} {ids : List String}
    (h : ids.foldlM countOff p = some p') : p'.size ≤ p.size := by
  induction ids generalizing p with
  | nil =>
    cases h
    exact Nat.le_refl _
  | cons id rest ih =>
    rw [List.foldlM_cons] at h
    obtain ⟨q, hq, hrest⟩ := Option.bind_eq_some_iff.mp h
    exact Nat.le_trans (ih hrest) (size_countOff hq)

theorem size_place {links : List (String × String)} {p p' : Placement} {next : String}
    {rest : List String} (hready : p.ready = next :: rest)
    (h : p.place links next rest = some p') : p'.size < p.size := by
  have hle := size_foldlM h
  simp only [size, hready, List.length_cons] at hle ⊢
  omega

/-- Gives places until nobody is ready. -/
def run (links : List (String × String)) (p : Placement) : Option (List String) :=
  match _ : p.ready with
  | [] => some p.placed
  | next :: rest =>
    match _ : p.place links next rest with
    | some p' => run links p'
    | none => none
termination_by p.size
decreasing_by exact size_place ‹_› ‹_›

/-- Before anybody has a place. -/
def start (links : List (String × String)) (ids : List String) : Placement :=
  let waits := ids.map fun id => (id, (links.filter (·.1 == id)).length)
  { waits := waits, ready := (waits.filter (·.2 == 0)).map (·.1), placed := [] }

end Placement

namespace Template

/-- The identifiers of a template's resources in an order in which they can be created. Those that
never get ready come last. There is no order if a count would have to fall below zero. -/
def order? (t : Template) : Option (List String) :=
  let ids := t.resources.map (·.id)
  ((Placement.start t.links ids).run t.links).map fun placed =>
    placed ++ ids.filter fun id => !placed.contains id

/-- The identifiers of a template's resources, each after those that it depends on. -/
def resourceOrder (t : Template) : List String := t.order?.getD []

end Template

end StackExport
