import StackExport.Template.Dependency
/-!
What the edges of a template lead to.

A value depends on resources and parameters of its template alone, and the kind of a dependency tells
which of the two its target is: a name that stands for both is taken for the resource.
-/
namespace StackExport.Proofs.TemplateDependencies

open StackExport
open StackExport.Template

/-- The template has a resource with the identifier. -/
def HasResource (t : Template) (id : String) : Prop := ∃ r ∈ t.resources, r.id = id

/-- The template has a parameter with the name. -/
def HasParameter (t : Template) (name : String) : Prop := ∃ p ∈ t.parameters, p.name = name

/-- A resource is referred to, or an attribute of one, or else a parameter. -/
def Known (t : Template) (d : Dependency) : Prop :=
  HasResource t d.target ∧ (d.kind = .reference ∨ d.kind = .field) ∨
    ¬HasResource t d.target ∧ HasParameter t d.target ∧ d.kind = .parameter

variable {t : Template}

theorem any_id_iff {id : String} : t.resources.any (·.id == id) = true ↔ HasResource t id := by
  simp [HasResource]

theorem any_name_iff {name : String} :
    t.parameters.any (·.name == name) = true ↔ HasParameter t name := by
  simp [HasParameter]

theorem named_of_hasResource {name : String} (h : HasResource t name) (kind : DependencyKind) :
    t.named name kind = [⟨name, kind⟩] := by
  rw [named, if_pos (any_id_iff.mpr h)]

theorem named_of_hasParameter {name : String} (h : HasParameter t name)
    (hno : ¬HasResource t name) (kind : DependencyKind) :
    t.named name kind = [⟨name, .parameter⟩] := by
  rw [named, if_neg (mt any_id_iff.mp hno), if_pos (any_name_iff.mpr h)]

theorem known_of_mem_named {name : String} {kind : DependencyKind}
    (hkind : kind = .reference ∨ kind = .field) : ∀ d ∈ t.named name kind, Known t d := by
  intro d hd
  by_cases hresource : HasResource t name
  · rw [named_of_hasResource hresource, List.mem_singleton] at hd
    subst hd
    exact .inl ⟨hresource, hkind⟩
  · by_cases hparameter : HasParameter t name
    · rw [named_of_hasParameter hparameter hresource, List.mem_singleton] at hd
      subst hd
      exact .inr ⟨hresource, hparameter, rfl⟩
    · rw [named, if_neg (mt any_id_iff.mp hresource), if_neg (mt any_name_iff.mp hparameter)] at hd
      cases hd

theorem known_of_mem_placeholder {name : String} :
    ∀ d ∈ t.placeholderDependencies name, Known t d := by
  unfold placeholderDependencies
  split
  · exact known_of_mem_named (.inr rfl)
  · exact known_of_mem_named (.inl rfl)

theorem known_of_mem_text {text : String} {bindings : List (String × Expr)} :
    ∀ d ∈ t.textDependencies text bindings, Known t d := by
  intro d hd
  obtain ⟨part, -, hd⟩ := List.mem_flatMap.mp hd
  cases part with
  | literal text => cases hd
  | placeholder name =>
      dsimp only at hd
      split at hd
      · cases hd
      · exact known_of_mem_placeholder d hd

mutual

theorem known_of_mem (t : Template) : ∀ e : Expr, ∀ d ∈ t.dependenciesOf e, Known t d
  | .list items => known_of_mem_items t items
  | .object entries => known_of_mem_entries t entries
  | .intrinsic call => known_of_mem_call t call
  | .null | .bool _ | .number _ | .string _ => nofun

theorem known_of_mem_items (t : Template) :
    ∀ items : List Expr, ∀ d ∈ t.dependenciesOfItems items, Known t d
  | [] => nofun
  | item :: rest =>
      List.forall_mem_append.mpr ⟨known_of_mem t item, known_of_mem_items t rest⟩

theorem known_of_mem_entries (t : Template) :
    ∀ entries : List (String × Expr), ∀ d ∈ t.dependenciesOfEntries entries, Known t d
  | [] => nofun
  | (_, item) :: rest =>
      List.forall_mem_append.mpr ⟨known_of_mem t item, known_of_mem_entries t rest⟩

theorem known_of_mem_call (t : Template) :
    ∀ call : Intrinsic, ∀ d ∈ t.dependenciesOfCall call, Known t d
  | .ref name => known_of_mem_named (.inl rfl)
  | .getAtt resource field =>
      List.forall_mem_append.mpr ⟨known_of_mem_named (.inr rfl), known_of_mem t field⟩
  | .sub text bindings =>
      List.forall_mem_append.mpr ⟨known_of_mem_text, known_of_mem_entries t bindings⟩
  | .join _ items => known_of_mem t items
  | .select index items =>
      List.forall_mem_append.mpr ⟨known_of_mem t index, known_of_mem t items⟩
  | .split _ source => known_of_mem t source
  | .base64 value => known_of_mem t value
  | .cidr block count bits => by
      rw [dependenciesOfCall, List.forall_mem_append, List.forall_mem_append]
      exact ⟨⟨known_of_mem t block, known_of_mem t count⟩, known_of_mem t bits⟩
  | .findInMap map top second => by
      rw [dependenciesOfCall, List.forall_mem_append, List.forall_mem_append]
      exact ⟨⟨known_of_mem t map, known_of_mem t top⟩, known_of_mem t second⟩
  | .zones region => known_of_mem t region
  | .importValue name => known_of_mem t name
  | .unsupported _ => nofun

end

/-! ### Edges -/

/-- An edge stands for what the properties of its resource hold, or for an explicit declaration. -/
theorem mem_edges_iff {e : DependencyEdge} :
    e ∈ t.edges ↔ ∃ r ∈ t.resources, r.id = e.source ∧
      (⟨e.target, e.kind⟩ ∈ t.dependenciesOf r.properties ∨
        e.target ∈ r.dependsOn ∧ e.kind = .dependsOn) := by
  simp only [edges, List.mem_flatMap]
  refine exists_congr fun r => and_congr_right fun _ => ?_
  rw [edgesFrom, List.mem_map]
  constructor
  · rintro ⟨d, hd, rfl⟩
    rw [List.mem_eraseDups, List.mem_append, List.mem_map] at hd
    refine ⟨rfl, hd.imp_right ?_⟩
    rintro ⟨id, hid, rfl⟩
    exact ⟨hid, rfl⟩
  · rintro ⟨hsource, hd⟩
    refine ⟨⟨e.target, e.kind⟩, ?_, by rw [hsource]⟩
    rw [List.mem_eraseDups, List.mem_append, List.mem_map]
    refine hd.imp_right ?_
    rintro ⟨hid, hkind⟩
    exact ⟨e.target, hid, by rw [hkind]⟩

/-- No resource is taken for a parameter. -/
theorem kind_ne_parameter {e : DependencyEdge} (he : e ∈ t.edges)
    (htarget : HasResource t e.target) : e.kind ≠ .parameter := by
  intro hparameter
  obtain ⟨r, -, -, hd | ⟨-, hkind⟩⟩ := mem_edges_iff.mp he
  · rcases known_of_mem t _ _ hd with ⟨-, hkind | hkind⟩ | ⟨hno, -⟩
    · exact DependencyKind.noConfusion (hkind.symm.trans hparameter)
    · exact DependencyKind.noConfusion (hkind.symm.trans hparameter)
    · exact hno htarget
  · exact DependencyKind.noConfusion (hkind.symm.trans hparameter)

end StackExport.Proofs.TemplateDependencies
