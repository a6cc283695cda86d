import StackExport.Resource.Events
import StackExport.Proofs.WritableStream
/-!
The stream of a serialized resource.

Whatever the rules, the schema and the attribute tree, the serializer stays inside the grammar of
streams that the writer takes.
-/
namespace StackExport.Proofs.SerializedResource

open StackExport
open StackExport.Resource
open StackExport.Proofs.StreamNesting
open StackExport.Proofs.WritableStream
open StackExport.Proofs.ResourceCompleteness

theorem isBlock_dataShape (tree : AttributeTree) : (dataShape tree).isBlock = false := by
  cases tree <;> rfl

mutual

theorem documentValue_phrase (path : Path) :
    ∀ tree, Phrase .value (documentValue path tree)
  | .list items => .list (documentItems_phrase path 0 items)
  | .object entries => .map (documentEntries_phrase path entries)
  | .document inner => documentValue_phrase path inner
  | .null => .scalar .null
  | .bool b => .scalar (.bool b)
  | .number n => .scalar (.number n)
  | .string s => .scalar (.string s)
  | .reference x => .scalar (.reference x)

theorem documentItems_phrase (path : Path) (index : Nat) :
    ∀ items, Phrase .items (documentItems path index items)
  | [] => .noItem
  | item :: rest =>
      .item (documentValue_phrase (path.element index) item)
        (documentItems_phrase path (index + 1) rest)

theorem documentEntries_phrase (path : Path) :
    ∀ entries, Phrase .entries (documentEntries path entries)
  | [] => .noEntry
  | (key, item) :: rest =>
      .entry (isBlock_dataShape item) (documentValue_phrase (path.child key) item)
        (documentEntries_phrase path rest)

end

mutual

theorem value_phrase (r : Rules) (path : Path) : ∀ tree, Phrase .value (r.value path tree)
  | .null => .scalar .null
  | .bool b => .scalar (.bool b)
  | .number n => .scalar (.number n)
  | .reference x => .scalar (.reference x)
  | .string s => by
      rw [Rules.value]
      split
      · exact .document (documentValue_phrase path _)
      · exact .scalar (.string s)
  | .document inner => .document (documentValue_phrase path inner)
  | .list items => .list (items_phrase r path 0 items)
  | .object entries => .map (entries_phrase r path entries)

theorem items_phrase (r : Rules) (path : Path) (index : Nat) :
    ∀ items, Phrase .items (r.items path index items)
  | [] => .noItem
  | item :: rest =>
      .item (value_phrase r (path.element index) item) (items_phrase r path (index + 1) rest)

theorem entries_phrase (r : Rules) (path : Path) :
    ∀ entries, Phrase .entries (r.entries path entries)
  | [] => .noEntry
  | (name, item) :: rest =>
      .entry (isBlock_dataShape item) (value_phrase r (path.child name) item)
        (entries_phrase r path rest)

end

/-! ### Keys of a body -/

theorem classify_list (r : Rules) (path : Path) (items : List AttributeTree) :
    r.classify path (.list items) = .blockList ∨ r.classify path (.list items) = .sequence := by
  simp only [Rules.classify]
  repeat' split
  all_goals simp

theorem classify_object (r : Rules) (path : Path) (entries : List (String × AttributeTree)) :
    r.classify path (.object entries) = .blockObject ∨
      r.classify path (.object entries) = .mapping := by
  simp only [Rules.classify]
  repeat' split
  all_goals simp

/-- What holds of the empty run and still holds with the null of a lacking name in front holds of
the nulls of all the names that a body lacks. -/
theorem missingEvents_of_closed {Q : List Event → Prop} {r : Rules} {path : Path}
    {present : List String} (hnil : Q [])
    (hcons : ∀ name ∈ r.missingRequired path present, ∀ run, Q run →
      Q (.key { r.key name (path.child name) .value with required := true } ::
        .scalar .null :: run)) : Q (r.missingEvents path present) := by
  unfold Rules.missingEvents
  generalize r.missingRequired path present = missing at hcons ⊢
  induction missing with
  | nil => exact hnil
  | cons name others ih =>
      have hothers := ih fun other ho => hcons other (List.mem_cons_of_mem _ ho)
      exact hcons name List.mem_cons_self _ hothers

theorem missingEvents_phrase (r : Rules) (path : Path) (present : List String) :
    Phrase .body (r.missingEvents path present) :=
  missingEvents_of_closed .noKey fun _ _ _ ih => .assignment (by rfl) (.scalar .null) ih

mutual

/-- A body may go on with the key of any attribute. -/
theorem keyed_append_phrase (r : Rules) (path : Path) (name : String) :
    ∀ tree, ∀ {rest}, Phrase .body rest → Phrase .body (r.keyed path name tree ++ rest)
  | .list items, rest, h => by
      rw [Rules.keyed]
      rcases classify_list r path items with hshape | hshape
      · have : Phrase .body (.key (r.key name path .blockList) :: .start .sequence ::
            (r.blocks path name 0 items ++ .stop .sequence :: rest)) :=
          .blockList rfl (blocks_phrase r path name 0 items) h
        simpa [hshape] using this
      · have : Phrase .body (.key (r.key name path .sequence) ::
            (r.value path (.list items) ++ rest)) :=
          .assignment rfl (value_phrase r path (.list items)) h
        simpa [hshape] using this
  | .object entries, rest, h => by
      rw [Rules.keyed]
      rcases classify_object r path entries with hshape | hshape
      · have hinner := body_append_phrase r path entries
          (missingEvents_phrase r path (entries.map (·.1)))
        have : Phrase .body (.key (r.key name path .blockObject) :: .start (.block name) ::
            (r.body path entries ++ r.missingEvents path (entries.map (·.1)) ++
              .stop .block :: rest)) :=
          .blockObject rfl hinner h
        simpa [hshape] using this
      · have : Phrase .body (.key (r.key name path .mapping) ::
            (r.value path (.object entries) ++ rest)) :=
          .assignment rfl (value_phrase r path (.object entries)) h
        simpa [hshape] using this
  | .null, rest, h => .assignment (by rfl) (value_phrase r path .null) h
  | .bool b, rest, h => .assignment (by rfl) (value_phrase r path (.bool b)) h
  | .number n, rest, h => .assignment (by rfl) (value_phrase r path (.number n)) h
  | .string s, rest, h => .assignment (by rfl) (value_phrase r path (.string s)) h
  | .reference x, rest, h => .assignment (by rfl) (value_phrase r path (.reference x)) h
  | .document inner, rest, h => .assignment (by rfl) (value_phrase r path (.document inner)) h

theorem blocks_phrase (r : Rules) (path : Path) (name : String) (index : Nat) :
    ∀ items, Phrase .blocks (r.blocks path name index items)
  | [] => .noBlock
  | item :: rest => by
      have hrest := blocks_phrase r path name (index + 1) rest
      cases item with
      | object entries =>
          have hinner := body_append_phrase r (path.element index) entries
            (missingEvents_phrase r (path.element index) (entries.map (·.1)))
          have : Phrase .blocks (.start (.block name) ::
              (r.body (path.element index) entries ++
                r.missingEvents (path.element index) (entries.map (·.1)) ++
                  .stop .block :: r.blocks path name (index + 1) rest)) :=
            .block hinner hrest
          simpa [Rules.blocks] using this
      | _ => exact .skipped hrest

theorem body_append_phrase (r : Rules) (path : Path) :
    ∀ entries, ∀ {rest}, Phrase .body rest → Phrase .body (r.body path entries ++ rest)
  | [], rest, h => h
  | (name, item) :: others, rest, h => by
      have := keyed_append_phrase r (path.child name) name item (body_append_phrase r path others h)
      simpa [Rules.body] using this

end

theorem rootBody_phrase (r : Rules) (attributes : AttributeTree) :
    Phrase .body (r.rootBody attributes) := by
  cases attributes with
  | object entries => exact body_append_phrase r .root entries (missingEvents_phrase r .root _)
  | null => exact missingEvents_phrase r .root []
  | _ => exact .noKey

/-! ### The whole resource -/

theorem depth_take_group {body : List Event} (h : WellNested body) (o : Opening) {n : Nat}
    (h0 : 0 < n) (hn : n < (Event.start o :: (body ++ [.stop o.group])).length) :
    1 ≤ depth ((Event.start o :: (body ++ [.stop o.group])).take n) := by
  obtain ⟨k, rfl⟩ := Nat.exists_eq_succ_of_ne_zero (Nat.ne_of_gt h0)
  have hk : k ≤ body.length := by
    simp only [List.length_cons, List.length_append, List.length_nil] at hn
    omega
  have hin := h.depth_take_nonneg k
  rw [List.take_succ_cons, depth_cons, List.take_append_of_le_length hk]
  simp only [Event.nesting]
  omega

/-- A serialized resource has a text. -/
theorem exists_eventsText (traits : ResourceTraits) (schema : ResourceSchema) (type name : String)
    (attributes : AttributeTree) :
    ∃ text, write traits (Rules.events ⟨traits, schema⟩ type name attributes) = .ok text :=
  write_ok_of_body (rootBody_phrase ⟨traits, schema⟩ attributes) traits type name

/-- The stream of every attribute tree is balanced, stays inside the resource from its first event
to its last, gives each key one complete value, and is written. -/
theorem events_writable (traits : ResourceTraits) (schema : ResourceSchema) (type name : String)
    (attributes : AttributeTree) :
    checkBalance (Rules.events ⟨traits, schema⟩ type name attributes) = .ok () ∧
      (∀ n, 0 < n → n < (Rules.events ⟨traits, schema⟩ type name attributes).length →
        1 ≤ depth ((Rules.events ⟨traits, schema⟩ type name attributes).take n)) ∧
      (∀ before key after,
        Rules.events ⟨traits, schema⟩ type name attributes = before ++ .key key :: after →
        ∃ value e tail, after = value ++ e :: tail ∧ IsValue value ∧ ¬ ValueAhead [e]) ∧
      ∃ text, write traits (Rules.events ⟨traits, schema⟩ type name attributes) = .ok text := by
  have hbody := rootBody_phrase ⟨traits, schema⟩ attributes
  have hnested := hbody.wellNested
  refine ⟨?_, ?_, ?_, exists_eventsText traits schema type name attributes⟩
  · rw [checkBalance_eq_ok_iff]
    exact (WellNested.group (.resource type name) hnested .nil).balanced
  · intro n h0 hn
    exact depth_take_group hnested (.resource type name) h0 hn
  · intro before key after heq
    have hfed := hbody.keysFed_group (.resource type name) .resource
    rw [Rules.events] at heq
    rw [List.cons_append] at heq
    rw [heq] at hfed
    exact hfed.of_append.1

/-- The text of a serialized resource is never half written. -/
theorem events_writtenCompletely (traits : ResourceTraits) (schema : ResourceSchema)
    (type name : String) (attributes : AttributeTree) :
    ∃ text,
      WrittenCompletely traits (Rules.events ⟨traits, schema⟩ type name attributes) text ∧
        write traits (Rules.events ⟨traits, schema⟩ type name attributes) = .ok text := by
  have hbody := rootBody_phrase ⟨traits, schema⟩ attributes
  obtain ⟨text, htext⟩ := exists_eventsText traits schema type name attributes
  obtain ⟨hb, -, d, hd, rfl⟩ := write_eq_ok_iff.1 htext
  have hfed := hbody.keysFed_group (.resource type name) .resource
  exact ⟨d.text, writtenCompletely_of_keysAnswered hb hd (keysAnswered_of_keysFed hfed), htext⟩

end StackExport.Proofs.SerializedResource
