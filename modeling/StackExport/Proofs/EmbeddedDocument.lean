import StackExport.Proofs.ValueLayout
/-!
Documents that a resource's state holds as strings, and what their text denotes.
-/
namespace StackExport.Proofs.EmbeddedDocument

open Relation
open StackExport
open StackExport.Resource
open StackExport.Proofs.StreamNesting
open StackExport.Proofs.WriterRun
open StackExport.Proofs.ResourceCompleteness
open StackExport.Proofs.WritableStream
open StackExport.Proofs.SerializedResource
open StackExport.Proofs.NumeralReading
open StackExport.Proofs.LiteralReading
open StackExport.Proofs.LayoutReading
open StackExport.Proofs.WrittenText
open StackExport.Proofs.ValueLayout

/-! ### What data denotes -/

mutual

/-- True when a literal denotes a value of a document: the same keys and items in the same order,
the same leaves, and nothing but text for a string, whatever it holds. -/
def DenotesData : AttributeTree → Literal → Prop
  | .null, l => l = .null
  | .bool b, l => l = .bool b
  | .number n, l => IsFinite n → ∃ q, l = .number q ∧ StandsFor n q
  | .string s, l => l = .text s
  | .reference r, l => l = .expression r
  | .document inner, l => DenotesData inner l
  | .list items, l => ∃ ls, l = .list ls ∧ DenoteData items ls
  | .object entries, l => ∃ ls, l = .object ls ∧ DenoteDataEntries entries ls

def DenoteData : List AttributeTree → List Literal → Prop
  | [], ls => ls = []
  | item :: rest, ls => ∃ l others, ls = l :: others ∧ DenotesData item l ∧ DenoteData rest others

def DenoteDataEntries : List (String × AttributeTree) → List (String × Literal) → Prop
  | [], ls => ls = []
  | (key, value) :: rest, ls =>
    ∃ l others, ls = (key, l) :: others ∧ DenotesData value l ∧ DenoteDataEntries rest others

end

theorem literal_number {n : Number} (h : IsFinite n) :
    ∃ q, scalarLiteral (.number n) = .number q ∧ StandsFor n q := by
  obtain ⟨q, hq, hstands⟩ := numeral_configText h
  exact ⟨q, by rw [scalarLiteral, ofWord, hq], hstands⟩

mutual

/-- The layout of a document denotes it. -/
theorem denotes_documentLayout : ∀ tree, DenotesData tree (literal (documentLayout tree))
  | .null | .bool _ | .string _ | .reference _ => rfl
  | .number _ => literal_number
  | .document inner => denotes_documentLayout inner
  | .list [] => ⟨[], rfl, rfl⟩
  | .list (item :: rest) => ⟨_, rfl, denote_documentLayouts (item :: rest)⟩
  | .object [] => ⟨[], rfl, rfl⟩
  | .object (entry :: rest) => ⟨_, rfl, denote_documentEntryLayouts (entry :: rest)⟩

theorem denote_documentLayouts : ∀ items, DenoteData items (literals (documentLayouts items))
  | [] => rfl
  | item :: rest => ⟨_, _, rfl, denotes_documentLayout item, denote_documentLayouts rest⟩

theorem denote_documentEntryLayouts :
    ∀ entries, DenoteDataEntries entries (literalEntries (documentEntryLayouts entries))
  | [] => rfl
  | (_, value) :: rest =>
      ⟨_, _, rfl, denotes_documentLayout value, denote_documentEntryLayouts rest⟩

end

/-! ### Documents without references are plain text -/

/-- True for pieces that are nothing but characters. -/
def IsPlain (ps : List Piece) : Prop := ∀ p ∈ ps, ∃ c, p = .char c

theorem pieces_textOf {ps : List Piece} (h : IsPlain ps) : pieces (textOf ps) = ps := by
  rw [pieces, textOf, String.toList_ofList]
  induction ps with
  | nil => rfl
  | cons p ps ih =>
      obtain ⟨c, rfl⟩ := h p List.mem_cons_self
      rw [plain, List.map_cons, ih fun p hp => h p (List.mem_cons_of_mem _ hp)]

theorem isPlain_pieces (s : String) : IsPlain (pieces s) := by
  intro p hp
  obtain ⟨c, -, rfl⟩ := List.mem_map.mp hp
  exact ⟨c, rfl⟩

theorem isPlain_char (c : Char) {ps : List Piece} (h : IsPlain ps) : IsPlain (.char c :: ps) := by
  rintro p (_ | ⟨_, hp⟩)
  · exact ⟨c, rfl⟩
  · exact h p hp

theorem isPlain_nil : IsPlain [] := nofun

theorem IsPlain.append {a b : List Piece} (ha : IsPlain a) (hb : IsPlain b) : IsPlain (a ++ b) :=
  fun p hp => (List.mem_append.mp hp).elim (ha p) (hb p)

mutual

theorem isPlain_written (n : Nat) : ∀ json, IsPlain (written n (documentLayout (.ofJson json)))
  | .null | .bool _ | .number _ | .string _ => isPlain_pieces _
  | .array [] | .object [] => isPlain_char _ (isPlain_char _ isPlain_nil)
  | .array (item :: rest) =>
      isPlain_char _ ((isPlain_pieces _).append
        ((isPlain_writtenItems (n + 1) (item :: rest)).append
          ((isPlain_pieces _).append (isPlain_char _ isPlain_nil))))
  | .object (entry :: rest) =>
      isPlain_char _ ((isPlain_pieces _).append
        ((isPlain_writtenEntries (n + 1) (entry :: rest)).append
          ((isPlain_pieces _).append (isPlain_char _ isPlain_nil))))

theorem isPlain_writtenItems (n : Nat) :
    ∀ items, IsPlain (writtenItems n (documentLayouts (AttributeTree.ofJsonItems items)))
  | [] => isPlain_nil
  | item :: rest => (isPlain_pieces _).append ((isPlain_written n item).append
      (isPlain_char _ ((isPlain_pieces _).append (isPlain_writtenItems n rest))))

theorem isPlain_writtenEntries (n : Nat) :
    ∀ entries,
      IsPlain (writtenEntries n (documentEntryLayouts (AttributeTree.ofJsonEntries entries)))
  | [] => isPlain_nil
  | (_, value) :: rest => (isPlain_pieces _).append ((isPlain_pieces _).append
      ((isPlain_pieces _).append ((isPlain_written n value).append
        (isPlain_char _ (isPlain_writtenEntries n rest)))))

end

/-! ### Documents in the text of a resource -/

variable {traits : ResourceTraits} {schema : ResourceSchema} {type name : String}
  {attributes : AttributeTree} {d : Draft} {path : Path} {tree : AttributeTree} {doc : Json}
  {rest : List Event}

/-- On the way through a serialized resource no key is left waiting. -/
theorem sound_of_reaches
    (h : Reaches traits (Rules.events ⟨traits, schema⟩ type name attributes) d rest) :
    Sound d rest := by
  have hbody := rootBody_phrase ⟨traits, schema⟩ attributes
  have hfed := hbody.keysFed_group (.resource type name) .resource
  have hnested := WellNested.group (.resource type name) hbody.wellNested .nil
  exact (invariant_of_reaches hnested.balanced (keysAnswered_of_keysFed hfed) h).2

/-- Where the writer comes to the start of a document a value may stand. -/
theorem ready_of_reaches {events : List Event} {text : String} (hw : write traits events = .ok text)
    (h : Reaches traits events d (.start .json :: rest)) : Ready d := by
  obtain ⟨-, -, dend, hend, -⟩ := write_eq_ok_iff.1 hw
  rcases (reaches_end h hend).cases_head with heq | ⟨next, hstep, -⟩
  · cases heq
  · cases hstep with
    | swallow hs _ _ => cases hs
    | start _ hd => exact (of_start_json_eq_ok hd).1

/-- True when an attribute's value holds a document, as the string that it was in the state or
expanded. -/
def Holds (tree : AttributeTree) (doc : Json) : Prop :=
  (∃ s, tree = .string s ∧ Json.document? s = some doc) ∨ tree = .document (.ofJson doc)

theorem value_of_holds (h : Holds tree doc) (r : Rules) (path : Path) :
    r.value path tree = document path (.ofJson doc) := by
  rcases h with ⟨s, rfl, hs⟩ | rfl
  · rw [Rules.value, hs]
  · rw [Rules.value]

/-- Wherever the writer comes to a value that holds a document it writes a call whose argument,
read back, denotes exactly that document. -/
theorem embedded_document_survives (hholds : Holds tree doc)
    (h : Reaches traits (Rules.events ⟨traits, schema⟩ type name attributes) d
      (Rules.value ⟨traits, schema⟩ path tree ++ rest)) :
    ∃ body behind l,
      write traits (Rules.events ⟨traits, schema⟩ type name attributes) =
          .ok (d.text ++ lead d ++ "jsonencode(" ++ body ++ ")" ++ behind) ∧
        read (pieces body) = some l ∧ DenotesData (.ofJson doc) l := by
  obtain ⟨text, hw⟩ := exists_eventsText traits schema type name attributes
  rw [value_of_holds hholds] at h
  have hready := ready_of_reaches hw h
  have hcall (c : Context) : LaidOut c d.inJson (isItem d) (document path (.ofJson doc))
      (.call (documentLayout (.ofJson doc))) := .call (document_laidOut c path _)
  have hpending := (sound_of_reaches h).pending_eq_none_of_ready hready
  obtain ⟨behind, htext⟩ :=
    exists_text_of_adds hw h ((hcall _).adds hpending hready rfl rfl)
  refine ⟨textOf (written (depth d) (documentLayout (.ofJson doc))), trail d.frames ++ behind,
    literal (documentLayout (.ofJson doc)), ?_, ?_, denotes_documentLayout _⟩
  · rw [hw, htext, textOf_call]
    simp only [String.append_assoc]
  · rw [pieces_textOf (isPlain_written _ _)]
    exact read_written _ _

/-! ### Resources with one attribute -/

theorem keyed_of_not_block {r : Rules} (name : String)
    (h : (r.classify path tree).isBlock = false) :
    r.keyed path name tree =
      .key (r.key name path (r.classify path tree)) :: r.value path tree := by
  cases tree with
  | list items =>
      rw [Rules.keyed, if_neg]
      intro heq
      rw [heq] at h
      cases h
  | object entries =>
      rw [Rules.keyed, if_neg]
      intro heq
      rw [heq] at h
      cases h
  | _ => rfl

/-- The writer comes to the key of the only attribute of a resource. -/
theorem reaches_only_attribute (schema : ResourceSchema) (tree : AttributeTree)
    (h : (Rules.classify ⟨.none "t", schema⟩ ⟨["p"]⟩ tree).isBlock = false) :
    Reaches (.none "t") (Rules.events ⟨.none "t", schema⟩ "t" "n" (.object [("p", tree)]))
      ⟨[.resource], none, false, "resource \"t\" \"n\" \x7b\n"⟩
      (.key (Rules.key ⟨.none "t", schema⟩ "p" ⟨["p"]⟩
          (Rules.classify ⟨.none "t", schema⟩ ⟨["p"]⟩ tree)) ::
        (Rules.value ⟨.none "t", schema⟩ ⟨["p"]⟩ tree ++ [.stop .resource])) := by
  have hstart : Draft.empty.start (.resource "t" "n") false =
      .ok ⟨[.resource], none, false, "resource \"t\" \"n\" \x7b\n"⟩ := rfl
  have hkeyed := keyed_of_not_block (r := ⟨.none "t", schema⟩) "p" h
  have hevents : Rules.events ⟨.none "t", schema⟩ "t" "n" (.object [("p", tree)]) =
      .start (.resource "t" "n") :: (Rules.keyed ⟨.none "t", schema⟩ ⟨["p"]⟩ "p" tree ++
        [.stop .resource]) := by
    change _ :: ((_ ++ []) ++ [] ++ _) = _
    rw [List.append_nil, List.append_nil]
    rfl
  rw [Reaches, hevents, hkeyed]
  exact .single (.start (fun hswallows => absurd hswallows Bool.false_ne_true) hstart)

/-- What a provider says that requires the attribute `p`. -/
def requiredAttribute : ResourceSchema :=
  [("p", .plain { SchemaInfo.unknown with required := true })]

theorem embedded_document_survives_null_item :
    ∃ body behind l,
      write (.none "t") (Rules.events ⟨.none "t", requiredAttribute⟩ "t" "n"
          (.object [("p", .string "[null]")])) =
        .ok ("resource \"t\" \"n\" \x7b\n  p = " ++ "" ++ "jsonencode(" ++ body ++ ")" ++
          behind) ∧
      read (pieces body) = some l ∧ DenotesData (.ofJson (.array [.null])) l := by
  have hdocument : Json.document? "[null]" = some (.array [.null]) := by cbv
  have hholds : Holds (.string "[null]") (.array [.null]) := .inl ⟨_, rfl, hdocument⟩
  have hkey := reaches_only_attribute requiredAttribute (.string "[null]") rfl
  have hvalue := value_of_holds hholds ⟨.none "t", requiredAttribute⟩ ⟨["p"]⟩
  have hisValue : IsValue (document ⟨["p"]⟩ (.ofJson (.array [.null]))) :=
    .group .json (documentValue_phrase _ _).wellNested
  have hwrites : ∀ c : Context, c.shouldWrite ⟨"p", ⟨["p"]⟩, .value, false, true, []⟩
      (document ⟨["p"]⟩ (.ofJson (.array [.null])) ++ [.stop .resource]) = .ok true :=
    fun c => shouldWrite_eq rfl hisValue _
  have hdraft : keyed ⟨[.resource], none, false, "resource \"t\" \"n\" \x7b\n"⟩ "p" =
      ⟨[.resource], none, true, "resource \"t\" \"n\" \x7b\n  p = "⟩ := by cbv
  rw [hvalue] at hkey
  have hreaches := reaches_value hkey rfl (.inr ⟨rfl, hwrites _⟩)
  have hcomes : Reaches (.none "t") (Rules.events ⟨.none "t", requiredAttribute⟩ "t" "n"
      (.object [("p", .string "[null]")]))
      ⟨[.resource], none, true, "resource \"t\" \"n\" \x7b\n  p = "⟩
      (Rules.value ⟨.none "t", requiredAttribute⟩ ⟨["p"]⟩ (.string "[null]") ++
        [.stop .resource]) := by
    rw [hvalue, ← hdraft]
    exact hreaches
  have hresult := embedded_document_survives hholds hcomes
  have hlead : lead ⟨[.resource], none, true, "resource \"t\" \"n\" \x7b\n  p = "⟩ = "" := rfl
  rw [hlead] at hresult
  exact hresult

end StackExport.Proofs.EmbeddedDocument
