import StackExport.Proofs.WrittenResources
/-!
The structure of a document, and where putting variables into it breaks it.

Block headers, comments, the lines of a variable block and the keys of entries are no values. A
variable is put in place of its literal wherever this stands, the lines of defaults apart, so the
structure is kept exactly when no literal begins in it.
-/
namespace StackExport.Proofs.StructuralLines

open StackExport
open StackExport.Proofs.VariableReferences
open StackExport.Proofs.WrittenResources (draft)

variable {v : Variable} {inputs : List Variable} {line : String} {n p : Nat}

/-! ### The structure of a document -/

/-- What of a line belongs to the structure: all of it, or so many characters. -/
inductive Part where
  | whole
  | start (length : Nat)
deriving DecidableEq, Repr

/-- A block that begins at the margin. -/
def isHeader (line : String) : Bool :=
  ["resource ", "variable ", "data ", "provider ", "output "].any fun word =>
    word.toList.isPrefixOf line.toList

def isComment (line : String) : Bool := (line.toList.dropWhile (· == ' ')).head? == some '#'

/-- The number of characters through the closing quote. -/
def quotedLength : List Char → Nat
  | '\\' :: _ :: rest => quotedLength rest + 2
  | '"' :: _ => 1
  | _ :: rest => quotedLength rest + 1
  | [] => 0

/-- The number of characters of a key, which is bare or in quotes. -/
def nameLength : List Char → Nat
  | '"' :: rest => quotedLength rest + 1
  | cs => (cs.takeWhile Text.isNameRest).length

/-- The number of characters through the key that a line begins with, if it is one of an entry. -/
def keyLength (line : String) : Nat :=
  let blanks := (line.toList.takeWhile (· == ' ')).length
  let entry := line.toList.dropWhile (· == ' ')
  if ((entry.drop (nameLength entry)).dropWhile (· == ' ')).head? == some '=' then
    blanks + nameLength entry
  else 0

/-- The parts of lines, inside a variable block or outside. -/
def partsFrom (inside : Bool) : List String → List Part
  | [] => []
  | line :: rest =>
    let within := inside || "variable ".toList.isPrefixOf line.toList
    (if within || isHeader line || isComment line then .whole else .start (keyLength line)) ::
      partsFrom (within && line != "\x7d") rest

def parts (s : Script) : List Part := partsFrom false s.lines

/-- The part of a line is what it was. -/
def Kept : Part → (before after : String) → Prop
  | .whole, before, after => after = before
  | .start n, before, after => after.toList.take n = before.toList.take n

/-- Two documents with as many lines and the same structure. -/
def SameStructure (before after : Script) : Prop :=
  after.lines.length = before.lines.length ∧
    ∀ (i : Nat) (part : Part) (line new : String), (parts before)[i]? = some part →
      before.lines[i]? = some line → after.lines[i]? = some new → Kept part line new

/-! ### Where a variable is put -/

/-- The literal that a variable takes the place of. -/
def literal? (v : Variable) : Option String :=
  match v.type, v.default with
  | .string, some default => if default.isEmpty then none else some ("\"" ++ default ++ "\"")
  | _, _ => none

/-- Where the first literal begins that a variable takes the place of in a line. -/
def hit? (v : Variable) (line : String) : Option Nat :=
  if Script.isDefaultLine line then none
  else (literal? v).bind fun l => (Text.splitFirst l.toList line.toList).map (·.1.length)

/-- A line after a variable has been put into it. -/
def referred (v : Variable) (line : String) : String :=
  match literal? v with
  | some l => referredLine l v.address line
  | none => line

/-- A line after variables have been put into it. -/
def referredAll (inputs : List Variable) (line : String) : String :=
  inputs.foldl (fun line v => referred v line) line

/-- No variable, when its turn comes, has its literal begin in the first characters of a line. -/
def SparesStart (n : Nat) : List Variable → String → Prop
  | [], _ => True
  | v :: rest, line => (∀ p ∈ hit? v line, n ≤ p) ∧ SparesStart n rest (referred v line)

/-- No variable is put into a part of a line. -/
def Spares (inputs : List Variable) : Part → String → Prop
  | .whole, line => Script.isDefaultLine line = true ∨
      ∀ v ∈ inputs, ∀ l ∈ literal? v, Text.contains line l = false
  | .start n, line => SparesStart n inputs line

theorem occursIn_eq_isSome (needle cs : List Char) :
    Text.occursIn needle cs = (Text.splitFirst needle cs).isSome := by
  induction cs with
  | nil =>
      rw [Text.occursIn, Text.splitFirst]
      split_ifs with h <;> simp [h]
  | cons c cs ih =>
      rw [Text.occursIn, Text.splitFirst, ih]
      split_ifs with h <;> simp [h]

theorem contains_eq_isSome (line l : String) :
    Text.contains line l = (Text.splitFirst l.toList line.toList).isSome :=
  occursIn_eq_isSome _ _

/-- A variable is put nowhere into a line without its literal, and nowhere into a default. -/
theorem hit?_eq_none_iff : hit? v line = none ↔
    Script.isDefaultLine line = true ∨ ∀ l ∈ literal? v, Text.contains line l = false := by
  unfold hit?
  split_ifs with hdefault
  · simp [hdefault]
  · cases literal? v with
    | none => simp [hdefault]
    | some l => simp [hdefault, contains_eq_isSome]

theorem referred_of_hit?_eq_none (h : hit? v line = none) : referred v line = line := by
  unfold referred
  cases hl : literal? v with
  | none => rfl
  | some l =>
      have hnone : Script.referLine l v.address line = none := by
        unfold Script.referLine
        rcases hit?_eq_none_iff.mp h with hdefault | hcontains
        · simp [hdefault]
        · simp [hcontains l hl]
      change referredLine l v.address line = line
      rw [referredLine, hnone, Option.getD_none]

theorem exists_literal_of_literal? {l : String} (h : literal? v = some l) :
    ∃ rest, l.toList = '"' :: rest := by
  unfold literal? at h
  split at h
  · next default _ _ =>
      split_ifs at h
      cases h
      exact ⟨default.toList ++ ['"'], by simp⟩
  · cases h

/-- What stands in front of the first literal of a line is its first piece. -/
theorem exists_linePieces {l : String} {before after : List Char} (reference : String)
    (hdefault : ¬Script.isDefaultLine line = true)
    (hsplit : Text.splitFirst l.toList line.toList = some (before, after)) (hline : line ≠ "") :
    ∃ pieces, pieces ≠ [] ∧ linePieces l reference line = before :: pieces := by
  have hcontains : Text.contains line l = true := by
    rw [contains_eq_isSome, hsplit]
    rfl
  have hrefer : Script.referLine l reference line = some (Text.replaceAll l reference line) := by
    simp [Script.referLine, hdefault, hcontains]
  obtain ⟨fuel, hlength⟩ : ∃ fuel, line.length = fuel + 1 := by
    exact Nat.exists_eq_add_one_of_ne_zero (by simpa using hline)
  refine ⟨Text.piecesOn l.toList fuel after, piecesOn_ne_nil _ _ _, ?_⟩
  unfold linePieces
  rw [hrefer, hlength, Text.piecesOn, hsplit]

/-- The first literal in a line makes way for the variable. -/
theorem referred_of_hit (h : hit? v line = some p) :
    line.toList[p]? = some '"' ∧
      ∃ tail, (referred v line).toList = line.toList.take p ++ 'v' :: tail := by
  unfold hit? at h
  split_ifs at h with hdefault
  obtain ⟨l, hl, h⟩ := Option.bind_eq_some_iff.mp h
  obtain ⟨⟨before, after⟩, hsplit, rfl⟩ := Option.map_eq_some_iff.mp h
  obtain ⟨rest, hquote⟩ := exists_literal_of_literal? hl
  have hline : line.toList = before ++ '"' :: (rest ++ after) := by
    rw [eq_append_of_splitFirst hsplit, hquote, List.append_assoc]
    rfl
  constructor
  · rw [hline, List.getElem?_append_right (Nat.le_refl _), Nat.sub_self]
    rfl
  · have hnonempty : l.isEmpty = false := by
      rw [← Bool.not_eq_true, String.isEmpty_iff]
      rintro rfl
      cases hquote
    obtain ⟨pieces, hpieces, hlinePieces⟩ := exists_linePieces v.address hdefault hsplit
      (by rintro rfl; simp at hline)
    have haddress : v.address.toList = 'v' :: ("ar." ++ v.name).toList := by
      simp [Variable.address]
    have hreferred : referred v line = referredLine l v.address line := by
      rw [referred, hl]
    rw [hreferred, toList_referredLine hnonempty, hlinePieces,
      intercalate_cons_of_ne_nil hpieces, haddress, List.append_assoc, hline, List.take_left]
    exact ⟨_, rfl⟩

theorem length_take_of_hit (h : hit? v line = some p) : (line.toList.take p).length = p := by
  obtain ⟨hlt, -⟩ := List.getElem?_eq_some_iff.mp (referred_of_hit h).1
  exact List.length_take_of_le hlt.le

theorem take_referred_of_hit (h : hit? v line = some p) :
    (referred v line).toList.take p = line.toList.take p := by
  obtain ⟨-, tail, hreferred⟩ := referred_of_hit h
  rw [hreferred, List.take_append_of_le_length (length_take_of_hit h).ge, List.take_take,
    Nat.min_self]

theorem take_eq_of_le {cs ds : List Char} (h : cs.take n = ds.take n) (hp : p ≤ n) :
    cs.take p = ds.take p := by
  have htake := congrArg (List.take p) h
  rwa [List.take_take, List.take_take, Nat.min_eq_left hp] at htake

theorem take_referred (h : ∀ p ∈ hit? v line, n ≤ p) :
    (referred v line).toList.take n = line.toList.take n := by
  cases hhit : hit? v line with
  | none => rw [referred_of_hit?_eq_none hhit]
  | some p => exact take_eq_of_le (take_referred_of_hit hhit) (h p hhit)

theorem front_eq_of_take_eq {cs ds : List Char} (h : cs.take n = ds.take n) (hp : p < n) :
    cs.take p = ds.take p ∧ cs[p]? = ds[p]? := by
  have hchar := congrArg (·[p]?) h
  exact ⟨take_eq_of_le h hp.le, by simpa only [List.getElem?_take_of_lt hp] using hchar⟩

/-! ### What is lost stays lost -/

/-- Among the first characters of a line a quote has become the first letter of a variable, and all
characters in front of it are as they were. -/
def Lost (n : Nat) (before after : String) : Prop :=
  ∃ p < n, after.toList.take p = before.toList.take p ∧ before.toList[p]? = some '"' ∧
    after.toList[p]? = some 'v'

theorem Lost.ne {before after : String} (h : Lost n before after) :
    after.toList.take n ≠ before.toList.take n := by
  obtain ⟨p, hp, -, hbefore, hafter⟩ := h
  intro heq
  have hchar := (front_eq_of_take_eq heq hp).2
  rw [hbefore, hafter] at hchar
  cases hchar

theorem lost_of_hit {before : String} (hkept : line.toList.take n = before.toList.take n)
    (hp : p < n) (hhit : hit? v line = some p) : Lost n before (referred v line) := by
  obtain ⟨hquote, tail, hreferred⟩ := referred_of_hit hhit
  obtain ⟨hfront, hchar⟩ := front_eq_of_take_eq hkept hp
  have hlength := length_take_of_hit hhit
  refine ⟨p, hp, (take_referred_of_hit hhit).trans hfront, hchar.symm.trans hquote, ?_⟩
  rw [hreferred, List.getElem?_append_right hlength.le, hlength, Nat.sub_self]
  rfl

/-- Later variables do not bring a lost quote back. -/
theorem Lost.referred {before : String} (h : Lost n before line) (v : Variable) :
    Lost n before (referred v line) := by
  obtain ⟨p, hp, hfront, hbefore, hafter⟩ := h
  cases hhit : hit? v line with
  | none =>
      rw [referred_of_hit?_eq_none hhit]
      exact ⟨p, hp, hfront, hbefore, hafter⟩
  | some q =>
      -- in front of the lost place another quote is lost; at it none is left to begin a literal
      rcases Nat.lt_trichotomy q p with hlt | rfl | hgt
      · obtain ⟨r, hr, hrest⟩ := lost_of_hit hfront hlt hhit
        exact ⟨r, hr.trans hp, hrest⟩
      · have hquote := (referred_of_hit hhit).1
        rw [hafter] at hquote
        cases hquote
      · obtain ⟨hfront', hchar⟩ := front_eq_of_take_eq (take_referred_of_hit hhit) hgt
        exact ⟨p, hp, hfront'.trans hfront, hbefore, hchar.trans hafter⟩

theorem Lost.referredAll {before : String} (h : Lost n before line) (inputs : List Variable) :
    Lost n before (referredAll inputs line) := by
  induction inputs generalizing line with
  | nil => exact h
  | cons v rest ih => exact ih (h.referred v)

/-! ### Lines -/

/-- The first characters of a line are kept exactly when no literal begins among them at its
variable's turn. -/
theorem take_referredAll_iff (n : Nat) (inputs : List Variable) (line : String) :
    (referredAll inputs line).toList.take n = line.toList.take n ↔ SparesStart n inputs line := by
  -- the line that a variable finds has been changed behind the first characters by those before it
  have hrun : ∀ before : String, line.toList.take n = before.toList.take n →
      ((referredAll inputs line).toList.take n = before.toList.take n ↔
        SparesStart n inputs line) := by
    induction inputs generalizing line with
    | nil => exact fun _ hkept => iff_of_true hkept trivial
    | cons v rest ih =>
        intro before hkept
        by_cases hspared : ∀ p ∈ hit? v line, n ≤ p
        · have hreferred := (take_referred hspared).trans hkept
          exact (ih (referred v line) before hreferred).trans (and_iff_right hspared).symm
        · obtain ⟨p, hp⟩ := not_forall.mp hspared
          obtain ⟨hhit, hlt⟩ := Classical.not_imp.mp hp
          have hlost := (lost_of_hit hkept (Nat.lt_of_not_le hlt) hhit).referredAll rest
          exact iff_of_false hlost.ne fun h => hspared h.1
  exact hrun line rfl

/-- A whole line is kept exactly when it is a default's or holds no literal. Nothing that earlier
variables do to it can make up for that. -/
theorem referredAll_eq_iff (inputs : List Variable) (line : String) :
    referredAll inputs line = line ↔ ∀ v ∈ inputs, hit? v line = none := by
  induction inputs with
  | nil => exact iff_of_true rfl nofun
  | cons v rest ih =>
      rw [List.forall_mem_cons]
      cases hhit : hit? v line with
      | none =>
          have hcons : referredAll (v :: rest) line = referredAll rest line :=
            congrArg (referredAll rest) (referred_of_hit?_eq_none hhit)
          rw [hcons, ih]
          exact (and_iff_right rfl).symm
      | some p =>
          obtain ⟨hlt, -⟩ := List.getElem?_eq_some_iff.mp (referred_of_hit hhit).1
          have hlost : Lost line.toList.length line (referred v line) := lost_of_hit rfl hlt hhit
          refine iff_of_false (fun heq => (hlost.referredAll rest).ne ?_) (by simp)
          exact congrArg (fun s : String => s.toList.take line.toList.length) heq

theorem kept_iff_spares (part : Part) (inputs : List Variable) (line : String) :
    Kept part line (referredAll inputs line) ↔ Spares inputs part line := by
  cases part with
  | whole =>
      rw [Kept, Spares, referredAll_eq_iff]
      simp only [hit?_eq_none_iff]
      by_cases hdefault : Script.isDefaultLine line = true <;> simp [hdefault]
  | start n => exact take_referredAll_iff n inputs line

/-! ### Documents -/

theorem lines_referTo (s : Script) (v : Variable) :
    (s.referTo v).1.lines = s.lines.map (referred v) := by
  obtain ⟨name, type, description, default, current, sensitive⟩ := v
  cases type with
  | string =>
      cases default with
      | none => exact (List.map_id' _).symm
      | some default =>
          unfold Script.referTo referred literal?
          dsimp only
          split_ifs
          · exact (List.map_id' _).symm
          · simp only [List.map_map]
            rfl
  | stringList | number | numberList => exact (List.map_id' _).symm

theorem lines_referToAll (s : Script) (inputs : List Variable) :
    (s.referToAll inputs).1.lines = s.lines.map (referredAll inputs) := by
  rw [fst_referToAll]
  induction inputs generalizing s with
  | nil => exact (List.map_id' _).symm
  | cons v rest ih =>
      rw [List.foldl_cons, ih, lines_referTo, List.map_map]
      rfl

/-- The structure of a document is kept exactly when no default of a text variable begins in it as a
literal. Lines without a quote, such as those that close blocks, are never changed. -/
theorem structure_kept_iff (s : Script) (inputs : List Variable) :
    (SameStructure s (s.referToAll inputs).1 ↔
        ∀ (i : Nat) (part : Part) (line : String), (parts s)[i]? = some part →
          s.lines[i]? = some line → Spares inputs part line) ∧
      ∀ (i : Nat) (line : String), s.lines[i]? = some line → '"' ∉ line.toList →
        (s.referToAll inputs).1.lines[i]? = some line := by
  unfold SameStructure
  rw [lines_referToAll]
  constructor
  · constructor
    · rintro ⟨-, hkept⟩ i part line hpart hline
      have hnew : (s.lines.map (referredAll inputs))[i]? = some (referredAll inputs line) := by
        rw [List.getElem?_map, hline]
        rfl
      exact (kept_iff_spares part inputs line).mp (hkept i part line _ hpart hline hnew)
    · intro hspares
      refine ⟨List.length_map _, fun i part line new hpart hline hnew => ?_⟩
      rw [List.getElem?_map, hline] at hnew
      obtain rfl := Option.some.inj hnew
      exact (kept_iff_spares part inputs line).mpr (hspares i part line hpart hline)
  · intro i line hline hquote
    have hsame : referredAll inputs line = line := by
      rw [referredAll_eq_iff]
      intro v hv
      cases hhit : hit? v line with
      | none => rfl
      | some p => exact absurd (List.mem_of_getElem? (referred_of_hit hhit).1) hquote
    rw [List.getElem?_map, hline, Option.map_some, hsame]

/-! ### A variable with its name as default -/

def noRules : Rulebook := ⟨⟨.none "", []⟩, []⟩

def stageSettings : Settings := ⟨"demo", "eu-west-1", "123456789012", none, false, 3, none, ""⟩

/-- A stack without resources that has a parameter `Env` with the default `Env`. -/
def stageInputs : StackInputs :=
  ⟨{ Template.empty with parameters := [⟨"Env", "String", some "Env", none, false, none⟩] },
    ⟨4, "1.9.0", []⟩, [], []⟩

def stageProvider : String :=
  "terraform \x7b\n  required_providers \x7b\n    aws = \x7b\n      source = \"hashicorp/aws\"\n" ++
    "    \x7d\n  \x7d\n\x7d\n\nprovider \"aws\" \x7b\n  region = \"eu-west-1\"\n\x7d\n\n"

/-- The configuration of the stack, with a line that opens the block of the variable. -/
def stageMain (header : String) : String :=
  stageProvider ++ header ++ "\n  type        = string\n  default     = \"Env\"\n\x7d\n\n"

/-- The variable is put into the line that opens its own block, while its default stays. -/
theorem header_rewritten :
    Provider.block stageSettings.region none = .ok stageProvider ∧
      draft noRules stageSettings stageInputs stageProvider =
        stageMain "variable \"Env\" \x7b" ∧
      (writeDocuments noRules stageSettings stageInputs).toOption.map Documents.main =
        some (stageMain "variable var.Env \x7b") ∧
      ¬SameStructure (Script.ofText (stageMain "variable \"Env\" \x7b"))
        (Script.ofText (stageMain "variable var.Env \x7b")) := by
  refine ⟨by decide +kernel, by decide +kernel, by decide +kernel, fun h => ?_⟩
  have hkept : Kept .whole "variable \"Env\" \x7b" "variable var.Env \x7b" :=
    h.2 12 _ _ _ (by decide +kernel) (by decide +kernel) (by decide +kernel)
  rw [Kept] at hkept
  revert hkept
  decide

end StackExport.Proofs.StructuralLines
