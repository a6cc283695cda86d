import StackExport.Proofs.EmbeddedDocument
/-!
Objects that read as loops.

Behind an opening brace the configuration language looks for the word `for`, spaces and line ends
apart. If it stands there bare, the brace begins a loop and no object, whatever follows. A written
value has such a brace exactly where an object's first key is this word.
-/
namespace StackExport.Proofs.LoopKeyword

open StackExport
open StackExport.Resource
open StackExport.Proofs.TemplateReading
open StackExport.Proofs.Lexemes
open StackExport.Proofs.NumeralReading
open StackExport.Proofs.LiteralReading
open StackExport.Proofs.LayoutReading
open StackExport.Proofs.ValueLayout

/-! ### Loops among tokens -/

def isName (t : Token) : Bool := t.code?.any Grammar.continuesName

/-- The bare name that tokens begin with, spaces and line ends apart. -/
def leadingName (ts : List Token) : List Char :=
  ((ts.dropWhile Token.isSpace).takeWhile isName).filterMap Token.code?

/-- True if an opening brace of the code has the bare word `for` behind it. -/
def opensLoop : List Token → Bool
  | [] => false
  | t :: rest => t.code? == some '\x7b' && leadingName rest == "for".toList || opensLoop rest

def Quiet (ts : List Token) : Prop := ∀ t ∈ ts, t.code? ≠ some '\x7b'

theorem opensLoop_append_of_quiet {ts : List Token} (h : Quiet ts) (rest : List Token) :
    opensLoop (ts ++ rest) = opensLoop rest := by
  induction ts with
  | nil => rfl
  | cons t ts ih =>
      have ht : (t.code? == some '\x7b') = false := beq_eq_false_iff_ne.mpr (h t List.mem_cons_self)
      rw [List.cons_append, opensLoop, ht, Bool.false_and, Bool.false_or,
        ih fun t ht => h t (List.mem_cons_of_mem _ ht)]

theorem quiet_code {cs : List Char} (h : '\x7b' ∉ cs) : Quiet (code cs) := by
  intro t ht hopen
  obtain ⟨c, hc, rfl⟩ := List.mem_map.mp ht
  apply h
  rwa [← Option.some.inj hopen]

theorem quiet_texts (s : String) : Quiet (.lexeme .openQuote :: texts s) := by
  intro t ht
  rcases List.mem_cons.mp ht with rfl | ht
  · nofun
  rcases List.mem_append.mp ht with ht | ht
  · obtain ⟨c, -, rfl⟩ := List.mem_map.mp ht
    nofun
  · obtain rfl := List.mem_singleton.mp ht
    nofun

/-- Pieces of code, and whether they open a loop wherever they stand. -/
def OpensAs (ps : List Piece) (b : Bool) : Prop :=
  ∃ ts, Lexes ps ts ∧ ∀ rest, opensLoop (ts ++ rest) = (b || opensLoop rest)

theorem opensAs_of_quiet {ps : List Piece} {ts : List Token} (h : Lexes ps ts) (hts : Quiet ts) :
    OpensAs ps false :=
  ⟨ts, h, opensLoop_append_of_quiet hts⟩

theorem OpensAs.append {ps ps' : List Piece} {b b' : Bool} (h : OpensAs ps b)
    (h' : OpensAs ps' b') : OpensAs (ps ++ ps') (b || b') := by
  obtain ⟨ts, hlexes, hopens⟩ := h
  obtain ⟨ts', hlexes', hopens'⟩ := h'
  refine ⟨_, hlexes.append hlexes', fun rest => ?_⟩
  rw [List.append_assoc, hopens, hopens', Bool.or_assoc]

theorem opensAs_char {c : Char} (h : Bare c) (hc : c ≠ '\x7b') : OpensAs [.char c] false := by
  have hquiet : Quiet (code [c]) := quiet_code fun hmem => hc (List.mem_singleton.mp hmem).symm
  exact opensAs_of_quiet (lexes_char h) hquiet

theorem not_mem_of_isSpaces {s : String} (h : IsSpaces s) : '\x7b' ∉ s.toList := by
  intro hmem
  rcases h _ hmem with heq | heq <;> cases heq

theorem opensAs_spaces {s : String} (h : IsSpaces s) : OpensAs (pieces s) false :=
  opensAs_of_quiet (lexes_spaces h) (quiet_code (not_mem_of_isSpaces h))

theorem opensAs_word {s : String} (h : s.toList.all IsWord = true) : OpensAs (pieces s) false :=
  opensAs_of_quiet (lexes_word h) (quiet_code fun hmem => by cases List.all_eq_true.mp h _ hmem)

theorem opensAs_quote (s : String) : OpensAs (pieces (Text.quote s)) false :=
  opensAs_of_quiet (lexes_quote s) (quiet_texts s)

/-! ### Keys -/

/-- The name that a written key begins with, if it is bare. -/
def bareName (key : String) : List Char := if Text.isIdentifier key then key.toList else []

def firstName : List (String × Json) → List Char
  | [] => []
  | (key, _) :: _ => bareName key

def startsWithFor : List (String × Json) → Bool
  | [] => false
  | (key, _) :: _ => key == "for"

theorem firstName_eq_for (entries : List (String × Json)) :
    (firstName entries == "for".toList) = startsWithFor entries := by
  cases entries with
  | nil => rfl
  | cons entry rest =>
      obtain ⟨key, value⟩ := entry
      change (bareName key == "for".toList) = (key == "for")
      rw [Bool.eq_iff_iff, beq_iff_eq, beq_iff_eq, bareName]
      constructor
      · intro h
        split_ifs at h
        · exact String.toList_inj.mp h
        · cases h
      · rintro rfl
        rfl

/-- A written key opens nothing, and its name is read where it is bare. -/
theorem exists_lexes_key (key : String) :
    ∃ t ts, Lexes (pieces (Text.objectKey key)) (t :: ts) ∧ Quiet (t :: ts) ∧ t.isSpace = false ∧
      ∀ rest, ((t :: ts ++ (code [' ', '=', ' '] ++ rest)).takeWhile isName).filterMap Token.code? =
        bareName key := by
  unfold Text.objectKey bareName
  split_ifs with hkey
  · have hnames := isNameRest_of_isIdentifier hkey
    have hlexes := lexes_bare fun c hc => bare_of_isNameRest (.inl (hnames c hc))
    have hquiet : Quiet (code key.toList) :=
      quiet_code fun hmem => by cases hnames _ hmem
    have hname : ∀ c ∈ key.toList, isName (.lexeme (.code c)) = true := fun c hc =>
      continuesName_of_isNameRest (hnames c hc)
    have hword := all_isWord_of_isIdentifier hkey
    have hbare := (isBareKey_of_isIdentifier hkey).1
    generalize key.toList = word at hlexes hquiet hname hword hbare
    cases word with
    | nil => cases hbare
    | cons c cs =>
        refine ⟨_, _, hlexes, hquiet,
          (begins_of_isWord (List.all_eq_true.mp hword c List.mem_cons_self)).1, fun rest => ?_⟩
        have hend : ∀ t ∈ (code [' ', '=', ' '] ++ rest).head?, isName t = false := by
          rintro t ht
          cases ht
          decide
        obtain ⟨htake, -⟩ := Traversal.takeWhile_map_append isName (fun c => .lexeme (.code c))
          hname hend
        refine (congrArg (List.filterMap Token.code?) htake).trans ?_
        rw [List.filterMap_map]
        exact List.filterMap_some
  · exact ⟨_, _, lexes_quote key, quiet_texts key, rfl, fun rest => rfl⟩

/-! ### Written values -/

mutual

/-- True if the first key of the value, or of an object in it, is the word `for`. -/
def leadsWithFor : Json → Bool
  | .array items => itemsLeadWithFor items
  | .object entries => startsWithFor entries || entriesLeadWithFor entries
  | _ => false

def itemsLeadWithFor : List Json → Bool
  | [] => false
  | item :: rest => leadsWithFor item || itemsLeadWithFor rest

def entriesLeadWithFor : List (String × Json) → Bool
  | [] => false
  | (_, value) :: rest => leadsWithFor value || entriesLeadWithFor rest

end

/-- Entries as they are written, with the name behind the brace in front of them. -/
def EntriesOpenAs (ps : List Piece) (name : List Char) (b : Bool) : Prop :=
  ∃ ts, Lexes ps ts ∧ (∀ rest, opensLoop (ts ++ rest) = (b || opensLoop rest)) ∧
    ∀ lead close rest, IsSpaces lead → IsSpaces close →
      leadingName
          (code lead.toList ++ (ts ++ (code close.toList ++ .lexeme (.code '\x7d') :: rest))) =
        name

theorem entriesOpenAs_nil : EntriesOpenAs [] [] false := by
  refine ⟨[], lexes_nil, fun rest => rfl, fun lead close rest hlead hclose => ?_⟩
  rw [List.nil_append, code_toList_append, leadingName,
    dropWhile_spaces (isSpaces_append hlead hclose) rfl]
  rfl

theorem entriesOpenAs_cons {indent : String} {ps ps' : List Piece} {name : List Char} {b b' : Bool}
    (key : String) (hindent : IsSpaces indent) (h : OpensAs ps b)
    (hrest : EntriesOpenAs ps' name b') :
    EntriesOpenAs (pieces indent ++ (pieces (Text.objectKey key) ++ (pieces " = " ++
      (ps ++ (.char '\n' :: ps'))))) (bareName key) (b || b') := by
  obtain ⟨ts, hlexes, hopens⟩ := h
  obtain ⟨ts', hlexes', hopens', -⟩ := hrest
  obtain ⟨t, ks, hkey, hquiet, hspace, hname⟩ := exists_lexes_key key
  refine ⟨_, lexes_entry hindent hkey hlexes hlexes', fun rest => ?_,
    fun lead close rest hlead hclose => ?_⟩
  · have hline : Quiet [.lexeme (.code '\n')] :=
      quiet_code (show '\x7b' ∉ ['\n'] by decide)
    simp only [List.append_assoc]
    rw [opensLoop_append_of_quiet (quiet_code (not_mem_of_isSpaces hindent)),
      opensLoop_append_of_quiet hquiet, opensLoop_append_of_quiet (quiet_code (by decide)), hopens,
      opensLoop_append_of_quiet hline, hopens', Bool.or_assoc]
  · simp only [List.append_assoc]
    rw [code_toList_append, List.cons_append, leadingName,
      dropWhile_spaces (isSpaces_append hlead hindent) hspace]
    exact hname _

theorem opensAs_object {lead close : String} {ps : List Piece} {name : List Char} {b : Bool}
    (hlead : IsSpaces lead) (hclose : IsSpaces close) (h : EntriesOpenAs ps name b) :
    OpensAs (.char '{' :: (pieces lead ++ (ps ++ (pieces close ++ [.char '}']))))
      (name == "for".toList || b) := by
  obtain ⟨ts, hlexes, hopens, hname⟩ := h
  have htokens := lexes_braces ((lexes_spaces hlead).append (hlexes.append (lexes_spaces hclose)))
  simp only [List.append_assoc] at htokens
  refine ⟨_, htokens, fun rest => ?_⟩
  simp only [List.cons_append, List.append_assoc, List.nil_append]
  rw [opensLoop, hname lead close rest hlead hclose,
    opensLoop_append_of_quiet (quiet_code (not_mem_of_isSpaces hlead)), hopens,
    opensLoop_append_of_quiet (quiet_code (not_mem_of_isSpaces hclose)), Bool.or_assoc]
  rfl

mutual

theorem opensAs_written (n : Nat) :
    ∀ json : Json, OpensAs (written n (documentLayout (.ofJson json))) (leadsWithFor json)
  | .null => opensAs_word (s := "null") (by decide)
  | .bool true => opensAs_word (s := "true") (by decide)
  | .bool false => opensAs_word (s := "false") (by decide)
  | .number x => opensAs_word (all_isWord_configText x)
  | .string s => opensAs_quote s
  | .array [] => (opensAs_char (by decide) (by decide)).append
      (opensAs_char (c := ']') (by decide) (by decide))
  | .array (item :: rest) => by
      have h := (opensAs_char (c := '[') (by decide) (by decide)).append
        ((opensAs_spaces isSpaces_line).append
          ((opensAs_writtenItems (n + 1) (item :: rest)).append
            ((opensAs_spaces (isSpaces_indentation n)).append
              (opensAs_char (c := ']') (by decide) (by decide)))))
      rw [Bool.false_or, Bool.false_or, Bool.or_false, Bool.or_false] at h
      exact h
  | .object [] => opensAs_object isSpaces_empty isSpaces_empty entriesOpenAs_nil
  | .object (entry :: rest) => by
      have h := opensAs_object isSpaces_line (isSpaces_indentation n)
        (entriesOpenAs_written (n + 1) (entry :: rest))
      rw [firstName_eq_for] at h
      exact h

theorem opensAs_writtenItems (n : Nat) : ∀ items : List Json,
    OpensAs (writtenItems n (documentLayouts (AttributeTree.ofJsonItems items)))
      (itemsLeadWithFor items)
  | [] => ⟨[], lexes_nil, fun _ => rfl⟩
  | item :: rest => by
      have h := (opensAs_spaces (isSpaces_indentation n)).append ((opensAs_written n item).append
        ((opensAs_char (c := ',') (by decide) (by decide)).append
          ((opensAs_spaces isSpaces_line).append (opensAs_writtenItems n rest))))
      rw [Bool.false_or, Bool.false_or, Bool.false_or] at h
      exact h

theorem entriesOpenAs_written (n : Nat) : ∀ entries : List (String × Json),
    EntriesOpenAs (writtenEntries n (documentEntryLayouts (AttributeTree.ofJsonEntries entries)))
      (firstName entries) (entriesLeadWithFor entries)
  | [] => entriesOpenAs_nil
  | (key, value) :: rest => entriesOpenAs_cons key (isSpaces_indentation n)
      (opensAs_written n value) (entriesOpenAs_written n rest)

end

end StackExport.Proofs.LoopKeyword
