import Mathlib
import StackExport.Proofs.NumeralReading
import StackExport.Proofs.Traversal
import StackExport.Grammar.Word
import StackExport.Scalar
import StackExport.Text.Identifier
/-!
A reader for literal expressions: objects, lists, quoted texts, numerals and words.

It knows no operators and no loops, so a name in front of an equals sign is always a key. What a
reference is written as counts as one token, whatever it looks like.
-/
namespace StackExport.Proofs.LiteralReading

open StackExport
open StackExport.Proofs.TemplateReading
open StackExport.Proofs.Lexemes
open StackExport.Proofs.NumeralReading

/-! ### Tokens -/

/-- A piece of a text: a character, or an expression as a whole. -/
inductive Piece where
  | char (c : Char)
  | expression (r : Reference)

inductive Token where
  | lexeme (l : Lexeme)
  | expression (r : Reference)

/-- The characters of pieces. -/
def plain : List Piece → List Char
  | [] => []
  | .char c :: rest => c :: plain rest
  | .expression r :: rest => r.expression.toList ++ plain rest

def pieces (s : String) : List Piece := s.toList.map .char

def tokensFrom : List Level → List Piece → List Token
  | _, [] => []
  | levels, .char c :: rest => (lexemesOf levels c).map .lexeme ++ tokensFrom (step levels c) rest
  | levels, .expression r :: rest => .expression r :: tokensFrom levels rest

def levelsBehind : List Level → List Piece → List Level
  | levels, [] => levels
  | levels, .char c :: rest => levelsBehind (step levels c) rest
  | levels, .expression _ :: rest => levelsBehind levels rest

def tokens (ps : List Piece) : List Token := tokensFrom [.code none] ps

/-! ### The reader -/

inductive Literal where
  | null
  | bool (value : Bool)
  | number (value : ℚ)
  | text (value : String)
  /-- A word that is no literal: the name of a variable. -/
  | name (word : String)
  | list (items : List Literal)
  | object (entries : List (String × Literal))
  /-- A value that is encoded as a document. -/
  | encoded (value : Literal)
  | expression (r : Reference)

def Token.code? : Token → Option Char
  | .lexeme (.code c) => some c
  | _ => none

def Token.char? : Token → Option Char
  | .lexeme (.char c) => some c
  | _ => none

def Token.isWord (t : Token) : Bool := t.code?.any IsWord

def Token.isBlank (t : Token) : Bool := t.code? == some ' '

/-- True for what separates the parts of a list or an object. -/
def Token.isSpace (t : Token) : Bool := t.code? == some ' ' || t.code? == some '\n'

def ofWord (word : List Char) : Literal :=
  match numeral? word with
  | some q => .number q
  | none =>
    match String.ofList word with
    | "null" => .null
    | "true" => .bool true
    | "false" => .bool false
    | name => .name name

def isBareKey : List Char → Bool
  | c :: rest => Grammar.startsName c && rest.all Grammar.continuesName
  | [] => false

/-- The text up to the closing quote, in which nothing may be live. -/
def takeText? (ts : List Token) : Option (String × List Token) :=
  match ts.dropWhile fun t => t.char?.isSome with
  | .lexeme .closeQuote :: rest =>
    some (String.ofList ((ts.takeWhile fun t => t.char?.isSome).filterMap Token.char?), rest)
  | _ => none

/-- A key: a quoted text, or a name that is no keyword. -/
def takeKey? (ts : List Token) : Option (String × List Token) :=
  match ts with
  | .lexeme .openQuote :: rest => takeText? rest
  | ts =>
    let word := (ts.takeWhile Token.isWord).filterMap Token.code?
    if isBareKey word && !(["null", "true", "false"].contains (String.ofList word)) then
      some (String.ofList word, ts.dropWhile Token.isWord)
    else none

/-- The tokens behind an equals sign with blanks around it. -/
def takeEquals? (ts : List Token) : Option (List Token) :=
  match ts.dropWhile Token.isBlank with
  | .lexeme (.code '=') :: rest => some (rest.dropWhile Token.isBlank)
  | _ => none

mutual

/-- Reads the value at the start of some tokens. -/
def readValue : (fuel : Nat) → List Token → Option (Literal × List Token)
  | 0, _ => none
  | fuel + 1, ts =>
    match ts with
    | .expression r :: rest => some (.expression r, rest)
    | .lexeme .openQuote :: rest => (takeText? rest).map fun (s, rest) => (.text s, rest)
    | .lexeme (.code '[') :: rest =>
      (readItems fuel rest).map fun (items, rest) => (.list items, rest)
    | .lexeme (.code '{') :: rest =>
      (readEntries fuel rest).map fun (entries, rest) => (.object entries, rest)
    | ts =>
      let word := (ts.takeWhile Token.isWord).filterMap Token.code?
      let behind := ts.dropWhile Token.isWord
      if String.ofList word = "jsonencode" then readArgument fuel behind
      else if word.isEmpty then none
      else some (ofWord word, behind)

/-- Reads the value between the parentheses of a call. -/
def readArgument : (fuel : Nat) → List Token → Option (Literal × List Token)
  | fuel + 1, .lexeme (.code '(') :: rest =>
    match readValue fuel rest with
    | some (l, .lexeme (.code ')') :: rest) => some (.encoded l, rest)
    | _ => none
  | _, _ => none

def readItems : (fuel : Nat) → List Token → Option (List Literal × List Token)
  | 0, _ => none
  | fuel + 1, ts =>
    match ts.dropWhile Token.isSpace with
    | .lexeme (.code ']') :: rest => some ([], rest)
    | ts =>
      match readValue fuel ts with
      | none => none
      | some (l, rest) =>
        match rest.dropWhile Token.isSpace with
        | .lexeme (.code ',') :: rest => (readItems fuel rest).map fun (ls, rest) => (l :: ls, rest)
        | .lexeme (.code ']') :: rest => some ([l], rest)
        | _ => none

def readEntries : (fuel : Nat) → List Token → Option (List (String × Literal) × List Token)
  | 0, _ => none
  | fuel + 1, ts =>
    match ts.dropWhile Token.isSpace with
    | .lexeme (.code '\x7d') :: rest => some ([], rest)
    | ts =>
      match takeKey? ts with
      | none => none
      | some (key, rest) =>
        match (takeEquals? rest).bind (readValue fuel) with
        | none => none
        | some (l, rest) =>
          match rest.dropWhile Token.isBlank with
          | .lexeme (.code '\n') :: rest | .lexeme (.code ',') :: rest =>
            (readEntries fuel rest).map fun (entries, rest) => ((key, l) :: entries, rest)
          | .lexeme (.code '\x7d') :: rest => some ([(key, l)], rest)
          | _ => none

end

/-- Reads a text that is one literal expression. -/
def read (ps : List Piece) : Option Literal :=
  match readValue ((tokens ps).length + 1) (tokens ps) with
  | some (l, []) => some l
  | _ => none

/-! ### Tokens of pieces -/

theorem pieces_append (s s' : String) : pieces (s ++ s') = pieces s ++ pieces s' := by
  simp [pieces]

theorem tokensFrom_append (levels : List Level) (a b : List Piece) :
    tokensFrom levels (a ++ b) = tokensFrom levels a ++ tokensFrom (levelsBehind levels a) b := by
  induction a generalizing levels with
  | nil => rfl
  | cons p a ih =>
      cases p with
      | char c => simp only [List.cons_append, tokensFrom, levelsBehind, ih, List.append_assoc]
      | expression r => simp only [List.cons_append, tokensFrom, levelsBehind, ih]

theorem levelsBehind_append (levels : List Level) (a b : List Piece) :
    levelsBehind levels (a ++ b) = levelsBehind (levelsBehind levels a) b := by
  induction a generalizing levels with
  | nil => rfl
  | cons p a ih => cases p <;> exact ih _

theorem tokensFrom_chars (levels : List Level) (cs : List Char) :
    tokensFrom levels (cs.map .char) = (lexFrom levels cs).map .lexeme ∧
      levelsBehind levels (cs.map .char) = run levels cs := by
  induction cs generalizing levels with
  | nil => exact ⟨rfl, rfl⟩
  | cons c cs ih =>
      obtain ⟨htokens, hlevels⟩ := ih (step levels c)
      constructor
      · rw [List.map_cons, tokensFrom, htokens, lexFrom, List.map_append]
      · rw [List.map_cons, levelsBehind, hlevels, run_cons]

/-- Pieces of code that leave nothing open, with their tokens. -/
structure Lexes (ps : List Piece) (ts : List Token) : Prop where
  tokens_eq : ∀ outer, tokensFrom (.code none :: outer) ps = ts
  levels_eq : ∀ outer, levelsBehind (.code none :: outer) ps = .code none :: outer

theorem Lexes.append {a b : List Piece} {ta tb : List Token} (ha : Lexes a ta) (hb : Lexes b tb) :
    Lexes (a ++ b) (ta ++ tb) where
  tokens_eq := fun outer => by
    rw [tokensFrom_append, ha.tokens_eq, ha.levels_eq, hb.tokens_eq]
  levels_eq := fun outer => by
    rw [levelsBehind_append, ha.levels_eq, hb.levels_eq]

theorem lexes_nil : Lexes [] [] := ⟨fun _ => rfl, fun _ => rfl⟩

theorem lexes_expression (r : Reference) : Lexes [.expression r] [.expression r] :=
  ⟨fun _ => rfl, fun _ => rfl⟩

def code (cs : List Char) : List Token := cs.map fun c => .lexeme (.code c)

@[simp] theorem code_append (a b : List Char) : code (a ++ b) = code a ++ code b :=
  List.map_append

theorem lexes_chars {cs : List Char} {ls : List Lexeme}
    (h : ∀ outer, lexFrom (.code none :: outer) cs = ls ∧
      run (.code none :: outer) cs = .code none :: outer) :
    Lexes (cs.map .char) (ls.map .lexeme) where
  tokens_eq := fun outer => by rw [(tokensFrom_chars _ cs).1, (h outer).1]
  levels_eq := fun outer => by rw [(tokensFrom_chars _ cs).2, (h outer).2]

theorem lexes_bare {s : String} (h : ∀ c ∈ s.toList, Bare c) :
    Lexes (pieces s) (code s.toList) := by
  have hlexes := lexes_chars fun outer => lexFrom_bare h outer
  rw [List.map_map] at hlexes
  exact hlexes

/-- The tokens of a text up to its closing quote. -/
def texts (s : String) : List Token :=
  s.toList.map (fun c => .lexeme (.char c)) ++ [.lexeme .closeQuote]

theorem lexes_quote (s : String) :
    Lexes (pieces (Text.quote s)) (.lexeme .openQuote :: texts s) := by
  have hlexes := lexes_chars fun outer => lexFrom_quote s none outer
  rw [literalLexemes, List.map_append, List.map_cons, List.map_map] at hlexes
  exact hlexes

theorem lexes_braces {inner : List Piece} {ts : List Token} (h : Lexes inner ts) :
    Lexes (.char '{' :: (inner ++ [.char '}']))
      (.lexeme (.code '{') :: (ts ++ [.lexeme (.code '}')])) where
  tokens_eq := fun outer => by
    have hopen : step (.code none :: outer) '{' = .code none :: .code none :: outer := rfl
    rw [tokensFrom, hopen, tokensFrom_append, h.tokens_eq, h.levels_eq]
    rfl
  levels_eq := fun outer => by
    have hopen : step (.code none :: outer) '{' = .code none :: .code none :: outer := rfl
    rw [levelsBehind, hopen, levelsBehind_append, h.levels_eq]
    rfl

/-! ### Reading words and texts -/

/-- No word goes on at the start of these tokens. -/
def Delimited (ts : List Token) : Prop := ∀ t ∈ ts.head?, t.isWord = false

@[simp] theorem code?_code (c : Char) : Token.code? (.lexeme (.code c)) = some c := rfl

theorem takeWord {word : List Char} (hword : word.all IsWord = true) {rest : List Token}
    (hrest : Delimited rest) :
    ((code word ++ rest).takeWhile Token.isWord).filterMap Token.code? = word ∧
      (code word ++ rest).dropWhile Token.isWord = rest := by
  have hall : ∀ c ∈ word, Token.isWord (.lexeme (.code c)) = true := List.all_eq_true.mp hword
  obtain ⟨htake, hdrop⟩ := Traversal.takeWhile_map_append Token.isWord
    (fun c => .lexeme (.code c)) hall hrest
  refine ⟨?_, hdrop⟩
  unfold code
  rw [htake, List.filterMap_map]
  exact List.filterMap_some

theorem readValue_of_word {word : List Char} (hne : word ≠ []) (hword : word.all IsWord = true)
    {rest : List Token} (hrest : Delimited rest) (fuel : Nat) :
    readValue (fuel + 1) (code word ++ rest) =
      if String.ofList word = "jsonencode" then readArgument fuel rest
      else some (ofWord word, rest) := by
  obtain ⟨htake, hdrop⟩ := takeWord hword hrest
  obtain ⟨c, cs, rfl⟩ := List.exists_cons_of_ne_nil hne
  have hc : IsWord c = true := List.all_eq_true.mp hword c List.mem_cons_self
  have hempty : (c :: cs).isEmpty = false := rfl
  unfold readValue
  split
  · next heq => cases heq
  · next heq => cases heq
  · next heq =>
      cases heq
      exact absurd hc (by decide)
  · next heq =>
      cases heq
      exact absurd hc (by decide)
  · simp only [htake, hdrop, hempty, Bool.false_eq_true, if_false]

theorem takeText_texts (s : String) (rest : List Token) :
    takeText? (texts s ++ rest) = some (s, rest) := by
  have hall : ∀ c ∈ s.toList, (Token.char? (.lexeme (.char c))).isSome = true := fun _ _ => rfl
  have hend : ∀ t ∈ (Token.lexeme .closeQuote :: rest).head?, (Token.char? t).isSome = false := by
    rintro t ht
    cases ht
    rfl
  obtain ⟨htake, hdrop⟩ := Traversal.takeWhile_map_append (fun t => (Token.char? t).isSome)
    (fun c => .lexeme (.char c)) hall hend
  have hback : (s.toList.map fun c => Token.lexeme (.char c)).filterMap Token.char? = s.toList := by
    rw [List.filterMap_map]
    exact List.filterMap_some
  rw [texts, List.append_assoc, List.singleton_append, takeText?, htake, hdrop, hback,
    String.ofList_toList]

/-! ### Keys -/

theorem toNat_lt_of_isAlphanum {c : Char} (h : c.isAlphanum = true) : c.toNat < 0x80 := by
  simp only [Char.isAlphanum, Char.isAlpha, Char.isUpper, Char.isLower, Char.isDigit,
    Bool.or_eq_true, Bool.and_eq_true, decide_eq_true_eq, UInt32.le_iff_toNat_le, ge_iff_le] at h
  change c.val.toNat < 128
  change ((_ ∧ c.val.toNat ≤ 90) ∨ (_ ∧ c.val.toNat ≤ 122)) ∨ (_ ∧ c.val.toNat ≤ 57) at h
  omega

theorem startsName_of_isNameStart {c : Char} (h : Text.isNameStart c = true) :
    Grammar.startsName c = true := by
  unfold Text.isNameStart at h
  unfold Grammar.startsName Text.isXidStart
  rcases Bool.or_eq_true_iff.mp h with h | h
  · have hascii := toNat_lt_of_isAlphanum (c := c) (by rw [Char.isAlphanum, h, Bool.true_or])
    rw [if_pos hascii, h, Bool.or_true]
  · rw [h, Bool.true_or]

theorem continuesName_of_isNameRest {c : Char} (h : Text.isNameRest c = true) :
    Grammar.continuesName c = true := by
  unfold Text.isNameRest at h
  unfold Grammar.continuesName Text.isXidContinue
  rcases Bool.or_eq_true_iff.mp h with h | h
  · have hascii : c.toNat < 0x80 := by
      rcases Bool.or_eq_true_iff.mp h with h | h
      · exact toNat_lt_of_isAlphanum h
      · rw [beq_iff_eq.mp h]
        decide
    rw [if_pos hascii, h, Bool.or_true]
  · rw [h, Bool.true_or]

theorem isBareKey_of_isIdentifier {key : String} (h : Text.isIdentifier key = true) :
    isBareKey key.toList = true ∧ ["null", "true", "false"].contains key = false := by
  unfold Text.isIdentifier at h
  obtain ⟨hkeyword, hname⟩ := Bool.and_eq_true_iff.mp h
  constructor
  · unfold isBareKey
    split at hname
    · cases hname
    · next c rest heq =>
        obtain ⟨hstart, hrest⟩ := Bool.and_eq_true_iff.mp hname
        rw [heq, Bool.and_eq_true, List.all_eq_true]
        exact ⟨startsName_of_isNameStart hstart,
          fun c hc => continuesName_of_isNameRest (List.all_eq_true.mp hrest c hc)⟩
  · simp only [Text.keywords, Bool.not_eq_true', List.contains_eq_mem, decide_eq_false_iff_not,
      List.mem_cons, List.not_mem_nil, or_false, not_or] at hkeyword ⊢
    exact ⟨hkeyword.2.2, hkeyword.1, hkeyword.2.1⟩

theorem all_isWord_of_isIdentifier {key : String} (h : Text.isIdentifier key = true) :
    key.toList.all IsWord = true := by
  refine List.all_eq_true.mpr fun c hc => ?_
  have hname := isNameRest_of_isIdentifier h c hc
  unfold Text.isNameRest at hname
  unfold IsWord
  rw [hname, Bool.true_or]

theorem takeKey_word {word : List Char} (hword : word.all IsWord = true)
    (hbare : isBareKey word = true)
    (hkeyword : ["null", "true", "false"].contains (String.ofList word) = false)
    {rest : List Token} (hrest : Delimited rest) :
    takeKey? (code word ++ rest) = some (String.ofList word, rest) := by
  obtain ⟨htake, hdrop⟩ := takeWord hword hrest
  cases word with
  | nil => cases hbare
  | cons c cs =>
      unfold takeKey?
      split
      · next heq => cases heq
      · simp only [htake, hdrop, hbare, hkeyword, Bool.not_false, Bool.and_self, if_true]

/-- What a key or a value may begin with: neither a space nor the end of a list or an object. -/
def Begins (t : Token) : Prop :=
  t.isSpace = false ∧ t.code? ≠ some ']' ∧ t.code? ≠ some '\x7d'

theorem begins_of_isWord {c : Char} (h : IsWord c = true) : Begins (.lexeme (.code c)) := by
  have hne (d : Char) (hd : IsWord d = false) : some c ≠ some d := by
    rintro heq
    rw [Option.some.inj heq, hd] at h
    cases h
  refine ⟨?_, hne _ (by decide), hne _ (by decide)⟩
  have hblank : (some c == some ' ') = false := beq_eq_false_iff_ne.mpr (hne ' ' (by decide))
  have hline : (some c == some '\n') = false := beq_eq_false_iff_ne.mpr (hne '\n' (by decide))
  change (some c == some ' ' || some c == some '\n') = false
  rw [hblank, hline]
  rfl

/-- A written key reads as the key, whatever follows it. -/
theorem exists_lexes_objectKey (key : String) :
    ∃ t ts, Lexes (pieces (Text.objectKey key)) (t :: ts) ∧ Begins t ∧
      ∀ rest, Delimited rest → takeKey? (t :: ts ++ rest) = some (key, rest) := by
  unfold Text.objectKey
  split_ifs with hkey
  · have hlexes := lexes_bare fun c hc =>
      bare_of_isNameRest (.inl (isNameRest_of_isIdentifier hkey c hc))
    obtain ⟨hbare, hkeyword⟩ := isBareKey_of_isIdentifier hkey
    have hword := all_isWord_of_isIdentifier hkey
    have hback := String.ofList_toList (s := key)
    generalize key.toList = word at hlexes hbare hword hback
    subst hback
    cases word with
    | nil => cases hbare
    | cons c cs =>
        exact ⟨_, _, hlexes, begins_of_isWord (List.all_eq_true.mp hword c List.mem_cons_self),
          fun rest hrest => takeKey_word hword hbare hkeyword hrest⟩
  · exact ⟨_, _, lexes_quote key, ⟨rfl, by decide, by decide⟩, fun rest _ =>
      takeText_texts key rest⟩

end StackExport.Proofs.LiteralReading
