import StackExport.Json.Draft
import StackExport.Decimal.Reader
/-!
Reading JSON documents.

A document is first cut into tokens; a machine with a stack of open arrays and objects then takes
one token at a time and leaves a draft of the document. Of two entries with one key the later value
wins, at the place of the earlier.
-/
namespace StackExport.Json

/-- The lexical elements of a document. -/
inductive Token where
  | openArray
  | closeArray
  | openObject
  | closeObject
  | colon
  | comma
  /-- A text in quotes, which may be a key. -/
  | text (content : Option String)
  | scalar (value : Draft)

/-- The blanks between tokens. -/
def isSpace (c : Char) : Bool :=
  c == ' ' || c == '\n' || c == '\t' || c == '\r'

/-- The value of a hexadecimal digit. -/
def hexDigit? (c : Char) : Option Nat :=
  let n := c.toNat
  if 48 ≤ n && n ≤ 57 then some (n - 48)
  else if 97 ≤ n && n ≤ 102 then some (n - 87)
  else if 65 ≤ n && n ≤ 70 then some (n - 55)
  else none

/-- The value of four hexadecimal digits. -/
def hex4? (a b c d : Char) : Option Nat := do
  let a ← hexDigit? a
  let b ← hexDigit? b
  let c ← hexDigit? c
  let d ← hexDigit? d
  return ((a * 16 + b) * 16 + c) * 16 + d

/-- The character behind a one-letter escape. -/
def escaped? : Char → Option Char
  | '"' => some '"'
  | '\\' => some '\\'
  | '/' => some '/'
  | 'b' => some '\x08'
  | 'f' => some '\x0c'
  | 'n' => some '\n'
  | 'r' => some '\r'
  | 't' => some '\t'
  | _ => none

/-- Reads a string from behind its opening quote to its closing one: its characters in reverse and
the rest of the text. There are no characters when a surrogate does not stand in a pair. -/
def scanString (taken : Option (List Char)) : List Char → Option (Option (List Char) × List Char)
  | [] => none
  | '"' :: rest => some (taken, rest)
  | '\\' :: 'u' :: a :: b :: c :: d :: rest =>
    match hex4? a b c d with
    | none => none
    | some unit =>
      if 0xD800 ≤ unit && unit < 0xDC00 then
        match rest with
        | '\\' :: 'u' :: e :: f :: g :: h :: rest =>
          match hex4? e f g h with
          | none => none
          | some low =>
            if 0xDC00 ≤ low && low < 0xE000 then
              let c := Char.ofNat (0x10000 + (unit - 0xD800) * 0x400 + (low - 0xDC00))
              scanString (taken.map (c :: ·)) rest
            else scanString none ('\\' :: 'u' :: e :: f :: g :: h :: rest)
        | rest => scanString none rest
      else if 0xDC00 ≤ unit && unit < 0xE000 then scanString none rest
      else scanString (taken.map (Char.ofNat unit :: ·)) rest
  | '\\' :: c :: rest =>
    match escaped? c with
    | none => none
    | some c => scanString (taken.map (c :: ·)) rest
  | c :: rest =>
    if c.toNat < 0x20 || c == '\\' then none else scanString (taken.map (c :: ·)) rest
termination_by cs => cs.length

theorem scanString_length {taken text : Option (List Char)} {cs rest : List Char}
    (h : scanString taken cs = some (text, rest)) : rest.length < cs.length := by
  fun_induction scanString taken cs <;> simp_all <;> grind

/-- The digits of a significand as far as they fit a word, and how many more follow. -/
def gather (significand : Nat) : List Char → Nat × Nat
  | [] => (significand, 0)
  | c :: rest =>
    let next := significand * 10 + (c.toNat - '0'.toNat)
    if next < Nat.pow 2 64 then gather next rest else (significand, rest.length + 1)

/-- The number with the given parts: its sign, the digits before the point, those behind it, and an
exponent. Digits that no longer fit a word are dropped. -/
def assemble (negative : Bool) (whole : List Char) (fraction : Option (List Char))
    (exponent : Option Int) : Option Number :=
  let (significand, dropped) := gather 0 whole
  match fraction, exponent with
  | none, none =>
    if dropped = 0 then
      if !negative then some (.int significand)
      else if 0 < significand && significand ≤ Nat.pow 2 63 then some (.int (-(significand : Int)))
      else some (.float (-(Float.ofNat significand)))
    else
      (Decimal.scaled? significand dropped).map fun x => .float (if negative then -x else x)
  | _, _ =>
    let digits := fraction.getD []
    let (all, unused) := gather significand digits
    let power : Int := (dropped : Int) - (digits.length - unused : Nat)
    let shift := exponent.getD 0
    let scaled :=
      -- an exponent of more than 31 bits decides alone
      if Int.pow 2 31 ≤ shift then if all = 0 then some 0.0 else none
      else if shift ≤ -Int.pow 2 31 then some 0.0
      else Decimal.scaled? all (power + shift)
    scaled.map fun x => .float (if negative then -x else x)

/-- A sign at the start of a text, true for a minus, and the rest. -/
def takeSign : List Char → Bool × List Char
  | '-' :: rest => (true, rest)
  | '+' :: rest => (false, rest)
  | rest => (false, rest)

/-- The exponent at the start of a text, if there is an exponent mark, and the rest; `none` for a
mark without digits. -/
def scanExponent : List Char → Option (Option Int × List Char)
  | [] => some (none, [])
  | c :: rest =>
    if c == 'e' || c == 'E' then
      if ((takeSign rest).2.takeWhile Char.isDigit).isEmpty then none
      else
        let n : Int := Decimal.ofDigits ((takeSign rest).2.takeWhile Char.isDigit)
        some (some (if (takeSign rest).1 then -n else n), (takeSign rest).2.dropWhile Char.isDigit)
    else some (none, c :: rest)

/-- The fraction at the start of a text, if there is a point, and the rest; `none` for a point
without digits. -/
def scanFraction : List Char → Option (Option (List Char) × List Char)
  | '.' :: rest =>
    if (rest.takeWhile Char.isDigit).isEmpty then none
    else some (some (rest.takeWhile Char.isDigit), rest.dropWhile Char.isDigit)
  | cs => some (none, cs)

/-- Reads the number at the start of a text, whose minus sign has been taken. A zero may not stand
before other digits. There is no number when it is too large. -/
def scanMagnitude (negative : Bool) (cs : List Char) : Option (Option Number × List Char) :=
  let whole := cs.takeWhile Char.isDigit
  if whole.isEmpty || (whole.head? == some '0' && whole.length != 1) then none
  else
    match scanFraction (cs.dropWhile Char.isDigit) with
    | none => none
    | some (fraction, rest) =>
      match scanExponent rest with
      | none => none
      | some (exponent, rest) =>
        some (assemble negative whole fraction exponent, rest)

/-- Reads the number at the start of a text. -/
def scanNumber : List Char → Option (Option Number × List Char)
  | '-' :: rest => scanMagnitude true rest
  | cs => scanMagnitude false cs

/-- The words of a document and the values they stand for. -/
def words : List (List Char × Json) :=
  [("true".toList, .bool true), ("false".toList, .bool false), ("null".toList, .null)]

/-- One token at the start of a text that is not blank there, and the rest. -/
def scanToken (c : Char) (rest : List Char) : Option (Token × List Char) :=
  match c with
  | '[' => some (.openArray, rest)
  | ']' => some (.closeArray, rest)
  | '{' => some (.openObject, rest)
  | '}' => some (.closeObject, rest)
  | ':' => some (.colon, rest)
  | ',' => some (.comma, rest)
  | '"' =>
    (scanString (some []) rest).map fun (text, rest) =>
      (.text (text.map fun cs => String.ofList cs.reverse), rest)
  | c =>
    if c == '-' || c.isDigit then
      (scanNumber (c :: rest)).map fun (n, rest) => (.scalar (.ofOption (n.map .number)), rest)
    else
      words.findSome? fun (word, value) =>
        if word.isPrefixOf (c :: rest) then
          some (.scalar (.scalar value), (c :: rest).drop word.length)
        else none

theorem length_dropWhile_le {p : Char → Bool} (cs : List Char) :
    (cs.dropWhile p).length ≤ cs.length :=
  (List.dropWhile_suffix p).length_le

theorem length_dropWhile_lt {p : Char → Bool} {cs : List Char}
    (h : (cs.takeWhile p).isEmpty = false) : (cs.dropWhile p).length < cs.length := by
  have := congrArg List.length (List.takeWhile_append_dropWhile (p := p) (l := cs))
  rw [List.length_append] at this
  cases hw : cs.takeWhile p with
  | nil => simp [hw] at h
  | cons c rest => simp [hw] at this; omega

theorem takeSign_length (cs : List Char) : (takeSign cs).2.length ≤ cs.length := by
  unfold takeSign
  split <;> simp

theorem scanExponent_length {cs rest : List Char} {e : Option Int}
    (h : scanExponent cs = some (e, rest)) : rest.length ≤ cs.length := by
  unfold scanExponent at h
  split at h
  · simp_all
  · rename_i c tail
    have h1 := takeSign_length tail
    have h2 := length_dropWhile_le (p := Char.isDigit) (takeSign tail).2
    split at h
    · split at h
      · simp at h
      · simp only [Option.some.injEq, Prod.mk.injEq] at h
        rw [← h.2, List.length_cons]
        omega
    · simp_all

theorem scanFraction_length {cs rest : List Char} {f : Option (List Char)}
    (h : scanFraction cs = some (f, rest)) : rest.length ≤ cs.length := by
  unfold scanFraction at h
  split at h
  · rename_i tail
    split at h
    · simp at h
    · simp only [Option.some.injEq, Prod.mk.injEq] at h
      have := length_dropWhile_le (p := Char.isDigit) tail
      rw [← h.2, List.length_cons]
      omega
  · simp_all

theorem scanMagnitude_length {negative : Bool} {cs rest : List Char} {n : Option Number}
    (h : scanMagnitude negative cs = some (n, rest)) : rest.length < cs.length := by
  unfold scanMagnitude at h
  dsimp only at h
  split at h
  · simp at h
  · rename_i hw
    simp only [Bool.or_eq_true, not_or, Bool.not_eq_true] at hw
    have h0 := length_dropWhile_lt hw.1
    split at h
    · simp at h
    · rename_i hf
      split at h
      · simp at h
      · rename_i he
        simp only [Option.some.injEq, Prod.mk.injEq] at h
        have h1 := scanFraction_length hf
        have h2 := scanExponent_length he
        rw [← h.2]
        omega

theorem scanNumber_length {cs rest : List Char} {n : Option Number}
    (h : scanNumber cs = some (n, rest)) : rest.length < cs.length := by
  unfold scanNumber at h
  split at h
  · have := scanMagnitude_length h
    rw [List.length_cons]
    omega
  · exact scanMagnitude_length h

theorem words_length_pos : ∀ entry ∈ words, 0 < entry.1.length := by
  simp [words]

theorem scanToken_length {c : Char} {rest tail : List Char} {token : Token}
    (h : scanToken c rest = some (token, tail)) : tail.length ≤ rest.length := by
  unfold scanToken at h
  split at h
  case h_7 =>
    obtain ⟨⟨text, r⟩, hs, he⟩ := Option.map_eq_some_iff.1 h
    simp only [Prod.mk.injEq] at he
    have := scanString_length hs
    rw [← he.2]
    omega
  case h_8 =>
    split at h
    · obtain ⟨⟨n, r⟩, hs, he⟩ := Option.map_eq_some_iff.1 h
      simp only [Prod.mk.injEq] at he
      have := scanNumber_length hs
      rw [List.length_cons] at this
      rw [← he.2]
      omega
    · obtain ⟨⟨word, value⟩, hw, hf⟩ := List.exists_of_findSome?_eq_some h
      dsimp only at hf
      split at hf
      · simp only [Option.some.injEq, Prod.mk.injEq] at hf
        have hlen : 0 < word.length := words_length_pos _ hw
        rw [← hf.2, List.length_drop, List.length_cons]
        omega
      · simp at hf
  all_goals
    simp only [Option.some.injEq, Prod.mk.injEq] at h
    exact Nat.le_of_eq (congrArg List.length h.2.symm)

/-- The tokens of a text. -/
def tokens (cs : List Char) : Option (List Token) :=
  match cs with
  | [] => some []
  | c :: rest =>
    if isSpace c then tokens rest
    else
      match h : scanToken c rest with
      | none => none
      | some (token, tail) =>
        have := scanToken_length h
        (tokens tail).map (token :: ·)
termination_by cs.length

theorem tokens_cons (c : Char) (rest : List Char) :
    tokens (c :: rest) = if isSpace c then tokens rest else
      (scanToken c rest).bind fun read => (tokens read.2).map (read.1 :: ·) := by
  rw [tokens]
  split
  · rfl
  · split <;> simp_all

/-- An array or object whose end has not been reached. -/
inductive Frame where
  | array (items : List Draft)
  | object (entries : List (Option String × Draft)) (key : Option (Option String))

/-- What may come next. -/
inductive Expect where
  | value
  | valueOrClose
  | keyOrClose
  | key
  | colon
  | commaOrClose
  | done (value : Draft)

/-- The largest number of arrays and objects that a value may be in, itself included. -/
def maxDepth : Nat := 127

/-- An array or object with so many others open around it. -/
def bracketed (depth : Nat) (value : Draft) : Draft :=
  if depth < maxDepth then value else .unheld

/-- Hands a finished value to the innermost open array or object. -/
def deliver (value : Draft) : List Frame → Option (List Frame × Expect)
  | [] => some ([], .done value)
  | .array items :: rest => some (.array (value :: items) :: rest, .commaOrClose)
  | .object entries (some key) :: rest =>
    some (.object ((key, value) :: entries) none :: rest, .commaOrClose)
  | .object _ none :: _ => none

/-- Takes one token. -/
def step (stack : List Frame) (expect : Expect) (token : Token) :
    Option (List Frame × Expect) :=
  match expect, token with
  | .value, .scalar v | .valueOrClose, .scalar v => deliver v stack
  | .value, .text s | .valueOrClose, .text s => deliver (.ofOption (s.map .string)) stack
  | .value, .openArray | .valueOrClose, .openArray => some (.array [] :: stack, .valueOrClose)
  | .value, .openObject | .valueOrClose, .openObject =>
    some (.object [] none :: stack, .keyOrClose)
  | .valueOrClose, .closeArray | .commaOrClose, .closeArray =>
    match stack with
    | .array items :: rest => deliver (bracketed rest.length (.array items.reverse)) rest
    | _ => none
  | .keyOrClose, .closeObject | .commaOrClose, .closeObject =>
    match stack with
    | .object entries none :: rest =>
      deliver (bracketed rest.length (.object entries.reverse)) rest
    | _ => none
  | .keyOrClose, .text key | .key, .text key =>
    match stack with
    | .object entries none :: rest => some (.object entries (some key) :: rest, .colon)
    | _ => none
  | .colon, .colon => some (stack, .value)
  | .commaOrClose, .comma =>
    match stack with
    | .array _ :: _ => some (stack, .value)
    | .object _ _ :: _ => some (stack, .key)
    | [] => none
  | _, _ => none

/-- Takes the tokens of a document in order. -/
def run (stack : List Frame) (expect : Expect) : List Token → Option Draft
  | [] =>
    match expect with
    | .done value => some value
    | _ => none
  | token :: rest =>
    match step stack expect token with
    | some (stack, expect) => run stack expect rest
    | none => none

/-- The draft of a document. -/
def draft? (text : String) : Option Draft :=
  (tokens text.toList).bind (run [] .value)

/-- The value that a document holds, with every entry of its objects, also where a key comes
again. -/
def parseAll? (text : String) : Option Json :=
  (draft? text).bind Draft.value?

mutual

/-- A value whose objects have every key once, with the value it was given last. -/
def merged : Json → Json
  | .array items => .array (mergedItems items)
  | .object entries => .object (mergeEntries (mergedEntries entries))
  | value => value

/-- The items of an array, whose objects have every key once. -/
def mergedItems : List Json → List Json
  | [] => []
  | item :: rest => merged item :: mergedItems rest

/-- The entries of an object, whose values' objects have every key once. -/
def mergedEntries : List (String × Json) → List (String × Json)
  | [] => []
  | (key, value) :: rest => (key, merged value) :: mergedEntries rest

end

/-- The value that a document holds. A key that comes again takes its last value at its first
place. -/
def parse? (text : String) : Option Json :=
  (parseAll? text).map merged

end StackExport.Json
