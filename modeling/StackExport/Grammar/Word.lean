import StackExport.Text.XidCharacter
/-!
The words of a configuration: names, numbers, escapes, and the blanks and comments between them.
-/
namespace StackExport.Grammar

def startsName (c : Char) : Bool := c == '_' || Text.isXidStart c

/-- A character that may follow the first one of a name. -/
def continuesName (c : Char) : Bool := c == '-' || Text.isXidContinue c

/-- The name at the start of a text, and the text behind it. -/
def takeName? : List Char → Option (String × List Char)
  | [] => none
  | c :: rest =>
    if startsName c then
      some (String.ofList (c :: rest.takeWhile continuesName), rest.dropWhile continuesName)
    else none

/-- The text behind a given word. -/
def behind? : List Char → List Char → Option (List Char)
  | [], rest => some rest
  | _, [] => none
  | w :: word, c :: rest => if w == c then behind? word rest else none

/-- The text behind the end of a line. -/
def afterLineBreak? : List Char → Option (List Char)
  | '\n' :: rest => some rest
  | '\r' :: '\n' :: rest => some rest
  | _ => none

/-- The text behind the end of a block comment. -/
def afterBlockComment? : List Char → Option (List Char)
  | '*' :: '/' :: rest => some rest
  | _ :: rest => afterBlockComment? rest
  | [] => none

/-- The text from the end of the line on. A carriage return that ends no line is not expected
before it. -/
def toLineEnd? (rest : List Char) : Option (List Char) :=
  match rest.dropWhile fun c => c != '\n' && c != '\r' with
  | '\r' :: '\n' :: more => some ('\r' :: '\n' :: more)
  | '\r' :: _ => none
  | more => some more

/-- The text behind a comment that goes on to the end of its line. -/
def afterLineComment? : List Char → Option (List Char)
  | '#' :: rest => toLineEnd? rest
  | '/' :: '/' :: rest => toLineEnd? rest
  | _ => none

theorem length_afterBlockComment? {rest more : List Char}
    (h : afterBlockComment? rest = some more) : more.length ≤ rest.length := by
  fun_induction afterBlockComment? rest with
  | case1 rest => simp_all; omega
  | case2 c rest _ ih =>
    have := ih h
    simp only [List.length_cons]
    omega
  | case3 => simp at h

theorem length_toLineEnd? {rest more : List Char} (h : toLineEnd? rest = some more) :
    more.length ≤ rest.length := by
  have hle := (List.dropWhile_sublist (l := rest) fun c => c != '\n' && c != '\r').length_le
  unfold toLineEnd? at h
  split at h
  · rename_i heq
    rw [heq] at hle
    exact Option.some.inj h ▸ hle
  · simp at h
  · exact Option.some.inj h ▸ hle

theorem length_afterLineComment? {rest more : List Char}
    (h : afterLineComment? rest = some more) : more.length < rest.length := by
  unfold afterLineComment? at h
  split at h
  · have := length_toLineEnd? h
    simp only [List.length_cons]
    omega
  · have := length_toLineEnd? h
    simp only [List.length_cons]
    omega
  · simp at h

/-- The text behind a gap: blanks and block comments, and where the gap is wide also line ends and
the comments before them. -/
def skipGap (wide : Bool) : List Char → List Char
  | [] => []
  | '/' :: '*' :: more =>
    match h : afterBlockComment? more with
    | some after =>
      have := length_afterBlockComment? h
      skipGap wide after
    | none => '/' :: '*' :: more
  | c :: more =>
    if c == ' ' || c == '\t' || (wide && (c == '\n' || c == '\r')) then skipGap wide more
    else if wide then
      match h : afterLineComment? (c :: more) with
      | some after =>
        have := length_afterLineComment? h
        skipGap wide after
      | none => c :: more
    else c :: more
termination_by rest => rest.length
decreasing_by all_goals simp_all <;> omega

/-- The exponent at the start of a text, if there is one, and the text behind it. -/
def takeExponent (rest : List Char) : List Char × List Char :=
  match rest with
  | mark :: more =>
    let (sign, digits) := match more with
      | '+' :: digits => (['+'], digits)
      | '-' :: digits => (['-'], digits)
      | digits => ([], digits)
    if (mark == 'e' || mark == 'E') && (digits.head?.map Char.isDigit).getD false then
      (mark :: sign ++ digits.takeWhile Char.isDigit, digits.dropWhile Char.isDigit)
    else ([], rest)
  | [] => ([], [])

/-- The fraction and the exponent at the start of a text, as far as they are there, and the text
behind them. -/
def takeFraction (rest : List Char) : List Char × List Char :=
  match rest with
  | '.' :: d :: more =>
    if d.isDigit then
      let (exponent, rest) := takeExponent (more.dropWhile Char.isDigit)
      ('.' :: d :: more.takeWhile Char.isDigit ++ exponent, rest)
    else ([], rest)
  | _ => takeExponent rest

/-- True for a digit to the base sixteen. -/
def isHexDigit (c : Char) : Bool :=
  c.isDigit || ('a' ≤ c && c ≤ 'f') || ('A' ≤ c && c ≤ 'F')

/-- The character with the code point that `size` digits to the base sixteen give, and the text
behind them. -/
def codePoint? (size : Nat) (rest : List Char) : Option (Char × List Char) :=
  let digits := rest.take size
  if digits.length == size && digits.all isHexDigit then
    let value := digits.foldl (fun n c =>
      n * 16 + (if c.isDigit then c.toNat - 48 else c.toLower.toNat - 87)) 0
    if value.isValidChar then some (Char.ofNat value, rest.drop size) else none
  else none

/-- The character that an escape stands for, and the text behind it. The backslash is read. -/
def takeEscape? : List Char → Option (Char × List Char)
  | 'u' :: rest => codePoint? 4 rest
  | 'U' :: rest => codePoint? 8 rest
  | 'n' :: rest => some ('\n', rest)
  | 'r' :: rest => some ('\r', rest)
  | 't' :: rest => some ('\t', rest)
  | 'b' :: rest => some ('\x08', rest)
  | 'f' :: rest => some ('\x0c', rest)
  | '"' :: rest => some ('"', rest)
  | '\\' :: rest => some ('\\', rest)
  | '/' :: rest => some ('/', rest)
  | _ => none

end StackExport.Grammar
