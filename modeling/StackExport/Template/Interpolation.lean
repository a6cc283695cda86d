import StackExport.Text.Blank
/-!
Texts with placeholders, written `${name}`.

A group written `${!name}` is the literal text `${name}`. A placeholder's name is read without the
blanks around it.
-/
namespace StackExport.Interpolation

/-- A piece of a text with placeholders. -/
inductive Part where
  | literal (text : String)
  | placeholder (name : String)
deriving DecidableEq, Repr

/-- Puts literal text, given in reverse, in front of other pieces; there is no empty literal. -/
def putLiteral (taken : List Char) (parts : List Part) : List Part :=
  if taken.isEmpty then parts else .literal (String.ofList taken.reverse) :: parts

/-- The characters up to the first closing brace, and those behind it. -/
def untilBrace : List Char → Option (List Char × List Char)
  | [] => none
  | '}' :: rest => some ([], rest)
  | c :: rest => (untilBrace rest).map fun (name, tail) => (c :: name, tail)

theorem untilBrace_length {cs name tail : List Char} (h : untilBrace cs = some (name, tail)) :
    tail.length < cs.length := by
  fun_induction untilBrace cs generalizing name tail with
  | case1 => simp at h
  | case2 rest =>
    simp only [Option.some.injEq, Prod.mk.injEq] at h
    simp [← h.2]
  | case3 c rest _ ih =>
    obtain ⟨⟨name', tail'⟩, h', he⟩ := Option.map_eq_some_iff.1 h
    simp only [Prod.mk.injEq] at he
    have := ih h'
    simp only [List.length_cons]
    rw [← he.2]
    omega

/-- The pieces of a text. `taken` is the literal text under way, in reverse. -/
def scan (taken : List Char) (cs : List Char) : List Part :=
  match cs with
  | [] => putLiteral taken []
  | '$' :: '{' :: after =>
    match h : untilBrace after with
    | none => putLiteral (after.reverse ++ '{' :: '$' :: taken) []
    | some ('!' :: escaped, tail) =>
      have := untilBrace_length h
      scan ('}' :: escaped.reverse ++ '{' :: '$' :: taken) tail
    | some (name, tail) =>
      have := untilBrace_length h
      putLiteral taken (.placeholder (Text.trim (String.ofList name)) :: scan [] tail)
  | c :: rest => scan (c :: taken) rest
termination_by cs.length
decreasing_by
  all_goals simp only [List.length_cons]
  all_goals omega

/-- The pieces of a text. -/
def parts (text : String) : List Part :=
  scan [] text.toList

end StackExport.Interpolation
