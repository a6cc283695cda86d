/-!
Quoted templates: a text between quotes in which `${` and `%{` open live sequences.

What is written stays on one line, and a quote inside it stands behind a backslash.
-/
namespace StackExport.Text

/-- Writes characters so that a quoted template stands for exactly them. A dollar or percent sign
is doubled only where a brace follows, because only there would it open a live sequence. -/
def escapeChars : List Char → List Char
  | [] => []
  | '\\' :: rest => '\\' :: '\\' :: escapeChars rest
  | '"' :: rest => '\\' :: '"' :: escapeChars rest
  | '\n' :: rest => '\\' :: 'n' :: escapeChars rest
  | '\t' :: rest => '\\' :: 't' :: escapeChars rest
  | '\r' :: rest => '\\' :: 'r' :: escapeChars rest
  | c :: rest =>
    if (c == '$' || c == '%') && rest.head? == some '{' then c :: c :: escapeChars rest
    else c :: escapeChars rest

/-- The body of the quoted template that stands for a text. -/
def escape (s : String) : String :=
  String.ofList (escapeChars s.toList)

/-- The quoted template that stands for a text. -/
def quote (s : String) : String :=
  "\"" ++ escape s ++ "\""

end StackExport.Text
