/-!
Text as a script writes it: between single quotes, with an escape for the quote, for the backslash
and for the three layout characters that would break the line.
-/

namespace Roundtable.Text

/-- A character as it stands between single quotes. -/
def quotedChar : Char → List Char
  | '\\' => ['\\', '\\']
  | '\'' => ['\\', '\'']
  | '\n' => ['\\', 'n']
  | '\t' => ['\\', 't']
  | '\r' => ['\\', 'r']
  | c => [c]

/-- The text between single quotes. -/
def quoted (text : String) : String :=
  String.ofList ('\'' :: (text.toList.flatMap quotedChar ++ ['\'']))

@[simp]
theorem toList_quoted (text : String) :
    (quoted text).toList = '\'' :: (text.toList.flatMap quotedChar ++ ['\'']) := by
  simp [quoted]

end Roundtable.Text
