/-!
# Quoted text

Two ways to write a text between double quotes. A literal in source code escapes the quote only,
since every other backslash in source code stands for itself. A listing escapes line ends, tabs, and
backslashes too, so that each value of a listing stays on one line.
-/

namespace BlockForth.Quoted

/-- Writes a backslash before every quote. -/
def escape (cs : List Char) : List Char :=
  cs.flatMap fun c => if c = '"' then ['\\', '"'] else [c]

/-- Reads every backslash that stands before a quote, together with it, as the quote. -/
def unescape : List Char → List Char
  | [] => []
  | '\\' :: '"' :: rest => '"' :: unescape rest
  | c :: rest => c :: unescape rest

/-- The literal of a text in source code. -/
def literal (text : String) : String :=
  "\"" ++ String.ofList (escape text.toList) ++ "\""

/-- A character as it stands in a listing. -/
def listingChar (c : Char) : List Char :=
  match c with
  | '"' => ['\\', '"']
  | '\n' => ['\\', 'n']
  | '\r' => ['\\', 'r']
  | '\t' => ['\\', 't']
  | '\\' => ['\\', '\\']
  | c => [c]

/-- The form of a text in a listing. -/
def listing (text : String) : String :=
  "\"" ++ String.ofList (text.toList.flatMap listingChar) ++ "\""

end BlockForth.Quoted
