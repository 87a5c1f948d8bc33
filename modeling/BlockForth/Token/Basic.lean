import BlockForth.Text.Lowercase
import BlockForth.Value.Basic

/-!
# Tokens

A program is a list of tokens: words to run, literal values to push, and blocks of tokens that are
run as one unit. A token remembers its location. A word keeps its spelling, and is looked up by its
lower-case form. `Token.text` writes a token as source code.
-/

namespace BlockForth

/-- A unit of a program. -/
inductive Token where
  /-- A word to run, as it is spelled. -/
  | word (location : Location) (spelling : String)
  /-- A value to push. -/
  | literal (location : Location) (value : Value)
  /-- A block of tokens. -/
  | block (location : Location) (body : List Token)

namespace Token

/-- Where the token starts. -/
def location : Token → Location
  | word l _ => l
  | literal l _ => l
  | block l _ => l

/-- The name that a word is looked up by. Other tokens have none. -/
def name? : Token → Option String
  | word _ spelling => some (lowercase spelling)
  | _ => none

/-- Whether the token is a word with the given name, which is in lower case. -/
def isNamed (t : Token) (name : String) : Bool :=
  t.name? == some name

/-- The literal of a value in source code. -/
def literalText : Value → String
  | .string s => Quoted.literal s
  | v => v.text

mutual

/-- A token as source code. -/
def text : Token → String
  | word _ spelling => spelling
  | literal _ v => literalText v
  | block _ body => "\x7b" ++ bodyText body ++ " \x7d"

/-- The tokens of a block as source code, each after a space. -/
def bodyText : List Token → String
  | [] => ""
  | t :: rest => " " ++ t.text ++ bodyText rest

end

/-- A token as source code, after its location. -/
def report (t : Token) : String :=
  t.location.text ++ ": " ++ t.text

end Token

end BlockForth
