import Manuscript.Shell.Syntax

/-!
# Tokens of shell scripts

A script is read as words, operators and redirections. Some words are keywords, but only where a command can start.
-/

namespace Manuscript.Shell

/-- The words with a meaning of their own where a command can start. -/
def keywords : List String :=
  ["!", "case", "do", "done", "elif", "else", "esac", "fi", "for", "if", "in", "then", "until", "while", "\x7b", "\x7d"]

/-- A token. -/
inductive Token where
  | endOfInput
  | newline
  | operator (text : String)
  /-- The start of a redirection; a document may have the tabs at the start of its lines taken away. -/
  | redirection (stream : Nat) (kind : RedirectionKind) (withoutTabs : Bool)
  | keyword (text : String)
  | word (word : Word)
  deriving Inhabited

namespace Token

/-- How messages call a token. -/
def describe : Token → String
  | endOfInput => "end of file"
  | newline => "newline"
  | operator text => "\"" ++ text ++ "\""
  | redirection _ _ _ => "redirection"
  | keyword text => "\"" ++ text ++ "\""
  | word _ => "word"

/-- Whether a token is an operator. -/
def isOperator (token : Token) (text : String) : Bool :=
  match token with
  | operator t => t == text
  | _ => false

/-- Whether a token is a keyword. -/
def isKeyword (token : Token) (text : String) : Bool :=
  match token with
  | keyword t => t == text
  | _ => false

/-- Whether a token is an end of line. -/
def isNewline : Token → Bool
  | newline => true
  | _ => false

/-- Whether a token ends a list of commands that is part of another command. -/
def endsList : Token → Bool
  | endOfInput => true
  | operator text => text == ")" || text == ";;"
  | keyword text => ["do", "done", "elif", "else", "esac", "fi", "then", "\x7d"].contains text
  | _ => false

end Token

end Manuscript.Shell
