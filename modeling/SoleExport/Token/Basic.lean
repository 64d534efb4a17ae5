/-
  Tokens.

  A token knows its spelling and its place, whether a line ends between it and
  the token before, and the comments in between (`Remark`).
-/
import SoleExport.Comment
import SoleExport.Tree

namespace SoleExport

/-- The kinds of tokens. -/
inductive TokenKind where
  /-- a name or a keyword -/
  | word
  /-- `#x` -/
  | privateName
  /-- a numeral, with its value -/
  | number (value : Tree)
  /-- a numeral of a big integer, with its value -/
  | bigint (value : Nat)
  /-- a string literal, with the text it stands for -/
  | string (text : String)
  /-- a mark such as `=>` or `;` -/
  | mark
  /-- a regular expression -/
  | regex (pattern flags : String)
  /-- a stretch of text in a template, with what it stands for if that is
      something; the last stretch ends the template -/
  | chunk (raw : String) (text : Option String) (last : Bool)
  /-- a stretch of text between markup tags -/
  | markup
  /-- a name in a markup tag -/
  | tagName
  /-- the first line `#!…` -/
  | interpreter
  /-- the end of the text -/
  | eof
  /-- something that is no token -/
  | bad
deriving DecidableEq, Repr, Inhabited

/-- A comment between two tokens. -/
structure Remark where
  comment : Comment
  /-- Whether a line ends between the token before and the comment. -/
  afterBreak : Bool
  /-- Whether the comment is directly followed by `;`. -/
  beforeSemicolon : Bool
deriving DecidableEq, Repr, Inhabited

/-- A token. -/
structure Token where
  kind : TokenKind
  /-- The characters it is written with; for a word its name. -/
  spelling : String
  span : Span
  /-- Whether a line ends between it and the token before. -/
  afterBreak : Bool
  /-- The comments between it and the token before. -/
  remarks : List Remark
deriving DecidableEq, Repr, Inhabited

namespace Token

/-- Whether the token is the given mark. -/
def isMark (t : Token) (s : String) : Bool := t.kind == .mark && t.spelling == s

/-- Whether the token is one of the given marks. -/
def isOneOf (t : Token) (ms : List String) : Bool := t.kind == .mark && ms.contains t.spelling

/-- Whether the token is a name or a keyword. -/
def isAnyWord (t : Token) : Bool := t.kind == .word

/-- Whether the token is the given word. -/
def isWord (t : Token) (s : String) : Bool := t.kind == .word && t.spelling == s

/-- Whether the token is one of the given words. -/
def isWordOf (t : Token) (ws : List String) : Bool := t.kind == .word && ws.contains t.spelling

/-- Whether the token is a string literal. -/
def isString (t : Token) : Bool :=
  match t.kind with
  | .string _ => true
  | _ => false

/-- Whether the token is a numeral. -/
def isNumber (t : Token) : Bool :=
  match t.kind with
  | .number _ => true
  | _ => false

/-- Whether the token is a numeral or a numeral of a big integer. -/
def isNumeral (t : Token) : Bool :=
  match t.kind with
  | .number _ | .bigint _ => true
  | _ => false

/-! ## Words -/

/-- The words that are always keywords. -/
def keywords : List String :=
  ["await", "break", "case", "catch", "continue", "debugger", "default", "do", "else", "finally",
    "for", "function", "if", "return", "switch", "throw", "try", "var", "let", "const", "while",
    "with", "new", "this", "super", "class", "extends", "export", "import", "yield", "typeof",
    "void", "delete", "in", "instanceof"]

/-- The words that no variable can have as its name. -/
def unbindable : List String :=
  ["break", "case", "catch", "class", "const", "continue", "debugger", "default", "delete", "do",
    "else", "export", "extends", "false", "finally", "for", "function", "if", "import", "in",
    "instanceof", "new", "null", "return", "super", "switch", "throw", "true", "try", "typeof",
    "var", "void", "while", "with"]

/-- The words that no variable can be referred to by. -/
def reserved : List String :=
  unbindable ++ ["this", "let", "await", "yield", "enum", "implements", "package", "protected",
    "interface", "private", "public"]

/-- Whether the token can refer to a variable. -/
def isName (t : Token) : Bool := t.kind == .word && !reserved.contains t.spelling

/-- Whether the token can name a new variable. -/
def isBindable (t : Token) : Bool := t.kind == .word && !unbindable.contains t.spelling

/-! ## Operators -/

/-- The marks that are binary operators. -/
def operators : List String :=
  ["==", "!=", "===", "!==", "<", "<=", ">", ">=", "<<", ">>", ">>>", "+", "-", "*", "/", "%", "|",
    "^", "&", "||", "&&", "**", "??"]

/-- Whether the token is a mark that is a binary operator. -/
def isOperator (t : Token) : Bool := t.isOneOf operators

/-- The operators that assign. -/
def assignments : List String :=
  ["=", "+=", "-=", "*=", "/=", "%=", "<<=", ">>=", ">>>=", "&=", "|=", "^=", "&&=", "||=", "??=",
    "**="]

/-- Whether the token is an operator that assigns. -/
def isAssignment (t : Token) : Bool := t.isOneOf assignments

end Token

end SoleExport
