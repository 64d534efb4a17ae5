/-
  Reading tokens.

  The text is read one token at a time, on demand: what a `/`, a backquote or
  the text after a tag begins depends on the grammar, so the grammar asks for a
  regular expression, a template or a part of markup where it expects one
  (`Lexer.regex`, `Lexer.chunk`, `Lexer.markup`, `Lexer.tagName`,
  `Lexer.attributeText`).  Every other token is found by `Lexer.token`, which
  takes the longest mark, word or literal.
-/
import SoleExport.Text.Entity
import SoleExport.Text.Escape
import SoleExport.Token.Basic

namespace SoleExport.Lexer

/-- The number of bytes of some characters. -/
def byteLength (cs : List Char) : Nat := cs.foldl (fun n c => n + c.utf8Size) 0

/-! ## White space and comments -/

/-- Where the reader of white space stands. -/
inductive Gap where
  /-- between comments -/
  | between
  /-- in a line comment, its text so far given backwards -/
  | line (text : List Char)
  /-- in a block comment, its text so far given backwards -/
  | block (text : List Char)

/-- What lies before a token. -/
structure Trivia where
  /-- The position reached. -/
  pos : Nat
  /-- Where the next token counts as starting, if not at the position reached: a
      comment in the style of markup belongs to it. -/
  anchor : Option Nat
  /-- Whether a line has ended. -/
  broken : Bool
  /-- Whether a line had ended when the current comment began. -/
  brokenBefore : Bool
  /-- The comments, last first. -/
  remarks : List Remark

namespace Trivia

/-- Nothing yet, at the given position. -/
def start (pos : Nat) (broken : Bool) : Trivia := ⟨pos, none, broken, broken, []⟩

/-- Move over a character. -/
def pass (t : Trivia) (c : Char) : Trivia := { t with pos := t.pos + c.utf8Size }

/-- Enter a comment whose delimiter has `n` characters. -/
def enter (t : Trivia) (n : Nat) : Trivia := { t with pos := t.pos + n, brokenBefore := t.broken }

/-- Enter a comment in the style of markup. -/
def enterAnchored (t : Trivia) (n : Nat) : Trivia :=
  { t.enter n with anchor := some (t.anchor.getD t.pos) }

/-- Add a comment whose text is given backwards. -/
def add (t : Trivia) (kind : CommentKind) (text : List Char) (beforeSemicolon : Bool) : Trivia :=
  let remark : Remark := ⟨⟨kind, String.ofList text.reverse⟩, t.brokenBefore, beforeSemicolon⟩
  { t with remarks := remark :: t.remarks }

end Trivia

/-- Skip white space and comments.  `<!--` starts a line comment anywhere, and `-->`
    does at the start of a line.  A block comment that never ends is dropped with
    all that follows. -/
def skip : Gap → Trivia → List Char → Trivia × List Char
  | .between, t, '/' :: '/' :: cs => skip (.line []) (t.enter 2) cs
  | .between, t, '/' :: '*' :: cs => skip (.block []) (t.enter 2) cs
  | .between, t, '<' :: '!' :: '-' :: '-' :: cs => skip (.line []) (t.enterAnchored 4) cs
  | .between, t, '-' :: '-' :: '>' :: cs =>
    if t.broken then skip (.line []) (t.enterAnchored 3) cs else (t, '-' :: '-' :: '>' :: cs)
  | .between, t, c :: cs =>
    if isLineEnd c then skip .between { t.pass c with broken := true } cs
    else if isBlank c then skip .between (t.pass c) cs
    else (t, c :: cs)
  | .between, t, [] => (t, [])
  | .line text, t, c :: cs =>
    if isLineEnd c then
      skip .between { (t.add .line text false).pass c with broken := true } cs
    else skip (.line (c :: text)) (t.pass c) cs
  | .line text, t, [] => (t.add .line text false, [])
  | .block text, t, '*' :: '/' :: cs =>
    skip .between { t.add .block text (cs.head? == some ';') with pos := t.pos + 2 } cs
  | .block text, t, c :: cs =>
    skip (.block (c :: text)) { t.pass c with broken := t.broken || isLineEnd c } cs
  | .block _, t, [] => (t, [])

/-! ## Literals -/

/-- The characters of a string literal up to the quote, whether the quote is there,
    and what follows it.  A literal without its last quote ends with its line. -/
def quoted (quote : Char) : List Char → List Char × Bool × List Char
  | [] => ([], false, [])
  | '\\' :: '\r' :: '\n' :: cs =>
    let r := quoted quote cs
    ('\\' :: '\r' :: '\n' :: r.1, r.2)
  | '\\' :: c :: cs =>
    let r := quoted quote cs
    ('\\' :: c :: r.1, r.2)
  | c :: cs =>
    if c == quote then ([], true, cs)
    else if c == '\n' || c == '\r' then ([], false, c :: cs)
    else
      let r := quoted quote cs
      (c :: r.1, r.2)

/-- Digits and underscores. -/
def digits (isDigit : Char → Bool) (cs : List Char) : List Char × List Char :=
  cs.span fun c => isDigit c || c == '_'

/-- An exponent, if one follows; nothing at all if it has no digits. -/
def exponentPart (cs : List Char) : Option (List Char × List Char) :=
  let after (mark : List Char) (rest : List Char) : Option (List Char × List Char) :=
    let (ds, more) := digits Char.isDigit rest
    if ds.isEmpty then none else some (mark ++ ds, more)
  match cs with
  | e :: '+' :: rest => if e == 'e' || e == 'E' then after [e, '+'] rest else some ([], cs)
  | e :: '-' :: rest => if e == 'e' || e == 'E' then after [e, '-'] rest else some ([], cs)
  | e :: rest => if e == 'e' || e == 'E' then after [e] rest else some ([], cs)
  | [] => some ([], cs)

/-- The characters of a decimal numeral, if it is well-formed. -/
def decimalPart (cs : List Char) : Option (List Char × List Char) := do
  let (whole, rest) := digits Char.isDigit cs
  if Numeral.isOldOctal whole then return (whole, rest)
  let (fraction, rest) :=
    match rest with
    | '.' :: more =>
      let (ds, more) := digits Char.isDigit more
      ('.' :: ds, more)
    | rest => ([], rest)
  let (power, rest) ← exponentPart rest
  return (whole ++ fraction ++ power, rest)

/-- The characters of a numeral, if it is well-formed. -/
def numeral (cs : List Char) : Option (List Char × List Char) :=
  let based (mark : List Char) (isDigit : Char → Bool) (rest : List Char) :
      Option (List Char × List Char) :=
    let (ds, more) := digits isDigit rest
    if ds.isEmpty then none else some (mark ++ ds, more)
  match cs with
  | '0' :: x :: rest =>
    if x == 'x' || x == 'X' then based ['0', x] Numeral.isHexDigit rest
    else if x == 'o' || x == 'O' then based ['0', x] Escape.isOctalDigit rest
    else if x == 'b' || x == 'B' then based ['0', x] (fun c => c == '0' || c == '1') rest
    else decimalPart cs
  | cs => decimalPart cs

/-! ## Names -/

/-- The character of a name that an escape stands for, and the length of the escape. -/
def nameEscape? (cs : List Char) : Option (Char × Nat) := do
  match cs with
  | '\\' :: 'u' :: rest =>
    let (codes, n) ← Escape.escape? false ('u' :: rest)
    let code ← codes.head?
    guard (!Escape.isHighHalf code && !Escape.isLowHalf code)
    return (Char.ofNat code, n + 1)
  | _ => none

/-- The characters that a name starts with, the number of bytes they are written
    with, and what follows; at most `n` characters are read. -/
def nameUpTo : Nat → List Char → List Char × Nat × List Char
  | 0, cs => ([], 0, cs)
  | n + 1, cs =>
    match cs with
    | [] => ([], 0, [])
    | c :: rest =>
      if isNameChar c then
        let r := nameUpTo n rest
        (c :: r.1, r.2.1 + c.utf8Size, r.2.2)
      else
        match nameEscape? cs with
        | some (d, k) =>
          if isNameChar d then
            let r := nameUpTo n (cs.drop k)
            (d :: r.1, r.2.1 + k, r.2.2)
          else ([], 0, cs)
        | none => ([], 0, cs)

/-- The name the text starts with: its characters, the number of bytes it is written
    with, and what follows. -/
def name (cs : List Char) : List Char × Nat × List Char :=
  let (plain, rest) := cs.span isNameChar
  if rest.head? == some '\\' then nameUpTo cs.length cs else (plain, byteLength plain, rest)

/-- Whether a name starts here. -/
def startsName (cs : List Char) : Bool :=
  match cs with
  | '\\' :: _ => (nameEscape? cs).any fun e => isNameStart e.1
  | c :: _ => isNameStart c
  | [] => false

/-! ## Marks -/

/-- The marks, longer ones before their beginnings.  A mark that starts with `>`
    is read as `>` alone, because type arguments may end there. -/
def marks : List String :=
  ["...", "===", "!==", "**=", "<<=", "&&=", "||=", "??=",
    "==", "!=", "=>", "+=", "-=", "*=", "/=", "%=", "&=", "|=", "^=", "<=", "<<", "&&", "||", "??",
    "++", "--", "**", "?.",
    "\x7b", "\x7d", "(", ")", "[", "]", ";", ",", "<", ">", "+", "-", "*", "/", "%", "&", "|", "^",
    "!", "~", "?", ":", "=", ".", "@", "`"]

/-- Whether `?.` starts a conditional with a number, as in `a?.5:b`. -/
def isQuestionNumber (cs : List Char) : Bool :=
  match cs with
  | '?' :: '.' :: d :: _ => d.isDigit
  | _ => false

/-- The longest mark the text starts with. -/
def mark? (cs : List Char) : Option String :=
  if isQuestionNumber cs then some "?"
  else marks.find? fun m => m.toList.isPrefixOf cs

/-! ## Tokens -/

/-- A token of `n` bytes after the trivia. -/
def make (t : Trivia) (kind : TokenKind) (spelling : String) (n : Nat) : Token :=
  ⟨kind, spelling, ⟨t.anchor.getD t.pos, t.pos + n⟩, t.broken, t.remarks.reverse⟩

/-- The numeral the text starts with; a name must not follow it directly. -/
def number (t : Trivia) (cs : List Char) : Token × List Char :=
  match numeral cs with
  | none => (make t .bad "" 0, cs)
  | some (raw, rest) =>
    let (kind, raw, rest) : TokenKind × List Char × List Char :=
      match rest with
      | 'n' :: more => (.bigint (Numeral.whole raw), raw ++ ['n'], more)
      | rest => (.number (((Numeral.value? raw).map Tree.num).getD .null), raw, rest)
    let kind := if startsName rest then TokenKind.bad else kind
    (make t kind (String.ofList raw) (byteLength raw), rest)

/-- The string literal with the given quote. -/
def string (t : Trivia) (quote : Char) (cs : List Char) : Token × List Char :=
  let (raw, closed, rest) := quoted quote cs
  let raw' := quote :: raw ++ (if closed then [quote] else [])
  let kind := match Escape.cook? false raw with
    | some text => TokenKind.string (String.ofList text)
    | none => .bad
  (make t kind (String.ofList raw') (byteLength raw'), rest)

/-- The word the text starts with; a keyword is written without escapes. -/
def word (t : Trivia) (cs : List Char) : Token × List Char :=
  let (chars, n, rest) := name cs
  let spelling := String.ofList chars
  let isEscaped := n != byteLength chars
  (make t (if isEscaped && Token.reserved.contains spelling then .bad else .word) spelling n, rest)

/-- The token after the trivia. -/
def tokenAfter (t : Trivia) (cs : List Char) : Token × List Char :=
  match cs with
  | [] => (make t .eof "" 0, [])
  | c :: rest =>
    if startsName cs then word t cs
    else if c.isDigit || (c == '.' && (rest.head?.map Char.isDigit).getD false) then number t cs
    else if c == '"' || c == '\'' then string t c rest
    else if c == '#' then
      let (chars, n, more) := name rest
      (make t (if startsName rest then .privateName else .bad) (String.ofList chars) (n + 1), more)
    else
      match mark? cs with
      | some m => (make t .mark m m.length, cs.drop m.length)
      | none => (make t .bad (String.singleton c) c.utf8Size, rest)

/-- A token with the text it starts and the text after it. -/
structure Found where
  token : Token
  /-- The text from the first character of the token on. -/
  front : List Char
  /-- The text after the token. -/
  rest : List Char
deriving Inhabited

/-- The next token of a text that goes on at the given position. -/
def token (pos : Nat) (broken : Bool) (cs : List Char) : Found :=
  let (t, front) := skip .between (Trivia.start pos broken) cs
  let (token, rest) := tokenAfter t front
  { token, front, rest }

/-! ## Tokens the grammar asks for -/

/-- A `>` that is an operator goes on over the marks that belong to it. -/
def widen (t : Token) (cs : List Char) : Token × List Char :=
  let more : List Char := match cs with
    | '>' :: '>' :: '=' :: _ => ['>', '>', '=']
    | '>' :: '>' :: _ => ['>', '>']
    | '>' :: '=' :: _ => ['>', '=']
    | '>' :: _ => ['>']
    | '=' :: _ => ['=']
    | _ => []
  if t.isMark ">" then
    ({ t with
      spelling := t.spelling ++ String.ofList more
      span := ⟨t.span.start, t.span.stop + more.length⟩ }, cs.drop more.length)
  else (t, cs)

/-- The characters of a regular expression up to the slash that ends it, and
    what follows; a slash in brackets does not end it. -/
def regexBody (inBrackets : Bool) : List Char → Option (List Char × List Char)
  | [] => none
  | '\\' :: c :: cs =>
    if isLineEnd c then none
    else (regexBody inBrackets cs).map fun r => ('\\' :: c :: r.1, r.2)
  | c :: cs =>
    if isLineEnd c then none
    else if c == '/' && !inBrackets then some ([], cs)
    else
      (regexBody (if c == '[' then true else if c == ']' then false else inBrackets) cs).map
        fun r => (c :: r.1, r.2)

/-- The regular expression that starts at a slash; `cs` is the text after it. -/
def regex (slash : Token) (cs : List Char) : Option (Token × List Char) := do
  let (body, rest) ← regexBody false cs
  let (flags, rest) := rest.span isNameChar
  let n := byteLength body + 2 + byteLength flags
  return ({ slash with
    kind := .regex (String.ofList body) (String.ofList flags)
    span := ⟨slash.span.start, slash.span.start + n⟩ }, rest)

/-- The characters of a template up to an expression or the end, whether it is
    the end, and what follows. -/
def chunkBody : List Char → Option (List Char × Bool × List Char)
  | [] => none
  | '`' :: cs => some ([], true, cs)
  | '$' :: '{' :: cs => some ([], false, cs)
  | '\\' :: c :: cs => (chunkBody cs).map fun r => ('\\' :: c :: r.1, r.2)
  | c :: cs => (chunkBody cs).map fun r => (c :: r.1, r.2)

/-- The stretch of a template that starts at the given position.  Its span
    covers its text and not the mark that ends it. -/
def chunk (pos : Nat) (cs : List Char) : Option (Token × List Char × Nat) := do
  let (raw, last, rest) ← chunkBody cs
  let n := byteLength raw
  let text := (Escape.cook? true (Escape.unifyLineEnds raw)).map String.ofList
  let kind := TokenKind.chunk (String.ofList raw) text last
  return (⟨kind, "", ⟨pos, pos + n⟩, false, []⟩, rest, pos + n + (if last then 1 else 2))

/-- The text between tags that starts at the given position. -/
def markup (pos : Nat) (cs : List Char) : Token × List Char :=
  let (raw, rest) := cs.span fun c => c != '<' && c != '{'
  (⟨.markup, String.ofList raw, ⟨pos, pos + byteLength raw⟩, false, []⟩, rest)

/-- The word as a name in a tag, where names go on over hyphens; `cs` is the text it
    starts. -/
def tagName (t : Token) (cs : List Char) : Token × List Char :=
  let (chars, rest) := cs.span fun c => isNameChar c || c == '-'
  ({ t with
    kind := .tagName
    spelling := String.ofList chars
    span := ⟨t.span.start, t.span.start + byteLength chars⟩ }, rest)

/-- The literal in quotes as the value of an attribute, if one starts the text.
    There are no escapes in it, and names of characters are. -/
def attributeText (t : Token) (cs : List Char) : Option (Token × List Char) :=
  match cs with
  | quote :: cs =>
    let (raw, rest) := cs.span (· != quote)
    if (quote == '"' || quote == '\'') && !rest.isEmpty then
      some ({ t with
        kind := .string (String.ofList (Entity.decode raw))
        spelling := String.ofList (quote :: raw ++ [quote])
        span := ⟨t.span.start, t.span.start + byteLength raw + 2⟩ }, rest.drop 1)
    else none
  | [] => none

/-- The first line `#!…`, if the text starts with one. -/
def interpreter? : List Char → Option (Token × List Char)
  | '#' :: '!' :: cs =>
    let (text, rest) := cs.span fun c => !isLineEnd c
    some (⟨.interpreter, String.ofList text, ⟨1, 3 + byteLength text⟩, true, []⟩, rest)
  | _ => none

end SoleExport.Lexer
