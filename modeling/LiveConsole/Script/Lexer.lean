import LiveConsole.Script.NameTable
import LiveConsole.Script.Numeral

/-!
# Division of a script into tokens

A script is read line by line. The blanks in front of a line open and close blocks, except inside
brackets, where line ends do not count either. Lines without tokens are skipped. A backslash joins
a line to the next.
-/

set_option autoImplicit false

namespace LiveConsole.Script.Lexer

/-- The width of the blanks in front of a line, with tab stops at every eighth column and with
tabs counted as one column. -/
structure Width where
  tabbed : Nat
  flat : Nat
deriving DecidableEq

/-- What is left to read. The text ends with a line end, so at its end the line number is one
ahead. -/
structure Cursor where
  rest : List Char
  line : Nat
  fresh : Bool
  indents : List Width
  brackets : List (Char × Nat)

namespace Cursor

def start (cs : List Char) : Cursor :=
  ⟨cs, 1, true, [], []⟩

/-- The number of the current line; at the end of the text, of the last one. -/
def currentLine (c : Cursor) : Nat :=
  if c.rest.isEmpty then c.line - 1 else c.line

def depth (c : Cursor) : Nat := c.brackets.length

def token (c : Cursor) (kind : Token.Kind) : Token :=
  ⟨kind, c.currentLine, c.depth⟩

end Cursor

/-- Why the division stopped before the end of the text, and which brackets were open then. -/
structure Failure where
  problem : LexicalProblem
  line : Nat
  brackets : List (Char × Nat)

inductive Step where
  | go (tokens : List Token) (next : Cursor)
  | finish (tokens : List Token)
  | fail (problem : LexicalProblem) (line : Nat)

/-- The blanks in front of a line. A width set aside by a line continuation takes precedence. -/
inductive Margin where
  | found (width : Width) (line : Nat) (rest : List Char)
  | fail (problem : LexicalProblem) (line : Nat)

def margin : (width : Width) → (aside : Nat) → (line : Nat) → List Char → Margin
  | w, aside, line, ' ' :: rest => margin ⟨w.tabbed + 1, w.flat + 1⟩ aside line rest
  | w, aside, line, '\t' :: rest => margin ⟨(w.tabbed / 8 + 1) * 8, w.flat + 1⟩ aside line rest
  | _, aside, line, '\x0c' :: rest => margin ⟨0, 0⟩ aside line rest
  | _, _, line, ['\\', '\n'] => .fail .cutOff line
  | w, aside, line, '\\' :: '\n' :: rest =>
    margin w (if aside = 0 then w.tabbed else aside) (line + 1) rest
  | _, _, line, '\\' :: _ => .fail .afterContinuation line
  | w, aside, line, rest => .found (if aside = 0 then w else ⟨aside, aside⟩) line rest

def indentLimit : Nat := 100

/-- The blocks that a line with a given margin opens or closes. -/
def indent (w : Width) : (indents : List Width) →
    Except LexicalProblem (List Token.Kind × List Width)
  | [] =>
    if w.tabbed = 0 then if w.flat = 0 then .ok ([], []) else .error .mixedBlanks
    else if w.flat = 0 then .error .mixedBlanks
    else .ok ([.indent], [w])
  | top :: outer =>
    if w.tabbed = top.tabbed then
      if w.flat = top.flat then .ok ([], top :: outer) else .error .mixedBlanks
    else if w.tabbed > top.tabbed then
      if outer.length + 2 ≥ indentLimit then .error .tooManyIndents
      else if w.flat ≤ top.flat then .error .mixedBlanks
      else .ok ([.indent], w :: top :: outer)
    else close [.dedent] outer
where
  close (closed : List Token.Kind) :
      List Width → Except LexicalProblem (List Token.Kind × List Width)
    | [] =>
      if w.tabbed ≠ 0 then .error .unindent
      else if w.flat ≠ 0 then .error .mixedBlanks
      else .ok (closed, [])
    | top :: outer =>
      if w.tabbed < top.tabbed then close (.dedent :: closed) outer
      else if w.tabbed ≠ top.tabbed then .error .unindent
      else if w.flat ≠ top.flat then .error .mixedBlanks
      else .ok (closed, top :: outer)

def startsNothing : List Char → Bool
  | '#' :: _ | '\n' :: _ => true
  | _ => false

def afterLine (c : Cursor) : Cursor :=
  { c with rest := (c.rest.dropWhile (· ≠ '\n')).drop 1, line := c.line + 1, fresh := true }

def beginLine (c : Cursor) : Step :=
  match margin ⟨0, 0⟩ 0 c.line c.rest with
  | .fail problem line => .fail problem line
  | .found width line rest =>
    let c := { c with rest := rest, line := line, fresh := false }
    if startsNothing rest then .go [] (afterLine c)
    else if c.depth = 0 then
      match indent width c.indents with
      | .error problem => .fail problem c.currentLine
      | .ok (kinds, indents) => .go (kinds.map c.token) { c with indents := indents }
    else .go [] c

/-- The marks that may stand in front of a quote. -/
def stringMarks : List String :=
  ["b", "u", "r", "f", "br", "rb", "fr", "rf"]

def isStringMark (word : List Char) : Bool :=
  stringMarks.contains (String.ofList (word.map Char.toLower))

/-- The first character of a word that cannot stand where it does. -/
def misfit? : List Char → Option Char
  | [] => none
  | c :: rest =>
    if NameTable.canBegin c then rest.find? (! NameTable.canContinue ·) else some c

/-- The body of a string up to its closing quotes; what follows, and the line there. A body that
does not end gives the line where the text or line ends. -/
def stringBody (quote : Char) (triple : Bool) :
    (found : List Char) → (line : Nat) → List Char → Except Nat (List Char × List Char × Nat)
  | _, line, [] => .error (line - 1)
  | _, line, ['\\'] => .error line
  | found, line, '\\' :: '\n' :: rest =>
    stringBody quote triple ('\n' :: '\\' :: found) (line + 1) rest
  | found, line, '\\' :: c :: rest => stringBody quote triple (c :: '\\' :: found) line rest
  | found, line, '\n' :: rest =>
    if triple then stringBody quote triple ('\n' :: found) (line + 1) rest else .error line
  | found, line, c :: rest =>
    if c = quote then
      if triple then
        match rest with
        | d :: e :: rest' =>
          if d = quote ∧ e = quote then .ok (found.reverse, rest', line)
          else stringBody quote triple (c :: found) line (d :: e :: rest')
        | rest => stringBody quote triple (c :: found) line rest
      else .ok (found.reverse, rest, line)
    else stringBody quote triple (c :: found) line rest

/-- A string from its opening quotes on. -/
def string (c : Cursor) (marks : List Char) (quote : Char) (rest : List Char) : Step :=
  let (triple, body) := match rest with
    | d :: e :: after => if d = quote ∧ e = quote then (true, after) else (false, rest)
    | rest => (false, rest)
  match stringBody quote triple [] c.line body with
  | .error detected => .fail (.unterminatedString triple detected) c.line
  | .ok (body, rest, line) =>
    .go [c.token (.string (marks.map Char.toLower) body)] { c with rest := rest, line := line }

def word (c : Cursor) : Step :=
  let name := c.rest.takeWhile Numeral.isNameChar
  let rest := c.rest.dropWhile Numeral.isNameChar
  let named : Step :=
    match if name.all (·.toNat < 128) then none else misfit? name with
    | some bad => .fail (.badCharacter bad) c.line
    | none => .go [c.token (.name (String.ofList name))] { c with rest := rest }
  match rest with
  | q :: after =>
    if (q = '\'' ∨ q = '"') ∧ isStringMark name then string c name q after else named
  | [] => named

def bracketLimit : Nat := 200

def closerOf (opener : Char) : Char :=
  if opener = '(' then ')' else if opener = '[' then ']' else '}'

def sign (c : Cursor) (ch : Char) (rest : List Char) : Step :=
  let emit (brackets : List (Char × Nat)) : Step :=
    let next := { c with rest := rest, brackets := brackets }
    .go [⟨.operator ch.toString, c.line, next.depth⟩] next
  if ch = '(' ∨ ch = '[' ∨ ch = '{' then
    if c.depth ≥ bracketLimit then .fail .tooManyBrackets c.line
    else emit ((ch, c.line) :: c.brackets)
  else if ch = ')' ∨ ch = ']' ∨ ch = '}' then
    match c.brackets with
    | [] => .fail (.unmatched ch) c.line
    | (opener, line) :: outer =>
      if closerOf opener = ch then emit outer
      else .fail (.mismatched ch opener (if line = c.line then none else some line)) c.line
  else if (CodePoint.scalar ch).isPrintable then emit c.brackets
  else .fail (.badCharacter ch) c.line

def operator (c : Cursor) (ch : Char) (rest : List Char) : Step :=
  let three := c.rest.take 3
  let two := c.rest.take 2
  if Token.operatorsOfThree.contains three then
    .go [c.token (.operator (String.ofList three))] { c with rest := c.rest.drop 3 }
  else if Token.operatorsOfTwo.contains two then
    .go [c.token (.operator (String.ofList two))] { c with rest := c.rest.drop 2 }
  else sign c ch rest

def numeral (c : Cursor) : Step :=
  match Numeral.read c.rest with
  | .error problem => .fail problem c.line
  | .ok (kind, rest) => .go [c.token kind] { c with rest := rest }

def isGap (c : Char) : Bool := c = ' ' || c = '\t' || c = '\x0c'

def point (c : Cursor) (rest : List Char) : Step :=
  match rest with
  | '.' :: '.' :: rest => .go [c.token (.operator "...")] { c with rest := rest }
  | d :: _ =>
    if d.isDigit then numeral c else .go [c.token (.operator ".")] { c with rest := rest }
  | [] => .go [c.token (.operator ".")] { c with rest := rest }

/-- The next token of a line. -/
def inLine (c : Cursor) : Step :=
  let c := { c with rest := c.rest.dropWhile isGap }
  match c.rest with
  | [] =>
    if c.depth > 0 then .fail .cutOff c.currentLine
    else .finish [c.token .finish]
  | '#' :: rest => .go [] { c with rest := rest.dropWhile (· ≠ '\n') }
  | '\n' :: rest =>
    .go (if c.depth > 0 then [] else [c.token .newline])
      { c with rest := rest, line := c.line + 1, fresh := true }
  | ['\\', '\n'] => .fail .cutOff c.line
  | '\\' :: '\n' :: rest => .go [] { c with rest := rest, line := c.line + 1 }
  | '\\' :: _ => .fail .afterContinuation c.line
  | '.' :: rest => point c rest
  | ch :: rest =>
    if ch.isDigit then numeral c
    else if Numeral.isNameChar ch then word c
    else if ch = '\'' ∨ ch = '"' then string c [] ch rest
    else operator c ch rest

def step (c : Cursor) : Step :=
  if c.fresh then beginLine c else inLine c

end Lexer

/-- The tokens of a script, up to its end or to where the division stops. -/
structure Tokens where
  all : Array Token
  failure : Option Lexer.Failure

namespace Lexer

/-- Each step uses up characters or leaves the start of a line, so twice the length of the text
is enough. -/
def run : (steps : Nat) → Cursor → Array Token → Tokens
  | 0, c, found => ⟨found, some ⟨.cutOff, c.currentLine, c.brackets⟩⟩
  | more + 1, c, found =>
    match step c with
    | .go tokens next => run more next (found ++ tokens)
    | .finish tokens => ⟨found ++ tokens, none⟩
    | .fail problem line => ⟨found, some ⟨problem, line, c.brackets⟩⟩

end Lexer

/-- Divides a text whose lines end with line feeds. -/
def Tokens.ofChars (cs : List Char) : Tokens :=
  Lexer.run (2 * cs.length + 2) (.start cs) #[]

end LiveConsole.Script
