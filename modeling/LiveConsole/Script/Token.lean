import LiveConsole.Text.Printable

/-!
# Tokens

The lexical units of a script and what can be wrong with its text. Every token knows the line it
starts on and how many brackets are open after it.
-/

set_option autoImplicit false

namespace LiveConsole.Script

namespace Token

inductive Kind where
  | name (s : String)
  | whole (radix : Nat) (digits : List Char)
  | real (x : Float)
  | imaginary
  | string (marks : List Char) (body : List Char)
  | operator (s : String)
  | newline
  | indent
  | dedent
  | finish
deriving Inhabited

end Token

structure Token where
  kind : Token.Kind
  line : Nat
  depth : Nat
deriving Inhabited

namespace Token

/-- Words that are never names. -/
def keywords : List String := [
  "False", "None", "True", "and", "as", "assert", "async", "await", "break", "class", "continue",
  "def", "del", "elif", "else", "except", "finally", "for", "from", "global", "if", "import", "in",
  "is", "lambda", "nonlocal", "not", "or", "pass", "raise", "return", "try", "while", "with",
  "yield"]

def isKeyword (s : String) : Bool :=
  keywords.contains s

def operatorsOfThree : List (List Char) :=
  ["**=", "//=", "<<=", ">>="].map String.toList

def operatorsOfTwo : List (List Char) :=
  ["!=", "%=", "&=", "**", "*=", "+=", "-=", "->", "//", "/=", ":=", "<<", "<=", "<>", "==", ">=",
    ">>", "@=", "^=", "|="].map String.toList

end Token

/-- What stops the division of a text into tokens. -/
inductive LexicalProblem where
  | unterminatedString (triple : Bool) (detected : Nat)
  | badLiteral (numerals : String)
  | badDigit (digit : Char) (numerals : String)
  | leadingZeros
  | badCharacter (c : Char)
  | unmatched (closer : Char)
  | mismatched (closer opener : Char) (openedOn : Option Nat)
  | tooManyBrackets
  | unindent
  | mixedBlanks
  | tooManyIndents
  | afterContinuation
  | cutOff
deriving DecidableEq

namespace LexicalProblem

/-- Problems that a complaint about what was read so far does not outrank. -/
def isHard : LexicalProblem → Bool
  | .unindent | .mixedBlanks | .tooManyIndents | .afterContinuation | .cutOff => false
  | _ => true

def upperHexadecimal (n : Nat) : Text :=
  Text.ofChars ((Text.hexadecimal 4 n).toString.toList.map Char.toUpper)

def message : LexicalProblem → Text
  | .unterminatedString triple detected =>
    (if triple then "unterminated triple-quoted string literal (detected at line "
      else "unterminated string literal (detected at line " : Text)
      ++ Text.ofNat detected ++ ")"
  | .badLiteral numerals => "invalid " ++ (numerals : Text) ++ " literal"
  | .badDigit digit numerals =>
    "invalid digit '" ++ Text.ofChar digit ++ "' in " ++ (numerals : Text) ++ " literal"
  | .leadingZeros =>
    "leading zeros in decimal integer literals are not permitted; "
      ++ "use an 0o prefix for octal integers"
  | .badCharacter c =>
    if (CodePoint.scalar c).isPrintable then
      "invalid character '" ++ Text.ofChar c ++ "' (U+" ++ upperHexadecimal c.toNat ++ ")"
    else "invalid non-printable character U+" ++ upperHexadecimal c.toNat
  | .unmatched closer => "unmatched '" ++ Text.ofChar closer ++ "'"
  | .mismatched closer opener openedOn =>
    "closing parenthesis '" ++ Text.ofChar closer ++ "' does not match opening parenthesis '"
      ++ Text.ofChar opener ++ "'" ++ match openedOn with
        | some line => " on line " ++ Text.ofNat line
        | none => []
  | .tooManyBrackets => "too many nested parentheses"
  | .unindent => "unindent does not match any outer indentation level"
  | .mixedBlanks => "inconsistent use of tabs and spaces in indentation"
  | .tooManyIndents => "too many levels of indentation"
  | .afterContinuation => "unexpected character after line continuation character"
  | .cutOff => "unexpected EOF while parsing"

end LexicalProblem

end LiveConsole.Script
