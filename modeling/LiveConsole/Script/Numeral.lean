import LiveConsole.Number.Numeral
import LiveConsole.Script.Token

/-!
# Numerals of a script

Whole numbers in four radices and decimal fractions. Single underscores may stand between digits.
A numeral must not run into a name, unless the name begins like an operator word.
-/

set_option autoImplicit false

namespace LiveConsole.Script.Numeral

def isNameChar (c : Char) : Bool :=
  c.isAlphanum || c = '_' || c.toNat ≥ 128

/-- Beginnings of words that may follow a numeral without a blank. -/
def followers : List (List Char) :=
  ["and", "else", "for", "if", "in", "is", "or"].map String.toList

def checkEnd (numerals : String) (rest : List Char) : Except LexicalProblem Unit :=
  match rest with
  | [] => .ok ()
  | c :: _ =>
    if isNameChar c && !followers.any (·.isPrefixOf rest) then .error (.badLiteral numerals)
    else .ok ()

/-- Digits with single underscores between them, and what follows. Where a digit is due and none
stands, the result is what stands there instead. -/
def digits (isDigit : Char → Bool) : (due : Bool) → (found : List Char) → List Char →
    Except (Option Char) (List Char × List Char)
  | true, _, [] => .error none
  | false, found, [] => .ok (found.reverse, [])
  | due, found, c :: rest =>
    if isDigit c then digits isDigit false (c :: found) rest
    else if due then .error (some c)
    else if c = '_' then digits isDigit true found rest
    else .ok (found.reverse, c :: rest)

def isHexadecimal (c : Char) : Bool :=
  c.isDigit || ('a' ≤ c && c ≤ 'f') || ('A' ≤ c && c ≤ 'F')

def isBelow (radix : Nat) (c : Char) : Bool :=
  '0' ≤ c && c.toNat < '0'.toNat + radix

/-- What is wrong when a digit of a marked radix is missing. -/
def missingDigit (numerals : String) (isDigit : Char → Bool) (found : Option Char) :
    LexicalProblem :=
  match found with
  | some c => if c.isDigit && !isDigit c then .badDigit c numerals else .badLiteral numerals
  | none => .badLiteral numerals

/-- A whole number after its radix mark. -/
def marked (radix : Nat) (numerals : String) (isDigit : Char → Bool) (cs : List Char) :
    Except LexicalProblem (Token.Kind × List Char) := do
  let body := match cs with
    | '_' :: rest => rest
    | rest => rest
  let (ds, rest) ← (digits isDigit true [] body).mapError (missingDigit numerals isDigit)
  match rest with
  | c :: _ =>
    if c.isDigit then .error (.badDigit c numerals)
    else
      checkEnd numerals rest
      return (.whole radix ds, rest)
  | [] => return (.whole radix ds, rest)

def decimals (due : Bool) (cs : List Char) :
    Except LexicalProblem (List Char × List Char) :=
  (digits Char.isDigit due [] cs).mapError fun _ => .badLiteral "decimal"

/-- A number with a fraction or an exponent. -/
def fractional (whole fraction : List Char) (exponent : Int) : Token.Kind :=
  .real (Binary64.ofDecimal false (Digits.value (whole ++ fraction)) (exponent - fraction.length))

/-- The end of a decimal number: a mark of imaginary numbers or nothing. -/
def finish (kind : Token.Kind) (rest : List Char) :
    Except LexicalProblem (Token.Kind × List Char) :=
  match rest with
  | 'j' :: rest | 'J' :: rest => do
    checkEnd "imaginary" rest
    return (.imaginary, rest)
  | rest => do
    checkEnd "decimal" rest
    return (kind, rest)

/-- An exponent after its letter, if one stands there. -/
def exponent (cs : List Char) : Except LexicalProblem (Option (Int × List Char)) := do
  match cs with
  | '+' :: rest =>
    let (ds, rest) ← decimals true rest
    return some (Digits.value ds, rest)
  | '-' :: rest =>
    let (ds, rest) ← decimals true rest
    return some (-(Digits.value ds : Int), rest)
  | c :: rest =>
    if c.isDigit then
      let (ds, rest) ← decimals true (c :: rest)
      return some (Digits.value ds, rest)
    else return none
  | [] => return none

/-- What follows the whole digits and the fraction, if any, of a decimal number. -/
def afterFraction (whole : List Char) (fraction : Option (List Char)) (rest : List Char) :
    Except LexicalProblem (Token.Kind × List Char) := do
  let plain := match fraction with
    | none => Token.Kind.whole 10 whole
    | some fs => fractional whole fs 0
  match rest with
  | c :: after =>
    if c = 'e' ∨ c = 'E' then
      match ← exponent after with
      | some (e, rest) => finish (fractional whole (fraction.getD []) e) rest
      | none =>
        checkEnd "decimal" rest
        return (plain, rest)
    else finish plain rest
  | [] => return (plain, rest)

/-- A fraction after its point. -/
def afterPoint (whole : List Char) (cs : List Char) :
    Except LexicalProblem (Token.Kind × List Char) := do
  match cs with
  | c :: _ =>
    if c.isDigit then
      let (fs, rest) ← decimals true cs
      afterFraction whole (some fs) rest
    else afterFraction whole (some []) cs
  | [] => afterFraction whole (some []) cs

/-- Zeros in front do not make a whole number, unless it is zero. -/
def checkZeros (whole : List Char) : Except LexicalProblem Unit :=
  match whole with
  | '0' :: rest => if rest.all (· = '0') then .ok () else .error .leadingZeros
  | _ => .ok ()

def isOneOf (c : Char) (cs : List Char) : Bool := cs.contains c

def decimal (cs : List Char) : Except LexicalProblem (Token.Kind × List Char) := do
  let (whole, rest) ← decimals true cs
  match rest with
  | '.' :: after => afterPoint whole after
  | c :: _ =>
    unless isOneOf c ['e', 'E', 'j', 'J'] do checkZeros whole
    afterFraction whole none rest
  | [] =>
    checkZeros whole
    return (.whole 10 whole, [])

/-- The numeral at the start of a text that begins with a digit, or with a point and a digit. -/
def read (cs : List Char) : Except LexicalProblem (Token.Kind × List Char) :=
  match cs with
  | '.' :: rest => afterPoint [] rest
  | '0' :: c :: rest =>
    if c = 'x' ∨ c = 'X' then marked 16 "hexadecimal" isHexadecimal rest
    else if c = 'o' ∨ c = 'O' then marked 8 "octal" (isBelow 8) rest
    else if c = 'b' ∨ c = 'B' then marked 2 "binary" (isBelow 2) rest
    else decimal cs
  | _ => decimal cs

end LiveConsole.Script.Numeral
