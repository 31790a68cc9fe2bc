import LiveConsole.Datum
import LiveConsole.Number.Numeral

/-!
# Reading JSON

A recursive-descent reader over the text that remains. How deep arrays and objects may nest depends on
the room that there is for the reader; a complaint points at the text that remained when it arose, from
which `Problem` takes the line and column. Members of an object keep the place of their first occurrence
and the value of the last.
-/

set_option autoImplicit false

namespace LiveConsole.Json

inductive Complaint where
  | expectingValue
  | extraData
  | expectingComma
  | expectingColon
  | expectingName
  | unterminatedString
  | controlCharacter
  | badEscape
  | badUnicodeEscape
  | byteOrderMark
deriving DecidableEq

def Complaint.message : Complaint → String
  | .expectingValue => "Expecting value"
  | .extraData => "Extra data"
  | .expectingComma => "Expecting ',' delimiter"
  | .expectingColon => "Expecting ':' delimiter"
  | .expectingName => "Expecting property name enclosed in double quotes"
  | .unterminatedString => "Unterminated string starting at"
  | .controlCharacter => "Invalid control character at"
  | .badEscape => "Invalid \\escape"
  | .badUnicodeEscape => "Invalid \\uXXXX escape"
  | .byteOrderMark => "Unexpected UTF-8 BOM (decode using utf-8-sig)"

/-- Why reading stopped, with the text that remained. -/
inductive Trouble where
  | malformed (complaint : Complaint) (rest : Text)
  | tooLong (digits : Nat)
  | tooDeep (array : Bool)

/-- What was read, with the text that remains. -/
abbrev Found (α : Type) := α × Text

def isSpace : CodePoint → Bool
  | .scalar c => c = ' ' || c = '\t' || c = '\n' || c = '\r'
  | .lone _ => false

def skipSpace (t : Text) : Text :=
  t.dropWhile isSpace

def hexDigit? : CodePoint → Option Nat
  | .scalar c =>
    if '0' ≤ c ∧ c ≤ '9' then some (c.toNat - '0'.toNat)
    else if 'a' ≤ c ∧ c ≤ 'f' then some (c.toNat - 'a'.toNat + 10)
    else if 'A' ≤ c ∧ c ≤ 'F' then some (c.toNat - 'A'.toNat + 10)
    else none
  | .lone _ => none

/-- The number of four hexadecimal digits. -/
def hexNumber? (a b c d : CodePoint) : Option Nat := do
  let a ← hexDigit? a
  let b ← hexDigit? b
  let c ← hexDigit? c
  let d ← hexDigit? d
  return ((a * 16 + b) * 16 + c) * 16 + d

/-- Escapes of one letter. -/
def simpleEscape? : Char → Option Char
  | '"' => some '"'
  | '\\' => some '\\'
  | '/' => some '/'
  | 'b' => some '\x08'
  | 'f' => some '\x0c'
  | 'n' => some '\n'
  | 'r' => some '\r'
  | 't' => some '\t'
  | _ => none

/-- Adds an escaped code point to a string read so far, the latest first. A low half joins a high
half that was escaped just before. -/
def addEscaped (n : Nat) (afterHigh : Bool) (found : Text) : Text :=
  match found with
  | .lone high :: earlier =>
    if afterHigh ∧ 0xDC00 ≤ n ∧ n < 0xE000 then
      CodePoint.ofNat (0x10000 + high.val * 1024 + (n - 0xDC00)) :: earlier
    else CodePoint.ofNat n :: found
  | _ => CodePoint.ofNat n :: found

/-- Reads the inside of a string up to its closing quote. `start` is the text from the opening
quote on; `afterHigh` tells that an escaped high half was read just before. -/
def stringBody (start : Text) :
    (afterHigh : Bool) → (found : Text) → Text → Except Trouble (Found Text)
  | _, _, [] => .error (.malformed .unterminatedString start)
  | _, found, .scalar '"' :: rest => .ok (found.reverse, rest)
  | _, _, [.scalar '\\'] => .error (.malformed .unterminatedString start)
  | afterHigh, found, .scalar '\\' :: .scalar 'u' :: rest =>
    match rest with
    | a :: b :: c :: d :: next :: more =>
      match hexNumber? a b c d with
      | some n =>
        stringBody start (0xD800 ≤ n ∧ n < 0xDC00) (addEscaped n afterHigh found) (next :: more)
      | none => .error (.malformed .badUnicodeEscape (.scalar 'u' :: rest))
    | _ => .error (.malformed .badUnicodeEscape (.scalar 'u' :: rest))
  | _, found, .scalar '\\' :: .scalar c :: rest =>
    match simpleEscape? c with
    | some e => stringBody start false (.scalar e :: found) rest
    | none => .error (.malformed .badEscape (.scalar '\\' :: .scalar c :: rest))
  | _, _, .scalar '\\' :: .lone half :: rest =>
    .error (.malformed .badEscape (.scalar '\\' :: .lone half :: rest))
  | _, found, c :: rest =>
    if c.value < 0x20 then .error (.malformed .controlCharacter (c :: rest))
    else stringBody start false (c :: found) rest

def digit? : CodePoint → Option Char
  | .scalar c => if c.isDigit then some c else none
  | .lone _ => none

/-- The digits a text begins with. -/
def takeDigits : (found : List Char) → Text → List Char × Text
  | found, [] => (found.reverse, [])
  | found, c :: rest =>
    match digit? c with
    | some d => takeDigits (d :: found) rest
    | none => (found.reverse, c :: rest)

/-- A point and at least one digit. -/
def fraction? : Text → Option (List Char × Text)
  | .scalar '.' :: rest =>
    match takeDigits [] rest with
    | ([], _) => none
    | found => some found
  | _ => none

/-- An exponent with at least one digit. -/
def exponent? : Text → Option (Int × Text)
  | .scalar c :: rest =>
    if c = 'e' ∨ c = 'E' then
      let (negative, body) := match rest with
        | .scalar '-' :: r => (true, r)
        | .scalar '+' :: r => (false, r)
        | r => (false, r)
      match takeDigits [] body with
      | ([], _) => none
      | (ds, after) =>
        let n : Int := Digits.value ds
        some (if negative then -n else n, after)
    else none
  | _ => none

/-- A number after its sign: the longest valid start of the text. -/
def number (start : Text) (negative : Bool) (body : Text) : Except Trouble (Found Datum) :=
  let whole := match body with
    | .scalar '0' :: rest => (['0'], rest)
    | _ => takeDigits [] body
  match whole with
  | ([], _) => .error (.malformed .expectingValue start)
  | (ds, rest) =>
    let (fraction, afterFraction) := (fraction? rest).getD ([], rest)
    let exponent := exponent? afterFraction
    let after := (exponent.map Prod.snd).getD afterFraction
    if fraction.isEmpty ∧ exponent.isNone then
      if ds.length > digitLimit then .error (.tooLong ds.length)
      else
        let n : Int := Digits.value ds
        .ok (.int (if negative then -n else n), rest)
    else
      let e : Int := (exponent.map Prod.fst).getD 0
      .ok (.float (Binary64.ofDecimal negative (Digits.value (ds ++ fraction))
        (e - fraction.length)), after)

/-- Words that stand for values. -/
def words : List (String × Datum) :=
  [("null", .null), ("true", .flag true), ("false", .flag false), ("NaN", .float Binary64.nan),
    ("Infinity", .float (Binary64.infinity false)), ("-Infinity", .float (Binary64.infinity true))]

def word? (t : Text) : Option (Datum × Text) :=
  words.findSome? fun (w, d) =>
    let w := Text.ofString w
    if w.isPrefixOf t then some (d, t.drop w.length) else none

/-- The elements of an array after its opening bracket, at least one. `fuel` bounds their
number. -/
def elements (inner : Text → Except Trouble (Found Datum)) :
    (fuel : Nat) → (found : List Datum) → Text → Except Trouble (Found Datum)
  | 0, _, t => .error (.malformed .expectingValue t)
  | fuel + 1, found, t => do
    let (d, rest) ← inner t
    match skipSpace rest with
    | .scalar ']' :: after => .ok (.list (d :: found).reverse, after)
    | .scalar ',' :: after => elements inner fuel (d :: found) (skipSpace after)
    | after => .error (.malformed .expectingComma after)

/-- The members of an object after its opening brace, at least one. -/
def members (inner : Text → Except Trouble (Found Datum)) :
    (fuel : Nat) → (found : List (Datum × Datum)) → Text → Except Trouble (Found Datum)
  | 0, _, t => .error (.malformed .expectingName t)
  | fuel + 1, found, t =>
    match t with
    | .scalar '"' :: body => do
      let (name, rest) ← stringBody t false [] body
      match skipSpace rest with
      | .scalar ':' :: after => do
        let (d, rest) ← inner (skipSpace after)
        let found := Datum.assign (.text name) d found
        match skipSpace rest with
        | .scalar '}' :: after => .ok (.dict found, after)
        | .scalar ',' :: after => members inner fuel found (skipSpace after)
        | after => .error (.malformed .expectingComma after)
      | after => .error (.malformed .expectingColon after)
    | _ => .error (.malformed .expectingName t)

/-- One value; `inner` reads the values inside it and is missing at the deepest level. -/
def valueWith (fuel : Nat) (inner : Option (Text → Except Trouble (Found Datum))) (t : Text) :
    Except Trouble (Found Datum) :=
  match t with
  | .scalar '"' :: body => do
    let (s, rest) ← stringBody t false [] body
    return (.text s, rest)
  | .scalar '[' :: body =>
    match inner with
    | none => .error (.tooDeep true)
    | some inner =>
      match skipSpace body with
      | .scalar ']' :: rest => .ok (.list [], rest)
      | rest => elements inner fuel [] rest
  | .scalar '{' :: body =>
    match inner with
    | none => .error (.tooDeep false)
    | some inner =>
      match skipSpace body with
      | .scalar '}' :: rest => .ok (.dict [], rest)
      | rest => members inner fuel [] rest
  | _ =>
    match word? t with
    | some found => .ok found
    | none =>
      match t with
      | .scalar '-' :: body => number t true body
      | _ => number t false t

def value (fuel : Nat) : (depth : Nat) → Text → Except Trouble (Found Datum)
  | 0 => valueWith fuel none
  | depth + 1 => valueWith fuel (some (value fuel depth))

/-- What is wrong with a text that is not JSON. Lines and columns count from one. -/
inductive Problem where
  | malformed (complaint : Complaint) (line column position : Nat)
  | tooLong (digits : Nat)
  | tooDeep (array : Bool)
deriving DecidableEq

/-- Places a complaint: `before` is the text in front of it. -/
def locate (complaint : Complaint) (before : Text) : Problem :=
  let newline := CodePoint.scalar '\n'
  let sinceBreak := (before.reverse.takeWhile (· ≠ newline)).length
  .malformed complaint (before.count newline + 1) (sinceBreak + 1) before.length

def Trouble.problem (whole : Text) : Trouble → Problem
  | .malformed complaint rest => locate complaint (whole.take (whole.length - rest.length))
  | .tooLong digits => .tooLong digits
  | .tooDeep array => .tooDeep array

/-- The whole text as one value, blanks around it aside. There is room for so many levels of arrays and
objects inside the outermost. -/
def document (room : Nat) (t : Text) : Except Trouble Datum :=
  match t with
  | .scalar '\uFEFF' :: _ => .error (.malformed .byteOrderMark t)
  | _ => do
    let (d, rest) ← value (t.length + 1) (room + 1) (skipSpace t)
    match skipSpace rest with
    | [] => .ok d
    | after => .error (.malformed .extraData after)

def read (room : Nat) (t : Text) : Except Problem Datum :=
  match document room t with
  | .ok d => .ok d
  | .error trouble => .error (trouble.problem t)

def Problem.message : Problem → Text
  | .malformed complaint line column position =>
    (complaint.message : Text) ++ ": line " ++ (toString line : Text) ++ " column "
      ++ (toString column : Text) ++ " (char " ++ (toString position : Text) ++ ")"
  | .tooLong digits => Digits.unreadable digits
  | .tooDeep array =>
    "maximum recursion depth exceeded while decoding a JSON "
      ++ (if array then "array" else "object" : Text) ++ " from a unicode string"

end LiveConsole.Json
