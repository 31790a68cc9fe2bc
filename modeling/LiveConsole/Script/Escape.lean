import LiveConsole.Script.Token

/-!
# Bodies of string literals

A backslash starts an escape; escapes that are not known stand for themselves. Where a numeric
escape is cut short, the refusal tells at which positions. Positions count a character beyond
U+007F as ten.
-/

set_option autoImplicit false

namespace LiveConsole.Script.Escape

/-- A numeric escape that has too few digits or a number beyond the code space. -/
structure Refusal where
  reason : String
  first : Nat
  last : Nat

def Refusal.message (r : Refusal) : Text :=
  "(unicode error) 'unicodeescape' codec can't decode bytes in position " ++ Text.ofNat r.first
    ++ "-" ++ Text.ofNat r.last ++ ": " ++ (r.reason : Text)

/-- The character after a backslash that stands for another one. -/
def simple? : Char → Option Char
  | '\\' => some '\\'
  | '\'' => some '\''
  | '"' => some '"'
  | 'a' => some '\x07'
  | 'b' => some '\x08'
  | 'f' => some '\x0c'
  | 'n' => some '\n'
  | 'r' => some '\r'
  | 't' => some '\t'
  | 'v' => some '\x0b'
  | _ => none

/-- The number of digits of a numeric escape and what is said when some are missing. -/
def numeric? : Char → Option (Nat × String)
  | 'x' => some (2, "truncated \\xXX escape")
  | 'u' => some (4, "truncated \\uXXXX escape")
  | 'U' => some (8, "truncated \\UXXXXXXXX escape")
  | _ => none

def hexDigit? (c : Char) : Option Nat :=
  if c.isDigit then some (c.toNat - '0'.toNat)
  else if 'a' ≤ c ∧ c ≤ 'f' then some (c.toNat - 'a'.toNat + 10)
  else if 'A' ≤ c ∧ c ≤ 'F' then some (c.toNat - 'A'.toNat + 10)
  else none

def octalDigit? (c : Char) : Option Nat :=
  if '0' ≤ c ∧ c ≤ '7' then some (c.toNat - '0'.toNat) else none

def extent (c : Char) : Nat :=
  if c.toNat < 128 then 1 else 10

/-- Where a reader stands: in plain text, after a backslash, or inside a numeric escape with its
start, its value so far and the digits still due. -/
inductive State where
  | plain
  | escaped (start : Nat)
  | hexadecimal (start value due : Nat) (reason : String)
  | octal (value due : Nat)

/-- The code point that a finished numeric escape stands for. -/
def close (start position value : Nat) (found : Text) : Except Refusal Text :=
  if value < 0x110000 then .ok (.ofNat value :: found)
  else .error ⟨"illegal Unicode character", start, position⟩

/-- Reads a body; `found` holds the text read so far, last code point first. -/
def read : State → (position : Nat) → (found : Text) → List Char → Except Refusal Text
  | .plain, _, found, [] => .ok found.reverse
  | .escaped _, _, found, [] => .ok (found.reverse ++ Text.ofChar '\\')
  | .hexadecimal start _ _ reason, position, _, [] => .error ⟨reason, start, position - 1⟩
  | .octal value _, _, found, [] => .ok (CodePoint.ofNat value :: found).reverse
  | .plain, position, found, c :: rest =>
    if c = '\\' then read (.escaped position) (position + 1) found rest
    else read .plain (position + extent c) (.scalar c :: found) rest
  | .escaped start, position, found, c :: rest =>
    if c = '\n' then read .plain (position + 1) found rest
    else
      match simple? c, numeric? c, octalDigit? c with
      | some d, _, _ => read .plain (position + 1) (.scalar d :: found) rest
      | none, some (digits, reason), _ =>
        read (.hexadecimal start 0 digits reason) (position + 1) found rest
      | none, none, some d => read (.octal d 2) (position + 1) found rest
      | none, none, none =>
        let gap := if c.toNat < 128 then 0 else 5
        read .plain (position + gap + extent c) (.scalar c :: .scalar '\\' :: found) rest
  | .hexadecimal start value due reason, position, found, c :: rest =>
    match hexDigit? c with
    | none => .error ⟨reason, start, position - 1⟩
    | some d =>
      if due ≤ 1 then do
        let found ← close start position (value * 16 + d) found
        read .plain (position + 1) found rest
      else read (.hexadecimal start (value * 16 + d) (due - 1) reason) (position + 1) found rest
  | .octal value due, position, found, c :: rest =>
    match octalDigit? c with
    | some d =>
      if due ≤ 1 then read .plain (position + 1) (.ofNat (value * 8 + d) :: found) rest
      else read (.octal (value * 8 + d) (due - 1)) (position + 1) found rest
    | none =>
      let found := CodePoint.ofNat value :: found
      if c = '\\' then read (.escaped position) (position + 1) found rest
      else read .plain (position + extent c) (.scalar c :: found) rest

/-- The text of a body; a raw body stands for itself. -/
def text (raw : Bool) (body : List Char) : Except Refusal Text :=
  if raw then .ok (Text.ofChars body) else read .plain 0 [] body

end LiveConsole.Script.Escape
