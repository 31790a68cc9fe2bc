import LiveConsole.Text.CodePoint

/-!
# Writing JSON

Compact objects of texts and flags. Quotes, backslashes and control characters are escaped and
nothing else is, so a written object has no line break inside.
-/

set_option autoImplicit false

namespace LiveConsole.Json

/-- A member's value in a flat object. -/
inductive Scalar where
  | text (t : Text)
  | flag (b : Bool)
deriving DecidableEq

def escapeChar (c : Char) : List Char :=
  match c with
  | '"' => ['\\', '"']
  | '\\' => ['\\', '\\']
  | '\n' => ['\\', 'n']
  | '\r' => ['\\', 'r']
  | '\t' => ['\\', 't']
  | '\x08' => ['\\', 'b']
  | '\x0c' => ['\\', 'f']
  | _ =>
    if c.toNat < 0x20 then
      ['\\', 'u', '0', '0', Nat.digitChar (c.toNat / 16), Nat.digitChar (c.toNat % 16)]
    else [c]

def escape : CodePoint → Text
  | .scalar c => Text.ofChars (escapeChar c)
  | .lone half => [.lone half]

def writeString (t : Text) : Text :=
  .scalar '"' :: (t.flatMap escape ++ [.scalar '"'])

def Scalar.write : Scalar → Text
  | .text t => writeString t
  | .flag true => "true"
  | .flag false => "false"

def writeMember (member : Text × Scalar) : Text :=
  writeString member.1 ++ ":" ++ member.2.write

def writeObject (members : List (Text × Scalar)) : Text :=
  "\x7b" ++ Text.join "," (members.map writeMember) ++ "\x7d"

end LiveConsole.Json
