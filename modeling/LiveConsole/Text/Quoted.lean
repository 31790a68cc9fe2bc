import LiveConsole.Text.Printable

/-!
# Quoted forms

A text or an octet string between quotes, on one line and in printable characters only. The
single quote is used unless it occurs in the text and the double quote does not.
-/

set_option autoImplicit false

namespace LiveConsole.Quoted

def quoteFor (hasSingle hasDouble : Bool) : Char :=
  if hasSingle && !hasDouble then '"' else '\''

/-- The escape of a code point by its number. -/
def numeric (n : Nat) : Text :=
  if n < 0x100 then "\\x" ++ Text.hexadecimal 2 n
  else if n < 0x10000 then "\\u" ++ Text.hexadecimal 4 n
  else "\\U" ++ Text.hexadecimal 8 n

def control? (c : Char) : Option Text :=
  match c with
  | '\n' => some "\\n"
  | '\r' => some "\\r"
  | '\t' => some "\\t"
  | '\\' => some "\\\\"
  | _ => none

def escape (quote : Char) (c : CodePoint) : Text :=
  match c with
  | .lone _ => numeric c.value
  | .scalar ch =>
    match control? ch with
    | some t => t
    | none =>
      if ch = quote then [.scalar '\\', c]
      else if c.isPrintable then [c]
      else numeric c.value

end LiveConsole.Quoted

namespace LiveConsole

/-- The quoted form of a text. -/
def Text.quoted (t : Text) : Text :=
  let quote := Quoted.quoteFor (t.contains (.scalar '\'')) (t.contains (.scalar '"'))
  .scalar quote :: (t.flatMap (Quoted.escape quote) ++ [.scalar quote])

namespace Quoted

def octetEscape (quote : Char) (b : UInt8) : Text :=
  let c := Char.ofNat b.toNat
  match control? c with
  | some t => t
  | none =>
    if c = quote then [.scalar '\\', .scalar c]
    else if 0x20 ≤ b.toNat ∧ b.toNat < 0x7F then [.scalar c]
    else numeric b.toNat

/-- The quoted form of an octet string, marked by a leading `b`. -/
def ofOctets (bs : List UInt8) : Text :=
  let quote := quoteFor (bs.contains 0x27) (bs.contains 0x22)
  .scalar 'b' :: .scalar quote :: (bs.flatMap (octetEscape quote) ++ [.scalar quote])

end Quoted

end LiveConsole
