import LiveConsole.Text.Utf8
import LiveConsole.Script.Grammar
import LiveConsole.Script.Placement
import LiveConsole.Script.Scope

/-!
# Compiling a script

A text is compiled when it can be encoded, has no null characters, follows the grammar, and keeps
the rules on declarations and on what may stand where. The first complaint becomes a diagnostic of
one line that names the last part of the file's path.
-/

set_option autoImplicit false

namespace LiveConsole.Script

namespace Complaint

/-- What follows the last slash. -/
def lastPart (path : Text) : Text :=
  (path.reverse.takeWhile (· ≠ .scalar '/')).reverse

/-- The complaint in one line, with its place if it has one. -/
def diagnostic (c : Complaint) (path : Text) : Text :=
  match c.line with
  | none => c.text
  | some n => c.text ++ " (" ++ lastPart path ++ ", line " ++ Text.ofNat n ++ ")"

end Complaint

namespace Source

/-- The characters of a text that can be compiled at all. -/
def chars (t : Text) : Except Complaint (List Char) :=
  match Utf8.unencodable? t with
  | some u => .error ⟨u.message, none⟩
  | none =>
    let cs := (Text.chars? t).getD []
    if cs.contains '\x00' then .error ⟨"source code string cannot contain null bytes", none⟩
    else .ok cs

end Source

namespace Program

def compile (mode : Mode) (t : Text) : Except Complaint Program := do
  let cs ← Source.chars t
  let program ← ofChars mode cs
  (Scope.ofProgram program).check
  Placement.check program
  return program

end Program

end LiveConsole.Script
