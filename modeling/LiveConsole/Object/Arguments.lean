import LiveConsole.Object.Iteration

/-!
# Arguments of built-in functions

How many arguments a built-in function takes, and what it says when it is given others.
-/

set_option autoImplicit false

namespace LiveConsole.Arguments

variable {α : Type}

def plural (n : Nat) (word : Text) : Text :=
  let ending : Text := if n = 1 then [] else "s"
  Text.ofNat n ++ " " ++ word ++ ending

def given (n : Nat) : Text :=
  " (" ++ Text.ofNat n ++ " given)"

/-- Refuses arguments by name. -/
def unnamed (function : Text) (named : Names) : Run Unit :=
  if named.isEmpty then return ()
  else Run.raiseType (function ++ "() takes no keyword arguments")

def one (function : Text) (args : List Value) : Run Value :=
  match args with
  | [v] => return v
  | args => Run.raiseType (function ++ "() takes exactly one argument" ++ given args.length)

def nothing (function : Text) (args : List Value) : Run Unit :=
  if args.isEmpty then return ()
  else Run.raiseType (function ++ "() takes no arguments" ++ given args.length)

/-- Between `least` and `most` arguments. -/
def between (function : Text) (least most : Nat) (args : List Value) : Run Unit :=
  let n := args.length
  let expected := fun (bound : Text) (count : Nat) =>
    Run.raiseType (function ++ " expected " ++ bound ++ plural count "argument" ++ ", got "
      ++ Text.ofNat n)
  if n < least then expected (if least = most then [] else "at least ") least
  else if most < n then expected (if least = most then [] else "at most ") most
  else return ()

/-- As `between`, worded for functions that read their arguments by a format. -/
def counted (function : Text) (least most : Nat) (args : List Value) : Run Unit :=
  let n := args.length
  let takes := fun (bound : Text) (count : Nat) =>
    Run.raiseType (function ++ "() takes " ++ bound ++ plural count "argument" ++ given n)
  if n < least then takes (if least = most then "exactly " else "at least ") least
  else if most < n then takes (if least = most then "exactly " else "at most ") most
  else return ()

/-- Takes the arguments that may be given by name, and refuses other names. -/
def allow (function : Text) (allowed : List String) : Names → Run Unit
  | [] => return ()
  | (id, _) :: rest =>
    if allowed.any fun a => Text.ofString a = id then allow function allowed rest
    else
      Run.raiseType ("'" ++ id ++ "' is an invalid keyword argument for " ++ function ++ "()")

/-- An argument that must be an integer. -/
def index (v : Value) : Run Int := do
  match v.int? with
  | some n => return n
  | none =>
    Run.raiseType ("'" ++ (← Run.typeName v) ++ "' object cannot be interpreted as an integer")

end LiveConsole.Arguments
