import LiveConsole.Object.Shown

/-!
# Filling in a template

A percent sign in a template begins a directive: flags, a least width, a precision and a letter
that tells how the next argument is written.
-/

set_option autoImplicit false

namespace LiveConsole.Formatting

/-- A directive, ready to be filled in. -/
structure Directive where
  key : Option Text
  left : Bool
  signed : Bool
  spaced : Bool
  zeros : Bool
  marked : Bool
  width : Nat
  precision : Option Nat
  letter : Char
  position : Nat

/-- Where arguments come from, and whether some must be left in the end. -/
structure Arguments where
  mapping : Option Value
  rest : List Value
  lone : Bool

def arguments (m : Machine) (v : Value) : Arguments :=
  match v with
  | .tuple items => ⟨none, items, false⟩
  | .octets _ | .range .. => ⟨some v, [v], true⟩
  | v => if (m.list? v).isSome || (m.dict? v).isSome then ⟨some v, [v], true⟩ else ⟨none, [v], true⟩

def pad (d : Directive) (zeros : Bool) (sign body : Text) : Text :=
  let fill := d.width - (sign.length + body.length)
  if d.left then sign ++ body ++ List.replicate fill (.scalar ' ')
  else if zeros then sign ++ List.replicate fill (.scalar '0') ++ body
  else List.replicate fill (.scalar ' ') ++ sign ++ body

def signOf (d : Directive) (negative : Bool) : Text :=
  if negative then "-" else if d.signed then "+" else if d.spaced then " " else []

/-- The digits of an integer in the base of a letter, and what marks the base. -/
def digits (letter : Char) (n : Nat) : List Char × String :=
  match letter with
  | 'x' => (Nat.toDigits 16 n, "0x")
  | 'X' => ((Nat.toDigits 16 n).map Char.toUpper, "0X")
  | 'o' => (Nat.toDigits 8 n, "0o")
  | _ => (Nat.toDigits 10 n, "")

def integer (d : Directive) (n : Int) : Text :=
  let (ds, mark) := digits d.letter n.natAbs
  let least := d.precision.getD 0
  let body := List.replicate (least - ds.length) '0' ++ ds
  let mark : Text := if d.marked then mark else []
  pad d (d.zeros && !d.left) (signOf d (n < 0) ++ mark) (Text.ofChars body)

/-- A double with a fixed number of places. -/
def fixed (d : Directive) (x : Float) : Text :=
  match Binary64.parts x with
  | .nan => pad d false (signOf d false) "nan"
  | .infinite negative => pad d false (signOf d negative) "inf"
  | .finite negative m e =>
    let places := d.precision.getD 6
    let scaled :=
      if e ≥ 0 then m * twoTo e.natAbs * tenTo places
      else Binary64.roundDiv (m * tenTo places) (twoTo e.natAbs)
    let ds := Shortest.padLeft (places + 1) (Nat.toDigits 10 scaled)
    let whole := ds.take (ds.length - places)
    let fraction := ds.drop (ds.length - places)
    let point := if places > 0 || d.marked then ['.'] else []
    pad d (d.zeros && !d.left) (signOf d negative) (Text.ofChars (whole ++ point ++ fraction))

def word (d : Directive) (t : Text) : Text :=
  let t := match d.precision with
    | some n => t.take n
    | none => t
  pad d false [] t

/-- Writes one argument. -/
def fill (i : Interpreter) (d : Directive) (v : Value) : Run Text := do
  let type ← Run.typeName v
  match d.letter with
  | 's' => return word d (← i.plain v)
  | 'r' | 'a' => return word d (← i.literal v)
  | 'c' =>
    match v with
    | .text [c] => return word d [c]
    | v =>
      match v.int? with
      | some n =>
        if 0 ≤ n ∧ n < 0x110000 then return word d [CodePoint.ofNat n.toNat]
        else Run.raise .overflowError "%c arg not in range(0x110000)"
      | none => Run.raiseType "%c requires int or char"
  | 'd' | 'i' | 'u' =>
    match v.quantity? with
    | some (.int n) => do
      let _ ← Run.ofWritten (Digits.write n)
      return integer d n
    | some (.float x) =>
      match Binary64.truncate? x with
      | some n => return integer d n
      | none =>
        if Binary64.isNaN x then Run.raiseValue "cannot convert float NaN to integer"
        else Run.raise .overflowError "cannot convert float infinity to integer"
    | none =>
      Run.raiseType ("%" ++ Text.ofChar d.letter ++ " format: a real number is required, not "
        ++ type)
  | 'x' | 'X' | 'o' =>
    match v.int? with
    | some n => return integer d n
    | none =>
      Run.raiseType ("%" ++ Text.ofChar d.letter ++ " format: an integer is required, not " ++ type)
  | 'f' | 'F' =>
    match v.quantity? with
    | some q => return fixed d (← Run.ofExcept (Arithmetic.asFloat q))
    | none => Run.raiseType ("must be real number, not " ++ type)
  | c =>
    Run.raiseValue ("unsupported format character '" ++ Text.ofChar c ++ "' (0x"
      ++ Text.hexadecimal 0 c.toNat ++ ") at index " ++ Text.ofNat d.position)

def number (cs : Text) : Nat × Text :=
  let isDigit : CodePoint → Bool := fun
    | .scalar c => c.isDigit
    | .lone _ => false
  let ds := (cs.takeWhile isDigit).filterMap fun
    | .scalar c => some c
    | .lone _ => none
  (Digits.value ds, cs.dropWhile isDigit)

/-- Reads flags. -/
def flags (d : Directive) : Text → Directive × Text
  | .scalar '-' :: rest => flags { d with left := true } rest
  | .scalar '+' :: rest => flags { d with signed := true } rest
  | .scalar ' ' :: rest => flags { d with spaced := true } rest
  | .scalar '#' :: rest => flags { d with marked := true } rest
  | .scalar '0' :: rest => flags { d with zeros := true } rest
  | rest => (d, rest)

def isModifier : CodePoint → Bool
  | .scalar c => c = 'h' || c = 'l' || c = 'L'
  | .lone _ => false

/-- Reads a directive after its percent sign. -/
def directive? (length : Nat) (cs : Text) : Option (Directive × Text) :=
  let plain : Directive := ⟨none, false, false, false, false, false, 0, none, 's', 0⟩
  let (d, cs) := match cs with
    | .scalar '(' :: rest =>
      let key := rest.takeWhile (· ≠ .scalar ')')
      ({ plain with key := some key }, rest.drop (key.length + 1))
    | cs => (plain, cs)
  let (d, cs) := flags d cs
  let (width, cs) := number cs
  let (precision, cs) := match cs with
    | .scalar '.' :: rest =>
      let (n, rest) := number rest
      (some n, rest)
    | cs => (none, cs)
  match cs.dropWhile isModifier with
  | .scalar c :: rest =>
    some ({ d with width, precision, letter := c, position := length - rest.length - 1 }, rest)
  | _ => none

/-- Takes the argument of a directive. -/
def take (d : Directive) (args : Arguments) : Run (Value × Arguments) := do
  match d.key, args.mapping with
  | some key, some mapping =>
    match (← Run.machine).dict? mapping with
    | some entries =>
      match Entries.find? (.text key) entries with
      | some v => return (v, { args with rest := [] })
      | none => Run.raiseWith .keyError [.text key]
    | none => Run.raiseType "format requires a mapping"
  | some _, none => Run.raiseType "format requires a mapping"
  | none, _ =>
    match args.rest with
    | v :: rest => return (v, { args with rest })
    | [] => Run.raiseType "not enough arguments for format string"

/-- Goes through a template; at most `bound` pieces. -/
def fillAll (i : Interpreter) (length : Nat) : (bound : Nat) → Text → Arguments → Text → Run Text
  | 0, _, _, found => return found
  | bound + 1, cs, args, found => do
    let found := found ++ cs.takeWhile (· ≠ .scalar '%')
    match cs.dropWhile (· ≠ .scalar '%') with
    | [] =>
      if args.rest.isEmpty || args.mapping.isSome then return found
      else Run.raiseType "not all arguments converted during string formatting"
    | _ :: cs =>
      match directive? length cs with
      | none => Run.raiseValue "incomplete format"
      | some (d, rest) =>
        if d.letter = '%' then fillAll i length bound rest args (found ++ "%")
        else
          let (v, args) ← take d args
          fillAll i length bound rest args (found ++ (← fill i d v))

def apply (i : Interpreter) (template : Text) (v : Value) : Run Value := do
  let m ← Run.machine
  return .text (← fillAll i template.length (template.length + 1) template (arguments m v) [])

end LiveConsole.Formatting
