import LiveConsole.Text.CodePoint

/-!
# UTF-8

Octets are read one at a time. A maximal run of octets that begins a character but does not
complete one is damage: `decodeReplacing` puts one replacement character in its place and
`decodeStrict` reports its place and reason. Lone halves have no encoding.
-/

set_option autoImplicit false

namespace LiveConsole.Utf8

/-- The octets of a character. -/
def ofChar (c : Char) : List UInt8 :=
  let v := c.toNat
  if v < 0x80 then [UInt8.ofNat v]
  else if v < 0x800 then [UInt8.ofNat (0xC0 + v / 64), UInt8.ofNat (0x80 + v % 64)]
  else if v < 0x10000 then
    [UInt8.ofNat (0xE0 + v / 4096), UInt8.ofNat (0x80 + v / 64 % 64), UInt8.ofNat (0x80 + v % 64)]
  else
    [UInt8.ofNat (0xF0 + v / 262144), UInt8.ofNat (0x80 + v / 4096 % 64),
      UInt8.ofNat (0x80 + v / 64 % 64), UInt8.ofNat (0x80 + v % 64)]

/-- A lone half is written as a question mark. -/
def encodeReplacing (t : Text) : List UInt8 :=
  t.flatMap fun
    | .scalar c => ofChar c
    | .lone _ => [0x3F]

theorem encodeReplacing_append (s t : Text) :
    encodeReplacing (s ++ t) = encodeReplacing s ++ encodeReplacing t := by
  simp [encodeReplacing]

/-- The first run of lone halves, which no strict encoding can pass. -/
structure Unencodable where
  position : Nat
  first : CodePoint
  length : Nat

def unencodable? (t : Text) : Option Unencodable :=
  match t.dropWhile (fun c => !c.isLone) with
  | [] => none
  | c :: rest =>
    let run := (rest.takeWhile CodePoint.isLone).length + 1
    some ⟨(t.takeWhile (fun c => !c.isLone)).length, c, run⟩

def encodeStrict (t : Text) : Except Unencodable (List UInt8) :=
  match unencodable? t with
  | some u => .error u
  | none => .ok (encodeReplacing t)

def Unencodable.message (u : Unencodable) : Text :=
  if u.length = 1 then
    "'utf-8' codec can't encode character '\\u" ++ Text.hexadecimal 4 u.first.value
      ++ "' in position " ++ toString u.position ++ ": surrogates not allowed"
  else
    "'utf-8' codec can't encode characters in position " ++ toString u.position ++ "-"
      ++ toString (u.position + u.length - 1) ++ ": surrogates not allowed"

/-- Why octets make no character. -/
inductive Reason where
  | badStart
  | badContinuation
  | cutShort
deriving DecidableEq

inductive Piece where
  | character (c : Char)
  | damage (octets : List UInt8) (reason : Reason)
deriving DecidableEq

/-- Between characters, or inside one: `need` octets are owed, the next between `low` and
`high`; `seen` holds those read, the latest first. -/
inductive State where
  | ready
  | within (need low high value : Nat) (seen : List UInt8)

/-- Reads the first octet of a character. -/
def begin (octet : UInt8) : List Piece × State :=
  let b := octet.toNat
  if b < 0x80 then ([.character (Char.ofNat b)], .ready)
  else if b < 0xC2 then ([.damage [octet] .badStart], .ready)
  else if b < 0xE0 then ([], .within 1 0x80 0xBF (b - 0xC0) [octet])
  else if b = 0xE0 then ([], .within 2 0xA0 0xBF 0 [octet])
  else if b = 0xED then ([], .within 2 0x80 0x9F 13 [octet])
  else if b < 0xF0 then ([], .within 2 0x80 0xBF (b - 0xE0) [octet])
  else if b = 0xF0 then ([], .within 3 0x90 0xBF 0 [octet])
  else if b < 0xF4 then ([], .within 3 0x80 0xBF (b - 0xF0) [octet])
  else if b = 0xF4 then ([], .within 3 0x80 0x8F 4 [octet])
  else ([.damage [octet] .badStart], .ready)

def step : State → UInt8 → List Piece × State
  | .ready, octet => begin octet
  | .within need low high value seen, octet =>
    if low ≤ octet.toNat ∧ octet.toNat ≤ high then
      let value := value * 64 + octet.toNat % 64
      if need ≤ 1 then ([.character (Char.ofNat value)], .ready)
      else ([], .within (need - 1) 0x80 0xBF value (octet :: seen))
    else
      let (pieces, state) := begin octet
      (.damage seen.reverse .badContinuation :: pieces, state)

def finish : State → List Piece
  | .ready => []
  | .within _ _ _ _ seen => [.damage seen.reverse .cutShort]

/-- One octet further; the pieces found are kept with the latest first. -/
def advance (run : State × List Piece) (octet : UInt8) : State × List Piece :=
  let (pieces, state) := step run.1 octet
  (state, pieces.reverse ++ run.2)

def pieces (octets : List UInt8) : List Piece :=
  let (state, found) := octets.foldl advance (.ready, [])
  found.reverse ++ finish state

def Piece.replaced : Piece → CodePoint
  | .character c => .scalar c
  | .damage _ _ => .scalar (Char.ofNat 0xFFFD)

def decodeReplacing (octets : List UInt8) : Text :=
  (pieces octets).map Piece.replaced

/-- Damage found by a strict reading. -/
structure Undecodable where
  position : Nat
  octets : List UInt8
  reason : Reason

def readStrict (position : Nat) (found : Text) : List Piece → Except Undecodable Text
  | [] => .ok found.reverse
  | .character c :: rest => readStrict (position + (ofChar c).length) (.scalar c :: found) rest
  | .damage octets reason :: _ => .error ⟨position, octets, reason⟩

def decodeStrict (octets : List UInt8) : Except Undecodable Text :=
  readStrict 0 [] (pieces octets)

def Reason.message : Reason → String
  | .badStart => "invalid start byte"
  | .badContinuation => "invalid continuation byte"
  | .cutShort => "unexpected end of data"

def Undecodable.message (u : Undecodable) : Text :=
  match u.octets with
  | [octet] =>
    "'utf-8' codec can't decode byte 0x" ++ Text.hexadecimal 2 octet.toNat ++ " in position "
      ++ toString u.position ++ ": " ++ u.reason.message
  | octets =>
    "'utf-8' codec can't decode bytes in position " ++ toString u.position ++ "-"
      ++ toString (u.position + octets.length - 1) ++ ": " ++ u.reason.message

end LiveConsole.Utf8
