import LiveConsole.Text.Utf8

/-!
# Lines

Octets that have arrived are cut at line ends. What follows the last line end waits for more.
-/

set_option autoImplicit false

namespace LiveConsole.Net

/-- The first line of a buffer without its end, and what follows it. -/
def splitLine? (buffer : List UInt8) : Option (List UInt8 × List UInt8) :=
  match buffer.dropWhile (· ≠ 0x0A) with
  | [] => none
  | _ :: rest => some (buffer.takeWhile (· ≠ 0x0A), rest)

theorem takeWhile_line {line : List UInt8} (rest : List UInt8) (h : 0x0A ∉ line) :
    (line ++ 0x0A :: rest).takeWhile (· ≠ 0x0A) = line := by
  induction line with
  | nil => simp
  | cons b bs ih =>
    obtain ⟨hb, hbs⟩ : ¬0x0A = b ∧ 0x0A ∉ bs := by simpa using h
    simpa [Ne.symm hb] using ih hbs

theorem dropWhile_line {line : List UInt8} (rest : List UInt8) (h : 0x0A ∉ line) :
    (line ++ 0x0A :: rest).dropWhile (· ≠ 0x0A) = 0x0A :: rest := by
  induction line with
  | nil => simp
  | cons b bs ih =>
    obtain ⟨hb, hbs⟩ : ¬0x0A = b ∧ 0x0A ∉ bs := by simpa using h
    simpa [Ne.symm hb] using ih hbs

theorem splitLine?_append {line : List UInt8} (rest : List UInt8) (h : 0x0A ∉ line) :
    splitLine? (line ++ 0x0A :: rest) = some (line, rest) := by
  simp only [splitLine?, takeWhile_line rest h, dropWhile_line rest h]

theorem splitLine?_of_not_mem {buffer : List UInt8} (h : 0x0A ∉ buffer) :
    splitLine? buffer = none := by
  have hd : buffer.dropWhile (· ≠ 0x0A) = [] := by
    induction buffer with
    | nil => rfl
    | cons b bs ih =>
      obtain ⟨hb, hbs⟩ : ¬0x0A = b ∧ 0x0A ∉ bs := by simpa using h
      simpa [Ne.symm hb] using ih hbs
  simp only [splitLine?, hd]

/-- The text of a line: carriage returns at its end do not count, and damaged octets are
replaced. -/
def lineText (line : List UInt8) : Text :=
  Utf8.decodeReplacing ((line.reverse.dropWhile (· = 0x0D)).reverse)

end LiveConsole.Net
