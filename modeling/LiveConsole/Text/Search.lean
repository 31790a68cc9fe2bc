import LiveConsole.Number.Numeral

/-!
# Searching in sequences

Where one sequence occurs in another, and cutting at the places found from left to right.
-/

set_option autoImplicit false

namespace LiveConsole.Search

variable {α : Type} [BEq α]

/-- The first place at which a part occurs; `skipped` members were passed before. -/
def first? (part : List α) (skipped : Nat) : List α → Option Nat
  | [] => if part.isEmpty then some skipped else none
  | x :: rest =>
    if part.isPrefixOf (x :: rest) then some skipped else first? part (skipped + 1) rest

def occurs (part whole : List α) : Bool :=
  (first? part 0 whole).isSome

/-- The last place at which a part occurs. -/
def last? (part whole : List α) : Option Nat :=
  (first? part.reverse 0 whole.reverse).map fun i => whole.length - part.length - i

/-- Cuts at every place where a part that is not empty occurs, at most `cuts` times; `piece` is
what was read since the last cut, and `found` the pieces before, both backwards. -/
def cut (part : List α) (cuts skip : Nat) (piece : List α) (found : List (List α)) :
    List α → List (List α)
  | [] => (piece.reverse :: found).reverse
  | x :: rest =>
    if skip > 0 then cut part cuts (skip - 1) piece found rest
    else if cuts > 0 ∧ part.isPrefixOf (x :: rest) then
      cut part (cuts - 1) (part.length - 1) [] (piece.reverse :: found) rest
    else cut part cuts 0 (x :: piece) found rest

def pieces (part : List α) (cuts : Nat) (whole : List α) : List (List α) :=
  cut part cuts 0 [] [] whole

/-- How often a part occurs without overlap; an empty one occurs everywhere. -/
def count (part whole : List α) : Nat :=
  if part.isEmpty then whole.length + 1
  else (pieces part whole.length whole).length - 1

/-- Puts `new` in the place of `old`, at most `limit` times. An empty part occurs between all
members and at both ends. -/
def replace (old new : List α) (limit : Nat) (whole : List α) : List α :=
  if old.isEmpty then
    let gaps := whole.mapIdx fun i x => if i < limit then new ++ [x] else [x]
    gaps.flatten ++ if whole.length < limit then new else []
  else List.intercalate new (pieces old limit whole)

end LiveConsole.Search

namespace LiveConsole.Text

def isBlank : CodePoint → Bool
  | .scalar c => Numeral.isBlank c
  | .lone _ => false

/-- The words between blanks, at most `cuts` cuts from the left; what is left after the last cut
keeps its blanks. `word` and `found` are read backwards. -/
def wordsFrom (cuts : Nat) (word : Text) (found : List Text) : Text → List Text
  | [] => (if word.isEmpty then found else word.reverse :: found).reverse
  | c :: rest =>
    if isBlank c then
      if word.isEmpty then wordsFrom cuts [] found rest
      else wordsFrom (cuts - 1) [] (word.reverse :: found) rest
    else if word.isEmpty ∧ cuts = 0 then ((c :: rest) :: found).reverse
    else wordsFrom cuts (c :: word) found rest

def words (cuts : Nat) (t : Text) : List Text :=
  wordsFrom cuts [] [] t

def trimLeft (out : CodePoint → Bool) (t : Text) : Text :=
  t.dropWhile out

def trimRight (out : CodePoint → Bool) (t : Text) : Text :=
  (t.reverse.dropWhile out).reverse

end LiveConsole.Text
