/-!
# Taking texts apart

* `pieces` — what stands between the occurrences of a separator; `joinPieces` puts it together again
  (`joinPieces_pieces`).
* `splitFirst` — what stands before and after the first occurrence.
* `digitsValue` — the number that decimal digits spell, and `int64?`, `nat64?` for numbers of 64
  bits with an optional sign.
-/

namespace ContentSync.Text

/-- The pieces of a text between the occurrences of a separator; always at least one. -/
def pieces (sep : Char) : List Char → List (List Char)
  | [] => [[]]
  | c :: rest =>
      if c = sep then [] :: pieces sep rest
      else
        match pieces sep rest with
        | [] => [[c]]
        | p :: ps => (c :: p) :: ps

/-- Pieces with the separator between them. -/
def joinPieces (sep : Char) : List (List Char) → List Char
  | [] => []
  | [p] => p
  | p :: ps => p ++ sep :: joinPieces sep ps

theorem pieces_ne_nil (sep : Char) (cs : List Char) : pieces sep cs ≠ [] := by
  cases cs with
  | nil => simp [pieces]
  | cons c rest =>
    simp only [pieces]
    split
    · simp
    · split <;> simp

/-- Nothing of the text is lost. -/
theorem joinPieces_pieces (sep : Char) (cs : List Char) : joinPieces sep (pieces sep cs) = cs := by
  induction cs with
  | nil => rfl
  | cons c rest ih =>
    cases hp : pieces sep rest with
    | nil => exact absurd hp (pieces_ne_nil sep rest)
    | cons p ps =>
      rw [hp] at ih
      by_cases hc : c = sep
      · simp [pieces, hc, hp, joinPieces, ih]
      · cases ps with
        | nil => simp_all [pieces, joinPieces]
        | cons q qs => simp_all [pieces, joinPieces]

/-- The text before and after the first occurrence of a character, if it occurs. -/
def splitFirst (sep : Char) : List Char → Option (List Char × List Char)
  | [] => none
  | c :: rest =>
      if c = sep then some ([], rest) else (splitFirst sep rest).map fun p => (c :: p.1, p.2)

/-! ## Numbers -/

/-- The number that decimal digits spell. -/
def digitsValue (ds : List Char) : Nat := ds.foldl (fun n c => n * 10 + (c.toNat - '0'.toNat)) 0

/-- A text of decimal digits, at least one. -/
def isDigits (cs : List Char) : Bool := !cs.isEmpty && cs.all Char.isDigit

/-- A natural number below `2 ^ 64` with an optional plus sign. -/
def nat64? (cs : List Char) : Option Nat :=
  let ds := match cs with
    | '+' :: rest => rest
    | _ => cs
  if isDigits ds && digitsValue ds < Nat.pow 2 64 then some (digitsValue ds) else none

/-- An integer of 64 bits with an optional sign. -/
def int64? (cs : List Char) : Option Int :=
  let (negative, ds) := match cs with
    | '-' :: rest => (true, rest)
    | '+' :: rest => (false, rest)
    | _ => (false, cs)
  if isDigits ds then
    let value : Int := if negative then -(digitsValue ds : Int) else digitsValue ds
    if -Nat.pow 2 63 ≤ value ∧ value < Nat.pow 2 63 then some value else none
  else none

example : int64? "-9223372036854775808".toList = some (-9223372036854775808) := by decide +kernel
example : int64? "9223372036854775808".toList = none := by decide +kernel
example : int64? "+".toList = none := by decide +kernel

end ContentSync.Text
