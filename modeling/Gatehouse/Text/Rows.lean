/-
  Gatehouse/Text/Rows.lean --- tables written as text.

  A table of characters is kept as text: rows with semicolons between them, a row
  being numbers to base 36 with commas between them and a minus sign in front of
  a negative one.  Rows that cover runs of characters are looked up by bisection.

  Main definitions: `Text.readRows`, `Text.covering?`, `Text.valueIn`.
-/

set_option autoImplicit false

namespace Gatehouse.Text

/-! ## Reading rows -/

/-- How far a table has been read: its rows, the last first; the numbers of the row
under way, the last first; and the number under way. -/
structure RowReader where
  rows : List (List Int)
  row : List Int
  value : Nat
  negative : Bool
  deriving DecidableEq, Repr, Inhabited

namespace RowReader

/-- The row under way with its number finished, the last number first. -/
def finished (r : RowReader) : List Int :=
  (if r.negative then -Int.ofNat r.value else Int.ofNat r.value) :: r.row

/-- Takes one character. -/
def push (r : RowReader) (c : Char) : RowReader :=
  if c = ',' then { r with row := r.finished, value := 0, negative := false }
  else if c = ';' then
    { rows := r.finished.reverse :: r.rows, row := [], value := 0, negative := false }
  else if c = '-' then { r with negative := true }
  else
    let digit := if c.toNat < 58 then c.toNat - 48 else c.toNat - 87
    { r with value := r.value * 36 + digit }

end RowReader

/-- The rows of a table. -/
def readRows (text : List String) : List (List Int) :=
  let r := text.foldl (fun r s => s.toList.foldl RowReader.push r) ⟨[], [], 0, false⟩
  (r.finished.reverse :: r.rows).reverse

/-! ## Looking up -/

/-- The last entry that begins at `n` or before, searched among the entries from
`low` on and below `high`, of which the first begins at `n` or before. -/
def bisect {α : Type} (table : Array (Nat × α)) (n low high : Nat) : Nat :=
  if low + 1 < high then
    let middle := (low + high) / 2
    match table[middle]? with
    | some entry =>
        if entry.1 ≤ n then bisect table n middle high else bisect table n low middle
    | none => low
  else low
termination_by high - low
decreasing_by all_goals omega

/-- The entry of the run that `n` falls into, with the beginning of the run. -/
def covering? {α : Type} (table : Array (Nat × α)) (n : Nat) : Option (Nat × α) :=
  (table[bisect table n 0 table.size]?).filter fun entry => entry.1 ≤ n

/-- The runs of a table whose rows give the length and the value of each run. -/
def runs (text : List String) : Array (Nat × Nat) :=
  ((readRows text).foldl (fun (acc : Array (Nat × Nat) × Nat) row =>
    match row with
    | [length, value] => (acc.1.push (acc.2, value.toNat), acc.2 + length.toNat)
    | _ => acc) (#[], 0)).1

/-- The value of a character in a table of runs. -/
def valueIn (table : Array (Nat × Nat)) (c : Char) : Nat :=
  match covering? table c.toNat with
  | some entry => entry.2
  | none => 0

end Gatehouse.Text
