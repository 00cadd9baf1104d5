/-
  Gatehouse/Json/Record.lean --- reading records and names out of JSON.

  A record is an object with known keys, in any order and among others, or a
  list of its fields in order.  A known key given twice is refused.  What an
  absent field means depends on the field: an error, nothing, or a default; at
  the end of a list only a default may be left out.  A name is a string, or an
  object that has the name as its only key and null as its value.

  Main definitions: `Json.record?`, `Slot`, `Json.name?`.
-/
import Gatehouse.Json.Value
import Gatehouse.Uuid

set_option autoImplicit false

namespace Gatehouse

/-- What a record has in the place of a field. -/
inductive Slot where
  | given (value : Json)
  /-- The object has no such key. -/
  | absent
  /-- The list ended before. -/
  | ended
  deriving Inhabited, Repr

namespace Json

/-- The slot of one key among the members of an object, none if it is given
twice. -/
def slot? (members : List (String × Json)) (key : String) : Option Slot :=
  match members.filter (fun m => m.1 == key) with
  | [] => some .absent
  | [m] => some (.given m.2)
  | _ => none

/-- The slots of a list for the given number of fields, none if it is too long. -/
def listSlots? : List String → List Json → Option (List Slot)
  | [], [] => some []
  | [], _ :: _ => none
  | _ :: keys, [] => (listSlots? keys []).map (.ended :: ·)
  | _ :: keys, v :: rest => (listSlots? keys rest).map (.given v :: ·)

/-- The slots of a record with the given keys. -/
def record? (keys : List String) : Json → Option (List Slot)
  | .obj members => keys.mapM (slot? members)
  | .arr items => listSlots? keys items
  | _ => none

/-! ## Values of fields -/

/-- A text. -/
def str? : Json → Option String
  | .str s => some s
  | _ => none

/-- A truth value. -/
def bool? : Json → Option Bool
  | .bool b => some b
  | _ => none

/-- A number from 0 to `bound`. -/
def unsigned? (bound : Nat) : Json → Option Nat
  | .int (.ofNat n) => if n ≤ bound then some n else none
  | _ => none

/-- An unsigned number of 32 bits. -/
def nat32? : Json → Option Nat := unsigned? Numeral.max32

/-- An unsigned number of 64 bits. -/
def nat64? : Json → Option Nat := unsigned? Numeral.max64

/-- A signed number of 64 bits. -/
def int64? : Json → Option Int
  | .int i => if -0x8000000000000000 ≤ i ∧ i < 0x8000000000000000 then some i else none
  | _ => none

/-- An identifier. -/
def uuid? (v : Json) : Option Uuid := v.str?.bind Uuid.parse?

/-- Null, or a value. -/
def optional? {α : Type} (read : Json → Option α) : Json → Option (Option α)
  | .null => some none
  | v => (read v).map some

/-- A name out of a list of names with their meanings. -/
def name? {α : Type} (names : List (String × α)) : Json → Option α
  | .str s => names.lookup s
  | .obj [(s, .null)] => names.lookup s
  | _ => none

end Json

/-! ## Fields -/

namespace Slot

variable {α : Type}

/-- A field that must be there. -/
def required (read : Json → Option α) : Slot → Option α
  | .given v => read v
  | _ => none

/-- A field that an object may leave out and that may be null. -/
def nullable (read : Json → Option α) : Slot → Option (Option α)
  | .given v => Json.optional? read v
  | .absent => some none
  | .ended => none

/-- A field with a default. -/
def withDefault (default : α) (read : Json → Option α) : Slot → Option α
  | .given v => read v
  | _ => some default

end Slot

end Gatehouse
