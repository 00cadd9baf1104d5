/-
  Gatehouse/Json/Fields.lean --- looking up the fields of a description.

  A description is an object of which some keys matter.  A field that is absent or
  null takes its default; one that is there must have its type.
-/
import Gatehouse.Json.Record

set_option autoImplicit false

namespace Gatehouse.Fields

/-- The value of a field; null when it is absent. -/
def field (v : Json) (key : String) : Json := (v.get? key).getD .null

/-- An optional field, read. -/
def opt {α : Type} (read : Json → Option α) (v : Json) (key : String) : Option (Option α) :=
  Json.optional? read (field v key)

/-- A field with a default, read. -/
def orDefault {α : Type} (read : Json → Option α) (v : Json) (key : String) (default : α) :
    Option α :=
  (opt read v key).map fun a => a.getD default

/-! ## Values -/

/-- An integer. -/
def int? : Json → Option Int
  | .int i => some i
  | _ => none

/-- A natural number. -/
def nat? (v : Json) : Option Nat := (int? v).map Int.toNat

/-- The items of a list. -/
def list? : Json → Option (List Json)
  | .arr items => some items
  | _ => none

/-- The items of a list, each of them read. -/
def listOf {α : Type} (read : Json → Option α) (v : Json) : Option (List α) :=
  (list? v).bind fun items => items.mapM read

/-- A pair of texts. -/
def pair? : Json → Option (String × String)
  | .arr [.str a, .str b] => some (a, b)
  | _ => none

/-! ## Fields by type -/

/-- A text. -/
def str (v : Json) (key : String) : Option String := (field v key).str?

/-- An optional text. -/
def optStr (v : Json) (key : String) : Option (Option String) := opt Json.str? v key

/-- A text with a default. -/
def strOr (v : Json) (key default : String) : Option String :=
  orDefault Json.str? v key default

/-- An integer. -/
def int (v : Json) (key : String) : Option Int := int? (field v key)

/-- An integer with a default. -/
def intOr (v : Json) (key : String) (default : Int) : Option Int := orDefault int? v key default

/-- A natural number with a default. -/
def natOr (v : Json) (key : String) (default : Nat) : Option Nat := orDefault nat? v key default

/-- A truth value with a default. -/
def boolOr (v : Json) (key : String) (default : Bool) : Option Bool :=
  orDefault Json.bool? v key default

/-- A list, empty when it is absent. -/
def listOr (v : Json) (key : String) : Option (List Json) := orDefault list? v key []

/-- An id. -/
def uuid (v : Json) (key : String) : Option Uuid := (str v key).bind Uuid.parse?

/-- An optional id. -/
def optUuid (v : Json) (key : String) : Option (Option Uuid) := opt Json.uuid? v key

end Gatehouse.Fields
