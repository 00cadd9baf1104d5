/-
  Gatehouse/Json/Parser.lean --- from words to a value.

  A stack holds the lists and objects that have been opened and not yet closed,
  so values may nest to any depth.

  Main definition: `Json.parse?`.
-/
import Gatehouse.Json.Token

set_option autoImplicit false

namespace Gatehouse.Json

/-- A list or object under way, with its finished parts, the last first. -/
inductive Frame where
  | list (done : List Json)
  /-- An object whose next member has its key but not its value. -/
  | member (done : List (String × Json)) (key : String)
  deriving Inhabited, Repr

/-- What must come next. -/
inductive Wanted where
  /-- A value. -/
  | value
  /-- A value, or the end of the list just opened. -/
  | valueOrEnd
  /-- A key, or the end of the object just opened. -/
  | keyOrEnd
  /-- A key, after a comma. -/
  | key (done : List (String × Json))
  /-- The colon after a key. -/
  | colon (done : List (String × Json)) (key : String)
  /-- A comma or the end of the innermost list or object, after the given value;
  nothing at all when no list or object is open. -/
  | after (value : Json)
  deriving Inhabited, Repr

/-- The value that a single word stands for. -/
def Token.value? : Token → Option Json
  | .null => some .null
  | .bool b => some (.bool b)
  | .int i => some (.int i)
  | .real => some .real
  | .str s => some (.str s)
  | .garbled => some .garbled
  | _ => none

/-- The state after a word that begins a value. -/
def beginValue? (stack : List Frame) : Token → Option (List Frame × Wanted)
  | .openList => some (.list [] :: stack, .valueOrEnd)
  | .openObject => some (stack, .keyOrEnd)
  | token => token.value?.map fun v => (stack, .after v)

/-- One step: the open lists and objects and what must come next, after a word. -/
def step? (stack : List Frame) (wanted : Wanted) (token : Token) :
    Option (List Frame × Wanted) :=
  match wanted with
  | .value => beginValue? stack token
  | .valueOrEnd =>
      match token, stack with
      | .closeList, .list done :: stack => some (stack, .after (.arr done.reverse))
      | _, _ => beginValue? stack token
  | .keyOrEnd =>
      match token with
      | .closeObject => some (stack, .after (.obj []))
      | .str key => some (stack, .colon [] key)
      | _ => none
  | .key done =>
      match token with
      | .str key => some (stack, .colon done key)
      | _ => none
  | .colon done key =>
      match token with
      | .colon => some (.member done key :: stack, .value)
      | _ => none
  | .after v =>
      match stack, token with
      | .list done :: stack, .comma => some (.list (v :: done) :: stack, .value)
      | .list done :: stack, .closeList => some (stack, .after (.arr (v :: done).reverse))
      | .member done key :: stack, .comma => some (stack, .key ((key, v) :: done))
      | .member done key :: stack, .closeObject =>
          some (stack, .after (.obj ((key, v) :: done).reverse))
      | _, _ => none

/-- Reads the remaining words. -/
def run? : List Frame → Wanted → List Token → Option Json
  | [], .after v, [] => some v
  | _, _, [] => none
  | stack, wanted, token :: rest =>
      match step? stack wanted token with
      | none => none
      | some (stack, wanted) => run? stack wanted rest

/-- The value of a JSON text given as bytes. -/
def parseBytes? (bs : List UInt8) : Option Json := (tokens? bs).bind (run? [] .value)

/-- The value of a JSON text. -/
def parse? (s : String) : Option Json := parseBytes? (Utf8.bytes s)

end Gatehouse.Json
