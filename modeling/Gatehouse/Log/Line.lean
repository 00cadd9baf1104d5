/-
  Gatehouse/Log/Line.lean --- log events as lines of text.

  Main definitions: `LogEvent.jsonLine`, `LogEvent.plainLine`, `LogFormat.line`.
-/
import Gatehouse.Config.Environment
import Gatehouse.Log

set_option autoImplicit false

namespace Gatehouse

/-- The JSON form of a field's value: numbers stay numbers. -/
def LogValue.toJson : LogValue → Json
  | .text s => .str s
  | .number i => .int i

namespace LogEvent

/-- An event as a JSON object in one line. -/
def jsonLine (e : LogEvent) : String :=
  (Json.obj [("level", .str e.level.name),
    ("fields", .obj (("message", .str e.message) :: e.fields.map fun f => (f.1, f.2.toJson))),
    ("target", .str e.source.path)]).text

/-- An event as a line to read. -/
def plainLine (e : LogEvent) : String :=
  " ".intercalate ([e.level.name, e.source.path ++ ":", e.message]
    ++ e.fields.map fun f => f.1 ++ "=" ++ f.2.toText)

end LogEvent

/-- An event as a line in a format. -/
def LogFormat.line (f : LogFormat) (e : LogEvent) : String :=
  match f with
  | .json => e.jsonLine
  | .pretty | .compact => e.plainLine

end Gatehouse
