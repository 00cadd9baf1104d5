/-
  Gatehouse/Config/Environment.lean --- the environment, the variables, and logging.

  Variables are looked up by name; one that is not text counts as unset.  The
  names of environments and log formats are read without regard to the case of
  letters.  Only ASCII letters need lowering: the one other character whose lower
  case is an ASCII letter is the kelvin sign, and no name has a k.

  Main definitions: `Variables`, `Environment`, `LogFormat`, `LoggingConfig`.
-/
import Gatehouse.Json.Record

set_option autoImplicit false

namespace Gatehouse

/-! ## Variables -/

/-- The variables that are set, with their texts. -/
abbrev Variables := List (String × String)

namespace Variables

/-- The text of a variable. -/
def get? (vars : Variables) (name : String) : Option String := vars.lookup name

/-- The text of a variable, or a default. -/
def text (vars : Variables) (name default : String) : String := (vars.get? name).getD default

/-- The text of a variable that is set and not empty. -/
def filled? (vars : Variables) (name : String) : Option String :=
  (vars.get? name).filter fun v => v ≠ ""

/-- The number of 64 bits that a variable spells. -/
def number? (vars : Variables) (name : String) : Option Nat :=
  (vars.get? name).bind Numeral.read64?

end Variables

/-- A text with its ASCII letters in lower case. -/
def lowered (s : String) : String := String.ofList (s.toList.map Char.toLower)

/-! ## Environments -/

/-- Where the service runs. -/
inductive Environment where
  | development
  | staging
  | production
  deriving DecidableEq, Repr, Inhabited

namespace Environment

/-- The name of an environment. -/
def name : Environment → String
  | .development => "development"
  | .staging => "staging"
  | .production => "production"

/-- The name as the log of a starting program shows it. -/
def label : Environment → String
  | .development => "Development"
  | .staging => "Staging"
  | .production => "Production"

def isProduction (e : Environment) : Bool := e = .production

/-- The spellings of each environment. -/
def spellings : List (String × Environment) :=
  [("development", .development), ("dev", .development), ("local", .development),
    ("staging", .staging), ("stage", .staging), ("test", .staging),
    ("production", .production), ("prod", .production)]

/-- Reads an environment, in any case of letters. -/
def parse (s : String) : Except String Environment :=
  match spellings.lookup (lowered s) with
  | some e => .ok e
  | none => .error ("Invalid environment: " ++ s)

/-- The environment that the variables name; development when they name none. -/
def ofVariables (vars : Variables) : Environment :=
  match (vars.get? "APP_ENV").orElse fun _ => vars.get? "ENVIRONMENT" with
  | none => .development
  | some s =>
      match parse s with
      | .ok e => e
      | .error _ => .development

def toJson (e : Environment) : Json := .str e.name

def ofJson? : Json → Option Environment :=
  Json.name? [("development", .development), ("staging", .staging), ("production", .production)]

end Environment

/-! ## Logging -/

/-- The form of a log line. -/
inductive LogFormat where
  | json
  | pretty
  | compact
  deriving DecidableEq, Repr, Inhabited

namespace LogFormat

def name : LogFormat → String
  | .json => "json"
  | .pretty => "pretty"
  | .compact => "compact"

/-- The formats by name. -/
def names : List (String × LogFormat) :=
  [("json", .json), ("pretty", .pretty), ("compact", .compact)]

/-- Reads a format, in any case of letters. -/
def parse (s : String) : Except String LogFormat :=
  match names.lookup (lowered s) with
  | some f => .ok f
  | none => .error ("Invalid log format: " ++ s)

def toJson (f : LogFormat) : Json := .str f.name

def ofJson? : Json → Option LogFormat := Json.name? names

end LogFormat

/-- What is logged, and how. -/
structure LoggingConfig where
  /-- A level, or a whole filter. -/
  level : String
  format : LogFormat
  sourceLocation : Bool
  deriving DecidableEq, Repr, Inhabited

namespace LoggingConfig

/-- The setting of a configuration that says nothing about logging. -/
def default : LoggingConfig :=
  { level := "info", format := .pretty, sourceLocation := false }

/-- The setting that goes with an environment. -/
def forEnvironment : Environment → LoggingConfig
  | .development => { level := "debug", format := .pretty, sourceLocation := true }
  | .staging | .production => { level := "info", format := .json, sourceLocation := false }

/-- The setting of an environment with what the variables override. -/
def ofVariables (vars : Variables) (e : Environment) : LoggingConfig :=
  let base := forEnvironment e
  { base with
    level := vars.text "LOG_LEVEL" base.level
    format :=
      match (vars.get? "LOG_FORMAT").map LogFormat.parse with
      | some (.ok f) => f
      | _ => base.format }

def toJson (c : LoggingConfig) : Json :=
  .obj [("level", .str c.level), ("format", c.format.toJson),
    ("source_location", .bool c.sourceLocation)]

def ofJson? (v : Json) : Option LoggingConfig :=
  match v.record? ["level", "format", "source_location"] with
  | some [level, format, location] => do
      let level ← level.required Json.str?
      let format ← format.withDefault .pretty LogFormat.ofJson?
      let sourceLocation ← location.withDefault false Json.bool?
      some { level, format, sourceLocation }
  | _ => none

end LoggingConfig

end Gatehouse
