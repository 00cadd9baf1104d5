/-
  Gatehouse/MySql/Row.lean --- replies of the database and their rows.

  A column has the type of its first value that is not null.  A value is read by the
  name of its column, as a text or as a truth value; what does not fit is told with
  the column and both types.

  Main definitions: `Reply`, `Row.text`, `Row.flag`, `Row.number`, `Fault`.
-/
import Gatehouse.Infrastructure
import Gatehouse.MySql.Statement

set_option autoImplicit false

namespace Gatehouse.MySql

/-! ## Errors of the database -/

/-- An error that the database returned. -/
structure DatabaseError where
  code : Nat
  /-- The standard state of five characters. -/
  state : String
  message : String
  deriving DecidableEq, Repr, Inhabited

/-- The error in the words of the database. -/
def DatabaseError.text (e : DatabaseError) : String :=
  s!"{e.code} ({e.state}): " ++ e.message

/-- The wording of an error that the database returned. -/
def DatabaseError.wording (e : DatabaseError) : String :=
  "error returned from database: " ++ e.text

/-! ## Rows -/

/-- The type of a column. -/
inductive ColumnType where
  | varchar
  | boolean
  | bigint
  deriving DecidableEq, Repr, Inhabited

/-- The name of a type. -/
def ColumnType.name : ColumnType → String
  | .varchar => "VARCHAR"
  | .boolean => "BOOLEAN"
  | .bigint => "BIGINT"

/-- The type of a column with the given values. -/
def ColumnType.ofValues : List Value → ColumnType
  | [] => .varchar
  | .null :: rest => ofValues rest
  | .text _ :: _ => .varchar
  | .flag _ :: _ => .boolean
  | .number _ :: _ => .bigint

/-- A value with its column. -/
structure Cell where
  column : String
  type : ColumnType
  value : Value
  deriving DecidableEq, Repr, Inhabited

/-- A row of a result. -/
abbrev Row := List Cell

/-- The rows of a result, from the names of its columns and its values. -/
def rowsOf (columns : List String) (values : List (List Value)) : List Row :=
  let types := (List.range columns.length).map fun i =>
    ColumnType.ofValues (values.map fun row => row.getD i .null)
  values.map fun row =>
    (columns.zip (types.zip row)).map fun (column, type, value) => { column, type, value }

/-- What a value is to be read as. -/
inductive Wanted where
  | text
  | flag
  | number
  deriving DecidableEq, Repr, Inhabited

/-- How a wanted type is told: by its name and the column type that it goes with. -/
def Wanted.name : Wanted → String
  | .text => "`alloc::string::String` (as SQL type `VARCHAR`)"
  | .flag => "`bool` (as SQL type `BOOLEAN`)"
  | .number => "`i32` (as SQL type `INT`)"

/-- Whether a column of a type can be read as wanted. -/
def Wanted.accepts : Wanted → ColumnType → Bool
  | .text, t => t = .varchar
  | .flag, t | .number, t => t ≠ .varchar

/-- Why a value cannot be read. -/
inductive RowFault where
  | noColumn (name : String)
  /-- A column, as it is told, and what is wrong with its value. -/
  | decoding (column problem : String)
  | noRow
  deriving DecidableEq, Repr, Inhabited

/-- The wording of a fault. -/
def RowFault.message : RowFault → String
  | .noColumn name => "no column found for name: " ++ name
  | .decoding column problem =>
      "error occurred while decoding column " ++ column ++ ": " ++ problem
  | .noRow => "no rows returned by a query that expected to return at least one row"

/-- Checks that a cell has a value of a type that is accepted. -/
def Cell.check (c : Cell) (shown : String) (wanted : Wanted) : Except RowFault Value :=
  if c.value = .null then
    .error (.decoding shown "unexpected null; try decoding as an `Option`")
  else if wanted.accepts c.type then .ok c.value
  else .error (.decoding shown
    ("mismatched types; Rust type " ++ wanted.name ++ " is not compatible with SQL type `"
      ++ c.type.name ++ "`"))

namespace Row

/-- The checked value of a column. -/
def value (row : Row) (column : String) (wanted : Wanted) : Except RowFault Value :=
  match row.find? fun c => c.column == column with
  | none => .error (.noColumn column)
  | some c => c.check ("\"" ++ column ++ "\"") wanted

/-- Reads a text. -/
def text (row : Row) (column : String) : Except RowFault String := do
  match ← row.value column .text with
  | .text s => pure s
  | _ => pure ""

/-- Reads a truth value: every number but zero is true. -/
def flag (row : Row) (column : String) : Except RowFault Bool := do
  match ← row.value column .flag with
  | .flag b => pure b
  | .number i => pure (i ≠ 0)
  | _ => pure false

/-- Reads the first value of a row as a number of 32 bits. -/
def number (row : Row) : Except RowFault Int := do
  match row with
  | [] => throw (.noColumn "0")
  | c :: _ =>
      match ← c.check "0" .number with
      | .flag b => pure (if b then 1 else 0)
      | .number i =>
          if i ≥ 0x80000000 then throw (.decoding "0" Numeral.Fault.tooLarge.message)
          else if i < -0x80000000 then throw (.decoding "0" Numeral.Fault.tooSmall.message)
          else pure i
      | _ => pure 0

end Row

/-! ## Faults -/

/-- Why the database did not do what it was asked. -/
inductive Fault where
  | returned (error : DatabaseError)
  /-- No connection could be made in time. -/
  | noConnection
  | row (fault : RowFault)
  /-- The tables could not be made. -/
  | migration (fault : Fault)
  deriving DecidableEq, Repr, Inhabited

namespace Fault

/-- The wording of a fault. -/
def message : Fault → String
  | .returned e => e.wording
  | .noConnection => "pool timed out while waiting for an open connection"
  | .row f => f.message
  | .migration f => "while executing migrations: " ++ f.message

/-- What is behind a fault, each in the words of the layer that found it. -/
def causes : Fault → List String
  | .returned e => [e.text]
  | .noConnection | .row _ => []
  | .migration f => ("while executing migrations: " ++ f.message) :: f.message :: f.causes

/-- The fault as one of the adapter. -/
def toAdapter (f : Fault) : AdapterFault := .database f.message f.causes

end Fault

/-! ## Replies -/

/-- What the database answers to a statement. -/
inductive Reply where
  | failed (error : DatabaseError)
  /-- The statement ran and changed so many rows. -/
  | done (affected : Nat)
  | rows (found : List Row)
  deriving DecidableEq, Repr, Inhabited

namespace Reply

/-- The rows of a reply. -/
def rowsOr : Reply → Except DatabaseError (List Row)
  | .failed e => .error e
  | .done _ => .ok []
  | .rows found => .ok found

/-- How many rows a statement changed. -/
def affectedOr : Reply → Except DatabaseError Nat
  | .failed e => .error e
  | .done n => .ok n
  | .rows _ => .ok 0

/-- Whether a statement failed. -/
def hasFailed : Reply → Bool
  | .failed _ => true
  | _ => false

end Reply

end Gatehouse.MySql
