/-
  Gatehouse/Redis/Reply.lean --- replies of the cache.

  A reply begins with a mark that tells its type and ends with a line end.  A reply
  with a length in front may hold any bytes; a list holds replies, and is the first
  error in it if there is one.

  Main definitions: `RedisReply`, `RedisReply.parse?`, `RedisReply.flag`,
  `RedisReply.string`.
-/
import Gatehouse.Redis.Fault
import Gatehouse.Text.Numeral
import Gatehouse.Text.Blank
import Gatehouse.Text.Quoted
import Gatehouse.Text.Utf8

set_option autoImplicit false

namespace Gatehouse

/-- A reply. -/
inductive RedisReply where
  | nil
  | number (i : Int)
  | data (bytes : List UInt8)
  | list (items : List RedisReply)
  | okay
  | status (line : String)
  deriving Repr, Inhabited

namespace RedisReply

/-! ## Showing a reply -/

mutual

/-- A reply as it is told in faults. -/
def text : RedisReply → String
  | .nil => "nil"
  | .number i => "int(" ++ String.ofList (Numeral.ofInt i) ++ ")"
  | .data bytes =>
      match Utf8.string? bytes with
      | some s => "string-data('" ++ Text.quoted s ++ "')"
      | none =>
          "binary-data([" ++ ", ".intercalate
            (bytes.map fun b => String.ofList (Numeral.ofNat b.toNat)) ++ "])"
  | .list items => "bulk(" ++ ", ".intercalate (texts items) ++ ")"
  | .okay => "ok"
  | .status line => "status(" ++ Text.quoted line ++ ")"

/-- Several replies, each as it is told in faults. -/
def texts : List RedisReply → List String
  | [] => []
  | r :: rest => text r :: texts rest

end

/-! ## What a reply says -/

/-- A reply as a truth value. -/
def flag (r : RedisReply) : Except RedisFault Bool :=
  match r with
  | .nil => .ok false
  | .number i => .ok (i ≠ 0)
  | .okay => .ok true
  | .status line =>
      if line = "1" then .ok true
      else if line = "0" then .ok false
      else .error (.type "Response status not valid boolean" r.text)
  | .data bytes =>
      if bytes = Utf8.bytes "1" then .ok true
      else if bytes = Utf8.bytes "0" then .ok false
      else .error (.type "Response type not bool compatible." r.text)
  | .list _ => .error (.type "Response type not bool compatible." r.text)

/-- A reply as text. -/
def string (r : RedisReply) : Except RedisFault String :=
  match r with
  | .okay => .ok "OK"
  | .status line => .ok line
  | .data bytes =>
      match Utf8.string? bytes with
      | some s => .ok s
      | none => .error .notText
  | _ => .error (.type "Response type not string compatible." r.text)

/-! ## Reading a reply -/

/-- The bytes of a line and those after it. -/
def line? : List UInt8 → Option (List UInt8 × List UInt8)
  | [] => none
  | [_] => none
  | a :: b :: rest =>
      if a = 13 ∧ b = 10 then some ([], rest)
      else (line? (b :: rest)).map fun p => (a :: p.1, p.2)

/-- The number on a line; blanks may stand around it. -/
def number? (line : List UInt8) : Option Int := do
  let s ← Utf8.decode? line
  (Numeral.readSigned Numeral.maxInt64 (Text.trim s)).toOption

/-- A reply that was read, or the error that it signals, and the bytes after it. -/
abbrev Read := Option (Except RedisFault RedisReply × List UInt8)

mutual

/-- Reads a reply; `fuel` bounds the number of replies inside lists. -/
def read? (fuel : Nat) : List UInt8 → Read
  | [] => none
  | mark :: rest => do
      let (line, rest) ← line? rest
      match Char.ofNat mark.toNat with
      | '+' => do
          let s ← Utf8.string? line
          some (.ok (if s = "OK" then .okay else .status s), rest)
      | '-' => do some (.error (.ofLine (← Utf8.decode? line)), rest)
      | ':' => do some (.ok (.number (← number? line)), rest)
      | '$' => do
          let n ← number? line
          if n < 0 then some (.ok .nil, rest)
          else if (rest.drop n.toNat).take 2 = [13, 10] then
            some (.ok (.data (rest.take n.toNat)), rest.drop (n.toNat + 2))
          else none
      | '*' =>
          match fuel with
          | 0 => none
          | fuel + 1 => do
              let n ← number? line
              if n < 0 then some (.ok .nil, rest) else readItems? fuel n.toNat rest []
      | _ => none
termination_by (fuel, 0)

/-- Reads the items of a list, `n` of which are still to come. -/
def readItems? (fuel n : Nat) (bytes : List UInt8) (done : List RedisReply) : Read :=
  match n with
  | 0 => some (.ok (.list done.reverse), bytes)
  | n + 1 => do
      match ← read? fuel bytes with
      | (.ok r, rest) => readItems? fuel n rest (r :: done)
      | (.error e, rest) => some (.error e, rest)
termination_by (fuel, n + 1)

end

/-- The deepest nesting of lists that is read. -/
def maxDepth : Nat := 100

/-- Reads a reply that lacks its last line end. -/
def parse? (s : String) : Option (Except RedisFault RedisReply) :=
  (read? maxDepth (Utf8.bytes s ++ [13, 10])).map Prod.fst

end RedisReply

end Gatehouse
