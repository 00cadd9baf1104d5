/-
  Gatehouse/Url/Host.lean --- the hosts of addresses.

  A host is a domain name, an address of version 4, an address of version 6 in
  brackets, or, under a scheme of its own, any text without delimiters.  A domain
  whose last label is a number is an address of version 4: one to four numbers to
  base 10, 8 or 16, of which the last fills all bytes that are left.

  Main definitions: `Host`, `Host.parse`, `Host.parseOpaque`, `Host.text`.
-/
import Gatehouse.Idna.Domain
import Gatehouse.Text.Numeral
import Gatehouse.Url.Percent

set_option autoImplicit false

namespace Gatehouse

/-- Why a text is no address. -/
inductive UrlFault where
  /-- It has no scheme. -/
  | relative
  | emptyHost
  | port
  | ipv4
  | ipv6
  | domainCharacter
  | domainName
  deriving DecidableEq, Repr, Inhabited

/-- The wording of a fault. -/
def UrlFault.message : UrlFault → String
  | .relative => "relative URL without a base"
  | .emptyHost => "empty host"
  | .port => "invalid port number"
  | .ipv4 => "invalid IPv4 address"
  | .ipv6 => "invalid IPv6 address"
  | .domainCharacter => "invalid domain character"
  | .domainName => "invalid international domain name"

/-- The host of an address. -/
inductive Host where
  | domain (name : List Char)
  | ipv4 (number : Nat)
  | ipv6 (pieces : List Nat)
  | plain (text : List Char)
  deriving DecidableEq, Repr, Inhabited

namespace Host

/-! ## Addresses of version 4 -/

/-- What stands in a part of an address of version 4. -/
inductive Part where
  /-- Not a number. -/
  | text
  | number (n : Nat)
  deriving DecidableEq, Repr, Inhabited

/-- The base of a numeral, and its digits. -/
def baseOf (cs : List Char) : Nat × List Char :=
  match cs with
  | '0' :: 'x' :: rest | '0' :: 'X' :: rest => (16, rest)
  | '0' :: c :: rest => (8, c :: rest)
  | cs => (10, cs)

/-- What a part of an address is; the base sign alone is zero. -/
def partOf (cs : List Char) : Part :=
  if cs.isEmpty then .text
  else
    let (base, digits) := baseOf cs
    match digits.foldlM (fun acc c =>
        (Hex.value? c).bind fun d => if d < base then some (acc * base + d) else none) 0 with
    | some n => .number n
    | none => .text

/-- The labels of a name, without an empty one at its end. -/
def labelsOf (name : List Char) : List (List Char) :=
  let labels := name.splitOn '.'
  if labels.getLast? = some [] then labels.dropLast else labels

/-- Whether the last label of a name is a number. -/
def endsInNumber (name : List Char) : Bool :=
  match (labelsOf name).getLast? with
  | none => false
  | some last =>
      (!last.isEmpty && last.all Char.isDigit) || decide (partOf last ≠ .text)

/-- The number of a part that fits into 32 bits. -/
def Part.number? : Part → Option Nat
  | .number n => if n ≤ Numeral.max32 then some n else none
  | .text => none

/-- The number of an address of version 4. -/
def ipv4? (name : List Char) : Option Nat := do
  let labels := labelsOf name
  if labels.length > 4 then none
  else
    let numbers ← labels.mapM fun label => (partOf label).number?
    let front := numbers.dropLast
    let last ← numbers.getLast?
    if last < Nat.pow 256 (4 - front.length) ∧ front.all (· < 256) then
      some (front.zipIdx.foldl (fun acc p => acc + p.1 * Nat.pow 256 (3 - p.2)) last)
    else none

/-! ## Addresses of version 6 -/

/-- An address of version 6 under way: its pieces so far, the last first, and how many
there were when a run of zeros was left out. -/
structure Pieces where
  found : List Nat
  gap : Option Nat
  deriving DecidableEq, Repr, Inhabited

/-- How many pieces there are; the run that was left out counts as one. -/
def Pieces.count (p : Pieces) : Nat := p.found.length + (if p.gap.isSome then 1 else 0)

/-- The pieces of an address, with the run that was left out. -/
def Pieces.all? (p : Pieces) : Option (List Nat) :=
  let found := p.found.reverse
  match p.gap with
  | none => if found.length = 8 then some found else none
  | some at' =>
      if found.length ≤ 7 then
        some (found.take at' ++ List.replicate (8 - found.length) 0 ++ found.drop at')
      else none

/-- A decimal number below 256 without leading zeros. -/
def byte? (cs : List Char) : Option Nat :=
  match cs with
  | [] => none
  | ['0'] => some 0
  | '0' :: _ => none
  | cs =>
      (cs.foldlM (fun acc c => (Numeral.digit? c).bind fun d =>
        if acc * 10 + d < 256 then some (acc * 10 + d) else none) 0)

/-- The two pieces of an address of version 4 at the end of one of version 6. -/
def tail4? (cs : List Char) : Option (List Nat) :=
  match (cs.splitOn '.').mapM byte? with
  | some [a, b, c, d] => some [c * 256 + d, a * 256 + b]
  | _ => none

/-- Reads the pieces of an address of version 6. -/
def readPieces (p : Pieces) (cs : List Char) : Option Pieces :=
  match cs with
  | [] => some p
  | ':' :: rest =>
      if p.count < 8 ∧ p.gap.isNone then readPieces { p with gap := some p.found.length } rest
      else none
  | c :: more =>
      if p.count ≥ 8 then none
      else
        let run := ((c :: more).take 4).takeWhile fun c => (Hex.value? c).isSome
        let found := ((Hex.read? run).getD 0) :: p.found
        match _rest : (c :: more).drop run.length with
        | [] => some { p with found }
        | '.' :: _ =>
            if run.isEmpty ∨ p.count > 6 then none
            else (tail4? (c :: more)).map fun pair => { p with found := pair ++ p.found }
        | ':' :: rest => if rest.isEmpty then none else readPieces { p with found } rest
        | _ => none
termination_by cs.length
decreasing_by
  · simp
  · have := congrArg List.length _rest
    simp only [List.length_drop, List.length_cons] at this
    simp only [List.length_cons]
    omega

/-- The pieces of an address of version 6. -/
def ipv6? (cs : List Char) : Option (List Nat) :=
  match cs with
  | ':' :: ':' :: rest => (readPieces ⟨[], some 0⟩ rest).bind Pieces.all?
  | [] | [_] | ':' :: _ => none
  | cs => (readPieces ⟨[], none⟩ cs).bind Pieces.all?

/-- The longest run of zeros, the first of several, as its beginning and length. -/
def longestZeros (pieces : List Nat) : Nat × Nat :=
  ((List.range 8).map fun i => (i, ((pieces.drop i).takeWhile (· = 0)).length)).foldl
    (fun best run => if best.2 < run.2 then run else best) (0, 0)

/-- Pieces with colons between them. -/
def piecesText (pieces : List Nat) : List Char := [':'].intercalate (pieces.map Hex.ofNat)

/-- The text of an address of version 6; the longest run of two zeros or more is left
out. -/
def ipv6Text (pieces : List Nat) : List Char :=
  let (first, length) := longestZeros pieces
  if length < 2 then piecesText pieces
  else piecesText (pieces.take first) ++ ':' :: ':' :: piecesText (pieces.drop (first + length))

/-! ## Hosts -/

/-- The text of a host. -/
def text : Host → List Char
  | .domain name => name
  | .plain text => text
  | .ipv4 n =>
      ['.'].intercalate
        ([n / 0x1000000, n / 0x10000 % 256, n / 0x100 % 256, n % 256].map Numeral.ofNat)
  | .ipv6 pieces => '[' :: (ipv6Text pieces ++ [']'])

/-- Reads what stands in brackets. -/
def parseBracketed (cs : List Char) : Except UrlFault Host :=
  if cs.getLast? = some ']' then
    match ipv6? cs.dropLast with
    | some pieces => .ok (.ipv6 pieces)
    | none => .error .ipv6
  else .error .ipv6

/-- Reads the host of a scheme that has hosts. -/
def parse (cs : List Char) : Except UrlFault Host :=
  match cs with
  | '[' :: rest => parseBracketed rest
  | cs =>
      match Idna.toAscii? (Utf8.decodeLossy (Percent.bytes cs)) with
      | none => .error .domainName
      | some [] => .error .emptyHost
      | some name =>
          if endsInNumber name then
            match ipv4? name with
            | some n => .ok (.ipv4 n)
            | none => .error .ipv4
          else .ok (.domain name)

/-- The characters that no host may hold. -/
def isDelimiter (c : Char) : Bool := "\x00\t\n\r #/:<>?@[\\]^|".toList.contains c

/-- Reads the host of any other scheme. -/
def parseOpaque (cs : List Char) : Except UrlFault Host :=
  match cs with
  | '[' :: rest => parseBracketed rest
  | cs =>
      if cs.any isDelimiter then .error .domainCharacter
      else .ok (.plain (Percent.encode Percent.isControl cs))

end Host

end Gatehouse
