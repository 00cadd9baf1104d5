/-
  Gatehouse/Relay/Status.lean --- the status of an answer.

  Main definitions: `HttpStatus`, `HttpStatus.ofLine?`, `HttpStatus.text`.
-/
import Gatehouse.Text.Numeral

set_option autoImplicit false

namespace Gatehouse

/-- The status of an answer. -/
structure HttpStatus where
  code : Nat
  deriving DecidableEq, Repr, Inhabited

namespace HttpStatus

/-- The phrases of the registered codes. -/
def phrases : List (Nat × String) :=
  [(100, "Continue"), (101, "Switching Protocols"), (102, "Processing"), (200, "OK"),
   (201, "Created"), (202, "Accepted"), (203, "Non Authoritative Information"),
   (204, "No Content"), (205, "Reset Content"), (206, "Partial Content"),
   (207, "Multi-Status"), (208, "Already Reported"), (226, "IM Used"),
   (300, "Multiple Choices"), (301, "Moved Permanently"), (302, "Found"),
   (303, "See Other"), (304, "Not Modified"), (305, "Use Proxy"),
   (307, "Temporary Redirect"), (308, "Permanent Redirect"), (400, "Bad Request"),
   (401, "Unauthorized"), (402, "Payment Required"), (403, "Forbidden"),
   (404, "Not Found"), (405, "Method Not Allowed"), (406, "Not Acceptable"),
   (407, "Proxy Authentication Required"), (408, "Request Timeout"), (409, "Conflict"),
   (410, "Gone"), (411, "Length Required"), (412, "Precondition Failed"),
   (413, "Payload Too Large"), (414, "URI Too Long"), (415, "Unsupported Media Type"),
   (416, "Range Not Satisfiable"), (417, "Expectation Failed"), (418, "I'm a teapot"),
   (421, "Misdirected Request"), (422, "Unprocessable Entity"), (423, "Locked"),
   (424, "Failed Dependency"), (426, "Upgrade Required"), (428, "Precondition Required"),
   (429, "Too Many Requests"), (431, "Request Header Fields Too Large"),
   (451, "Unavailable For Legal Reasons"), (500, "Internal Server Error"),
   (501, "Not Implemented"), (502, "Bad Gateway"), (503, "Service Unavailable"),
   (504, "Gateway Timeout"), (505, "HTTP Version Not Supported"),
   (506, "Variant Also Negotiates"), (507, "Insufficient Storage"), (508, "Loop Detected"),
   (510, "Not Extended"), (511, "Network Authentication Required")]

/-- The code with its registered phrase, whatever phrase came with it. -/
def text (s : HttpStatus) : String :=
  String.ofList (Numeral.ofNat s.code) ++ " "
    ++ (phrases.lookup s.code).getD "<unknown status code>"

/-- Whether the request was accepted. -/
def isSuccess (s : HttpStatus) : Bool := 200 ≤ s.code && s.code < 300

/-- Whether the answer only announces another one. -/
def isInterim (s : HttpStatus) : Bool := s.code < 200 && s.code ≠ 101

/-- Whether an answer with this status has a body. -/
def hasBody (s : HttpStatus) : Bool := 200 ≤ s.code && s.code ≠ 204 && s.code ≠ 304

/-- Whether a character may stand in a phrase. -/
def inPhrase (c : Char) : Bool := c = '\t' || (0x20 ≤ c.toNat && c.toNat ≠ 0x7F)

/-- The status on a line: three digits, then nothing or a blank and a phrase. -/
def ofLine? (line : List Char) : Option HttpStatus :=
  match line with
  | a :: b :: c :: rest => do
      let x ← Numeral.digit? a
      let y ← Numeral.digit? b
      let z ← Numeral.digit? c
      let isPhrase : Bool := match rest with
        | [] => true
        | ' ' :: phrase => phrase.all inPhrase
        | _ => false
      if x ≠ 0 ∧ isPhrase then some ⟨100 * x + 10 * y + z⟩ else none
  | _ => none

end HttpStatus

end Gatehouse
