/-
  Gatehouse/Session/Jwt.lean --- signed session tokens.

  A token is three parts with dots between them: a header, the claims, and the
  keyed hash of the first two parts and the dot between them, each in base64url.
  A token is accepted if its hash is right, if its header announces this way of
  signing, if no field of the header or of the claims has a wrong form, if it
  expires at a time that is not negative, and if it names the expected issuer and
  no audience.  Whether it has expired is not checked here.

  Main definitions: `JwtSigner.sign`, `JwtSigner.verify?`.
-/
import Gatehouse.Digest.Hmac
import Gatehouse.Entity
import Gatehouse.Json.Parser
import Gatehouse.Text.Base64Url

set_option autoImplicit false

namespace Gatehouse

/-- The secret that tokens are signed with, and the issuer that they must name. -/
structure JwtSigner where
  secret : String
  issuer : String
  deriving DecidableEq, Repr, Inhabited

namespace Jwt

/-! ## Writing -/

/-- The header of the tokens made here. -/
def header : Json := .obj [("typ", .str "JWT"), ("alg", .str "HS256")]

/-- A JSON value as a part of a token. -/
def part (v : Json) : List Char := Base64Url.encode (Utf8.encode v.render)

/-- The last part of a token, for the text before its last dot. -/
def signature (secret : String) (message : List Char) : List Char :=
  Base64Url.encode (Hmac.sha256 (Utf8.bytes secret) (Utf8.encode message))

/-! ## Reading -/

/-- The parts of a text with exactly two dots. -/
def parts? (cs : List Char) : Option (List Char × List Char × List Char) :=
  match cs.splitOn '.' with
  | [a, b, c] => some (a, b, c)
  | _ => none

/-- The JSON value of a part. -/
def value? (cs : List Char) : Option Json := (Base64Url.decode? cs).bind Json.parseBytes?

/-- A list of texts. -/
def texts? : Json → Option (List String)
  | .arr items => items.mapM Json.str?
  | _ => none

/-- The algorithms that a key may be meant for. -/
def keyAlgorithms : List String :=
  ["HS256", "HS384", "HS512", "ES256", "ES384", "RS256", "RS384", "RS512", "PS256", "PS384",
   "PS512", "EdDSA", "RSA1_5", "RSA-OAEP", "RSA-OAEP-256"]

/-- The curves of keys. -/
def curves : List String := ["P-256", "P-384", "P-521", "Ed25519"]

/-- One of a list of names. -/
def oneOf? (names : List String) : Json → Option String := Json.name? (names.map fun n => (n, n))

/-- Whether an object has the fields of a key of the given type. -/
def hasKeyFields (v : Json) (type : String) (onCurve : Bool) (fields : List String) : Bool :=
  ((v.record? ["kty"]).bind fun slots => slots.mapM (Slot.required (oneOf? [type]))).isSome
    && (!onCurve ||
      ((v.record? ["crv"]).bind fun slots => slots.mapM (Slot.required (oneOf? curves))).isSome)
    && ((v.record? fields).bind fun slots => slots.mapM (Slot.required Json.str?)).isSome

/-- Whether a value is a public key in JSON form. -/
def isKey (v : Json) : Bool :=
  match v with
  | .obj _ =>
      let common : Option Unit := do
        let slots ← v.record? ["use", "kid", "x5u", "x5t", "x5t#S256"]
        let _ ← slots.mapM (Slot.nullable Json.str?)
        let lists ← v.record? ["key_ops", "x5c"]
        let _ ← lists.mapM (Slot.nullable texts?)
        let alg ← v.record? ["alg"]
        let _ ← alg.mapM (Slot.nullable (oneOf? keyAlgorithms))
        some ()
      common.isSome
        && (hasKeyFields v "EC" true ["x", "y"] || hasKeyFields v "RSA" false ["n", "e"]
          || hasKeyFields v "oct" false ["k"] || hasKeyFields v "OKP" true ["x"])
  | _ => false

/-- Whether a value is a header that announces this way of signing. -/
def isHeader (v : Json) : Bool :=
  match v.record? ["typ", "alg", "cty", "jku", "jwk", "kid", "x5u", "x5c", "x5t", "x5t#S256"] with
  | some [typ, alg, cty, jku, jwk, kid, x5u, x5c, x5t, x5t256] =>
      [typ, cty, jku, kid, x5u, x5t, x5t256].all
          (fun slot => (slot.nullable Json.str?).isSome)
        && (alg.required (oneOf? ["HS256"])).isSome
        && (jwk.nullable fun k => if isKey k then some k else none).isSome
        && (x5c.nullable texts?).isSome
  | _ => false

mutual

/-- Whether every string literal in a value spells a text. -/
def isSound : Json → Bool
  | .garbled => false
  | .arr items => areSound items
  | .obj members => membersSound members
  | _ => true

/-- Whether every item of a list is sound. -/
def areSound : List Json → Bool
  | [] => true
  | v :: rest => isSound v && areSound rest

/-- Whether every member of an object is sound. -/
def membersSound : List (String × Json) → Bool
  | [] => true
  | (_, v) :: rest => isSound v && membersSound rest

end

/-- The deepest nesting of a value that names an audience. -/
def maxAudienceDepth : Nat := 126

/-- Whether a slot names no audience: none is given, or null, or something that
does not read as a text or a list of texts. -/
def namesNoAudience : Slot → Bool
  | .given .null => true
  | .given v =>
      isSound v && v.depth ≤ maxAudienceDepth && v.str?.isNone && (texts? v).isNone
  | _ => true

/-- Whether a start of validity may be passed over: anything but a filled list or
object. -/
def mayBeSkipped : Slot → Bool
  | .given (.arr (_ :: _)) | .given (.obj (_ :: _)) | .given .garbled => false
  | _ => true

/-- The claims of a payload that may be accepted. -/
def claims? (issuer : String) (v : Json) : Option Claims :=
  match v, v.record? ["aud", "nbf"] with
  | .obj _, some [aud, nbf] =>
      (Claims.ofJson? v).filter fun c =>
        decide (0 ≤ c.exp) && c.iss == issuer && namesNoAudience aud && mayBeSkipped nbf
  | _, _ => none

end Jwt

namespace JwtSigner

/-- The token of some claims. -/
def sign (s : JwtSigner) (c : Claims) : String :=
  let message := Jwt.part Jwt.header ++ '.' :: Jwt.part c.toJson
  String.ofList (message ++ '.' :: Jwt.signature s.secret message)

/-- The claims of a token that is accepted. -/
def verify? (s : JwtSigner) (token : String) : Option Claims := do
  let (header, payload, signature) ← Jwt.parts? token.toList
  let head ← Jwt.value? header
  if Jwt.isHeader head && signature == Jwt.signature s.secret (header ++ '.' :: payload) then
    (Jwt.value? payload).bind (Jwt.claims? s.issuer)
  else none

end JwtSigner

end Gatehouse
