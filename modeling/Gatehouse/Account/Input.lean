/-
  Gatehouse/Account/Input.lean --- what callers send to the account workflows.
-/
import Gatehouse.Json.Record

set_option autoImplicit false

namespace Gatehouse

/-- A registration. -/
structure SignupInput where
  name : String
  email : String
  password : String
  deriving DecidableEq, Repr, Inhabited

/-- A login. -/
structure LoginInput where
  email : String
  password : String
  deriving DecidableEq, Repr, Inhabited

/-- The tokens to be revoked at logout; the access token may be left out. -/
structure LogoutInput where
  accessToken : Option String
  refreshToken : String
  deriving DecidableEq, Repr, Inhabited

/-- A change of password with a mailed recovery token. -/
structure RecoverInput where
  token : String
  oldPassword : String
  newPassword : String
  deriving DecidableEq, Repr, Inhabited

def SignupInput.ofJson? (v : Json) : Option SignupInput :=
  match v.record? ["name", "email", "password"] with
  | some [name, email, password] => do
      let name ← name.required Json.str?
      let email ← email.required Json.str?
      let password ← password.required Json.str?
      some { name, email, password }
  | _ => none

def LoginInput.ofJson? (v : Json) : Option LoginInput :=
  match v.record? ["email", "password"] with
  | some [email, password] => do
      let email ← email.required Json.str?
      let password ← password.required Json.str?
      some { email, password }
  | _ => none

def LogoutInput.ofJson? (v : Json) : Option LogoutInput :=
  match v.record? ["access_token", "refresh_token"] with
  | some [access, refresh] => do
      let accessToken ← access.nullable Json.str?
      let refreshToken ← refresh.required Json.str?
      some { accessToken, refreshToken }
  | _ => none

def RecoverInput.ofJson? (v : Json) : Option RecoverInput :=
  match v.record? ["token", "old_password", "new_password"] with
  | some [token, old, new] => do
      let token ← token.required Json.str?
      let oldPassword ← old.required Json.str?
      let newPassword ← new.required Json.str?
      some { token, oldPassword, newPassword }
  | _ => none

end Gatehouse
