import PgmanProxy.Library.GoStrings
import PgmanProxy.Control.Wire

/-!
# Bearer-token authentication

The token source is read on every call, so what it holds at the moment of a
request is an input of `verify`.
-/

namespace PgmanProxy.Control.Auth

open PgmanProxy.Library.GoStrings PgmanProxy.Control.Wire

set_option autoImplicit false

inductive AuthError where
  | required
  | invalid
  | readToken (text : String)
deriving DecidableEq, Repr

def AuthError.text : AuthError → String
  | .required => "auth: credential required"
  | .invalid => "auth: credential invalid"
  | .readToken text => "read token: " ++ text

/-- The code `wrap` answers with: everything but a wrong credential is `auth_required`. -/
def AuthError.code : AuthError → Code
  | .invalid => .authInvalid
  | .required | .readToken _ => .authRequired

structure Authenticator where
  tokenEnv : String
  tokenFile : String
  allowUnauthReads : Bool
  /-- The first eight bytes of a credential's SHA-256, in hex. -/
  digest : String → String

/-- The process environment and file system as the authenticator sees them. -/
structure TokenSource where
  getEnv : String → String
  readFile : String → Except String String

def Authenticator.liveToken (auth : Authenticator) (source : TokenSource) :
    Except String String :=
  if auth.tokenEnv ≠ "" then .ok (source.getEnv auth.tokenEnv)
  else if auth.tokenFile ≠ "" then
    match source.readFile auth.tokenFile with
    | .error text => .error text
    | .ok raw => .ok (trimSpace raw)
  else .error "no token source configured"

def Authenticator.actorFor (auth : Authenticator) (token : String) : String :=
  if token = "" then "anonymous" else "bearer:" ++ auth.digest token

def Authenticator.verify (auth : Authenticator) (source : TokenSource) (header : String) :
    Except AuthError String :=
  match cutLead "Bearer " header with
  | none => .error .required
  | some rest =>
      let supplied := trimSpace rest
      if supplied = "" then .error .required
      else
        match auth.liveToken source with
        | .error text => .error (.readToken text)
        | .ok expected =>
            if expected = "" then .error .invalid
            else if supplied ≠ expected then .error .invalid
            else .ok (auth.actorFor supplied)

end PgmanProxy.Control.Auth
