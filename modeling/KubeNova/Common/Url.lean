import KubeNova.Common.Exceptions

/-!
# Endpoints

`validatedEndpoint`, over whatever `new URL(value)` makes of a text.
-/

namespace KubeNova.Common

structure Url where
  protocol : String
  hostname : String
  username : String
  password : String
  search : String
  hash : String
  origin : String
  deriving Repr, DecidableEq

/-- `new URL(value)`, nothing where it throws. -/
abbrev UrlParser := String → Option Url

def Url.isLoopback (url : Url) : Bool := ["localhost", "127.0.0.1", "[::1]"].contains url.hostname

def validatedEndpoint (parseUrl : UrlParser) (value : String) : Except Exception Url :=
  match parseUrl value with
  | none => .error (.badRequest "Invalid OIDC URL")
  | some url =>
      if (url.protocol ≠ "https:" ∧ ¬(url.protocol = "http:" ∧ url.isLoopback = true)) ∨
          url.username ≠ "" ∨ url.password ≠ "" ∨ url.hash ≠ "" then
        .error (.badRequest "OIDC URL requires HTTPS without credentials or fragments")
      else .ok url

end KubeNova.Common
