/-!
# Failures of a request

The exceptions the services throw, with the texts they carry.  `database` is an
error raised by the database client, with its code.
-/

namespace KubeNova.Common

inductive Exception where
  | badRequest (message : String)
  | unauthorized (message : String)
  | forbidden (message : String)
  | notFound (message : String)
  | conflict (message : String)
  | serviceUnavailable (message : String)
  | tooManyRequests (message : String)
  | error (message : String)
  | database (code : String)
  deriving Repr, DecidableEq

def Exception.message : Exception → String
  | badRequest message => message
  | unauthorized message => message
  | forbidden message => message
  | notFound message => message
  | conflict message => message
  | serviceUnavailable message => message
  | tooManyRequests message => message
  | error message => message
  | database code => code

end KubeNova.Common
