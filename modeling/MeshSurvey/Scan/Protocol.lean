import MeshSurvey.Failure

/-!
# Ways of probing

How it is found out whether something answers at an address.
-/

namespace MeshSurvey

/-- How an address is probed. -/
inductive ScanProtocol where
  /-- By a connection. -/
  | tcp
  /-- By an HTTP request. -/
  | http
  /-- By an HTTP request over TLS, whatever the certificate. -/
  | https
  deriving DecidableEq, Repr

/-- The protocol with a name. -/
def ScanProtocol.ofName (name : String) : Except Failure ScanProtocol :=
  if name = "tcp" then .ok .tcp
  else if name = "http" then .ok .http
  else if name = "https" then .ok .https
  else .error (.protocol ("unknown scan protocol " ++ Text.quoted name))

end MeshSurvey
