import MeshSurvey.Duration
import MeshSurvey.Json.Codec
import MeshSurvey.Text.Quoted

/-!
# Failures

Everything that can go wrong in a survey, with the facts that a reader needs to find the cause. The
wording of a failure is given wherever it is this library's own; where the words would be those of a
transport or a decoder there is none. Some failures mean that a peer could not be reached, which
tells a caller that another way to the same data is worth a try.
-/

namespace MeshSurvey

/-- The wording of a mismatch, where it is this library's own. -/
def Mismatch.message? : Mismatch → Option String
  | .form => none
  | .unknownName enumeration name =>
    some ("unknown " ++ enumeration ++ " value " ++ Text.quoted name)

/-- What went wrong. -/
inductive Failure where
  /-- No connection within the time allowed. -/
  | deadlineExceeded (address : String) (timeout : Duration)
  /-- A socket could not be connected. -/
  | dial (address reason : String)
  /-- A connection broke while it was being set up. -/
  | transport (address : String)
  /-- An address that makes no URI. -/
  | invalidAddress (address : String)
  /-- The peer ended the discovery stream with a status. -/
  | status (code : Nat) (text : String)
  /-- No response within the time allowed. -/
  | requestTimeout (typeUrl : String) (timeout : Duration)
  /-- The discovery stream is closed. -/
  | streamClosed
  /-- A response of another type than the one requested. -/
  | typeUrlMismatch (requested received : String)
  /-- A resource's name that is no namespace and name. -/
  | malformedName (name : String)
  /-- A type that is not known. -/
  | unregisteredKind (typeUrl : String)
  /-- Bytes that are no message of the kind. -/
  | decode (kind : String)
  /-- JSON that is no value of the kind. -/
  | json (kind : String) (mismatch : Mismatch)
  /-- A peer that does not follow the protocol. -/
  | protocol (text : String)
  /-- Objects of a kind could not be fetched. -/
  | fetch (kind : String) (source : Failure)
  /-- An HTTP request failed, with a status if there was a response. -/
  | http (url : String) (status : Option Nat)
  /-- A result that is not usable. -/
  | verify (text : String)
  /-- Every strategy of a chain failed, each with its own failure. -/
  | exhausted (fact : String) (attempts : List (String × Failure))
  /-- A version that cannot be read. -/
  | unknownVersion (version : String)
  /-- No address of a control plane is known. -/
  | noControlPlane
  /-- The operating system refused something. -/
  | io (text : String)
  deriving Inhabited

namespace Failure

/-- The code of the status that says that a service is unavailable. -/
def unavailable : Nat := 14

/-- Whether a peer could not be reached. -/
def isConnectivity : Failure → Bool
  | .deadlineExceeded .. | .requestTimeout .. | .dial .. | .transport .. | .http .. => true
  | .status code _ => code = unavailable
  | .fetch _ source => source.isConnectivity
  | _ => false

mutual

/-- The wording of a failure, where it is this library's own. -/
def message? : Failure → Option String
  | .deadlineExceeded address timeout =>
    some ("dial " ++ address ++ ": deadline exceeded after " ++ timeout.text)
  | .dial address reason => some ("dial " ++ address ++ ": " ++ reason)
  | .invalidAddress address => some ("invalid address " ++ Text.quoted address)
  | .requestTimeout typeUrl timeout =>
    some ("no response for " ++ typeUrl ++ " within " ++ timeout.text)
  | .streamClosed => some "discovery stream closed"
  | .typeUrlMismatch requested received =>
    some ("type URL mismatch: requested " ++ requested ++ ", received " ++ received)
  | .malformedName name =>
    some ("malformed resource name " ++ Text.quoted name ++ ": expected namespace/name")
  | .unregisteredKind typeUrl => some ("kind " ++ typeUrl ++ " is not registered")
  | .protocol text => some ("protocol error: " ++ text)
  | .fetch kind source => (message? source).map fun text ↦ "fetch " ++ kind ++ ": " ++ text
  | .verify text => some ("verification failed: " ++ text)
  | .exhausted fact attempts =>
    (attemptMessages? attempts).map fun texts ↦
      "; ".intercalate (("no " ++ fact ++ " strategy succeeded") :: texts)
  | .unknownVersion version =>
    some ("unrecognized control-plane version " ++ Text.quoted version)
  | .noControlPlane => some "no control-plane address discovered"
  | .io text => some text
  | .transport _ | .status .. | .decode _ | .json .. | .http .. => none

/-- The wording of each attempt of a chain: the strategy's name and its failure. -/
def attemptMessages? : List (String × Failure) → Option (List String)
  | [] => some []
  | (strategy, failure) :: attempts => do
    let text ← message? failure
    let texts ← attemptMessages? attempts
    return (strategy ++ ": " ++ text) :: texts

end

end Failure

end MeshSurvey
