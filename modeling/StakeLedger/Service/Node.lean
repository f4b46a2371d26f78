import StakeLedger.Data.Json.Reader
import StakeLedger.Delegation.Marker
import StakeLedger.Exchange.Form
import StakeLedger.Lifecycle.Error
import StakeLedger.Service.NodeAddress
import StakeLedger.Service.Settings
import StakeLedger.Text.Base64

/-!
# The Bitcoin Node

The end of the chain is asked of a node by a remote call with basic authentication. What comes back
is a status with a body, or nothing at all if the node cannot be reached.
-/

namespace StakeLedger

/-- What comes back for a request to a node. -/
inductive NodeReply where
  | unreachable
  /-- A response with its `status` and its `body`. -/
  | response (status : Nat) (body : String)
  deriving DecidableEq, Repr

namespace Node

/-- The remote method that asks for the end of the chain. -/
def tipMethod : String := "getblockcount"

/-- The header that authenticates the user of `settings`. -/
def authorization (settings : NodeSettings) : String :=
  let credentials := s!"{settings.user}:{settings.password}"
  "Basic " ++ String.ofList (Base64.encode credentials.toUTF8.toList)

/-- Checks that requests can be made to the address in `settings`. -/
def connect (settings : NodeSettings) : Except ChainError Unit :=
  (NodeAddress.check settings.url).mapError fun fault => .config s!"Invalid Url: {fault.message}"

/-- What the `body` of a reply says a call returned: a result or an error of the node, for the
request of some number. -/
def callResult? (body : Value) : Option (Value × Except Value Value) :=
  let version := body.field? "jsonrpc"
  let accepted := match version with
    | none => true
    | some v => v.text? == some "2.0"
  if accepted then
    match body.field? "id", body.field? "result", body.field? "error" with
    | some id, some result, none => some (id, .ok result)
    | some id, none, some error => some (id, .error error)
    | _, _, _ => none
  else none

/-- The end of the chain as the reply to the request with the number `id` says it. -/
def tip (id : Nat) : NodeReply → Except ChainError Height
  | .unreachable => .error (.rpc "client error (Connect)")
  | .response status body =>
    if status < 200 ∨ 300 ≤ status then .error (.rpc s!"Request rejected {status}")
    else match Json.skipBlanks body.toList with
      | '{' :: _ =>
        match (Json.read? body).bind callResult? with
        | none => .error (.unexpectedResponse "expected value")
        | some (_, .error _) => .error (.rpc "error of the node")
        | some (answered, .ok result) =>
          -- a reply to another request is as good as none
          if answered.nat? = some id then
            match Form.word64.read? result with
            | some height => .ok height
            | none => .error (.unexpectedResponse "expected u64")
          else .error (.rpc "Invalid request ID")
      | _ => .error (.rpc "Malformed request")

end Node

end StakeLedger
