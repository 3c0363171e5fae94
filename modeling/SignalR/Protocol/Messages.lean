import SignalR.Go.Reflect

/-! # Protocol messages

The messages of the JSON hub protocol (§3, §6) with the fields the modelled code reads or fills, and
the decoders it calls to fill them. The message declarations are not in the source; only
`jsonInvocationMessage` is (`jsonhubprotocol.go`). -/

namespace SignalR

/-- Modelled from the spec: `hubMessage`, the envelope that carries only the `type` tag (§4.2). -/
structure HubMessage where
  type : Int
  deriving DecidableEq, Repr, Inhabited

/-- Modelled from the spec: `invocationMessage`, an `Invocation` or `StreamInvocation` (§3): the
    arguments are the raw payloads, and `streamIds` the ids of the streams the caller will send. -/
structure InvocationMessage where
  type : Int
  target : String
  invocationID : String
  arguments : List (List UInt8)
  streamIds : List String
  deriving DecidableEq, Repr, Inhabited

/-- `jsonInvocationMessage`: the arguments stay `json.RawMessage`s. -/
structure JsonInvocationMessage where
  type : Int
  target : String
  invocationID : String
  arguments : List (List UInt8)
  streamIds : List String
  deriving DecidableEq, Repr, Inhabited

/-- Modelled from the spec: `streamItemMessage`, one item for the upstream `invocationID` (§3). -/
structure StreamItemMessage where
  type : Int
  invocationID : String
  item : JsonValue
  deriving Repr, Inhabited

/-- Modelled from the spec: `completionMessage`, with a result or an error text (§3). -/
structure CompletionMessage where
  type : Int
  invocationID : String
  result : JsonValue
  error : String
  deriving Repr, Inhabited

/-- Modelled from the spec: `cancelInvocationMessage` (§3). -/
structure CancelInvocationMessage where
  type : Int
  invocationID : String
  deriving DecidableEq, Repr, Inhabited

/-- Modelled from the spec: `closeMessage` (§3). -/
structure CloseMessage where
  type : Int
  error : String
  allowReconnect : Bool
  deriving DecidableEq, Repr, Inhabited

/-- The message a frame decodes to, as the `interface{}` that `ParseMessage` and `ReadMessage`
    return. -/
inductive Message where
  | hub (m : HubMessage)
  | invocation (m : InvocationMessage)
  | streamItem (m : StreamItemMessage)
  | completion (m : CompletionMessage)
  | cancelInvocation (m : CancelInvocationMessage)
  | close (m : CloseMessage)
  deriving Repr

/-- The decoders the protocol code calls: the `UnmarshalJSON` methods easyjson generates for the
    message types, or `json.Unmarshal` into them. Neither is in the source, so every result is stated
    for every codec. Each fills its struct from a frame as far as it gets, and reports an error. -/
structure Codec where
  hubMessage : List UInt8 → HubMessage × Option GoError
  jsonInvocation : List UInt8 → JsonInvocationMessage × Option GoError
  streamItem : List UInt8 → StreamItemMessage × Option GoError
  completion : List UInt8 → CompletionMessage × Option GoError
  cancelInvocation : List UInt8 → CancelInvocationMessage × Option GoError
  close : List UInt8 → CloseMessage × Option GoError
  deriving Inhabited

/-- The invocation `ParseMessage` and `ReadMessage` build from a `jsonInvocationMessage`. -/
def JsonInvocationMessage.toInvocation (j : JsonInvocationMessage) : InvocationMessage :=
  ⟨j.type, j.target, j.invocationID, j.arguments, j.streamIds⟩

end SignalR
