import SignalR.HubConnection.Receive

/-! # `defaultHubConnection` and `JsonHubProtocol.WriteMessage`

A `defaultHubConnection` keeps one flag, `Connected`: `Start` sets it by a compare-and-swap from 0 to 1,
`Close` stores 0 and then writes a close message, and `IsConnected` loads it. The atomic operations
take effect one after another, whatever goroutines call them. Every message the connection sends, from
`Close` and the four senders, goes through the protocol's `WriteMessage`, whose error it drops.

`JsonHubProtocol.WriteMessage` encodes the message with a `json.Encoder` into a buffer of its own, which
ends the text with a newline; it appends the 0x1E and hands the frame to the connection in one `Write`
(§4.2, §4.3). -/

namespace SignalR

namespace JsonHubProtocol

/-- `WriteMessage(message, writer)` of `JsonHubProtocol`, where `json.NewEncoder(&buf).Encode(message)`
    marshals the message to `encoded`, its JSON text or the marshalling error (the encoder then writes
    nothing), and `writer.Write` returns `writeErr`: the bytes handed to `Write`, if it is called, and
    the error returned. `buf.WriteByte(30)` never fails. -/
def writeMessage (encoded : Except GoError (List UInt8)) (writeErr : Option GoError) :
    Option (List UInt8) × Option GoError :=
  match encoded with
  | .error err => (none, some err)
  | .ok json => (some (json ++ [10, 30]), writeErr)

end JsonHubProtocol

/-- The state of a `defaultHubConnection` that its methods change: `Connected`, an `int32`. -/
structure DefaultHubConnection where
  connected : Int
  deriving DecidableEq, Repr

namespace DefaultHubConnection

/-- `newHubConnection(connection, protocol)`: `Connected` is 0. -/
def newHubConnection : DefaultHubConnection := ⟨0⟩

/-- `Start()`: `atomic.CompareAndSwapInt32(&c.Connected, 0, 1)`. -/
def start (c : DefaultHubConnection) : DefaultHubConnection :=
  if c.connected = 0 then { c with connected := 1 } else c

/-- `IsConnected()`: `atomic.LoadInt32(&c.Connected) == 1`. -/
def isConnected (c : DefaultHubConnection) : Bool := c.connected == 1

/-- `Close(error)`: `atomic.StoreInt32(&c.Connected, 0)`, then the close message handed to
    `WriteMessage`. -/
def close (c : DefaultHubConnection) (error : String) : DefaultHubConnection × CloseMessage :=
  ({ c with connected := 0 }, ⟨7, error, true⟩)

/-! ### The senders

`SendInvocation`, `Ping`, `Completion` and `StreamItem` each fill a message struct and hand it to
`c.Protocol.WriteMessage(message, c.Connection)`, dropping the error it returns; they read and change
nothing of the connection. Their `interface{}` payloads are of a type `V`, and `encode` is what
`json.NewEncoder(&buf).Encode` makes of a message: its JSON text, or the marshalling error. -/

/-- The message structs the connection hands to `WriteMessage`: `sendOnlyHubInvocationMessage`, the
    `hubMessage` of a ping, `completionMessage`, `streamItemMessage` and `closeMessage`. -/
inductive Outgoing (V : Type) where
  | invocation (type : Int) (target : String) (arguments : List V)
  | hub (m : HubMessage)
  | completion (type : Int) (invocationID : String) (result : V) (error : String)
  | streamItem (type : Int) (invocationID : String) (item : V)
  | close (m : CloseMessage)
  deriving Repr

section Senders
variable {V : Type} (encode : Outgoing V → Except GoError (List UInt8))

/-- `c.Protocol.WriteMessage(message, c.Connection)` with its error dropped: the bytes handed to the
    connection's `Write`, which returns `writeErr`. -/
def write (message : Outgoing V) (writeErr : Option GoError) : Option (List UInt8) :=
  (JsonHubProtocol.writeMessage (encode message) writeErr).1

/-- `SendInvocation(target, args)`. -/
def sendInvocation (target : String) (args : List V) (writeErr : Option GoError) : Option (List UInt8) :=
  write encode (.invocation 1 target args) writeErr

/-- `Ping()`. -/
def ping (writeErr : Option GoError) : Option (List UInt8) :=
  write encode (.hub ⟨6⟩) writeErr

/-- `Completion(id, result, error)`. -/
def completion (id : String) (result : V) (error : String) (writeErr : Option GoError) : Option (List UInt8) :=
  write encode (.completion 3 id result error) writeErr

/-- `StreamItem(id, item)`. -/
def streamItem (id : String) (item : V) (writeErr : Option GoError) : Option (List UInt8) :=
  write encode (.streamItem 2 id item) writeErr

end Senders

/-! ### Runs -/

/-- A call that changes `Connected`; the other methods leave it alone. -/
inductive Toggle where
  | start
  | close (error : String)
  deriving DecidableEq, Repr

def Toggle.isStart : Toggle → Bool
  | .start => true
  | .close _ => false

/-- The connection after the calls `calls`, in the order their atomic operations took effect. -/
def run (c : DefaultHubConnection) : List Toggle → DefaultHubConnection
  | [] => c
  | .start :: calls => c.start.run calls
  | .close error :: calls => (c.close error).1.run calls

/-- A call of a method of the connection, with what the connection's `Write` returns to the call's
    `WriteMessage`. -/
inductive Call (V : Type) where
  | start
  | close (error : String) (writeErr : Option GoError)
  | sendInvocation (target : String) (args : List V) (writeErr : Option GoError)
  | ping (writeErr : Option GoError)
  | completion (id : String) (result : V) (error : String) (writeErr : Option GoError)
  | streamItem (id : String) (item : V) (writeErr : Option GoError)
  deriving Repr

section Calls
variable {V : Type} (encode : Outgoing V → Except GoError (List UInt8))

/-- One call: the connection after it, and the bytes it hands the connection's `Write`. -/
def step (c : DefaultHubConnection) : Call V → DefaultHubConnection × Option (List UInt8)
  | .start => (c.start, none)
  | .close error writeErr => ((c.close error).1, write encode (.close (c.close error).2) writeErr)
  | .sendInvocation target args writeErr => (c, sendInvocation encode target args writeErr)
  | .ping writeErr => (c, ping encode writeErr)
  | .completion id result error writeErr => (c, completion encode id result error writeErr)
  | .streamItem id item writeErr => (c, streamItem encode id item writeErr)

end Calls

end DefaultHubConnection

end SignalR
