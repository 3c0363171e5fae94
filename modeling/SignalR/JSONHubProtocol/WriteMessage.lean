import SignalR.Go.Bytes

/-! # `JSONHubProtocol.WriteMessage`

A `JSONHubProtocol` keeps one `jwriter.Writer`, `easyWriter`, for all the messages it writes.
`WriteMessage` lets the message's `MarshalEasyJSON` write into it, appends the 0x1E, takes the bytes
with `Buffer.BuildBytes`, which empties the buffer, and hands them to the transport (§4.2). The writer's
`Error` field is neither read nor cleared. -/

namespace SignalR

/-! ### `jwriter.Writer` -/

/-- The fields of `jwriter.Writer` that `WriteMessage` reaches: `Error`, and the bytes in `Buffer`. -/
structure EasyWriter where
  error : Option GoError
  buffer : List UInt8
  deriving DecidableEq, Repr

/-- A call a generated `MarshalEasyJSON` makes on the writer: one that appends its bytes (`RawByte`,
    `RawString`, `String`, `Int`, ...), or `Raw(data, err)`, which the code for an `interface{}` field
    calls with the result of `json.Marshal`. -/
inductive WriterOp where
  | append (bytes : List UInt8)
  | raw (data : List UInt8) (err : Option GoError)
  deriving DecidableEq, Repr

/-- A writer call that reports an encoding failure. -/
def WriterOp.fails : WriterOp → Bool
  | .raw _ (some _) => true
  | _ => false

namespace EasyWriter

/-- `RawByte`, `RawString` and the like append, whatever `Error` holds. -/
def append (w : EasyWriter) (bytes : List UInt8) : EasyWriter := { w with buffer := w.buffer ++ bytes }

/-- `Raw(data, err)`: nothing once `Error` is set; else it records `err`, or appends `data`, or `null`
    for no data. -/
def raw (w : EasyWriter) (data : List UInt8) (err : Option GoError) : EasyWriter :=
  match w.error, err with
  | some _, _ => w
  | none, some e => { w with error := some e }
  | none, none => if data.isEmpty then w.append [110, 117, 108, 108] else w.append data

def exec (w : EasyWriter) : WriterOp → EasyWriter
  | .append bytes => w.append bytes
  | .raw data err => w.raw data err

/-- The writer after the calls of one `MarshalEasyJSON`. -/
def run (w : EasyWriter) (ops : List WriterOp) : EasyWriter := ops.foldl exec w

end EasyWriter

/-! ### `WriteMessage` -/

/-- The `interface{}` handed to `WriteMessage`: a value that implements `easyjson.Marshaler`, given by the
    writer calls of its `MarshalEasyJSON` (generated code, not in the source), or another value, given by
    its `%#v`. -/
inductive Outbound where
  | marshaler (ops : List WriterOp)
  | other (repr : String)
  deriving DecidableEq, Repr

/-- `JSONHubProtocol`, as far as `WriteMessage` reads and changes it. -/
structure JSONHubProtocol where
  easyWriter : EasyWriter
  deriving DecidableEq, Repr

/-- `JSONHubProtocol{}`: no error, an empty buffer. -/
def JSONHubProtocol.fresh : JSONHubProtocol := ⟨⟨none, []⟩⟩

/-- What one `WriteMessage` call does: the bytes it hands to `writer.Write`, if it calls it, the error it
    returns, and the protocol after it. -/
structure WriteResult where
  written : Option (List UInt8)
  err : Option GoError
  protocol : JSONHubProtocol
  deriving DecidableEq, Repr

/-- `WriteMessage(message, writer)`, where `writer.Write` returns `writeErr`. -/
def JSONHubProtocol.writeMessage (v : JSONHubProtocol) (message : Outbound) (writeErr : Option GoError) :
    WriteResult :=
  match message with
  | .marshaler ops =>
    let w := (v.easyWriter.run ops).append [30]
    ⟨some w.buffer, writeErr, ⟨{ w with buffer := [] }⟩⟩
  | .other repr => ⟨none, some (.text (repr ++ " does not implement easyjson.Marshaler")), v⟩

/-- The results of writing `msgs`, one after another, through `v`; each message with what the transport's
    `Write` returns for it. -/
def JSONHubProtocol.writeMessages (v : JSONHubProtocol) : List (Outbound × Option GoError) → List WriteResult
  | [] => []
  | (m, e) :: rest => v.writeMessage m e :: (v.writeMessage m e).protocol.writeMessages rest

end SignalR
