import SignalR.Protocol.Messages

/-! # `defaultHubConnection.Receive` over `JsonHubProtocol.ReadMessage`

The older protocol, `JsonHubProtocol`, reads a frame out of a `bytes.Buffer`: `ReadBytes(30)` takes the
bytes up to the first 0x1E and leaves the rest in the buffer; with no 0x1E it takes all of them and
reports `io.EOF`, which `ReadMessage` turns into `complete = false`. `Receive` fills a buffer of its own
from the connection, 4096 bytes a read, until `ReadMessage` finds a complete frame (§4.1, §4.3). -/

namespace SignalR

namespace JsonHubProtocol

/-- `buf.ReadBytes(delim)` on a `bytes.Buffer` holding `buf`: the bytes up to and including the first
    `delim`, or all of them and `io.EOF`; and what stays in the buffer. -/
def readBytes (delim : UInt8) (buf : List UInt8) : (List UInt8 × Option GoError) × List UInt8 :=
  match indexByte delim buf with
  | some i => ((buf.take (i + 1), none), buf.drop (i + 1))
  | none => ((buf, some .eof), [])

/-- `parseTextMessageFormat` of `JsonHubProtocol`: the frame with its delimiter removed. -/
def parseTextMessageFormat (buf : List UInt8) : (List UInt8 × Option GoError) × List UInt8 :=
  match readBytes 30 buf with
  | ((data, some err), buf) => ((data, some err), buf)
  | ((data, none), buf) => ((data.take (data.length - 1), none), buf)

/-- The decoding half of `ReadMessage`: `json.Unmarshal` into the envelope, then into the message its
    `type` names; the decoders' errors come back as they are. -/
def decodeMessage (codec : Codec) (data : List UInt8) : Option Message × Option GoError :=
  match codec.hubMessage data with
  | (_, some err) => (none, some err)
  | (message, none) =>
    match message.type with
    | 1 | 4 =>
      let r := codec.jsonInvocation data
      (some (.invocation r.1.toInvocation), r.2)
    | 2 =>
      let r := codec.streamItem data
      (some (.streamItem r.1), r.2)
    | 3 =>
      let r := codec.completion data
      (some (.completion r.1), r.2)
    | 5 =>
      let r := codec.cancelInvocation data
      (some (.cancelInvocation r.1), r.2)
    | _ => (some (.hub message), none)

/-- `ReadMessage(buf)`: the message, whether the buffer held a whole frame, the error; and the buffer
    after the call. -/
def readMessage (codec : Codec) (buf : List UInt8) :
    (Option Message × Bool × Option GoError) × List UInt8 :=
  match parseTextMessageFormat buf with
  | ((_, some err), buf) =>
    if errorsIs err .eof then ((none, false, some err), buf) else ((none, true, some err), buf)
  | ((data, none), buf) =>
    let r := decodeMessage codec data
    ((r.1, true, r.2), buf)

end JsonHubProtocol

namespace DefaultHubConnection

/-- The iterations of `Receive` after one in which `ReadMessage` found no whole frame, leaving `buf`:
    `buf.Write(data[:n])` puts back the last read, the next read goes to `data[:n]` and is appended, and
    `ReadMessage` runs again. The result is the message and error `Receive` returns, and the connection
    after the call. -/
def refill (codec : Codec) (buf data : List UInt8) (n : Nat) :
    Reader → (Option Message × Option GoError) × Reader
  | [] => ((none, some .eof), [])
  | r :: rest =>
    match r.err with
    | some err => ((none, some err), rest)
    | none =>
      let data' := r.bytes ++ data.drop r.bytes.length
      match JsonHubProtocol.readMessage codec (buf ++ data.take n ++ data'.take r.bytes.length) with
      | ((message, true, err), _) => ((message, err), rest)
      | ((_, false, _), buf) => refill codec buf data' r.bytes.length rest

/-- `Receive()`: a fresh `bytes.Buffer`, `data := make([]byte, 1<<12)` and `n = 0`, and the first
    `ReadMessage` before any read. -/
def receive (codec : Codec) (conn : Reader) : (Option Message × Option GoError) × Reader :=
  match JsonHubProtocol.readMessage codec [] with
  | ((message, true, err), _) => ((message, err), conn)
  | ((_, false, _), buf) => refill codec buf (List.replicate 4096 0) 0 conn

end DefaultHubConnection

end SignalR
