import SignalR.Protocol.Messages

/-! # `streamClient`

The registry of upstream channels (§3, §4.5). `buildChannelArgument` makes a channel for a streaming
parameter and stores it under the invocation's stream id for that parameter; `receiveStreamItem` sends
an item on the channel of its id; `receiveCompletionItem` closes that channel and removes it. The
channels themselves belong to the Go runtime, and the state holds them beside the map. A call either
returns, with the state after it, or panics. -/

namespace SignalR

/-! ### Channels -/

/-- A channel made by `reflect.MakeChan`: whether it is closed, the values sent on it, and the stream id
    it was stored under when it was made (kept for the proofs; the Go channel does not record it). -/
structure Channel where
  closed : Bool
  sent : List GoValue
  streamId : String
  deriving Repr

/-- A `reflect.Value` holding a channel: the channel, by its place among those made, and the element type
    of its type. -/
structure ChanValue where
  ref : Nat
  elem : GoType
  deriving DecidableEq, Repr

/-- A `streamClient`, with the channels made so far. -/
structure StreamClient where
  /-- `upstreamChannels`: the channel stored under a stream id. -/
  upstreamChannels : String → Option ChanValue
  /-- The channels `reflect.MakeChan` has made, in order. -/
  channels : List Channel

/-- `newStreamClient()`. -/
def newStreamClient : StreamClient := ⟨fun _ => none, []⟩

/-- `runtime.Error` of a send on a closed channel. -/
def sendOnClosedChannel : GoError := .runtime "send on closed channel"

/-- `runtime.Error` of a method called on a `nil` interface, such as `Kind()` on `reflect.TypeOf(nil)`. -/
def nilDereference : GoError := .runtime "invalid memory address or nil pointer dereference"

namespace StreamClient

/-- `u.upstreamChannels[sid] = arg`. -/
def store (s : StreamClient) (sid : String) (arg : ChanValue) : StreamClient :=
  { s with upstreamChannels := fun k => if k = sid then some arg else s.upstreamChannels k }

/-- `delete(u.upstreamChannels, sid)`. -/
def delete (s : StreamClient) (sid : String) : StreamClient :=
  { s with upstreamChannels := fun k => if k = sid then none else s.upstreamChannels k }

/-- `reflect.MakeChan(reflect.ChanOf(reflect.BothDir, elem), 0)`, for the stream `sid`. -/
def makeChan (s : StreamClient) (elem : GoType) (sid : String) : ChanValue × StreamClient :=
  (⟨s.channels.length, elem⟩, { s with channels := s.channels ++ [⟨false, [], sid⟩] })

def isClosed (s : StreamClient) (ref : Nat) : Bool := (s.channels[ref]?).any (·.closed)

/-- The channel `ref` after `x` was sent on it. -/
def pushSent (s : StreamClient) (ref : Nat) (x : GoValue) : StreamClient :=
  { s with channels := s.channels.modify (fun c => { c with sent := c.sent ++ [x] }) ref }

/-- The channel `ref` closed. -/
def markClosed (s : StreamClient) (ref : Nat) : StreamClient :=
  { s with channels := s.channels.modify (fun c => { c with closed := true }) ref }

/-- `channel.Close()`; closing a closed channel is a runtime panic. -/
def close (s : StreamClient) (ref : Nat) : Except PanicValue StreamClient :=
  if s.isClosed ref then .error (.error (.runtime "close of closed channel")) else .ok (s.markClosed ref)

/-- `ch.Send(x)`: `reflect` first checks that `x` is assignable to the element type and panics with a
    string if not; the runtime then panics with an error if the channel is closed. -/
def send (s : StreamClient) (ch : ChanValue) (x : GoValue) : Except PanicValue StreamClient :=
  match x.goType with
  | none => .error (.error (.text "reflect: call of reflect.Value.Send on zero Value"))
  | some t =>
    if !assignable t ch.elem then
      .error (.string ("reflect.Value.Send: value of type " ++ t.name ++ " is not assignable to type " ++
        ch.elem.name))
    else if s.isClosed ch.ref then .error (.error sendOnClosedChannel)
    else .ok (s.pushSent ch.ref x)

end StreamClient

/-! ### The three calls -/

open StreamClient

/-- `buildChannelArgument(invocation, argType, chanCount)`: the channel argument (`none` for the zero
    `reflect.Value`), whether the client streams to the parameter, the error; and the state after. -/
def buildChannelArgument (s : StreamClient) (invocation : InvocationMessage) (argType : GoType)
    (chanCount : Nat) : (Option ChanValue × Bool × Option GoError) × StreamClient :=
  match argType.underlying with
  | .chan dir elem =>
    if dir = .send then ((none, false, none), s)
    else if h : chanCount < invocation.streamIds.length then
      let sid := invocation.streamIds[chanCount]
      let r := s.makeChan elem sid
      ((some r.1, true, none), r.2.store sid r.1)
    else
      ((none, true, some (.text ("method " ++ invocation.target ++
        " has more chan parameters than the client will stream"))), s)
  | _ => ((none, false, none), s)

/-- `receiveCompletionItem(completion)`. -/
def receiveCompletionItem (s : StreamClient) (completion : CompletionMessage) : Except PanicValue StreamClient :=
  match s.upstreamChannels completion.invocationID with
  | some channel => (s.close channel.ref).map (·.delete completion.invocationID)
  | none => .ok s

/-- The dynamic type of `reflect.Indirect(reflect.New(elem)).Interface()`, the zero value of `elem` in an
    `interface{}`: `nil` when `elem` is an interface type. -/
def zeroType (elem : GoType) : Option GoType := if elem.kind = .interface then none else some elem

/-- `convertNumberToChannelType(chanElm, number)`: the type switch matches the dynamic type of `chanElm`
    exactly against its thirteen cases, so any other type (`bool`, `uintptr`, `complex64`, `complex128`, a
    defined type, a composite type) and `nil` fall through to `reflect.ValueOf(number), false`. -/
def convertNumberToChannelType (chanElm : Option GoType) (number : Float) : GoValue × Bool :=
  match chanElm with
  | some (.basic .int) => (.ofNumber .int number, true)
  | some (.basic .int8) => (.ofNumber .int8 number, true)
  | some (.basic .int16) => (.ofNumber .int16 number, true)
  | some (.basic .int32) => (.ofNumber .int32 number, true)
  | some (.basic .int64) => (.ofNumber .int64 number, true)
  | some (.basic .uint) => (.ofNumber .uint number, true)
  | some (.basic .uint8) => (.ofNumber .uint8 number, true)
  | some (.basic .uint16) => (.ofNumber .uint16 number, true)
  | some (.basic .uint32) => (.ofNumber .uint32 number, true)
  | some (.basic .uint64) => (.ofNumber .uint64 number, true)
  | some (.basic .float32) => (.ofNumber .float32 number, true)
  | some (.basic .float64) => (.ofNumber .float64 number, true)
  | some (.basic .string) => (.ofNumber .string number, true)
  | _ => (.ofNumber .float64 number, false)

/-- `receiveStreamItem(streamItem)`: the error it returns and the state after, or a panic. A panic in
    `Kind()` on a `nil` type escapes the call; in the goroutine that sends a non-number item, the
    deferred function recovers the panic value and asserts `err.(error)`, which panics in turn when the
    value is a string, and that panic ends the program. -/
def receiveStreamItem (s : StreamClient) (streamItem : StreamItemMessage) :
    Except PanicValue (Option GoError × StreamClient) :=
  match s.upstreamChannels streamItem.invocationID with
  | none => .ok (none, s)
  | some upChan =>
    let chanElm := zeroType upChan.elem
    match streamItem.item with
    | .number f =>
      match convertNumberToChannelType chanElm f with
      | (chanVal, true) => (s.send upChan chanVal).map (none, ·)
      | (_, false) => .ok (none, s)
    | item =>
      match item.goType with
      | none => .error (.error nilDereference)
      | some itemType =>
        if itemType.kind = .slice ∨ itemType.kind = .array then
          match chanElm with
          | none => .error (.error nilDereference)
          | some chanType =>
            if chanType.kind = .slice ∨ chanType.kind = .array then .ok (none, s)
            else .ok (some (.text ("stream item of kind " ++ itemType.kind.name ++
              " paired with channel of type " ++ chanType.name)), s)
        else
          match s.send upChan (.item item) with
          | .ok s => .ok (none, s)
          | .error (.error err) => .ok (some err, s)
          | .error (.string _) =>
            .error (.error (.runtime "interface conversion: string is not error: missing method Error"))

/-! ### Runs -/

/-- One call on the stream client that returns; a call that panics ends the run. -/
inductive Step : StreamClient → StreamClient → Prop
  | build {s t : StreamClient} (invocation : InvocationMessage) (argType : GoType) (chanCount : Nat)
      (r : Option ChanValue × Bool × Option GoError) :
      buildChannelArgument s invocation argType chanCount = (r, t) → Step s t
  | item {s t : StreamClient} (streamItem : StreamItemMessage) (err : Option GoError) :
      receiveStreamItem s streamItem = .ok (err, t) → Step s t
  | completion {s t : StreamClient} (completion : CompletionMessage) :
      receiveCompletionItem s completion = .ok t → Step s t

/-- The states a run of calls from `newStreamClient()` reaches. -/
inductive Reachable : StreamClient → Prop
  | init : Reachable newStreamClient
  | step {s t : StreamClient} : Reachable s → Step s t → Reachable t

end SignalR
