import SignalR.Protocol.Messages

/-! # `JSONHubProtocol.ParseMessage`

`parseTextMessageFormat` (`jsonhubprotocol.go`) reads from an `io.Reader` into a 1024-byte scratch
slice until a read brings a 0x1E, and returns the bytes before it; `ParseMessage` decodes them, first as
the `type` envelope and then as the message that type names (§4.1, §4.2). -/

namespace SignalR.JSONHubProtocol

/-! ### `parseTextMessageFormat` -/

/-- The locals of `parseTextMessageFormat` at the top of its loop: the bytes collected in `data`, and
    the scratch slice `p`. -/
structure Scan where
  data : List UInt8
  p : List UInt8
  deriving DecidableEq, Repr

/-- `data := make([]byte, 0)`, `p := make([]byte, 1024)`. -/
def Scan.init : Scan := ⟨[], List.replicate 1024 0⟩

/-- `p` after `reader.Read(p)` returned the `n` bytes `bytes`: the reader writes `p[:n]` only. -/
def Scan.fill (st : Scan) (bytes : List UInt8) : List UInt8 := bytes ++ st.p.drop bytes.length

/-- The end of an iteration whose read brought no 0x1E: `data = append(data, p[:n]...)`. -/
def Scan.next (st : Scan) (bytes : List UInt8) : Scan :=
  ⟨st.data ++ (st.fill bytes).take bytes.length, st.fill bytes⟩

/-- The loop of `parseTextMessageFormat` from the state `st` at its top: what the call returns, and the
    reader after it. `IndexByte` scans the whole of `p`, not `p[:n]`. -/
def scan (st : Scan) : Reader → Except GoError (List UInt8) × Reader
  | [] => (.error .eof, [])
  | r :: rest =>
    match r.err with
    | some err => (.error err, rest)
    | none =>
      match indexByte 30 (st.fill r.bytes) with
      | some i => (.ok (st.data ++ (st.fill r.bytes).take i), rest)
      | none => scan (st.next r.bytes) rest

def parseTextMessageFormat (reader : Reader) : Except GoError (List UInt8) × Reader :=
  scan Scan.init reader

/-! ### `ParseMessage` -/

/-- The second half of `ParseMessage`: decode `data` as the envelope, then as the message its `type`
    names; a decoder's error comes back as `&jsonError{string(data), err}`. -/
def decodeMessage (codec : Codec) (data : List UInt8) : Option Message × Option GoError :=
  match codec.hubMessage data with
  | (_, some err) => (none, some (.json data err))
  | (message, none) =>
    match message.type with
    | 1 | 4 =>
      let r := codec.jsonInvocation data
      (some (.invocation r.1.toInvocation), r.2.map (.json data))
    | 2 =>
      let r := codec.streamItem data
      (some (.streamItem r.1), r.2.map (.json data))
    | 3 =>
      let r := codec.completion data
      (some (.completion r.1), r.2.map (.json data))
    | 5 =>
      let r := codec.cancelInvocation data
      (some (.cancelInvocation r.1), r.2.map (.json data))
    | 7 =>
      let r := codec.close data
      (some (.close r.1), r.2.map (.json data))
    | _ => (some (.hub message), none)

/-- `ParseMessage`: the message and error it returns, and the reader after the call. Only an error that
    `errors.Is` `io.EOF` is returned as it is; any other falls through to the decoding with
    `data = nil`. -/
def parseMessage (codec : Codec) (buf : Reader) : (Option Message × Option GoError) × Reader :=
  match parseTextMessageFormat buf with
  | (.error err, buf) => if errorsIs err .eof then ((none, some err), buf) else (decodeMessage codec [], buf)
  | (.ok data, buf) => (decodeMessage codec data, buf)

/-- Every error `decodeMessage` returns is a `jsonError` that carries the frame. -/
theorem decodeMessage_err (codec : Codec) (data : List UInt8) :
    ∀ e, (decodeMessage codec data).2 = some e → ∃ err, e = .json data err := by
  intro e he
  unfold decodeMessage at he
  split at he
  · exact ⟨_, (Option.some.inj he).symm⟩
  · split at he <;> first | cases he | (obtain ⟨err, -, rfl⟩ := Option.map_eq_some'.mp he; exact ⟨err, rfl⟩)

end SignalR.JSONHubProtocol
