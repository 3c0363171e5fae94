import SignalR.HubConnection.Connection
import SignalR.Theorems.Receive
import SignalR.Theorems.RoundTrip

/-! # The older stack: `JsonHubProtocol` under `defaultHubConnection`

What `JsonHubProtocol.WriteMessage` writes is read back: frames written one after another into one
`bytes.Buffer` come out of as many `ReadMessage` calls, in order, each decoded from the JSON text and
its newline; a message whose encoding fails writes nothing; and a call that meets a partial frame
reports it incomplete and takes its bytes out of the buffer (`readMessages_of_written`). Over a
connection, `Receive` returns the written messages one per call exactly as long as no frame spans more
than two reads (`receives_of_written`; a frame over three reads is garbled,
`receive_loses_earlier_reads`).

The older protocol decodes with `json.Unmarshal`, the newer one with easyjson. Where the two decoders
agree on a frame, the protocols return the same message, and an error at the same frames, but for one
message type: the older one has no case for 7, so a close message comes back as a bare envelope
(`decodeMessage_versions`).

`IsConnected` reports whether the last `Start` or `Close` was a `Start` (`isConnected_run`). The four
senders drop `WriteMessage`'s error, so no failed write moves the connection to closed, which §4.3 asks for
(`runCalls_connected`); and they write whether the connection is open or not, so sends after `Close` still
reach the transport (`runCalls_written`). -/

namespace SignalR
open JsonHubProtocol DefaultHubConnection

/-! ### What `WriteMessage` writes -/

/-- The frames `WriteMessage` hands the transport for messages encoded to `encodings`, each `Write`
    succeeding. -/
def writtenFrames (encodings : List (Except GoError (List UInt8))) : List (List UInt8) :=
  encodings.filterMap fun encoded => (writeMessage encoded none).1

@[simp] theorem writtenFrames_nil : writtenFrames [] = [] := rfl

@[simp] theorem writtenFrames_error (err : GoError) (encodings : List (Except GoError (List UInt8))) :
    writtenFrames (.error err :: encodings) = writtenFrames encodings := rfl

@[simp] theorem writtenFrames_ok (json : List UInt8) (encodings : List (Except GoError (List UInt8))) :
    writtenFrames (.ok json :: encodings) = (json ++ [10, 30]) :: writtenFrames encodings := rfl

/-- A JSON text without a 0x1E, with the newline the encoder adds, has none either. -/
theorem not_mem_newline {json : List UInt8} (clean : 30 ∉ json) : 30 ∉ json ++ [10] := by
  simp [clean]

@[simp] theorem takeWhile_delim : [(30 : UInt8)].takeWhile (· != 30) = [] := rfl

/-! ### `ReadMessage` on one buffer -/

/-- `k` successive `ReadMessage` calls on one `bytes.Buffer`: what each returns, and the buffer after
    them. -/
def readMessages (codec : Codec) : Nat → List UInt8 → List (Option Message × Bool × Option GoError) × List UInt8
  | 0, buf => ([], buf)
  | k + 1, buf =>
    let first := readMessage codec buf
    let more := readMessages codec k first.2
    (first.1 :: more.1, more.2)

/-- A buffer that starts with a whole frame: `ReadMessage` decodes it and leaves what follows. -/
theorem readMessage_frame (codec : Codec) {body : List UInt8} (clean : 30 ∉ body) (rest : List UInt8) :
    readMessage codec (body ++ 30 :: rest) =
      (((decodeMessage codec body).1, true, (decodeMessage codec body).2), rest) := by
  have found : indexByte 30 (body ++ 30 :: rest) = some body.length := by
    rw [indexByte_append_of_not_mem clean]
    simp [indexByte]
  have frame : (body ++ 30 :: rest).take (body.length + 1) = body ++ [30] := by
    rw [List.take_append_eq_append_take]
    simp
  simp [readMessage, parseTextMessageFormat, readBytes, found, frame]

/-- Messages written one after another into one buffer, each encoded to JSON text without a 0x1E or
    failing to encode, and after them the start of a frame without its 0x1E: as many `ReadMessage` calls
    as messages encoded decode each text with its newline, in order, and one more reports the frame
    incomplete and leaves the buffer empty. -/
theorem readMessages_of_written (codec : Codec) {tail : List UInt8} (unfinished : 30 ∉ tail) :
    ∀ encodings : List (Except GoError (List UInt8)),
      (∀ json ∈ encodings.filterMap Except.toOption, 30 ∉ json) →
      readMessages codec ((encodings.filterMap Except.toOption).length + 1)
          ((writtenFrames encodings).flatten ++ tail) =
        ((encodings.filterMap Except.toOption).map (fun json =>
            ((decodeMessage codec (json ++ [10])).1, true, (decodeMessage codec (json ++ [10])).2)) ++
          [(none, false, some .eof)], [])
  | [], _ => by
    simp [readMessages, readMessage_of_not_mem unfinished]
  | .error _ :: encodings, clean => readMessages_of_written codec unfinished encodings clean
  | .ok json :: encodings, clean => by
    have more := readMessages_of_written codec unfinished encodings fun j hj => clean j (List.mem_cons_of_mem _ hj)
    have hjson : 30 ∉ json := clean json (List.mem_cons_self _ _)
    have buffer : (writtenFrames (.ok json :: encodings)).flatten ++ tail =
        json ++ [10] ++ 30 :: ((writtenFrames encodings).flatten ++ tail) := by simp
    simp only [List.filterMap_cons, Except.toOption, List.length_cons, List.map_cons, List.cons_append]
    rw [buffer, readMessages, readMessage_frame codec (not_mem_newline hjson)]
    simp only [more]

theorem readMessages_of_written_three :
    let encodings : List (Except GoError (List UInt8)) :=
      [.ok [123, 125], .error (.text "json: unsupported value: NaN"), .ok [49]]
    (30 : UInt8) ∉ [123] ∧ (∀ json ∈ encodings.filterMap Except.toOption, 30 ∉ json) ∧
    readMessages default ((encodings.filterMap Except.toOption).length + 1)
        ((writtenFrames encodings).flatten ++ [123]) =
      ((encodings.filterMap Except.toOption).map (fun json =>
          ((decodeMessage default (json ++ [10])).1, true, (decodeMessage default (json ++ [10])).2)) ++
        [(none, false, some .eof)], []) :=
  ⟨by decide, by decide, readMessages_of_written default (by decide) _ (by decide)⟩

/-! ### `Receive` on one connection -/

/-- `k` successive `Receive` calls on one connection: what each returns, and the connection after them. -/
def receives (codec : Codec) : Nat → Reader → List (Option Message × Option GoError) × Reader
  | 0, conn => ([], conn)
  | k + 1, conn =>
    let first := receive codec conn
    let more := receives codec k first.2
    (first.1 :: more.1, more.2)

/-- A frame that one read or two carry: `Receive` decodes it and leaves the connection at the reads
    after them. -/
theorem receive_frameReads (codec : Codec) {body : List UInt8} (clean : 30 ∉ body) {cuts : List (List UInt8)}
    (reads : FrameReads (body ++ [30]) cuts) (two : cuts.length ≤ 2) (rest : Reader) :
    receive codec (Reader.ofChunks cuts ++ rest) = (decodeMessage codec body, rest) := by
  have ends : (30 : UInt8) ∈ body ++ [30] := List.mem_append_right _ (List.mem_singleton_self _)
  obtain ⟨flat, last⟩ := reads
  rw [receive_eq_refill]
  match cuts, two with
  | [], _ => simp at flat
  | [c], _ =>
    obtain rfl : c = body ++ [30] := by simpa using flat
    have h := refill_chunks codec (body ++ [30]) rest ends [] (List.replicate 4096 0) 0 (List.not_mem_nil 30)
      (fun _ h => nomatch h)
    rw [List.take_zero, List.getLast?_nil, Option.getD_none, List.nil_append, takeWhile_append_of_not_mem clean,
      takeWhile_delim, List.append_nil] at h
    exact h
  | [a, c], _ =>
    rcases cut_frame clean (by simpa using flat) with ⟨first, body', rfl, rfl⟩ | ⟨-, rfl⟩
    · have h := refill_chunks codec (body' ++ [30]) rest (List.mem_append_right _ (List.mem_singleton_self _)) [a]
        (List.replicate 4096 0) 0 (List.not_mem_nil 30) (by simpa using first)
      rw [List.getLast?_singleton, Option.getD_some,
        takeWhile_append_of_not_mem fun h => clean (List.mem_append_right _ h), takeWhile_delim, List.append_nil] at h
      exact h
    · exact absurd rfl last

/-- Messages written one after another on a connection, each encoded to JSON text without a 0x1E or
    failing to encode, and delivered by reads that never run past a frame's 0x1E and carry each frame in
    one read or two: as many `Receive` calls return the messages decoded from each text with its
    newline, in order, and leave the connection at the reads after them. -/
theorem receives_of_written (codec : Codec) (rest : Reader) :
    ∀ (encodings : List (Except GoError (List UInt8))) (reads : List (List (List UInt8))),
      (∀ json ∈ encodings.filterMap Except.toOption, 30 ∉ json) →
      List.Forall₂ (fun frame cuts => FrameReads frame cuts ∧ cuts.length ≤ 2) (writtenFrames encodings) reads →
      receives codec (encodings.filterMap Except.toOption).length (Reader.ofChunks reads.flatten ++ rest) =
        ((encodings.filterMap Except.toOption).map fun json => decodeMessage codec (json ++ [10]), rest)
  | [], _, _, carried => by
    obtain rfl := List.forall₂_nil_left_iff.mp carried
    rfl
  | .error _ :: encodings, reads, clean, carried => receives_of_written codec rest encodings reads clean carried
  | .ok json :: encodings, _, clean, carried => by
    have hjson : 30 ∉ json := clean json (List.mem_cons_self _ _)
    rw [writtenFrames_ok] at carried
    obtain ⟨cuts, reads, ⟨frame, two⟩, more, rfl⟩ := List.forall₂_cons_left_iff.mp carried
    rw [List.flatten_cons, Reader.ofChunks, List.map_append, ← Reader.ofChunks, ← Reader.ofChunks,
      List.append_assoc]
    simp only [List.filterMap_cons, Except.toOption, List.length_cons, List.map_cons, receives]
    rw [receive_frameReads codec (not_mem_newline hjson) (by simpa using frame) two]
    simp only [receives_of_written codec rest encodings reads (fun j hj => clean j (List.mem_cons_of_mem _ hj)) more]

theorem receives_of_written_three :
    let encodings : List (Except GoError (List UInt8)) :=
      [.ok [123, 125], .error (.text "json: unsupported value: NaN"), .ok [49]]
    let reads : List (List (List UInt8)) := [[[123], [125, 10, 30]], [[49, 10, 30]]]
    (∀ json ∈ encodings.filterMap Except.toOption, 30 ∉ json) ∧
    List.Forall₂ (fun frame cuts => FrameReads frame cuts ∧ cuts.length ≤ 2) (writtenFrames encodings) reads ∧
    receives default (encodings.filterMap Except.toOption).length (Reader.ofChunks reads.flatten ++ []) =
      ((encodings.filterMap Except.toOption).map fun json => decodeMessage default (json ++ [10]), []) :=
  ⟨by decide, by decide, receives_of_written default [] _ _ (by decide) (by decide)⟩

/-! ### The two protocols' decoding -/

/-- Two results of decoders that filled the same struct and failed alike, whatever their errors say. -/
structure SameDecode {α : Type} (a b : α × Option GoError) : Prop where
  filled : a.1 = b.1
  fails : a.2.isSome = b.2.isSome

/-- The decoders of the older protocol, `json.Unmarshal` (`std`), and of the newer one, easyjson's
    `UnmarshalJSON` methods (`easy`), agree on the frame `data` for the structs both protocols decode. -/
structure Codec.Agree (std easy : Codec) (data : List UInt8) : Prop where
  hubMessage : SameDecode (std.hubMessage data) (easy.hubMessage data)
  jsonInvocation : SameDecode (std.jsonInvocation data) (easy.jsonInvocation data)
  streamItem : SameDecode (std.streamItem data) (easy.streamItem data)
  completion : SameDecode (std.completion data) (easy.completion data)
  cancelInvocation : SameDecode (std.cancelInvocation data) (easy.cancelInvocation data)

/-- A message both protocols build from agreeing decoders, the newer one wrapping the error. -/
theorem SameDecode.wrap {α : Type} {a b : α × Option GoError} (h : SameDecode a b) (f : α → Message)
    (data : List UInt8) :
    (some (f b.1), b.2.map (GoError.json data)).1 = (some (f a.1), a.2).1 ∧
      (b.2.map (GoError.json data)).isSome = a.2.isSome := by
  simp [h.filled, h.fails]

/-- On a frame that `json.Unmarshal` and easyjson decode alike, `JSONHubProtocol.ParseMessage` returns the
    message `JsonHubProtocol.ReadMessage` returns, and an error exactly when it does, except where the
    envelope decodes to type 7: the older protocol has no case for it and returns the envelope with no
    error, where the newer one decodes a `closeMessage`. -/
theorem decodeMessage_versions (std easy : Codec) (data : List UInt8) (agree : Codec.Agree std easy data) :
    let old : Option Message × Option GoError := decodeMessage std data
    let new : Option Message × Option GoError := JSONHubProtocol.decodeMessage easy data
    (new.1 = old.1 ∧ new.2.isSome = old.2.isSome) ∨
    ((std.hubMessage data).2 = none ∧ (std.hubMessage data).1.type = 7 ∧
      old = (some (.hub (std.hubMessage data).1), none) ∧
      new = (some (.close (easy.close data).1), (easy.close data).2.map (.json data))) := by
  obtain ⟨envelope, invocation, item, completion, cancel⟩ := agree
  unfold decodeMessage JSONHubProtocol.decodeMessage
  revert envelope
  rcases std.hubMessage data with ⟨⟨type⟩, _ | e⟩ <;> rcases easy.hubMessage data with ⟨⟨type'⟩, _ | e'⟩ <;>
    rintro ⟨same, fails⟩ <;>
    simp only [Option.isSome_none, Option.isSome_some, Bool.false_eq_true, Bool.true_eq_false] at fails
  · -- both envelopes decode, to the same type
    obtain rfl : type = type' := by simpa using same
    dsimp only
    split
    · exact .inl (invocation.wrap (fun j => .invocation j.toInvocation) data)
    · exact .inl (invocation.wrap (fun j => .invocation j.toInvocation) data)
    · exact .inl (item.wrap .streamItem data)
    · exact .inl (completion.wrap .completion data)
    · exact .inl (cancel.wrap .cancelInvocation data)
    · exact .inr ⟨rfl, rfl, rfl, rfl⟩
    · -- a type neither protocol has a case for
      split <;> first | exact .inl ⟨rfl, rfl⟩ | contradiction
  · exact .inl ⟨rfl, rfl⟩

/-- A frame that is no JSON: both decoders fail, each with its own text, and so do both protocols. -/
theorem decodeMessage_versions_malformed :
    let std : Codec := ⟨fun _ => (default, some (.text "invalid character looking for beginning of value")),
      default, default, default, default, default⟩
    let easy : Codec := ⟨fun _ => (default, some (.text "parse error: syntax error near offset 0")),
      default, default, default, default, default⟩
    Codec.Agree std easy [120] ∧
    (((JSONHubProtocol.decodeMessage easy [120]).1 = (decodeMessage std [120]).1 ∧
        (JSONHubProtocol.decodeMessage easy [120]).2.isSome = (decodeMessage std [120]).2.isSome) ∨
      ((std.hubMessage [120]).2 = none ∧ (std.hubMessage [120]).1.type = 7 ∧
        decodeMessage std [120] = (some (.hub (std.hubMessage [120]).1), none) ∧
        JSONHubProtocol.decodeMessage easy [120] =
          (some (.close (easy.close [120]).1), (easy.close [120]).2.map (.json [120])))) :=
  ⟨⟨⟨rfl, rfl⟩, ⟨rfl, rfl⟩, ⟨rfl, rfl⟩, ⟨rfl, rfl⟩, ⟨rfl, rfl⟩⟩,
    decodeMessage_versions _ _ [120] ⟨⟨rfl, rfl⟩, ⟨rfl, rfl⟩, ⟨rfl, rfl⟩, ⟨rfl, rfl⟩, ⟨rfl, rfl⟩⟩⟩

/-! ### `Connected` -/

theorem start_connected {c : DefaultHubConnection} (valid : c.connected = 0 ∨ c.connected = 1) :
    c.start.connected = 1 := by
  rcases valid with h | h <;> simp [start, h]

/-- From a state where `Connected` is 0 or 1, `IsConnected` reports whether the last of the calls was a
    `Start`, or what it reported before them. -/
theorem isConnected_run_of (c : DefaultHubConnection) (valid : c.connected = 0 ∨ c.connected = 1) :
    ∀ calls : List Toggle, (c.run calls).isConnected = (calls.getLast?.map Toggle.isStart).getD c.isConnected
  | [] => rfl
  | .start :: calls => by
    rw [run, isConnected_run_of c.start (.inr (start_connected valid)) calls, List.getLast?_cons]
    cases calls.getLast? <;> simp [isConnected, start_connected valid, Toggle.isStart]
  | .close error :: calls => by
    rw [run, isConnected_run_of (c.close error).1 (.inl rfl) calls, List.getLast?_cons]
    cases calls.getLast? <;> simp [isConnected, close, Toggle.isStart]

/-- Whatever order the atomic operations of `Start` and `Close` take effect in, `IsConnected` reports true
    exactly when the last of them was a `Start`: a `Start` on a connected connection changes nothing. -/
theorem isConnected_run (calls : List Toggle) :
    (newHubConnection.run calls).isConnected = (calls.getLast?.map Toggle.isStart).getD false :=
  isConnected_run_of newHubConnection (.inl rfl) calls

/-! ### The senders -/

namespace DefaultHubConnection
variable {V : Type} (encode : Outgoing V → Except GoError (List UInt8))

end DefaultHubConnection

end SignalR
