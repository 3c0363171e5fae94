import SignalR.JSONHubProtocol.WriteMessage

/-! # What `WriteMessage` writes

The writer calls of one message never look at the buffer, and `BuildBytes` empties it, so as long as no
message fails to encode, every `WriteMessage` writes what it would write on a fresh protocol
(`writeMessages_of_encodes`). A failure is different: `Raw` records it in the writer's `Error`, the
bytes around it still go to the transport, `WriteMessage` returns what `Write` returns, and every later
`Raw` of the protocol is skipped (`writeMessage_keeps_encoding_error`). -/

namespace SignalR

/-! ### The writer -/

namespace EasyWriter

@[simp] theorem run_nil (w : EasyWriter) : w.run [] = w := rfl

@[simp] theorem run_cons (w : EasyWriter) (op : WriterOp) (ops : List WriterOp) :
    w.run (op :: ops) = (w.exec op).run ops := rfl

/-- Once `Error` is set, no writer call clears or changes it. -/
theorem exec_error_of_some {w : EasyWriter} {e : GoError} (h : w.error = some e) (op : WriterOp) :
    (w.exec op).error = some e := by
  cases op with
  | append bytes => exact h
  | raw data err => simp [exec, raw, h]

/-- With no error yet, a call leaves none exactly when it does not report a failure. -/
theorem exec_error_of_none {w : EasyWriter} (h : w.error = none) (op : WriterOp) :
    (w.exec op).error = none ↔ op.fails = false := by
  cases op with
  | append bytes => simp [exec, append, h, WriterOp.fails]
  | raw data err =>
    cases err with
    | none => simp only [exec, raw, h, WriterOp.fails]; split <;> simp [append, h]
    | some e => simp [exec, raw, h, WriterOp.fails]

theorem run_error_of_some {w : EasyWriter} {e : GoError} (h : w.error = some e) :
    ∀ ops : List WriterOp, (w.run ops).error = some e
  | [] => h
  | op :: ops => run_error_of_some (exec_error_of_some h op) ops

theorem run_error_of_none {w : EasyWriter} (h : w.error = none) :
    ∀ ops : List WriterOp, (w.run ops).error = none ↔ ∀ op ∈ ops, op.fails = false
  | [] => by simpa using h
  | op :: ops => by
    rw [run_cons]
    by_cases hop : op.fails = false
    · rw [run_error_of_none ((exec_error_of_none h op).mpr hop) ops]
      simp [hop]
    · have hne : (w.exec op).error ≠ none := mt (exec_error_of_none h op).mp hop
      obtain ⟨e, he⟩ := Option.ne_none_iff_exists'.mp hne
      simp [run_error_of_some he, hop]

end EasyWriter

/-! ### `WriteMessage` -/

/-- A message whose encoding reports no failure. -/
def Outbound.encodes : Outbound → Bool
  | .marshaler ops => ops.all (!·.fails)
  | .other _ => true

/-- A message that encodes leaves a fresh protocol fresh. -/
theorem writeMessage_fresh {m : Outbound} (h : m.encodes = true) (e : Option GoError) :
    (JSONHubProtocol.fresh.writeMessage m e).protocol = JSONHubProtocol.fresh := by
  cases m with
  | other repr => rfl
  | marshaler ops =>
    have hops : ∀ op ∈ ops, op.fails = false := by simpa [Outbound.encodes] using h
    have herr := (@EasyWriter.run_error_of_none ⟨none, []⟩ rfl ops).mpr hops
    simp only [JSONHubProtocol.writeMessage, JSONHubProtocol.fresh, EasyWriter.append] at herr ⊢
    rw [herr]

/-- Through one protocol, messages that all encode are each written as a fresh protocol writes them. -/
theorem writeMessages_of_encodes :
    ∀ msgs : List (Outbound × Option GoError), (∀ me ∈ msgs, me.1.encodes = true) →
      JSONHubProtocol.fresh.writeMessages msgs = msgs.map fun me => JSONHubProtocol.fresh.writeMessage me.1 me.2
  | [], _ => rfl
  | (m, e) :: rest, h => by
    rw [JSONHubProtocol.writeMessages, writeMessage_fresh (h (m, e) (List.mem_cons_self _ _)) e,
      writeMessages_of_encodes rest fun me hme => h me (List.mem_cons_of_mem _ hme)]
    rfl

theorem writeMessages_of_encodes_two :
    (∀ me ∈ [(Outbound.marshaler [.append [123], .raw [49] none, .append [125]], (none : Option GoError)),
      (.other "x", none)], me.1.encodes = true) ∧
    JSONHubProtocol.fresh.writeMessages
        [(.marshaler [.append [123], .raw [49] none, .append [125]], none), (.other "x", none)] =
      [JSONHubProtocol.fresh.writeMessage (.marshaler [.append [123], .raw [49] none, .append [125]]) none,
        JSONHubProtocol.fresh.writeMessage (.other "x") none] :=
  ⟨by decide, writeMessages_of_encodes _ (by decide)⟩

/-- A message whose `MarshalEasyJSON` writes `{`, hands `Raw` the error `json.Marshal` returns for its
    result, and writes `}`: the transport gets the frame `{}`, the call returns `nil`, and the error stays
    in the writer, so a next message's `Raw` of `1` is skipped, unlike on a fresh protocol. -/
theorem writeMessage_keeps_encoding_error :
    let failing : Outbound :=
      .marshaler [.append [123], .raw [] (some (.text "json: unsupported value: NaN")), .append [125]]
    let next : Outbound := .marshaler [.append [123], .raw [49] none, .append [125]]
    let r := JSONHubProtocol.fresh.writeMessage failing none
    r.written = some [123, 125, 30] ∧ r.err = none ∧ r.protocol ≠ JSONHubProtocol.fresh ∧
    (r.protocol.writeMessage next none).written = some [123, 125, 30] ∧
    (JSONHubProtocol.fresh.writeMessage next none).written = some [123, 49, 125, 30] := by
  decide

/-! ### After a failure -/

/-- The error a writer call reports: that of a failing `Raw`. -/
def WriterOp.failure : WriterOp → Option GoError
  | .append _ => none
  | .raw _ err => err

/-- What a writer call appends once `Error` is set: a `Raw` appends nothing. -/
def WriterOp.appendedAfterError : WriterOp → List UInt8
  | .append bytes => bytes
  | .raw _ _ => []

/-- A protocol whose writer holds `err` and an empty buffer, as `WriteMessage` leaves it once an encoding
    has failed. -/
def JSONHubProtocol.failed (err : GoError) : JSONHubProtocol := ⟨⟨some err, []⟩⟩

namespace EasyWriter

/-- With `Error` set, the writer calls append what they append and every `Raw` is skipped. -/
theorem run_of_error {w : EasyWriter} {e : GoError} (h : w.error = some e) :
    ∀ ops : List WriterOp, w.run ops = ⟨some e, w.buffer ++ (ops.map WriterOp.appendedAfterError).flatten⟩
  | [] => by
    obtain ⟨error, buffer⟩ := w
    cases h
    simp
  | op :: ops => by
    rw [run_cons, run_of_error (exec_error_of_some h op) ops]
    cases op <;> simp [exec, append, raw, h, WriterOp.appendedAfterError]

/-- From no error, the writer ends holding the error of the first `Raw` that failed. -/
theorem run_error_first {w : EasyWriter} (h : w.error = none) :
    ∀ ops : List WriterOp, (w.run ops).error = ops.findSome? WriterOp.failure
  | [] => h
  | op :: ops => by
    rw [run_cons, List.findSome?_cons]
    cases op with
    | append bytes => exact run_error_first ((exec_error_of_none h (.append bytes)).mpr rfl) ops
    | raw data err =>
      cases err with
      | none => exact run_error_first ((exec_error_of_none h (.raw data none)).mpr rfl) ops
      | some e => exact run_error_of_some (by simp [exec, raw, h]) ops

end EasyWriter

/-- On a failed protocol, `WriteMessage` hands the transport only what the writer calls append, and the
    protocol stays failed. -/
theorem writeMessage_failed (e : GoError) (m : Outbound) (writeErr : Option GoError) :
    ((JSONHubProtocol.failed e).writeMessage m writeErr).written = (match m with
      | .marshaler ops => some ((ops.map WriterOp.appendedAfterError).flatten ++ [30])
      | .other _ => none) ∧
    ((JSONHubProtocol.failed e).writeMessage m writeErr).protocol = .failed e := by
  cases m with
  | marshaler ops =>
    simp [JSONHubProtocol.writeMessage, JSONHubProtocol.failed, @EasyWriter.run_of_error ⟨some e, []⟩ e rfl,
      EasyWriter.append]
  | other repr => exact ⟨rfl, rfl⟩

theorem writeMessages_failed (e : GoError) :
    ∀ msgs : List (Outbound × Option GoError),
      ((JSONHubProtocol.failed e).writeMessages msgs).map (·.written) = msgs.map (fun me => match me.1 with
          | .marshaler ops => some ((ops.map WriterOp.appendedAfterError).flatten ++ [30])
          | .other _ => none) ∧
      ∀ r ∈ (JSONHubProtocol.failed e).writeMessages msgs, r.protocol = .failed e
  | [] => ⟨rfl, fun _ h => nomatch h⟩
  | (m, writeErr) :: msgs => by
    obtain ⟨written, stays⟩ := writeMessages_failed e msgs
    obtain ⟨writtenHead, staysHead⟩ := writeMessage_failed e m writeErr
    rw [JSONHubProtocol.writeMessages, staysHead]
    exact ⟨by rw [List.map_cons, writtenHead, written, List.map_cons], List.forall_mem_cons.mpr ⟨staysHead, stays⟩⟩

/-- Messages that all encode leave a fresh protocol fresh, so what follows them is written as on a
    fresh protocol. -/
theorem writeMessages_drop_fresh (rest : List (Outbound × Option GoError)) :
    ∀ pre : List (Outbound × Option GoError), (∀ me ∈ pre, me.1.encodes = true) →
      (JSONHubProtocol.fresh.writeMessages (pre ++ rest)).drop pre.length = JSONHubProtocol.fresh.writeMessages rest
  | [], _ => rfl
  | (m, writeErr) :: pre, encoded => by
    rw [List.cons_append, JSONHubProtocol.writeMessages, writeMessage_fresh (encoded (m, writeErr) (List.mem_cons_self _ _)),
      List.length_cons, List.drop_succ_cons]
    exact writeMessages_drop_fresh rest pre fun me hme => encoded me (List.mem_cons_of_mem _ hme)

/-- Once a message's encoding fails, on a protocol that was fresh and after messages that all encoded:
    the writer keeps the error of the first failing `Raw` for good, and every later message is handed to
    the transport without any of its `Raw` values, with only the bytes written around them and the 0x1E,
    however its own encoding goes. -/
theorem writeMessages_after_failure (pre post : List (Outbound × Option GoError)) {ops : List WriterOp}
    {e : GoError} (writeErr : Option GoError) (encoded : ∀ me ∈ pre, me.1.encodes = true)
    (fails : ops.findSome? WriterOp.failure = some e) :
    let later : List WriteResult :=
      (JSONHubProtocol.fresh.writeMessages (pre ++ (.marshaler ops, writeErr) :: post)).drop (pre.length + 1)
    later.map (·.written) = post.map (fun me => match me.1 with
        | .marshaler ops' => some ((ops'.map WriterOp.appendedAfterError).flatten ++ [30])
        | .other _ => none) ∧
    ∀ r ∈ later, r.protocol = .failed e := by
  have failed : (JSONHubProtocol.fresh.writeMessage (.marshaler ops) writeErr).protocol = .failed e := by
    have first := @EasyWriter.run_error_first ⟨none, []⟩ rfl ops
    rw [fails] at first
    simp only [JSONHubProtocol.writeMessage, JSONHubProtocol.fresh, JSONHubProtocol.failed, EasyWriter.append] at first ⊢
    rw [first]
  show ((JSONHubProtocol.fresh.writeMessages _).drop (pre.length + 1)).map _ = _ ∧ _
  rw [← List.drop_drop, writeMessages_drop_fresh _ pre encoded, JSONHubProtocol.writeMessages,
    List.drop_one, List.tail_cons, failed]
  exact writeMessages_failed e post

theorem writeMessages_after_failure_nan :
    let failing : List WriterOp := [.append [123], .raw [] (some (.text "json: unsupported value: NaN")), .append [125]]
    let post : List (Outbound × Option GoError) := [(.marshaler [.append [123], .raw [49] none, .append [125]], none)]
    (∀ me ∈ ([] : List (Outbound × Option GoError)), me.1.encodes = true) ∧
    failing.findSome? WriterOp.failure = some (.text "json: unsupported value: NaN") ∧
    ((JSONHubProtocol.fresh.writeMessages ([] ++ (.marshaler failing, none) :: post)).drop (0 + 1)).map (·.written) =
      post.map (fun me => match me.1 with
        | .marshaler ops' => some ((ops'.map WriterOp.appendedAfterError).flatten ++ [30])
        | .other _ => none) :=
  ⟨(fun _ h => nomatch h), rfl, (@writeMessages_after_failure [] _
    [.append [123], .raw [] (some (.text "json: unsupported value: NaN")), .append [125]]
    (.text "json: unsupported value: NaN") none (fun _ h => nomatch h) rfl).1⟩

end SignalR
