import SignalR.JSONHubProtocol.ParseMessage

/-! # The frame reader of `JSONHubProtocol`

One call of `parseTextMessageFormat` returns the bytes of the stream before its first 0x1E, however the
reads cut the stream (`parseTextMessageFormat_loop`). It reads `IndexByte` over the whole scratch
slice, and that is sound because no byte left in `p` by an earlier read of the call is a 0x1E.

What the call does not do is keep the bytes that follow the 0x1E in the same read: the next call starts
from the next read (`parseMessage_loses_second_frame`). And `ParseMessage` passes on only `io.EOF`: any
other read error is decoded as an empty frame, so it comes back as a `jsonError`
(`parseMessage_hides_transport_error`). -/

namespace SignalR.JSONHubProtocol

/-! ### What one call should return -/

/-- The frame at the head of a reader's stream: the bytes before its first 0x1E, if one arrives before a
    read fails, and otherwise the failing read's error (§4.1). -/
def frameOf (reader : Reader) : Except GoError (List UInt8) :=
  if 30 ∈ reader.stream.1 then .ok (reader.stream.1.takeWhile (· != 30)) else .error reader.stream.2

section FrameOf
variable {r : ReadResult} {rest : Reader}

theorem frameOf_cons_err {e : GoError} (h : r.err = some e) : frameOf (r :: rest) = .error e := by
  simp [frameOf, Reader.stream, h]

theorem frameOf_cons_mem (h : r.err = none) (hc : 30 ∈ r.bytes) :
    frameOf (r :: rest) = .ok (r.bytes.takeWhile (· != 30)) := by
  simp [frameOf, Reader.stream, h, hc, takeWhile_append_of_mem hc]

theorem frameOf_cons_not_mem (h : r.err = none) (hc : 30 ∉ r.bytes) :
    frameOf (r :: rest) = (frameOf rest).map (r.bytes ++ ·) := by
  unfold frameOf
  by_cases hs : 30 ∈ rest.stream.1
  · simp [Reader.stream, h, hc, hs, takeWhile_append_of_not_mem hc, Except.map]
  · simp [Reader.stream, h, hc, hs, Except.map]

end FrameOf

/-! ### The scratch slice -/

section Scan
variable {st : Scan} {bytes : List UInt8}

@[simp] theorem Scan.fill_take : (st.fill bytes).take bytes.length = bytes := List.take_left' rfl

@[simp] theorem Scan.next_data : (st.next bytes).data = st.data ++ bytes := by simp [Scan.next]

@[simp] theorem Scan.init_data : Scan.init.data = [] := rfl

@[simp] theorem Scan.next_p : (st.next bytes).p = st.fill bytes := rfl

theorem not_mem_init : (30 : UInt8) ∉ Scan.init.p := fun h => by
  simp only [Scan.init, List.mem_replicate] at h
  exact absurd h.2 (by decide)

theorem not_mem_fill (hp : 30 ∉ st.p) (hc : 30 ∉ bytes) : 30 ∉ st.fill bytes := by
  simp only [Scan.fill, List.mem_append, not_or]
  exact ⟨hc, fun h => hp (List.mem_of_mem_drop h)⟩

/-- With no 0x1E left in `p`, `IndexByte` over all of `p` finds what it would find in `p[:n]`. -/
theorem indexByte_fill (hp : 30 ∉ st.p) : indexByte 30 (st.fill bytes) = indexByte 30 bytes := by
  by_cases hc : 30 ∈ bytes
  · exact indexByte_append_of_mem hc
  · rw [Scan.fill, indexByte_append_of_not_mem hc, indexByte_eq_none.mpr hc,
      indexByte_eq_none.mpr fun h => hp (List.mem_of_mem_drop h)]
    rfl

/-- A read that brings a 0x1E ends the loop with the bytes before it. -/
theorem scan_cons_mem {r : ReadResult} {rest : Reader} (hp : 30 ∉ st.p) (h : r.err = none) (hc : 30 ∈ r.bytes) :
    scan st (r :: rest) = (.ok (st.data ++ r.bytes.takeWhile (· != 30)), rest) := by
  obtain ⟨i, hi⟩ := Option.ne_none_iff_exists'.mp (mt indexByte_eq_none.mp (not_not.mpr hc))
  simp only [scan, h, indexByte_fill hp, hi]
  rw [Scan.fill, List.take_append_of_le_length (Nat.le_of_lt (indexByte_lt hi)), indexByte_take hi]

end Scan

/-- From a top of the loop with no 0x1E in `p`, the call returns the bytes collected so far followed by
    the frame at the head of the reads still to come. -/
theorem scan_eq : ∀ (reader : Reader) (st : Scan), 30 ∉ st.p →
    (scan st reader).1 = (frameOf reader).map (st.data ++ ·)
  | [], _, _ => rfl
  | r :: rest, st, hp => by
    cases herr : r.err with
    | some e => simp [scan, herr, frameOf_cons_err herr, Except.map]
    | none =>
      by_cases hc : 30 ∈ r.bytes
      · rw [scan_cons_mem hp herr hc, frameOf_cons_mem herr hc]
        rfl
      · simp only [scan, herr, indexByte_fill hp, indexByte_eq_none.mpr hc,
          scan_eq rest (st.next r.bytes) (not_mem_fill hp hc), frameOf_cons_not_mem herr hc,
          Scan.next_data]
        cases frameOf rest <;> simp [Except.map]

/-! ### One call -/

/-- The loop of one `parseTextMessageFormat` call on `reader` comes to its top with the locals `st`, the
    reads `rest` still to come. -/
inductive Iteration (reader : Reader) : Scan → Reader → Prop
  | start : Iteration reader Scan.init reader
  | next {st : Scan} {bytes : List UInt8} {rest : Reader} :
      Iteration reader st (⟨bytes, none⟩ :: rest) → indexByte 30 (st.fill bytes) = none →
      Iteration reader (st.next bytes) rest

/-- The loop invariant: `p` holds no 0x1E, and `data` is what the call has read so far. -/
structure ScanInv (reader : Reader) (st : Scan) (rest : Reader) : Prop where
  clean : 30 ∉ st.p
  data : ∃ chunks, reader = Reader.ofChunks chunks ++ rest ∧ st.data = chunks.flatten

theorem Iteration.inv {reader : Reader} {st : Scan} {rest : Reader} (h : Iteration reader st rest) :
    ScanInv reader st rest := by
  induction h with
  | start => exact ⟨not_mem_init, [], rfl, rfl⟩
  | @next st bytes rest _ hnone ih =>
    obtain ⟨hp, chunks, hreader, hdata⟩ := ih
    have hc : 30 ∉ bytes := by rwa [indexByte_fill hp, indexByte_eq_none] at hnone
    exact ⟨not_mem_fill hp hc, chunks ++ [bytes], by simp [hreader, Reader.ofChunks], by simp [hdata]⟩

/-- At the top of every iteration of one call, `p` holds no 0x1E and `data` is the bytes read earlier in
    the call; so the index `IndexByte` finds in the whole of `p` lies below the `n` bytes just read; and
    the call returns the bytes of the stream before its first 0x1E, however the reads cut it. -/
theorem parseTextMessageFormat_loop (reader : Reader) :
    (∀ st rest, Iteration reader st rest →
      30 ∉ st.p ∧ (∃ chunks, reader = Reader.ofChunks chunks ++ rest ∧ st.data = chunks.flatten) ∧
      ∀ bytes more i, rest = ⟨bytes, none⟩ :: more → indexByte 30 (st.fill bytes) = some i →
        i < bytes.length) ∧
    (parseTextMessageFormat reader).1 = frameOf reader := by
  refine ⟨fun st rest h => ?_, ?_⟩
  · obtain ⟨hp, hdata⟩ := h.inv
    exact ⟨hp, hdata, fun bytes _ i _ hi => indexByte_lt (by rwa [indexByte_fill hp] at hi)⟩
  · rw [parseTextMessageFormat, scan_eq reader Scan.init not_mem_init]
    cases frameOf reader <;> rfl

/-! ### `ParseMessage` -/

theorem parseMessage_of_error (codec : Codec) {reader : Reader} {e : GoError}
    (h : (parseTextMessageFormat reader).1 = .error e) (he : errorsIs e .eof = false) :
    (parseMessage codec reader).1 = decodeMessage codec [] := by
  unfold parseMessage
  rcases hp : parseTextMessageFormat reader with ⟨res, rest⟩
  obtain rfl : res = .error e := by rw [hp] at h; exact h
  simp only [he]
  rfl

/-- Two frames that one read delivers together: the first call returns the first, the bytes of the
    second go with the call's scratch slice, and the second call meets the end of the stream, which no
    decoding of the second frame returns. -/
theorem parseMessage_loses_second_frame (codec : Codec) :
    (parseMessage codec (Reader.ofChunks [[123, 125, 30, 123, 125, 30]])).1 =
      decodeMessage codec [123, 125] ∧
    (parseMessage codec (parseMessage codec (Reader.ofChunks [[123, 125, 30, 123, 125, 30]])).2).1 =
      (none, some .eof) ∧
    decodeMessage codec [123, 125] ≠ (none, some .eof) := by
  refine ⟨rfl, rfl, fun h => ?_⟩
  obtain ⟨err, herr⟩ := decodeMessage_err codec [123, 125] .eof (by rw [h])
  cases herr

/-- A connection reset at the first read: `ParseMessage` decodes an empty frame in its place, and the
    error it returns, if any, is a `jsonError`, which `errors.Is` does not match with the reset. -/
theorem parseMessage_hides_transport_error (codec : Codec) :
    (parseMessage codec [⟨[], some (.transport 104)⟩]).1 = decodeMessage codec [] ∧
    ∀ err, (parseMessage codec [⟨[], some (.transport 104)⟩]).1.2 = some err →
      errorsIs err (.transport 104) = false := by
  have hdec : (parseMessage codec [⟨[], some (.transport 104)⟩]).1 = decodeMessage codec [] :=
    parseMessage_of_error codec rfl rfl
  refine ⟨hdec, fun err herr => ?_⟩
  rw [hdec] at herr
  obtain ⟨e, rfl⟩ := decodeMessage_err codec [] err herr
  exact Bool.eq_false_iff.mpr fun h => nomatch errorsIs_json.mp h

end SignalR.JSONHubProtocol
