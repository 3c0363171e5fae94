import Mathlib.Data.List.Forall2
import SignalR.Theorems.FrameReader
import SignalR.Theorems.WriteMessage

/-! # Written frames read back

What one `WriteMessage` hands the transport is what the message's `MarshalEasyJSON` wrote, then a 0x1E
(§4.2). JSON text holds no raw 0x1E, since control characters in strings are escaped. When the
transport delivers the frames in reads that may cut a frame anywhere but never run past its 0x1E, as
`io.Pipe` does, whose reads never take bytes from two writes, successive `ParseMessage` calls return the frames one per call, in
order, and hand the codec exactly what each encoding wrote (`parseMessages_of_written`). That is the
shape of stream the frame reader of `JSONHubProtocol` handles: a read that carries the start of a second
frame loses it (`parseMessage_loses_second_frame`). -/

namespace SignalR
open JSONHubProtocol

/-- `k` successive `ParseMessage` calls on one reader: what each returns, and the reader after them. -/
def parseMessages (codec : Codec) : Nat → Reader → List (Option Message × Option GoError) × Reader
  | 0, reader => ([], reader)
  | k + 1, reader =>
    let first := parseMessage codec reader
    let more := parseMessages codec k first.2
    (first.1 :: more.1, more.2)

/-! ### The reads of one frame -/

/-- Reads that carry the frame `frame`: they cut it anywhere, and the last of them ends where it ends. -/
def FrameReads (frame : List UInt8) (reads : List (List UInt8)) : Prop :=
  reads.flatten = frame ∧ reads.getLast? ≠ some []

instance (frame : List UInt8) (reads : List (List UInt8)) : Decidable (FrameReads frame reads) :=
  inferInstanceAs (Decidable (_ ∧ _))

/-- A read at the start of a frame `body ++ [30]` ends inside `body`, or it is the whole frame. -/
theorem cut_frame {c more body : List UInt8} (clean : 30 ∉ body) (h : c ++ more = body ++ [30]) :
    (30 ∉ c ∧ ∃ body', body = c ++ body' ∧ more = body' ++ [30]) ∨ (c = body ++ [30] ∧ more = []) := by
  rcases List.append_eq_append_iff.mp h with ⟨body', hb, hm⟩ | ⟨c', hc, hd⟩
  · exact .inl ⟨fun h30 => clean (hb ▸ List.mem_append_left _ h30), body', hb, hm⟩
  · cases c' with
    | nil =>
      rw [List.append_nil] at hc
      subst hc
      exact .inl ⟨clean, [], by simp, by simpa using hd.symm⟩
    | cons x xs =>
      simp only [List.cons_append, List.cons.injEq, List.nil_eq_append_iff] at hd
      obtain ⟨rfl, rfl, rfl⟩ := hd
      exact .inr ⟨hc, rfl⟩

theorem eq_nil_of_flatten_eq_nil {cs : List (List UInt8)} (h : cs.flatten = []) (last : cs.getLast? ≠ some []) :
    cs = [] := by
  by_contra hne
  apply last
  rw [List.getLast?_eq_getLast cs hne, List.flatten_eq_nil_iff.mp h _ (List.getLast_mem hne)]

theorem getLast?_tail_ne {c : List UInt8} {cs : List (List UInt8)} (last : (c :: cs).getLast? ≠ some []) :
    cs.getLast? ≠ some [] :=
  fun h => last (by rw [List.getLast?_cons, h]; rfl)

/-- From a top of the loop with no 0x1E in `p`, reads that carry a frame `body ++ [30]`: the call returns
    `body` after the bytes collected so far, and stops at the reads after them. -/
theorem scan_frameReads (rest : Reader) :
    ∀ (cuts : List (List UInt8)) (st : Scan) (body : List UInt8), 30 ∉ st.p → 30 ∉ body →
      FrameReads (body ++ [30]) cuts → scan st (Reader.ofChunks cuts ++ rest) = (.ok (st.data ++ body), rest)
  | [], _, body, _, _, ⟨h, _⟩ => by simp at h
  | c :: cs, st, body, hp, clean, ⟨h, last⟩ => by
    rw [List.flatten_cons] at h
    rcases cut_frame clean h with ⟨hc, body', rfl, hcs⟩ | ⟨rfl, hcs⟩
    · -- the read ends inside the frame: the loop goes on
      have hnext : scan st (Reader.ofChunks (c :: cs) ++ rest) = scan (st.next c) (Reader.ofChunks cs ++ rest) := by
        rw [Reader.ofChunks, List.map_cons, List.cons_append, ← Reader.ofChunks, scan.eq_2]
        simp only [indexByte_fill hp, indexByte_eq_none.mpr hc]
      rw [hnext, scan_frameReads rest cs (st.next c) body' (not_mem_fill hp hc)
        (fun h30 => clean (List.mem_append_right _ h30)) ⟨hcs, getLast?_tail_ne last⟩, Scan.next_data,
        List.append_assoc]
    · -- the read is the whole frame, and the last of the reads
      obtain rfl := eq_nil_of_flatten_eq_nil hcs (getLast?_tail_ne last)
      have hc : (30 : UInt8) ∈ body ++ [30] := List.mem_append_right _ (List.mem_singleton_self _)
      rw [Reader.ofChunks, List.map_singleton, List.singleton_append,
        scan_cons_mem hp rfl hc, takeWhile_append_of_not_mem clean]
      simp

/-- Reads that carry one frame: `ParseMessage` decodes the frame and leaves the reader at the reads after
    them. -/
theorem parseMessage_frameReads (codec : Codec) {body : List UInt8} (clean : 30 ∉ body) {cuts : List (List UInt8)}
    (reads : FrameReads (body ++ [30]) cuts) (rest : Reader) :
    parseMessage codec (Reader.ofChunks cuts ++ rest) = (decodeMessage codec body, rest) := by
  simp only [parseMessage, parseTextMessageFormat, scan_frameReads rest cuts Scan.init body not_mem_init clean reads,
    Scan.init_data, List.nil_append]

/-! ### Messages written, then parsed -/

/-- What `WriteMessage` hands the transport for a message of a fresh protocol. -/
theorem writeMessage_fresh_written (ops : List WriterOp) (e : Option GoError) :
    (JSONHubProtocol.fresh.writeMessage (.marshaler ops) e).written =
      some ((JSONHubProtocol.fresh.easyWriter.run ops).buffer ++ [30]) := rfl

/-- Messages that all encode, written one after another through one protocol and delivered by reads that
    cut each frame anywhere but never run past its 0x1E: as many `ParseMessage` calls hand the codec
    exactly what each encoding wrote, in order, and stop at the reads after them. -/
theorem parseMessages_of_written (codec : Codec) (rest : Reader) :
    ∀ (msgs : List (List WriterOp)) (reads : List (List (List UInt8))),
      (∀ ops ∈ msgs, (Outbound.marshaler ops).encodes = true ∧
        30 ∉ (JSONHubProtocol.fresh.easyWriter.run ops).buffer) →
      List.Forall₂ FrameReads ((JSONHubProtocol.fresh.writeMessages
        (msgs.map fun ops => (.marshaler ops, none))).filterMap (·.written)) reads →
      parseMessages codec msgs.length (Reader.ofChunks reads.flatten ++ rest) =
        (msgs.map fun ops => decodeMessage codec (JSONHubProtocol.fresh.easyWriter.run ops).buffer, rest)
  | [], _, _, written => by
    obtain rfl := List.forall₂_nil_left_iff.mp written
    rfl
  | ops :: msgs, _, h, written => by
    obtain ⟨encodes, clean⟩ := h ops (List.mem_cons_self _ _)
    rw [List.map_cons, JSONHubProtocol.writeMessages, writeMessage_fresh encodes, List.filterMap_cons,
      writeMessage_fresh_written] at written
    obtain ⟨cuts, reads, frame, more, rfl⟩ := List.forall₂_cons_left_iff.mp written
    rw [List.flatten_cons, Reader.ofChunks, List.map_append, ← Reader.ofChunks, ← Reader.ofChunks,
      List.append_assoc, List.length_cons, parseMessages, parseMessage_frameReads codec clean frame]
    simp only [parseMessages_of_written codec rest msgs reads (fun o ho => h o (List.mem_cons_of_mem _ ho)) more,
      List.map_cons]

theorem parseMessages_of_written_two :
    let msgs : List (List WriterOp) := [[.append [123], .append [125]], [.append [123], .raw [49] none, .append [125]]]
    let reads : List (List (List UInt8)) := [[[123], [125, 30]], [[123, 49, 125, 30]]]
    (∀ ops ∈ msgs, (Outbound.marshaler ops).encodes = true ∧
      30 ∉ (JSONHubProtocol.fresh.easyWriter.run ops).buffer) ∧
    List.Forall₂ FrameReads ((JSONHubProtocol.fresh.writeMessages
      (msgs.map fun ops => (.marshaler ops, none))).filterMap (·.written)) reads ∧
    parseMessages default msgs.length (Reader.ofChunks reads.flatten ++ []) =
      (msgs.map fun ops => decodeMessage default (JSONHubProtocol.fresh.easyWriter.run ops).buffer, []) :=
  ⟨by decide, by decide, parseMessages_of_written default [] _ _ (by decide) (by decide)⟩

end SignalR
