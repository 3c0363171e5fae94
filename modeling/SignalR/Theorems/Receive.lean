import SignalR.HubConnection.Receive

/-! # What `Receive` decodes

`ReadMessage` empties the buffer when it finds no whole frame, and `Receive` puts back only the last
read, `data[:n]`. So the frame it decodes is made of the read just before the one that brings the 0x1E
and the bytes before the 0x1E in that read: a frame that spans three reads or more loses all but its
last two reads (`receive_decodes_last_two_reads`). The buffer is local to the call, so the bytes after
the 0x1E are lost as well. -/

namespace SignalR
open JsonHubProtocol DefaultHubConnection

/-! ### `ReadMessage` on a buffer -/

section ReadMessage
variable {codec : Codec} {buf : List UInt8}

theorem readMessage_of_not_mem (h : 30 ∉ buf) : readMessage codec buf = ((none, false, some .eof), []) := by
  simp [readMessage, parseTextMessageFormat, readBytes, indexByte_eq_none.mpr h, errorsIs]

theorem readMessage_of_mem (codec : Codec) (h : 30 ∈ buf) :
    ∃ rest, readMessage codec buf = (((decodeMessage codec (buf.takeWhile (· != 30))).1, true,
      (decodeMessage codec (buf.takeWhile (· != 30))).2), rest) := by
  obtain ⟨i, hi⟩ := Option.ne_none_iff_exists'.mp (mt indexByte_eq_none.mp (not_not.mpr h))
  have hlen : (buf.take (i + 1)).length = i + 1 := List.length_take_of_le (indexByte_lt hi)
  refine ⟨buf.drop (i + 1), ?_⟩
  simp only [readMessage, parseTextMessageFormat, readBytes, hi, hlen, Nat.add_sub_cancel, List.take_take,
    Nat.min_eq_left (Nat.le_succ i), indexByte_take hi]

end ReadMessage

/-! ### The loop -/

section Refill
variable {codec : Codec} {buf data x : List UInt8} {n : Nat} {rest : Reader}

theorem refill_of_mem (h : 30 ∈ buf ++ data.take n ++ x) :
    refill codec buf data n (⟨x, none⟩ :: rest) =
      (decodeMessage codec ((buf ++ data.take n ++ x).takeWhile (· != 30)), rest) := by
  obtain ⟨b, hb⟩ := readMessage_of_mem codec h
  simp only [refill, List.take_left', hb]

theorem refill_of_not_mem (h : 30 ∉ buf ++ data.take n ++ x) :
    refill codec buf data n (⟨x, none⟩ :: rest) = refill codec [] (x ++ data.drop x.length) x.length rest := by
  simp only [refill, List.take_left', readMessage_of_not_mem h]

theorem receive_eq_refill (conn : Reader) :
    receive codec conn = refill codec [] (List.replicate 4096 0) 0 conn := by
  simp only [receive, readMessage_of_not_mem (List.not_mem_nil 30)]

end Refill

/-- From a refill whose last read `data[:n]` holds no 0x1E, over reads `cs` with no 0x1E and then a read
    `c` with one, the frame decoded is the read before `c` followed by the bytes before the 0x1E in `c`. -/
theorem refill_chunks (codec : Codec) (c : List UInt8) (rest : Reader) (hc : 30 ∈ c) :
    ∀ (cs : List (List UInt8)) (data : List UInt8) (n : Nat), 30 ∉ data.take n → (∀ x ∈ cs, 30 ∉ x) →
      refill codec [] data n (Reader.ofChunks (cs ++ [c]) ++ rest) =
        (decodeMessage codec ((cs.getLast?.getD (data.take n)) ++ c.takeWhile (· != 30)), rest)
  | [], data, n, hd, _ => by
    rw [Reader.ofChunks, List.nil_append, List.map_singleton, List.singleton_append,
      refill_of_mem (by simp [hc]), List.nil_append, takeWhile_append_of_not_mem hd]
    rfl
  | x :: cs, data, n, hd, hcs => by
    have hx : 30 ∉ x := hcs x (List.mem_cons_self x cs)
    rw [Reader.ofChunks, List.cons_append, List.map_cons, List.cons_append,
      refill_of_not_mem (by simp [hd, hx]), ← Reader.ofChunks,
      refill_chunks codec c rest hc cs _ _ (by rwa [List.take_left]) fun y hy => hcs y (List.mem_cons_of_mem x hy),
      List.take_left, List.getLast?_cons]
    rfl

/-- `Receive` on a stream whose first frame ends in the read `c`, after the reads `cs`: it decodes the
    read just before `c` and the bytes before the 0x1E in `c`, and returns with the reads after `c`. -/
theorem receive_decodes_last_two_reads (codec : Codec) (cs : List (List UInt8)) (c : List UInt8)
    (rest : Reader) (hcs : ∀ x ∈ cs, 30 ∉ x) (hc : 30 ∈ c) :
    receive codec (Reader.ofChunks (cs ++ [c]) ++ rest) =
      (decodeMessage codec ((cs.getLast?.getD []) ++ c.takeWhile (· != 30)), rest) := by
  rw [receive_eq_refill, refill_chunks codec c rest hc cs _ 0 (List.not_mem_nil 30) hcs]
  rfl

theorem receive_decodes_last_two_reads_braces :
    (∀ x ∈ [[123], [125]], (30 : UInt8) ∉ x) ∧ (30 : UInt8) ∈ [30] ∧
    receive default (Reader.ofChunks ([[123], [125]] ++ [[30]]) ++ []) = (decodeMessage default [125], []) :=
  ⟨by decide, by decide, receive_decodes_last_two_reads default [[123], [125]] [30] [] (by decide) (by decide)⟩

/-- The frame `{}` read as `{`, `}`, 0x1E: `Receive` decodes `}`; read at once, `{}`. -/
theorem receive_loses_earlier_reads (codec : Codec) :
    (receive codec (Reader.ofChunks [[123], [125], [30]])).1 = decodeMessage codec [125] ∧
    (receive codec (Reader.ofChunks [[123, 125, 30]])).1 = decodeMessage codec [123, 125] :=
  ⟨rfl, rfl⟩

end SignalR
