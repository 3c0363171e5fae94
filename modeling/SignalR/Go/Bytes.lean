import Mathlib.Data.List.Basic

/-! # Byte slices, errors and readers

What the frame readers read from and what they hand on: byte slices as lists of `UInt8`,
`bytes.IndexByte`, the Go `error` values of the protocol code, and an `io.Reader` given by what its
successive `Read` calls return. -/

namespace SignalR

/-! ### Errors -/

/-- The Go `error` values the protocol code makes or passes on. -/
inductive GoError where
  /-- `io.EOF`. -/
  | eof
  /-- An error a reader or writer returns other than `io.EOF`, such as a reset connection. -/
  | transport (code : Nat)
  /-- An error whose `Unwrap` returns `inner` (`fmt.Errorf` with `%w`). -/
  | wrapped (inner : GoError)
  /-- `&jsonError{raw, err}` of `jsonhubprotocol.go`; its type has no `Unwrap` method. -/
  | json (raw : List UInt8) (err : GoError)
  /-- A `runtime.Error`, such as a send on a closed channel. -/
  | runtime (msg : String)
  /-- An error that carries a message only (`fmt.Errorf` without `%w`, a decoder's syntax error). -/
  | text (msg : String)
  deriving DecidableEq, Repr

/-- `errors.Is(err, target)`: `err`, or an error on its `Unwrap` chain, is `target`. -/
def errorsIs (err target : GoError) : Bool :=
  err == target ||
    match err with
    | .wrapped inner => errorsIs inner target
    | _ => false

/-- A `jsonError` is only ever itself: `errors.Is` does not look inside it. -/
@[simp] theorem errorsIs_json {raw : List UInt8} {err target : GoError} :
    errorsIs (.json raw err) target = true ↔ target = .json raw err := by
  rw [errorsIs.eq_def]
  simp only [Bool.or_false, beq_iff_eq]
  exact eq_comm

/-! ### `bytes.IndexByte` -/

/-- `bytes.IndexByte(b, c)`: the index of the first `c` in `b`; `none` where Go returns `-1`. -/
def indexByte (c : UInt8) : List UInt8 → Option Nat
  | [] => none
  | b :: bs => if b = c then some 0 else (indexByte c bs).map (· + 1)

section IndexByte
variable {c : UInt8} {xs ys : List UInt8} {i : Nat}

@[simp] theorem indexByte_eq_none : indexByte c xs = none ↔ c ∉ xs := by
  induction xs with
  | nil => simp [indexByte]
  | cons b bs ih =>
    by_cases hb : b = c
    · subst hb; simp [indexByte]
    · simp [indexByte, hb, ih, Ne.symm hb]

theorem indexByte_append_of_mem (h : c ∈ xs) : indexByte c (xs ++ ys) = indexByte c xs := by
  induction xs with
  | nil => cases h
  | cons b bs ih =>
    by_cases hb : b = c
    · simp [indexByte, hb]
    · simp only [List.cons_append, indexByte.eq_2, hb, if_false]
      rw [ih ((List.mem_cons.mp h).resolve_left (Ne.symm hb))]

theorem indexByte_append_of_not_mem (h : c ∉ xs) :
    indexByte c (xs ++ ys) = (indexByte c ys).map (· + xs.length) := by
  induction xs with
  | nil => simp
  | cons b bs ih =>
    have hb : b ≠ c := fun hb => h (hb ▸ List.mem_cons_self b bs)
    simp only [List.cons_append, indexByte.eq_2, hb, if_false, ih (fun hc => h (List.mem_cons_of_mem b hc)),
      Option.map_map, List.length_cons]
    congr 1

/-- What `IndexByte` finds: the bytes before index `i` are those before the first `c`, and `c` is at
    `i`. -/
theorem indexByte_some (h : indexByte c xs = some i) :
    xs = xs.takeWhile (· != c) ++ c :: xs.drop (i + 1) ∧ (xs.takeWhile (· != c)).length = i := by
  induction xs generalizing i with
  | nil => cases h
  | cons b bs ih =>
    by_cases hb : b = c
    · simp only [indexByte, hb, if_true, Option.some.injEq] at h
      subst h hb
      simp
    · simp only [indexByte, hb, if_false, Option.map_eq_some'] at h
      obtain ⟨j, hj, rfl⟩ := h
      obtain ⟨hsplit, hlen⟩ := ih hj
      have hbc : (b != c) = true := by simpa using hb
      refine ⟨?_, by simp [List.takeWhile_cons, hbc, hlen]⟩
      simp only [List.takeWhile_cons, hbc, if_true, List.cons_append, List.drop_succ_cons]
      exact congrArg (b :: ·) hsplit

theorem indexByte_take (h : indexByte c xs = some i) : xs.take i = xs.takeWhile (· != c) := by
  obtain ⟨hsplit, hlen⟩ := indexByte_some h
  conv_lhs => rw [hsplit]
  exact List.take_left' hlen

theorem indexByte_lt (h : indexByte c xs = some i) : i < xs.length := by
  obtain ⟨hsplit, hlen⟩ := indexByte_some h
  have := congrArg List.length hsplit
  simp only [List.length_append, List.length_cons] at this
  omega

theorem takeWhile_append_of_mem (h : c ∈ xs) : (xs ++ ys).takeWhile (· != c) = xs.takeWhile (· != c) := by
  induction xs with
  | nil => cases h
  | cons b bs ih =>
    by_cases hb : b = c
    · simp [hb]
    · have hbc : (b != c) = true := by simpa using hb
      simp only [List.cons_append, List.takeWhile_cons, hbc, if_true,
        ih ((List.mem_cons.mp h).resolve_left (Ne.symm hb))]

theorem takeWhile_append_of_not_mem (h : c ∉ xs) :
    (xs ++ ys).takeWhile (· != c) = xs ++ ys.takeWhile (· != c) :=
  List.takeWhile_append_of_pos fun a ha => by
    simpa using fun hac : a = c => h (hac ▸ ha)

end IndexByte

/-! ### Readers -/

/-- What one `Read(p)` call returns: the `n` bytes it wrote to `p[:n]`, and its error. -/
structure ReadResult where
  bytes : List UInt8
  err : Option GoError
  deriving DecidableEq, Repr

/-- An `io.Reader`, given by what its successive `Read` calls return. Once those are used up it returns
    `0, io.EOF`, as a reader at the end of its stream does. -/
abbrev Reader := List ReadResult

/-- A reader whose `Read` calls deliver `chunks`, one a call, and then `io.EOF`. -/
def Reader.ofChunks (chunks : List (List UInt8)) : Reader := chunks.map (⟨·, none⟩)

/-- The bytes a reader delivers before its first failing `Read`, and that call's error. -/
def Reader.stream : Reader → List UInt8 × GoError
  | [] => ([], .eof)
  | r :: rest =>
    match r.err with
    | some e => ([], e)
    | none => Prod.map (r.bytes ++ ·) id (Reader.stream rest)

@[simp] theorem Reader.stream_ofChunks (chunks : List (List UInt8)) :
    (Reader.ofChunks chunks).stream = (chunks.flatten, .eof) := by
  induction chunks with
  | nil => rfl
  | cons c cs ih => simp [Reader.ofChunks, Reader.stream] at ih ⊢; simp [ih]

end SignalR
