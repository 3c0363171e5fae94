import SignalR.StreamClient

/-! # What one call of `receiveStreamItem` does

With no channel under the item's id, `receiveStreamItem` returns `nil` (`receiveStreamItem_missing`).
With one, its body takes one of six paths, and `ItemOutcome` has a constructor for each, carrying what the
path checked and what the call returns (`receiveStreamItem_outcome`): a number is converted and sent, or
dropped; `null` panics in `Kind()`; an array panics on a channel of interface type and is answered without
a send on any other; any other item is sent from a goroutine, whose recover handler turns a failed send
into the returned error, or panics again in `err.(error)` when the send panicked with a string
(`SendOutcome`). The lemmas about the call take these predicates apart by `cases` and never unfold it.

`convertNumberToChannelType` converts a number exactly for the thirteen types its switch names
(`BasicKind.converts`), so what a call can put on a channel is the item's number converted to one of them,
or a `bool`, string or object item as it is (`GoValue.Carries`, `receiveStreamItem_sent`). -/

namespace SignalR
open StreamClient

/-! ### Sends and conversions -/

section Send
variable {s t : StreamClient}

theorem send_ok {ch : ChanValue} {x : GoValue} (h : s.send ch x = .ok t) :
    s.isClosed ch.ref = false ∧ t = s.pushSent ch.ref x := by
  unfold StreamClient.send at h
  split at h
  · cases h
  · split_ifs at h with ha hc
    all_goals cases h
    exact ⟨Bool.eq_false_iff.mpr hc, rfl⟩

/-- A send of a converted number, as `receiveStreamItem` returns it, that returned: the send went through. -/
theorem send_map_ok {ch : ChanValue} {x : GoValue} {err : Option GoError}
    (h : (s.send ch x).map (none, ·) = .ok (err, t)) : s.send ch x = .ok t ∧ err = none := by
  cases hs : s.send ch x with
  | error p => rw [hs] at h; cases h
  | ok u =>
    rw [hs] at h
    cases h
    exact ⟨rfl, rfl⟩

end Send

/-- The basic kinds `convertNumberToChannelType` converts a number to: all but `bool`, `uintptr`,
    `complex64` and `complex128`, which its switch does not name. -/
def BasicKind.converts : BasicKind → Bool
  | .bool | .uintptr | .complex64 | .complex128 => false
  | _ => true

theorem convertNumberToChannelType_basic (k : BasicKind) (f : Float) :
    convertNumberToChannelType (some (.basic k)) f =
      if k.converts then (.ofNumber k f, true) else (.ofNumber .float64 f, false) := by
  cases k <;> rfl

/-- The conversion of a number for a channel of element type `elem`, as `receiveStreamItem` asks for it. -/
theorem convertNumberToChannelType_zeroType (elem : GoType) (f : Float) :
    convertNumberToChannelType (zeroType elem) f =
      match elem with
      | .basic k => if k.converts then (.ofNumber k f, true) else (.ofNumber .float64 f, false)
      | _ => (.ofNumber .float64 f, false) := by
  cases elem with
  | basic k => exact convertNumberToChannelType_basic k f
  | _ => simp only [zeroType]; split_ifs <;> rfl

/-- `convertNumberToChannelType` converts exactly for a basic element type of a kind its switch names. -/
theorem convertNumberToChannelType_ok {elem : GoType} {f : Float} {v : GoValue}
    (h : convertNumberToChannelType (zeroType elem) f = (v, true)) :
    ∃ k, elem = .basic k ∧ k.converts = true ∧ v = .ofNumber k f := by
  rw [convertNumberToChannelType_zeroType] at h
  cases elem with
  | basic k =>
    cases hk : k.converts
    · simp [hk] at h
    · simp only [hk, if_true, Prod.mk.injEq, and_true] at h
      exact ⟨k, rfl, hk, h.symm⟩
  | _ => simp at h

/-- When `convertNumberToChannelType` does not convert, the element type is of no kind its switch names. -/
theorem convertNumberToChannelType_drop {elem : GoType} {f : Float} {v : GoValue}
    (h : convertNumberToChannelType (zeroType elem) f = (v, false)) : ∀ k, elem = .basic k → k.converts = false := by
  rintro k rfl
  cases hk : k.converts
  · rfl
  · simp [convertNumberToChannelType_zeroType, hk] at h

/-! ### The paths through `receiveStreamItem` -/

/-- What the goroutine of `receiveStreamItem` makes of `upChan.Send(reflect.ValueOf(item))`, with `r` what
    the call returns: `nil` after the send; the recovered `error`; or, for a send that panicked with a string,
    the panic of `err.(error)`. -/
inductive SendOutcome (s : StreamClient) (ch : ChanValue) (item : JsonValue)
    (r : Except PanicValue (Option GoError × StreamClient)) : Prop
  | sent (t : StreamClient) (sends : s.send ch (.item item) = .ok t) (returned : r = .ok (none, t))
  | failed (e : GoError) (sends : s.send ch (.item item) = .error (.error e)) (returned : r = .ok (some e, s))
  | assertionPanic (msg : String) (sends : s.send ch (.item item) = .error (.string msg))
      (returned : r = .error (.error (.runtime "interface conversion: string is not error: missing method Error")))

/-- The path `receiveStreamItem` takes for `item` on the channel `ch` stored under its id, with `r` what the
    call returns. -/
inductive ItemOutcome (s : StreamClient) (ch : ChanValue) (item : JsonValue)
    (r : Except PanicValue (Option GoError × StreamClient)) : Prop
  /-- A number converted to the element type, and sent; a panic of the send escapes the call. -/
  | converted (f : Float) (v : GoValue) (number : item = .number f)
      (converts : convertNumberToChannelType (zeroType ch.elem) f = (v, true)) (returned : r = (s.send ch v).map (none, ·))
  /-- A number the conversion does not take: dropped. -/
  | dropped (f : Float) (v : GoValue) (number : item = .number f)
      (drops : convertNumberToChannelType (zeroType ch.elem) f = (v, false)) (returned : r = .ok (none, s))
  /-- `null`: `Kind()` on its `nil` type panics. -/
  | null (isNull : item = .null) (returned : r = .error (.error nilDereference))
  /-- An array on a channel of interface type: `Kind()` on the type of the `nil` zero value panics. -/
  | arrayOnInterface (items : List JsonValue) (array : item = .array items) (iface : ch.elem.kind = .interface)
      (returned : r = .error (.error nilDereference))
  /-- An array on any other channel: nothing is sent; the error names the kinds unless the element type is a
      slice or an array. -/
  | arrayOnOther (items : List JsonValue) (array : item = .array items) (notIface : ch.elem.kind ≠ .interface)
      (err : Option GoError) (text : err = none ∨ ∃ msg, err = some (.text msg)) (returned : r = .ok (err, s))
  /-- Any other item, sent from the goroutine. -/
  | plain (notNumber : ∀ f, item ≠ .number f) (notArray : ∀ items, item ≠ .array items) (ty : GoType)
      (typed : item.goType = some ty) (send : SendOutcome s ch item r)

section Paths
variable {s t : StreamClient} {streamItem : StreamItemMessage}

theorem receiveStreamItem_missing (h : s.upstreamChannels streamItem.invocationID = none) :
    receiveStreamItem s streamItem = .ok (none, s) := by
  simp [receiveStreamItem, h]

theorem receiveStreamItem_outcome {ch : ChanValue} (found : s.upstreamChannels streamItem.invocationID = some ch) :
    ItemOutcome s ch streamItem.item (receiveStreamItem s streamItem) := by
  unfold receiveStreamItem
  simp only [found]
  generalize streamItem.item = item
  cases item with
  | number f =>
    rcases converts : convertNumberToChannelType (zeroType ch.elem) f with ⟨v, _ | _⟩
    · exact .dropped f v rfl converts (by simp only [converts])
    · exact .converted f v rfl converts (by simp only [converts])
  | null => exact .null rfl rfl
  | array items =>
    by_cases hk : ch.elem.kind = .interface
    · exact .arrayOnInterface items rfl hk (by simp [JsonValue.goType, GoType.kind, zeroType, hk])
    · simp only [JsonValue.goType, GoType.kind, zeroType, hk, true_or, if_true, if_false]
      split_ifs
      · exact .arrayOnOther items rfl hk none (.inl rfl) rfl
      · exact .arrayOnOther items rfl hk _ (.inr ⟨_, rfl⟩) rfl
  | _ =>
    refine .plain (fun _ h => nomatch h) (fun _ h => nomatch h) _ rfl ?_
    simp only [JsonValue.goType, GoType.kind, reduceCtorEq, or_self, if_false]
    split
    · exact .sent _ ‹_› rfl
    · exact .failed _ ‹_› rfl
    · exact .assertionPanic _ ‹_› rfl

end Paths

/-! ### What a call sends -/

/-- A value `receiveStreamItem` can send: a number converted to a basic type the conversion names, or an
    item that is a `bool`, a string or an object. -/
def GoValue.deliverable : GoValue → Bool
  | .ofNumber k _ => k.converts
  | .item (.bool _) | .item (.string _) | .item (.object _) => true
  | .item _ => false

/-- `Carries item x`: `x` is a value `receiveStreamItem` sends for the stream item `item`, the number
    converted to a basic type the conversion names, or the `bool`, string or object itself. -/
inductive GoValue.Carries : JsonValue → GoValue → Prop
  | number {f : Float} {k : BasicKind} : k.converts = true → Carries (.number f) (.ofNumber k f)
  | bool (b : Bool) : Carries (.bool b) (.item (.bool b))
  | string (str : String) : Carries (.string str) (.item (.string str))
  | object (fields : List (String × JsonValue)) : Carries (.object fields) (.item (.object fields))

theorem GoValue.Carries.deliverable {item : JsonValue} {x : GoValue} : Carries item x → x.deliverable = true
  | .number hk => hk
  | .bool _ | .string _ | .object _ => rfl

/-- An item that `receiveStreamItem` sends as it is carries itself. -/
theorem GoValue.Carries.plain {item : JsonValue} {ty : GoType} (notNumber : ∀ f, item ≠ .number f)
    (notArray : ∀ items, item ≠ .array items) (typed : item.goType = some ty) : Carries item (.item item) := by
  cases item with
  | number f => exact absurd rfl (notNumber f)
  | array items => exact absurd rfl (notArray items)
  | null => cases typed
  | bool b => exact .bool b
  | string str => exact .string str
  | object fields => exact .object fields

/-- A call of `receiveStreamItem` that returns either changes nothing, or sends one value for the item on
    the channel stored under the item's id, and returns `nil`. -/
theorem receiveStreamItem_sent {s t : StreamClient} {streamItem : StreamItemMessage} {err : Option GoError}
    (h : receiveStreamItem s streamItem = .ok (err, t)) :
    t = s ∨ ∃ ch x, s.upstreamChannels streamItem.invocationID = some ch ∧ GoValue.Carries streamItem.item x ∧
      err = none ∧ t = s.pushSent ch.ref x := by
  cases found : s.upstreamChannels streamItem.invocationID with
  | none =>
    cases receiveStreamItem_missing found ▸ h
    exact .inl rfl
  | some ch =>
    cases receiveStreamItem_outcome found with
    | converted f v number converts returned =>
      obtain ⟨sends, rfl⟩ := send_map_ok (returned ▸ h)
      obtain ⟨k, -, hk, rfl⟩ := convertNumberToChannelType_ok converts
      exact .inr ⟨ch, _, rfl, number ▸ .number hk, rfl, (send_ok sends).2⟩
    | dropped _ _ _ _ returned | arrayOnOther _ _ _ _ _ returned =>
      cases returned ▸ h
      exact .inl rfl
    | null _ returned | arrayOnInterface _ _ _ returned => cases returned ▸ h
    | plain notNumber notArray _ typed send =>
      cases send with
      | sent _ sends returned =>
        cases returned ▸ h
        exact .inr ⟨ch, _, rfl, .plain notNumber notArray typed, rfl, (send_ok sends).2⟩
      | failed _ _ returned =>
        cases returned ▸ h
        exact .inl rfl
      | assertionPanic _ _ returned => cases returned ▸ h

end SignalR
