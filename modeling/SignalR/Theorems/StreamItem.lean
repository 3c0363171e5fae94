import SignalR.Theorems.Registry

/-! # Routing a stream item

`receiveStreamItem` converts a number to the element type of the stream's channel when that type is one
of the thirteen basic types `convertNumberToChannelType` names, and drops it otherwise (`bool`,
`uintptr`, `complex64`, `complex128`, a defined or a composite type), returning `nil`, as the comment on
that branch says such channels are not supported. Any other item it sends as it is, and it
returns `nil` only after the send (`receiveStreamItem_nil`). What it does not do is turn every failure
into an error: a `null` item panics in `Kind()`, and an item the channel cannot take makes `reflect`
panic with a string, which the goroutine's recover handler asserts to be an `error`
(`receiveStreamItem_panics`). On a reachable state these are the only panics
(`receiveStreamItem_panics_iff`): the stored channel is open, so no send on it fails as a send on a
closed channel. -/

namespace SignalR
open StreamClient

/-! ### Sends and conversions -/

/-- On an open channel, `Send` of a typed value either goes through, when the type is assignable to the
    element type, or panics with `reflect`'s string. -/
theorem send_open {s : StreamClient} {ch : ChanValue} {x : GoValue} {t : GoType}
    (isOpen : s.isClosed ch.ref = false) (typed : x.goType = some t) :
    (assignable t ch.elem = true ∧ s.send ch x = .ok (s.pushSent ch.ref x)) ∨
    (assignable t ch.elem = false ∧ ∃ msg, s.send ch x = .error (.string msg)) := by
  cases ha : assignable t ch.elem
  · exact .inr ⟨rfl, by simp [StreamClient.send, typed, ha]⟩
  · exact .inl ⟨rfl, by simp [StreamClient.send, typed, ha, isOpen]⟩

/-- An open channel takes the number `convertNumberToChannelType` converted for it. -/
theorem send_converted {s : StreamClient} {ch : ChanValue} {f : Float} {v : GoValue}
    (isOpen : s.isClosed ch.ref = false) (converts : convertNumberToChannelType (zeroType ch.elem) f = (v, true)) :
    s.send ch v = .ok (s.pushSent ch.ref v) := by
  obtain ⟨k, hel, -, rfl⟩ := convertNumberToChannelType_ok converts
  rcases send_open isOpen (show (GoValue.ofNumber k f).goType = some (.basic k) from rfl) with ⟨-, hs⟩ | ⟨ha, -⟩
  · exact hs
  · simp [assignable, hel] at ha

/-- When `receiveStreamItem` returns `nil` for an item other than an array, on a registered stream, it has
    sent exactly one value on the stream's channel: the number converted to the element type, or the item
    itself; or else the item is a number, the element type is none of the thirteen types
    `convertNumberToChannelType` converts to, and nothing is sent. -/
theorem receiveStreamItem_nil {s t : StreamClient} {streamItem : StreamItemMessage} {ch : ChanValue}
    (found : s.upstreamChannels streamItem.invocationID = some ch)
    (notArray : ∀ items, streamItem.item ≠ .array items)
    (returned : receiveStreamItem s streamItem = .ok (none, t)) :
    (∃ f k, streamItem.item = .number f ∧ ch.elem = .basic k ∧ k.converts = true ∧
      t = s.pushSent ch.ref (.ofNumber k f)) ∨
    (∃ f, streamItem.item = .number f ∧ (∀ k, ch.elem = .basic k → k.converts = false) ∧ t = s) ∨
    ((∀ f, streamItem.item ≠ .number f) ∧ t = s.pushSent ch.ref (.item streamItem.item)) := by
  cases receiveStreamItem_outcome found with
  | converted f v number converts sent =>
    obtain ⟨sends, -⟩ := send_map_ok (sent ▸ returned)
    obtain ⟨k, hel, hk, rfl⟩ := convertNumberToChannelType_ok converts
    exact .inl ⟨f, k, number, hel, hk, (send_ok sends).2⟩
  | dropped f v number drops dropped =>
    cases dropped ▸ returned
    exact .inr (.inl ⟨f, number, convertNumberToChannelType_drop drops, rfl⟩)
  | null _ panics | arrayOnInterface _ _ _ panics => cases panics ▸ returned
  | arrayOnOther items array _ _ _ _ => exact absurd array (notArray items)
  | plain notNumber _ _ _ send =>
    cases send with
    | sent _ sends sent =>
      cases sent ▸ returned
      exact .inr (.inr ⟨notNumber, (send_ok sends).2⟩)
    | failed _ _ failed => cases failed ▸ returned
    | assertionPanic _ _ panics => cases panics ▸ returned

theorem receiveStreamItem_nil_int :
    let s : StreamClient :=
      (buildChannelArgument newStreamClient ⟨1, "upload", "7", [], ["s"]⟩ (.chan .both (.basic .int)) 0).2
    let streamItem : StreamItemMessage := ⟨2, "s", .number 1⟩
    let ch : ChanValue := ⟨0, .basic .int⟩
    let t := s.pushSent 0 (.ofNumber .int 1)
    receiveStreamItem s streamItem = .ok (none, t) ∧
    ((∃ f k, streamItem.item = .number f ∧ ch.elem = .basic k ∧ k.converts = true ∧
        t = s.pushSent ch.ref (.ofNumber k f)) ∨
      (∃ f, streamItem.item = .number f ∧ (∀ k, ch.elem = .basic k → k.converts = false) ∧ t = s) ∨
      ((∀ f, streamItem.item ≠ .number f) ∧ t = s.pushSent ch.ref (.item streamItem.item))) :=
  ⟨rfl, @receiveStreamItem_nil _ _ ⟨2, "s", .number 1⟩ ⟨0, .basic .int⟩ rfl (fun _ h => nomatch h) rfl⟩

/-- A number on a stream of a defined type, `chan MyInt`: `convertNumberToChannelType` does not name the
    type, and the item is dropped with a `nil` result and nothing sent. -/
theorem receiveStreamItem_drops_number :
    let s : StreamClient := (buildChannelArgument newStreamClient ⟨1, "upload", "7", [], ["s"]⟩
      (.chan .both (.named "main.MyInt" (.basic .int))) 0).2
    Reachable s ∧ s.upstreamChannels "s" = some ⟨0, .named "main.MyInt" (.basic .int)⟩ ∧
      s.channels = [⟨false, [], "s"⟩] ∧ receiveStreamItem s ⟨2, "s", .number 1⟩ = .ok (none, s) :=
  ⟨Reachable.init.build .., rfl, rfl, rfl⟩

/-! ### Panics -/

/-- On a reachable state, an item for a registered stream makes `receiveStreamItem` panic exactly when it
    is `null`, an array for a channel of interface type, or an item other than a number or an array whose
    type the channel does not accept. -/
theorem receiveStreamItem_panics_iff {s : StreamClient} (h : Reachable s) {streamItem : StreamItemMessage}
    {ch : ChanValue} (found : s.upstreamChannels streamItem.invocationID = some ch) :
    (∃ p, receiveStreamItem s streamItem = .error p) ↔
      streamItem.item = .null ∨
      (∃ items, streamItem.item = .array items ∧ ch.elem.kind = .interface) ∨
      ((∀ f, streamItem.item ≠ .number f) ∧ (∀ items, streamItem.item ≠ .array items) ∧
        ∃ t, streamItem.item.goType = some t ∧ assignable t ch.elem = false) := by
  have isOpen := isClosed_of_info ((Registry.reachable h).stored _ ch found)
  cases receiveStreamItem_outcome found with
  | converted f v number converts returned =>
    rw [returned, send_converted isOpen converts, number]
    exact iff_of_false (fun ⟨_, hp⟩ => nomatch hp)
      (by rintro (h | ⟨_, h, -⟩ | ⟨h, -⟩) <;> first | cases h | exact h f rfl)
  | dropped f v number _ returned =>
    rw [returned, number]
    exact iff_of_false (fun ⟨_, hp⟩ => nomatch hp)
      (by rintro (h | ⟨_, h, -⟩ | ⟨h, -⟩) <;> first | cases h | exact h f rfl)
  | null isNull returned =>
    rw [returned]
    exact iff_of_true ⟨_, rfl⟩ (.inl isNull)
  | arrayOnInterface items array iface returned =>
    rw [returned]
    exact iff_of_true ⟨_, rfl⟩ (.inr (.inl ⟨items, array, iface⟩))
  | arrayOnOther items array notIface _ _ returned =>
    rw [returned, array]
    refine iff_of_false (fun ⟨_, hp⟩ => nomatch hp) ?_
    rintro (h | ⟨_, h, hk⟩ | ⟨-, h, -⟩)
    · cases h
    · cases h; exact notIface hk
    · exact h items rfl
  | plain notNumber notArray ty typed send =>
    -- on an open channel the send fails only for an unassignable type, and then with a string
    have typedValue : (GoValue.item streamItem.item).goType = some ty := typed
    cases send with
    | sent _ sends returned =>
      rw [returned]
      refine iff_of_false (fun ⟨_, hp⟩ => nomatch hp) ?_
      rintro (h | ⟨_, h, -⟩ | ⟨-, -, ty', typed', unassignable⟩)
      · rw [h] at typed; cases typed
      · exact notArray _ h
      · rw [typed] at typed'
        cases typed'
        rcases send_open isOpen typedValue with ⟨assignable, -⟩ | ⟨-, _, sends'⟩
        · rw [assignable] at unassignable; cases unassignable
        · rw [sends] at sends'; cases sends'
    | failed _ sends _ =>
      rcases send_open isOpen typedValue with ⟨-, sends'⟩ | ⟨-, _, sends'⟩ <;> rw [sends] at sends' <;> cases sends'
    | assertionPanic _ sends returned =>
      rw [returned]
      rcases send_open isOpen typedValue with ⟨-, sends'⟩ | ⟨unassignable, _, -⟩
      · rw [sends] at sends'; cases sends'
      · exact iff_of_true ⟨_, rfl⟩ (.inr (.inr ⟨notNumber, notArray, ty, typed, unassignable⟩))

theorem receiveStreamItem_panics_iff_string :
    let s : StreamClient :=
      (buildChannelArgument newStreamClient ⟨1, "upload", "7", [], ["s"]⟩ (.chan .both (.basic .int)) 0).2
    let streamItem : StreamItemMessage := ⟨2, "s", .string "abc"⟩
    let ch : ChanValue := ⟨0, .basic .int⟩
    Reachable s ∧ s.upstreamChannels streamItem.invocationID = some ch ∧
    ((∃ p, receiveStreamItem s streamItem = .error p) ↔
      streamItem.item = .null ∨ (∃ items, streamItem.item = .array items ∧ ch.elem.kind = .interface) ∨
      ((∀ f, streamItem.item ≠ .number f) ∧ (∀ items, streamItem.item ≠ .array items) ∧
        ∃ t, streamItem.item.goType = some t ∧ assignable t ch.elem = false)) :=
  have reach := Reachable.init.build ⟨1, "upload", "7", [], ["s"]⟩ (.chan .both (.basic .int)) 0
  ⟨reach, rfl, @receiveStreamItem_panics_iff _ reach ⟨2, "s", .string "abc"⟩ ⟨0, .basic .int⟩ rfl⟩

/-- A string for a stream of `chan int`, and a `null` item: `reflect` panics with a string, which the
    recover handler asserts to be an `error`, and `Kind()` panics on the `nil` type of `null`. -/
theorem receiveStreamItem_panics :
    let s : StreamClient :=
      (buildChannelArgument newStreamClient ⟨1, "upload", "7", [], ["s"]⟩ (.chan .both (.basic .int)) 0).2
    Reachable s ∧
    receiveStreamItem s ⟨2, "s", .string "abc"⟩ =
      .error (.error (.runtime "interface conversion: string is not error: missing method Error")) ∧
    receiveStreamItem s ⟨2, "s", .null⟩ = .error (.error nilDereference) :=
  ⟨Reachable.init.build .., rfl, rfl⟩

/-! ### What reaches a channel -/

section Channels
variable {s : StreamClient}

theorem channels_register (sid : String) (elem : GoType) (r : Nat) :
    (s.register sid elem).channels[r]? =
      if r = s.channels.length then some ⟨false, [], sid⟩ else s.channels[r]? := by
  simp only [StreamClient.register, makeChan, store]
  rcases Nat.lt_or_ge r s.channels.length with hr | hr
  · simp [List.getElem?_append_left hr, Nat.ne_of_lt hr]
  · rw [List.getElem?_append_right hr]
    by_cases he : r = s.channels.length
    · simp [he]
    · rw [if_neg he, List.getElem?_eq_none hr, List.getElem?_eq_none (by simp only [List.length_singleton]; omega)]

theorem channels_pushSent (ref : Nat) (x : GoValue) (r : Nat) :
    (s.pushSent ref x).channels[r]? =
      (s.channels[r]?).map fun c => if ref = r then { c with sent := c.sent ++ [x] } else c :=
  List.getElem?_modify _ ref s.channels r

theorem channels_markClosed_sent (ref r : Nat) :
    ((s.markClosed ref).channels[r]?).map (·.sent) = (s.channels[r]?).map (·.sent) := by
  simp only [markClosed, List.getElem?_modify, Option.map_eq_map, Option.map_map]
  congr 1
  funext c
  split <;> rfl

end Channels

/-- In every run from `newStreamClient()`, each value sent on a channel is a number converted to one of
    the thirteen types the conversion names, or a `bool`, string or object item: no `null`, no array and no
    unconverted number ever reaches a channel. -/
theorem sent_deliverable {s : StreamClient} (h : Reachable s) :
    ∀ (r : Nat) (c : Channel), s.channels[r]? = some c → ∀ v ∈ c.sent, v.deliverable = true := by
  induction h with
  | init => intro r c found; simp [newStreamClient] at found
  | @step pre post _ step ih =>
    intro r c found v sent
    cases step with
    | build invocation argType chanCount result h =>
      rcases buildChannelArgument_state h with rfl | ⟨sid, elem, rfl⟩
      · exact ih r c found v sent
      · rw [channels_register] at found
        split_ifs at found
        · cases found; cases sent
        · exact ih r c found v sent
    | item streamItem err h =>
      rcases receiveStreamItem_sent h with rfl | ⟨ch, x, -, carries, -, rfl⟩
      · exact ih r c found v sent
      · rw [channels_pushSent] at found
        obtain ⟨c', found', rfl⟩ := Option.map_eq_some'.mp found
        split_ifs at sent
        · rcases List.mem_append.mp sent with old | new
          · exact ih r c' found' v old
          · rw [List.mem_singleton.mp new]; exact carries.deliverable
        · exact ih r c' found' v sent
    | completion completion h =>
      rcases receiveCompletionItem_state h with rfl | ⟨ch, -, -, rfl⟩
      · exact ih r c found v sent
      · have same : ((pre.markClosed ch.ref).channels[r]?).map (·.sent) = (pre.channels[r]?).map (·.sent) :=
          channels_markClosed_sent ch.ref r
        change (pre.markClosed ch.ref).channels[r]? = some c at found
        rw [found] at same
        obtain ⟨c', found', hsent⟩ := Option.map_eq_some'.mp same.symm
        exact ih r c' found' v (hsent ▸ sent)

theorem sent_deliverable_one_item :
    let s : StreamClient :=
      (buildChannelArgument newStreamClient ⟨1, "upload", "7", [], ["s"]⟩ (.chan .both (.basic .int)) 0).2
    let t := s.pushSent 0 (.ofNumber .int 1)
    Reachable t ∧ t.channels[0]? = some ⟨false, [.ofNumber .int 1], "s"⟩ ∧
      ∀ v ∈ [GoValue.ofNumber .int 1], v.deliverable = true :=
  have reach : Reachable ((buildChannelArgument newStreamClient ⟨1, "upload", "7", [], ["s"]⟩
      (.chan .both (.basic .int)) 0).2.pushSent 0 (.ofNumber .int 1)) :=
    .step (Reachable.init.build ⟨1, "upload", "7", [], ["s"]⟩ (.chan .both (.basic .int)) 0)
      (.item ⟨2, "s", .number 1⟩ none rfl)
  ⟨reach, rfl, sent_deliverable reach 0 _ rfl⟩

end SignalR
