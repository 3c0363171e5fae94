import SignalR.Theorems.ItemOutcome

/-! # The upstream channel registry

Every run of `buildChannelArgument`, `receiveStreamItem` and `receiveCompletionItem` from
`newStreamClient()` keeps three facts (`Registry`): a stored channel is open and was made for the id it
is stored under, so no two ids share one; it is the newest channel made for its id; and an open channel
that is not stored has a newer channel with its id. So an open channel is reachable from its id exactly
when no newer channel took the id (`live_channel_stored_iff`), and a registration under the id of a live
channel leaves that channel open and unreachable (`duplicate_stream_id_orphans_channel`). A completion
never meets a closed channel and no item is sent on one (`registry_channels_open`). -/

namespace SignalR
open StreamClient

/-! ### What the registry sees of a channel -/

/-- Whether the channel `r` is closed, and its stream id; `none` if no such channel was made. -/
def StreamClient.info (s : StreamClient) (r : Nat) : Option (Bool × String) :=
  (s.channels[r]?).map fun c => (c.closed, c.streamId)

/-- The state after `buildChannelArgument` stored a new channel of element type `elem` under `sid`. -/
def StreamClient.register (s : StreamClient) (sid : String) (elem : GoType) : StreamClient :=
  (s.makeChan elem sid).2.store sid (s.makeChan elem sid).1

section Info
variable {s : StreamClient}

theorem info_lt {r : Nat} {p : Bool × String} (h : s.info r = some p) : r < s.channels.length := by
  by_contra hr
  simp [StreamClient.info, List.getElem?_eq_none (Nat.le_of_not_lt hr)] at h

theorem isClosed_of_info {r : Nat} {sid : String} (h : s.info r = some (false, sid)) : s.isClosed r = false := by
  obtain ⟨c, hc, hcs⟩ := Option.map_eq_some'.mp h
  simp [isClosed, hc, (Prod.mk.inj hcs).1]

@[simp] theorem info_pushSent (ref : Nat) (x : GoValue) : (s.pushSent ref x).info = s.info := by
  funext r
  by_cases hr : ref = r
  · subst hr
    simp only [StreamClient.info, pushSent, List.getElem?_modify_eq]
    cases s.channels[ref]? <;> rfl
  · simp [StreamClient.info, pushSent, List.getElem?_modify_ne _ _ hr]

theorem info_markClosed (ref r : Nat) :
    (s.markClosed ref).info r = if r = ref then (s.info r).map fun p => (true, p.2) else s.info r := by
  by_cases hr : r = ref
  · subst hr
    simp only [StreamClient.info, markClosed, List.getElem?_modify_eq, if_true]
    cases s.channels[r]? <;> rfl
  · simp [StreamClient.info, markClosed, List.getElem?_modify_ne _ _ (Ne.symm hr), hr]

theorem register_upstreamChannels (sid : String) (elem : GoType) (k : String) :
    (s.register sid elem).upstreamChannels k =
      if k = sid then some ⟨s.channels.length, elem⟩ else s.upstreamChannels k := rfl

theorem info_register (sid : String) (elem : GoType) (r : Nat) :
    (s.register sid elem).info r = if r = s.channels.length then some (false, sid) else s.info r := by
  simp only [StreamClient.info, register, makeChan, store]
  rcases Nat.lt_or_ge r s.channels.length with hr | hr
  · simp [List.getElem?_append_left hr, Nat.ne_of_lt hr]
  · rw [List.getElem?_append_right hr, List.getElem?_eq_none hr]
    by_cases he : r = s.channels.length
    · simp [he]
    · simp [he, List.getElem?_eq_none (show [(⟨false, [], sid⟩ : Channel)].length ≤ r - s.channels.length by
        simp only [List.length_singleton]; omega)]

end Info

/-! ### What each call does to the state -/

section Calls
variable {s t : StreamClient}

theorem buildChannelArgument_state {invocation : InvocationMessage} {argType : GoType} {chanCount : Nat}
    {r : Option ChanValue × Bool × Option GoError} (h : buildChannelArgument s invocation argType chanCount = (r, t)) :
    t = s ∨ ∃ sid elem, t = s.register sid elem := by
  unfold buildChannelArgument at h
  split at h
  · split_ifs at h
    · exact .inl (congrArg Prod.snd h).symm
    · exact .inr ⟨_, _, (congrArg Prod.snd h).symm⟩
    · exact .inl (congrArg Prod.snd h).symm
  · exact .inl (congrArg Prod.snd h).symm

theorem receiveCompletionItem_state {completion : CompletionMessage} (h : receiveCompletionItem s completion = .ok t) :
    t = s ∨ ∃ ch, s.upstreamChannels completion.invocationID = some ch ∧ s.isClosed ch.ref = false ∧
      t = (s.markClosed ch.ref).delete completion.invocationID := by
  unfold receiveCompletionItem at h
  split at h
  · rename_i ch hch
    unfold StreamClient.close at h
    split_ifs at h with hc
    · cases h
    · cases h
      exact .inr ⟨ch, hch, Bool.eq_false_iff.mpr hc, rfl⟩
  · cases h
    exact .inl rfl

end Calls

/-! ### The invariant -/

/-- The registry invariant. -/
structure Registry (s : StreamClient) : Prop where
  /-- A stored channel was made, is open, and was made for the id it is stored under. -/
  stored : ∀ sid ch, s.upstreamChannels sid = some ch → s.info ch.ref = some (false, sid)
  /-- A stored channel is the newest channel made for its id. -/
  newest : ∀ sid ch, s.upstreamChannels sid = some ch → ∀ r b, ch.ref < r → s.info r ≠ some (b, sid)
  /-- An open channel that is not stored has a newer channel with its id. -/
  displaced : ∀ r sid, s.info r = some (false, sid) →
    (s.upstreamChannels sid).map (·.ref) = some r ∨ ∃ r' b, r < r' ∧ s.info r' = some (b, sid)

namespace Registry
variable {s t : StreamClient}

theorem init : Registry newStreamClient where
  stored _ _ h := nomatch h
  newest _ _ h := nomatch h
  displaced _ _ h := by simp [newStreamClient, StreamClient.info] at h

theorem register (hr : Registry s) (sid : String) (elem : GoType) : Registry (s.register sid elem) where
  stored k ch h := by
    rw [register_upstreamChannels] at h
    rw [info_register]
    split_ifs at h with hk
    · cases h
      simp [hk]
    · have hs := hr.stored k ch h
      rwa [if_neg (Nat.ne_of_lt (info_lt hs))]
  newest k ch h r b hlt := by
    rw [register_upstreamChannels] at h
    rw [info_register]
    split_ifs at h with hk
    · cases h
      rw [if_neg (Nat.ne_of_gt hlt)]
      exact fun hr' => absurd (info_lt hr') (by simp only at hlt; omega)
    · split_ifs with hrl
      · exact fun heq => hk (Prod.mk.inj (Option.some.inj heq)).2.symm
      · exact hr.newest k ch h r b hlt
  displaced r k h := by
    rw [info_register] at h
    split_ifs at h with hrl
    · cases h
      exact .inl (by simp [register_upstreamChannels, hrl])
    · rcases hr.displaced r k h with hst | ⟨r', b, hlt, hr'⟩
      · by_cases hk : k = sid
        · subst hk
          exact .inr ⟨s.channels.length, false, info_lt h, by simp [info_register]⟩
        · exact .inl (by simpa [register_upstreamChannels, hk] using hst)
      · exact .inr ⟨r', b, hlt, by rwa [info_register, if_neg (Nat.ne_of_lt (info_lt hr'))]⟩

theorem close (hr : Registry s) {id : String} {ch : ChanValue} (found : s.upstreamChannels id = some ch) :
    Registry ((s.markClosed ch.ref).delete id) where
  stored k ch' h := by
    have hk : k ≠ id := fun hk => by simp [delete, hk] at h
    simp only [delete, markClosed, hk, if_false] at h
    have hs := hr.stored k ch' h
    show (s.markClosed ch.ref).info ch'.ref = _
    rw [info_markClosed, if_neg]
    · exact hs
    · intro heq
      rw [heq, hr.stored id ch found] at hs
      exact hk (Prod.mk.inj (Option.some.inj hs)).2.symm
  newest k ch' h r b hlt := by
    have hk : k ≠ id := fun hk => by simp [delete, hk] at h
    simp only [delete, markClosed, hk, if_false] at h
    show (s.markClosed ch.ref).info r ≠ _
    rw [info_markClosed]
    split_ifs with hr'
    · rw [hr', hr.stored id ch found]
      exact fun heq => hk (Prod.mk.inj (Option.some.inj heq)).2.symm
    · exact hr.newest k ch' h r b hlt
  displaced r k h := by
    change (s.markClosed ch.ref).info r = _ at h
    rw [info_markClosed] at h
    split_ifs at h with hr'
    · rw [hr', hr.stored id ch found] at h
      cases h
    · rcases hr.displaced r k h with hst | ⟨r', b, hlt, hr''⟩
      · have hk : k ≠ id := fun hk => by
          rw [hk, found] at hst
          exact hr' (Option.some.inj hst).symm
        exact .inl (by simpa [delete, markClosed, hk] using hst)
      · refine .inr ⟨r', ?_, hlt, ?_⟩
        · exact if r' = ch.ref then true else b
        · show (s.markClosed ch.ref).info r' = _
          rw [info_markClosed]
          split_ifs <;> simp [hr'']

/-- A state with the same map and the same channels, up to the values sent on them. -/
theorem of_frame (hr : Registry s) (hm : t.upstreamChannels = s.upstreamChannels) (hi : t.info = s.info) :
    Registry t := by
  obtain ⟨stored, newest, displaced⟩ := hr
  exact ⟨hm ▸ hi ▸ stored, hm ▸ hi ▸ newest, hm ▸ hi ▸ displaced⟩

theorem step (hr : Registry s) : Step s t → Registry t
  | .build _ _ _ _ h => by
    rcases buildChannelArgument_state h with rfl | ⟨sid, elem, rfl⟩
    · exact hr
    · exact hr.register sid elem
  | .item _ _ h => by
    rcases receiveStreamItem_sent h with rfl | ⟨ch, x, -, -, -, rfl⟩
    · exact hr
    · exact hr.of_frame rfl (info_pushSent ch.ref x)
  | .completion _ h => by
    rcases receiveCompletionItem_state h with rfl | ⟨ch, found, -, rfl⟩
    · exact hr
    · exact hr.close found

theorem reachable (h : Reachable s) : Registry s := by
  induction h with
  | init => exact init
  | step _ hs ih => exact ih.step hs

end Registry

theorem Reachable.build {s : StreamClient} (h : Reachable s) (invocation : InvocationMessage) (argType : GoType)
    (chanCount : Nat) : Reachable (buildChannelArgument s invocation argType chanCount).2 :=
  .step h (.build invocation argType chanCount _ rfl)

/-! ### Closed channels -/

section Closed
variable {s : StreamClient}

theorem send_sendOnClosed {ch : ChanValue} {x : GoValue}
    (h : s.send ch x = .error (.error sendOnClosedChannel)) : s.isClosed ch.ref = true := by
  unfold StreamClient.send at h
  split at h
  · cases h
  · split_ifs at h with ha hc
    · cases h
    · exact hc

/-- `receiveStreamItem` fails as a send on a closed channel only when the channel of its id is closed. -/
theorem receiveStreamItem_sendOnClosed {streamItem : StreamItemMessage}
    (h : receiveStreamItem s streamItem = .error (.error sendOnClosedChannel) ∨
      ∃ t, receiveStreamItem s streamItem = .ok (some sendOnClosedChannel, t)) :
    ∃ ch, s.upstreamChannels streamItem.invocationID = some ch ∧ s.isClosed ch.ref = true := by
  cases found : s.upstreamChannels streamItem.invocationID with
  | none => simp [receiveStreamItem_missing found] at h
  | some ch =>
    refine ⟨ch, rfl, ?_⟩
    cases receiveStreamItem_outcome found with
    | converted f v _ _ returned =>
      rw [returned] at h
      cases hs : s.send ch v with
      | error p =>
        obtain rfl : p = .error sendOnClosedChannel := by simpa [hs, Except.map] using h
        exact send_sendOnClosed hs
      | ok t => simp [hs, Except.map] at h
    | plain _ _ _ _ send =>
      cases send with
      | failed e sends returned =>
        obtain rfl : e = sendOnClosedChannel := by simpa [returned] using h
        exact send_sendOnClosed sends
      | sent _ _ returned | assertionPanic _ _ returned => simp [returned, sendOnClosedChannel] at h
    | dropped _ _ _ _ returned | null _ returned | arrayOnInterface _ _ _ returned =>
      simp [returned, nilDereference, sendOnClosedChannel] at h
    | arrayOnOther _ _ _ err text returned =>
      rcases text with rfl | ⟨msg, rfl⟩ <;> simp [returned, sendOnClosedChannel] at h

end Closed

/-! ### Channels and ids -/

/-- Every stored channel is open and no two stream ids share one; so a completion never closes a closed
    channel and a second one for the same id changes nothing, and no stream item is sent on a closed
    channel. -/
theorem registry_channels_open {s : StreamClient} (h : Reachable s) :
    (∀ sid ch, s.upstreamChannels sid = some ch → ∃ c, s.channels[ch.ref]? = some c ∧ c.closed = false) ∧
    (∀ sid sid' ch ch', s.upstreamChannels sid = some ch → s.upstreamChannels sid' = some ch' →
      ch.ref = ch'.ref → sid = sid') ∧
    (∀ completion, ∃ t, receiveCompletionItem s completion = .ok t ∧
      receiveCompletionItem t completion = .ok t) ∧
    (∀ streamItem, receiveStreamItem s streamItem ≠ .error (.error sendOnClosedChannel) ∧
      ∀ t, receiveStreamItem s streamItem ≠ .ok (some sendOnClosedChannel, t)) := by
  have hr := Registry.reachable h
  have isOpen : ∀ sid ch, s.upstreamChannels sid = some ch → s.isClosed ch.ref = false :=
    fun sid ch found => isClosed_of_info (hr.stored sid ch found)
  refine ⟨fun sid ch found => ?_, fun sid sid' ch ch' found found' same => ?_, fun completion => ?_,
    fun streamItem => ⟨fun hc => ?_, fun t hc => ?_⟩⟩
  · obtain ⟨c, hc, hcs⟩ := Option.map_eq_some'.mp (hr.stored sid ch found)
    exact ⟨c, hc, (Prod.mk.inj hcs).1⟩
  · have hs := hr.stored sid ch found
    rw [same, hr.stored sid' ch' found'] at hs
    exact (Prod.mk.inj (Option.some.inj hs)).2.symm
  · cases found : s.upstreamChannels completion.invocationID with
    | none => exact ⟨s, by simp [receiveCompletionItem, found], by simp [receiveCompletionItem, found]⟩
    | some ch =>
      refine ⟨(s.markClosed ch.ref).delete completion.invocationID, ?_, ?_⟩
      · simp [receiveCompletionItem, found, StreamClient.close, isOpen _ ch found, Except.map]
      · simp [receiveCompletionItem, delete]
  · obtain ⟨ch, found, hcl⟩ := receiveStreamItem_sendOnClosed (.inl hc)
    simp [isOpen _ ch found] at hcl
  · obtain ⟨ch, found, hcl⟩ := receiveStreamItem_sendOnClosed (.inr ⟨t, hc⟩)
    simp [isOpen _ ch found] at hcl

theorem registry_channels_open_one_stream :
    Reachable (buildChannelArgument newStreamClient ⟨1, "upload", "7", [], ["s"]⟩ (.chan .both (.basic .int)) 0).2 ∧
    ∀ completion, ∃ t,
      receiveCompletionItem
        (buildChannelArgument newStreamClient ⟨1, "upload", "7", [], ["s"]⟩ (.chan .both (.basic .int)) 0).2
        completion = .ok t ∧ receiveCompletionItem t completion = .ok t :=
  have reach := Reachable.init.build ⟨1, "upload", "7", [], ["s"]⟩ (.chan .both (.basic .int)) 0
  ⟨reach, (registry_channels_open reach).2.2.1⟩

/-- An open channel is the one stored under its stream id, so that a completion for the id closes it,
    exactly when no channel made after it has that id. -/
theorem live_channel_stored_iff {s : StreamClient} (h : Reachable s) {r : Nat} {c : Channel}
    (found : s.channels[r]? = some c) (live : c.closed = false) :
    (s.upstreamChannels c.streamId).map (·.ref) = some r ↔
      ∀ r' c', r < r' → s.channels[r']? = some c' → c'.streamId ≠ c.streamId := by
  have hr := Registry.reachable h
  have hinfo : s.info r = some (false, c.streamId) := by simp [StreamClient.info, found, live]
  constructor
  · intro stored r' c' hlt found' same
    obtain ⟨ch, hch, rfl⟩ := Option.map_eq_some'.mp stored
    exact hr.newest _ ch hch r' c'.closed hlt (by simp [StreamClient.info, found', same])
  · intro newer
    rcases hr.displaced r _ hinfo with stored | ⟨r', b, hlt, hr'⟩
    · exact stored
    · obtain ⟨c', found', hc'⟩ := Option.map_eq_some'.mp hr'
      exact absurd (Prod.mk.inj hc').2 (newer r' c' hlt found')

theorem live_channel_stored_iff_one_stream :
    let s : StreamClient :=
      (buildChannelArgument newStreamClient ⟨1, "upload", "7", [], ["s"]⟩ (.chan .both (.basic .int)) 0).2
    Reachable s ∧ s.channels[0]? = some ⟨false, [], "s"⟩ ∧
      ((s.upstreamChannels "s").map (·.ref) = some 0 ↔
        ∀ r' c', 0 < r' → s.channels[r']? = some c' → c'.streamId ≠ "s") :=
  have reach := Reachable.init.build ⟨1, "upload", "7", [], ["s"]⟩ (.chan .both (.basic .int)) 0
  ⟨reach, rfl, @live_channel_stored_iff _ reach 0 ⟨false, [], "s"⟩ rfl rfl⟩

/-- An invocation that lists the stream id `a` twice: the second channel replaces the first in the
    registry, and the first stays open but is no longer stored under `a`. -/
theorem duplicate_stream_id_orphans_channel :
    ¬ ∀ s, Reachable s → ∀ r c, s.channels[r]? = some c → c.closed = false →
      (s.upstreamChannels c.streamId).map (·.ref) = some r := fun hall => by
  have reach := (Reachable.init.build ⟨1, "upload", "7", [], ["a", "a"]⟩ (.chan .both (.basic .int)) 0).build
    ⟨1, "upload", "7", [], ["a", "a"]⟩ (.chan .both (.basic .int)) 1
  exact absurd (hall _ reach 0 ⟨false, [], "a"⟩ rfl rfl) (by decide)

end SignalR
