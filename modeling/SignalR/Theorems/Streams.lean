import SignalR.Theorems.StreamItem

/-! # The streams a client receives

What the upstream registry is for, said without channels: for each live stream id, the values delivered
on its stream so far, in order (`Streams`). A registration opens a stream with no values, and drops
whatever stream the id had (the orphaned channel of `duplicate_stream_id_orphans_channel`); an item
appends the item's value (`GoValue.Carries`) to the live stream of its id, or changes nothing; a
completion ends the stream of its id (`Streams.Step`).

`StreamClient.streams` reads the streams off the map and the channels. Every call that returns on a
reachable state takes one such step (`call_refines`), so every run of calls from `newStreamClient()` is a
run of the streams (`streams_refine`). What holds of every run of the streams then holds of the client's:
a stream changes only by a call that names its id (`calls_other_stream`), and while only items name it,
what it holds is kept, and grows by values that some of its items carry, in order, one for each
(`calls_extend_stream`). -/

namespace SignalR
open StreamClient

/-! ### Calls -/

/-- A call the hub makes on its `streamClient`. -/
inductive Call where
  | build (invocation : InvocationMessage) (argType : GoType) (chanCount : Nat)
  | item (streamItem : StreamItemMessage)
  | completion (completion : CompletionMessage)
  deriving Repr

/-- The stream id a call names: the one `buildChannelArgument` stores under, or the `invocationID`. -/
def Call.streamId? : Call → Option String
  | .build invocation _ chanCount => invocation.streamIds[chanCount]?
  | .item m => some m.invocationID
  | .completion m => some m.invocationID

def Call.isItem : Call → Bool
  | .item _ => true
  | _ => false

/-- The content of a call that is an item for the stream `sid`. -/
def Call.itemFor? (sid : String) : Call → Option JsonValue
  | .item m => if m.invocationID = sid then some m.item else none
  | _ => none

/-- The state after the call, or the panic that ends the program. -/
def StreamClient.call (s : StreamClient) : Call → Except PanicValue StreamClient
  | .build invocation argType chanCount => .ok (buildChannelArgument s invocation argType chanCount).2
  | .item streamItem => (receiveStreamItem s streamItem).map (·.2)
  | .completion completion => receiveCompletionItem s completion

/-- The calls one after another, up to the first panic. -/
def StreamClient.calls (s : StreamClient) : List Call → Except PanicValue StreamClient
  | [] => .ok s
  | c :: cs => (s.call c).bind fun t => t.calls cs

section Calls
variable {s t : StreamClient}

theorem call_item {streamItem : StreamItemMessage} (h : s.call (.item streamItem) = .ok t) :
    ∃ err, receiveStreamItem s streamItem = .ok (err, t) := by
  cases found : receiveStreamItem s streamItem with
  | error p => simp [StreamClient.call, found, Except.map] at h
  | ok r =>
    obtain rfl : r.2 = t := by simpa [StreamClient.call, found, Except.map] using h
    exact ⟨r.1, rfl⟩

theorem call_step : {c : Call} → s.call c = .ok t → Step s t
  | .build invocation argType chanCount, h => by
    cases h
    exact .build invocation argType chanCount _ rfl
  | .item streamItem, h => .item streamItem _ (call_item h).choose_spec
  | .completion completion, h => .completion completion h

end Calls

/-! ### The abstract model -/

/-- For each stream id, the values delivered on its live stream so far; `none` when it has none. -/
abbrev Streams := String → Option (List GoValue)

namespace Streams

/-- A stream opened for `sid`, with no values. -/
def register (σ : Streams) (sid : String) : Streams := Function.update σ sid (some [])

/-- `x` delivered on the stream of `sid`. -/
def deliver (σ : Streams) (sid : String) (x : GoValue) : Streams := Function.update σ sid ((σ sid).map (· ++ [x]))

/-- The stream of `sid` ended. -/
def complete (σ : Streams) (sid : String) : Streams := Function.update σ sid none

/-- What a call may do to the streams: a registration opens the stream of the id it names, or does
    nothing; an item appends a value it carries to the live stream of its id, or does nothing; a
    completion ends the stream of its id. -/
inductive Step : Streams → Call → Streams → Prop
  | register {σ : Streams} {invocation : InvocationMessage} {argType : GoType} {chanCount : Nat}
      (h : chanCount < invocation.streamIds.length) :
      Step σ (.build invocation argType chanCount) (σ.register invocation.streamIds[chanCount])
  | noChannel {σ : Streams} {invocation : InvocationMessage} {argType : GoType} {chanCount : Nat} :
      Step σ (.build invocation argType chanCount) σ
  | deliver {σ : Streams} {streamItem : StreamItemMessage} {vs : List GoValue} {x : GoValue}
      (live : σ streamItem.invocationID = some vs) (carries : GoValue.Carries streamItem.item x) :
      Step σ (.item streamItem) (σ.deliver streamItem.invocationID x)
  | drop {σ : Streams} {streamItem : StreamItemMessage} : Step σ (.item streamItem) σ
  | complete {σ : Streams} {completion : CompletionMessage} :
      Step σ (.completion completion) (σ.complete completion.invocationID)

/-- The streams after a run of calls. -/
inductive Run : Streams → List Call → Streams → Prop
  | nil {σ : Streams} : Run σ [] σ
  | cons {σ σ' σ'' : Streams} {c : Call} {cs : List Call} : Step σ c σ' → Run σ' cs σ'' → Run σ (c :: cs) σ''

section Abstract
variable {σ σ' : Streams} {sid : String}

/-- A step changes only the stream of the id its call names. -/
theorem Step.frame {c : Call} (h : Step σ c σ') (other : c.streamId? ≠ some sid) : σ' sid = σ sid := by
  cases h with
  | register lt =>
    refine Function.update_noteq (fun he => other ?_) _ _
    simp [Call.streamId?, List.getElem?_eq_getElem lt, he]
  | deliver => exact Function.update_noteq (fun he => other (by simp [Call.streamId?, he])) _ _
  | complete => exact Function.update_noteq (fun he => other (by simp [Call.streamId?, he])) _ _
  | noChannel | drop => rfl

theorem Run.frame {cs : List Call} (h : Run σ cs σ') (other : ∀ c ∈ cs, c.streamId? ≠ some sid) :
    σ' sid = σ sid := by
  induction h with
  | nil => rfl
  | cons step _ ih =>
    rw [ih fun c hc => other c (List.mem_cons_of_mem _ hc), step.frame (other _ (List.mem_cons_self _ _))]

/-- A step whose call names `sid` only if it is an item leaves the stream of `sid` as it is, or is an item
    for `sid` that appends a value it carries. -/
theorem Step.extend {c : Call} (h : Step σ c σ') (onlyItems : c.streamId? = some sid → c.isItem = true) :
    σ' sid = σ sid ∨ ∃ m x, c = .item m ∧ m.invocationID = sid ∧ GoValue.Carries m.item x ∧
      σ' sid = (σ sid).map (· ++ [x]) := by
  by_cases named : c.streamId? = some sid
  · cases h with
    | @deliver m _ x _ carries =>
      obtain rfl : m.invocationID = sid := Option.some.inj named
      exact .inr ⟨m, x, rfl, rfl, carries, Function.update_same _ _ _⟩
    | drop => exact .inl rfl
    | register | noChannel | complete => simp [Call.isItem, named] at onlyItems
  · exact .inl (h.frame named)

theorem Run.extend {cs : List Call} (h : Run σ cs σ') (onlyItems : ∀ c ∈ cs, c.streamId? = some sid → c.isItem = true) :
    ∃ items ws, items.Sublist (cs.filterMap (·.itemFor? sid)) ∧ List.Forall₂ GoValue.Carries items ws ∧
      σ' sid = (σ sid).map (· ++ ws) := by
  induction h with
  | nil => exact ⟨[], [], List.nil_sublist _, .nil, by simp⟩
  | @cons _ _ _ c cs step _ ih =>
    obtain ⟨items, ws, sub, carried, extended⟩ := ih fun c' hc' => onlyItems c' (List.mem_cons_of_mem _ hc')
    rcases step.extend (onlyItems c (List.mem_cons_self _ _)) with same | ⟨m, x, rfl, rfl, carries, appended⟩
    · exact ⟨items, ws, sub.trans ((List.sublist_cons_self c cs).filterMap _), carried, by rw [extended, same]⟩
    · refine ⟨m.item :: items, x :: ws, ?_, .cons carries carried, ?_⟩
      · have found : Call.itemFor? m.invocationID (.item m) = some m.item := by simp [Call.itemFor?]
        rw [List.filterMap_cons_some found]
        exact sub.cons₂ _
      · rw [extended, appended, Option.map_map]
        simp [Function.comp_def]

end Abstract

end Streams

/-! ### The streams of a client -/

/-- The streams a client holds: under each stored id, the values sent on its channel. -/
def StreamClient.streams (s : StreamClient) : Streams := fun sid =>
  (s.upstreamChannels sid).bind fun ch => (s.channels[ch.ref]?).map (·.sent)

section Refinement
variable {s t : StreamClient}

theorem Registry.ref_inj (hr : Registry s) {a b : String} {ca cb : ChanValue} (ha : s.upstreamChannels a = some ca)
    (hb : s.upstreamChannels b = some cb) (same : ca.ref = cb.ref) : a = b := by
  have hs := hr.stored a ca ha
  rw [same, hr.stored b cb hb] at hs
  exact (Prod.mk.inj (Option.some.inj hs)).2.symm

theorem Registry.streams_live (hr : Registry s) {sid : String} {ch : ChanValue} (found : s.upstreamChannels sid = some ch) :
    ∃ vs, s.streams sid = some vs := by
  obtain ⟨c, hc, -⟩ := Option.map_eq_some'.mp (hr.stored sid ch found)
  exact ⟨c.sent, by simp [StreamClient.streams, found, hc]⟩

theorem streams_register (hr : Registry s) (sid : String) (elem : GoType) :
    (s.register sid elem).streams = s.streams.register sid := by
  funext k
  simp only [StreamClient.streams, Streams.register, Function.update_apply, register_upstreamChannels]
  split_ifs with hk
  · simp [channels_register]
  · cases found : s.upstreamChannels k with
    | none => rfl
    | some ch =>
      simp only [Option.some_bind, channels_register, if_neg (Nat.ne_of_lt (info_lt (hr.stored k ch found)))]

theorem streams_pushSent (hr : Registry s) {id : String} {ch : ChanValue} (found : s.upstreamChannels id = some ch)
    (x : GoValue) : (s.pushSent ch.ref x).streams = s.streams.deliver id x := by
  funext k
  simp only [StreamClient.streams, Streams.deliver, Function.update_apply]
  change (s.upstreamChannels k).bind _ = _
  split_ifs with hk
  · subst hk
    simp [found, channels_pushSent, Option.map_map, Function.comp_def]
  · cases found' : s.upstreamChannels k with
    | none => rfl
    | some ch' =>
      have apart : ch.ref ≠ ch'.ref := fun same => hk (hr.ref_inj found found' same).symm
      simp [channels_pushSent, apart, Function.comp_def]

theorem streams_receiveCompletionItem {completion : CompletionMessage} (h : receiveCompletionItem s completion = .ok t) :
    t.streams = s.streams.complete completion.invocationID := by
  funext k
  simp only [Streams.complete, Function.update_apply]
  unfold receiveCompletionItem at h
  split at h
  · rename_i ch found
    unfold StreamClient.close at h
    split_ifs at h
    · cases h
    obtain rfl := Except.ok.inj h
    split_ifs with hk
    · simp [StreamClient.streams, delete, hk]
    · change ((if k = completion.invocationID then none else s.upstreamChannels k).bind
          fun ch' => ((s.markClosed ch.ref).channels[ch'.ref]?).map (·.sent)) =
        (s.upstreamChannels k).bind fun ch' => (s.channels[ch'.ref]?).map (·.sent)
      rw [if_neg hk]
      cases s.upstreamChannels k with
      | none => rfl
      | some ch' => exact channels_markClosed_sent ch.ref ch'.ref
  · rename_i found
    cases h
    split_ifs with hk
    · simp [StreamClient.streams, hk, found]
    · rfl

theorem buildChannelArgument_registers (s : StreamClient) (invocation : InvocationMessage) (argType : GoType)
    (chanCount : Nat) :
    (buildChannelArgument s invocation argType chanCount).2 = s ∨ ∃ (lt : chanCount < invocation.streamIds.length)
      (elem : GoType), (buildChannelArgument s invocation argType chanCount).2 =
        s.register invocation.streamIds[chanCount] elem := by
  unfold buildChannelArgument
  split
  · split_ifs with send lt
    · exact .inl rfl
    · exact .inr ⟨lt, _, rfl⟩
    · exact .inl rfl
  · exact .inl rfl

/-- A call that returns, on a state that keeps the registry invariant, takes one step of the streams. -/
theorem call_refines (hr : Registry s) : {c : Call} → s.call c = .ok t → Streams.Step s.streams c t.streams
  | .build invocation argType chanCount, h => by
    obtain rfl : (buildChannelArgument s invocation argType chanCount).2 = t := Except.ok.inj h
    rcases buildChannelArgument_registers s invocation argType chanCount with same | ⟨lt, elem, registered⟩
    · rw [same]
      exact .noChannel
    · rw [registered, streams_register hr]
      exact .register lt
  | .item streamItem, h => by
    obtain ⟨err, found⟩ := call_item h
    rcases receiveStreamItem_sent found with rfl | ⟨ch, x, stored, carries, -, rfl⟩
    · exact .drop
    · obtain ⟨vs, live⟩ := hr.streams_live stored
      rw [streams_pushSent hr stored]
      exact .deliver live carries
  | .completion completion, h => by
    rw [streams_receiveCompletionItem h]
    exact .complete

theorem run_of_calls (hr : Registry s) (cs : List Call) (h : s.calls cs = .ok t) :
    Streams.Run s.streams cs t.streams := by
  induction cs generalizing s with
  | nil =>
    cases h
    exact .nil
  | cons c cs ih =>
    rw [StreamClient.calls] at h
    cases hc : s.call c with
    | error p =>
      rw [hc] at h
      cases h
    | ok u =>
      rw [hc] at h
      exact .cons (call_refines hr hc) (ih (hr.step (call_step hc)) h)

end Refinement

/-- Every run of calls from `newStreamClient()` that does not panic is a run of the streams: each
    registration opens the stream of the id it names or does nothing, each item appends a value it carries
    to the live stream of its own id or does nothing, and each completion ends the stream of its id. -/
theorem streams_refine (cs : List Call) {t : StreamClient} (h : newStreamClient.calls cs = .ok t) :
    Streams.Run (fun _ => none) cs t.streams :=
  run_of_calls Registry.init cs h

theorem streams_refine_upload :
    let cs : List Call := [.build ⟨1, "upload", "7", [], ["s"]⟩ (.chan .both (.basic .int)) 0,
      .item ⟨2, "s", .number 1⟩, .completion ⟨3, "s", .null, ""⟩]
    let t : StreamClient := ((newStreamClient.register "s" (.basic .int)).pushSent 0 (.ofNumber .int 1)).markClosed
      0 |>.delete "s"
    newStreamClient.calls cs = .ok t ∧ Streams.Run (fun _ => none) cs t.streams :=
  ⟨rfl, streams_refine _ rfl⟩

/-- In every run from a reachable state, a stream changes only by a call that names its id. -/
theorem calls_other_stream {s t : StreamClient} (h : Reachable s) (cs : List Call) (run : s.calls cs = .ok t)
    {sid : String} (other : ∀ c ∈ cs, c.streamId? ≠ some sid) : t.streams sid = s.streams sid :=
  (run_of_calls (Registry.reachable h) cs run).frame other

theorem calls_other_stream_two_streams :
    let s : StreamClient := newStreamClient.register "a" (.basic .int)
    let cs : List Call := [.build ⟨1, "upload", "7", [], ["b"]⟩ (.chan .both (.basic .int)) 0,
      .item ⟨2, "b", .number 1⟩, .completion ⟨3, "b", .null, ""⟩]
    let t : StreamClient := ((s.register "b" (.basic .int)).pushSent 1 (.ofNumber .int 1)).markClosed 1 |>.delete "b"
    Reachable s ∧ s.calls cs = .ok t ∧ (∀ c ∈ cs, c.streamId? ≠ some "a") ∧ t.streams "a" = s.streams "a" :=
  have reach : Reachable (newStreamClient.register "a" (.basic .int)) :=
    Reachable.init.build ⟨1, "upload", "7", [], ["a"]⟩ (.chan .both (.basic .int)) 0
  ⟨reach, rfl, by decide, calls_other_stream reach [.build ⟨1, "upload", "7", [], ["b"]⟩ (.chan .both (.basic .int)) 0,
    .item ⟨2, "b", .number 1⟩, .completion ⟨3, "b", .null, ""⟩] rfl (by decide)⟩

/-- In every run from a reachable state in which only items name a stream's id, the stream afterwards is
    the stream before followed by values carried by some of the items for it, in order, one value for each:
    no value is lost from it, reordered, sent twice, sent to another stream or made up. -/
theorem calls_extend_stream {s t : StreamClient} (h : Reachable s) (cs : List Call) (run : s.calls cs = .ok t)
    {sid : String} (onlyItems : ∀ c ∈ cs, c.streamId? = some sid → c.isItem = true) :
    ∃ items ws, items.Sublist (cs.filterMap (·.itemFor? sid)) ∧ List.Forall₂ GoValue.Carries items ws ∧
      t.streams sid = (s.streams sid).map (· ++ ws) :=
  (run_of_calls (Registry.reachable h) cs run).extend onlyItems

theorem calls_extend_stream_two_items :
    let s : StreamClient := newStreamClient.register "s" (.basic .int)
    let cs : List Call := [.item ⟨2, "s", .number 1⟩, .item ⟨2, "s", .number 2⟩]
    let t : StreamClient := (s.pushSent 0 (.ofNumber .int 1)).pushSent 0 (.ofNumber .int 2)
    Reachable s ∧ s.calls cs = .ok t ∧ (∀ c ∈ cs, c.streamId? = some "s" → c.isItem = true) ∧
      ∃ items ws, items.Sublist (cs.filterMap (·.itemFor? "s")) ∧ List.Forall₂ GoValue.Carries items ws ∧
        t.streams "s" = (s.streams "s").map (· ++ ws) :=
  have reach : Reachable (newStreamClient.register "s" (.basic .int)) :=
    Reachable.init.build ⟨1, "upload", "7", [], ["s"]⟩ (.chan .both (.basic .int)) 0
  ⟨reach, rfl, by decide,
    calls_extend_stream reach [.item ⟨2, "s", .number 1⟩, .item ⟨2, "s", .number 2⟩] rfl (by decide)⟩

end SignalR
