import EstateMesh.Documents
import EstateMesh.Lib.EventStream
import EstateMesh.Mesh.FanOut

/-!
# The stream of events

`GET /v1/mesh/events/stream` subscribes a queue to the event bus and writes what it takes from
the queue as an event stream, with a comment from time to time when there is nothing.  The
bus, any number of streams and their clients interleave as they like.

`streamStep` is the machine of all of them.  It is the machine of the fan-out below
(`streams_refine`), and adds what is sent.  Whoever reads a stream gets the events that the
fan-out has for its queue, each one once, in order, and each one as it was emitted
(`stream_delivers`).
-/

namespace EstateMesh

open Lib Lib.EventStream Machine

/-- The event bus, and what the streams have sent. -/
structure EventStreams where
  fan : FanOut := {}
  sent : Dict ℕ (List Char) := ∅

/-- What happens to the event bus or to one of the streams. -/
inductive StreamLabel
  | emit (uuid occurredAt : String) (eventType : MeshEventType) (correlationId : String)
      (payload : Value)
  | opened (queue : ℕ)
  | /-- The stream takes an event. -/ event (queue : ℕ)
  | /-- There was no event for fifteen seconds. -/ timeout (queue : ℕ)
  | closed (queue : ℕ)

/-- What is sent for an event. -/
def eventChunk (m : JsonModule) (event : MeshEvent) : Except PyError (List Char) := do
  let data ← m.dumps JsonModule.compact event.toValue
  return "event: ".toList ++ event.eventType.name.toList ++ "\ndata: ".toList ++ data ++
    "\n\n".toList

/-- What is sent when there is no event. -/
def keepaliveChunk : List Char := ": keepalive\n\n".toList

namespace EventStreams

/-- What a stream has sent. -/
def text (x : EventStreams) (queue : ℕ) : List Char := (x.sent.get? queue).getD []

/-- A stream that has been opened and not closed. -/
def IsOpen (x : EventStreams) (queue : ℕ) : Prop := (x.fan.bus.subscribers.get? queue).isSome

/-- Send some text. -/
def send (x : EventStreams) (queue : ℕ) (chunk : List Char) : Dict ℕ (List Char) :=
  x.sent.set queue (x.text queue ++ chunk)

end EventStreams

/-- The machine of the event bus and its streams.  An event that cannot be written ends the
stream. -/
def streamStep (m : JsonModule) : Machine EventStreams StreamLabel
  | x, .emit uuid occurredAt eventType correlationId payload =>
      (fanOutStep x.fan (.emit uuid occurredAt eventType correlationId payload)).map fun fan ↦
        { x with fan := fan }
  | x, .opened queue =>
      (fanOutStep x.fan (.subscribe queue)).map fun fan ↦
        { fan := fan, sent := x.sent.set queue [] }
  | x, .event queue =>
      match x.fan.bus.subscribers.get? queue with
      | some (event :: _) =>
          (fanOutStep x.fan (.get queue)).bind fun fan ↦
            match eventChunk m event with
            | .ok chunk => some { fan := fan, sent := x.send queue chunk }
            | .error _ => (fanOutStep fan (.unsubscribe queue)).map fun fan ↦ { x with fan := fan }
      | _ => none
  | x, .timeout queue =>
      match x.fan.bus.subscribers.get? queue with
      | some [] => some { x with sent := x.send queue keepaliveChunk }
      | _ => none
  | x, .closed queue =>
      match x.fan.bus.subscribers.get? queue with
      | some _ => (fanOutStep x.fan (.unsubscribe queue)).map fun fan ↦ { x with fan := fan }
      | none => none

/-- What a step is for the fan-out. -/
def fanLabels (m : JsonModule) (x : EventStreams) : StreamLabel → List FanOutLabel
  | .emit uuid occurredAt eventType correlationId payload =>
      [.emit uuid occurredAt eventType correlationId payload]
  | .opened queue => [.subscribe queue]
  | .event queue =>
      match (x.fan.queued queue).head? with
      | some event =>
          match eventChunk m event with
          | .ok _ => [.get queue]
          | .error _ => [.get queue, .unsubscribe queue]
      | none => []
  | .timeout _ => []
  | .closed queue => [.unsubscribe queue]

/-- What some steps are for the fan-out. -/
def fanSteps (m : JsonModule) (past : List (EventStreams × StreamLabel)) :
    List (FanOut × FanOutLabel) :=
  stepsBelow fanOutStep EventStreams.fan (fanLabels m) past

namespace EventStreams

variable {m : JsonModule} {x y : EventStreams} {l : StreamLabel} {queue : ℕ}

/-! ## What a step does -/

/-- An event is taken from an open queue. -/
theorem exists_of_event (h : streamStep m x (.event queue) = some y) :
    ∃ event events fan, x.fan.bus.subscribers.get? queue = some (event :: events) ∧
      fanOutStep x.fan (.get queue) = some fan ∧
      ((∃ chunk, eventChunk m event = .ok chunk ∧ fanLabels m x (.event queue) = [.get queue] ∧
          y = { fan := fan, sent := x.send queue chunk }) ∨
        ∃ e fan', eventChunk m event = .error e ∧
          fanLabels m x (.event queue) = [.get queue, .unsubscribe queue] ∧
          fanOutStep fan (.unsubscribe queue) = some fan' ∧ y = { x with fan := fan' }) := by
  rw [streamStep] at h
  split at h
  · rename_i event events hqueue
    obtain ⟨fan, hfan, h⟩ := Option.bind_eq_some_iff.mp h
    refine ⟨event, events, fan, hqueue, hfan, ?_⟩
    have hhead : (x.fan.queued queue).head? = some event := by
      rw [FanOut.queued_of_subscribed hqueue]
      rfl
    cases hchunk : eventChunk m event with
    | ok chunk =>
        rw [hchunk] at h
        refine .inl ⟨chunk, rfl, ?_, (Option.some.inj h).symm⟩
        simp only [fanLabels, hhead, hchunk]
    | error e =>
        rw [hchunk] at h
        obtain ⟨fan', hfan', rfl⟩ := Option.map_eq_some_iff.mp h
        refine .inr ⟨e, fan', rfl, ?_, hfan', rfl⟩
        simp only [fanLabels, hhead, hchunk]
  · cases h

/-- A comment is sent to an open queue without events. -/
theorem eq_of_timeout (h : streamStep m x (.timeout queue) = some y) :
    x.fan.bus.subscribers.get? queue = some [] ∧
      y = { x with sent := x.send queue keepaliveChunk } := by
  rw [streamStep] at h
  split at h
  · rename_i hqueue
    exact ⟨hqueue, (Option.some.inj h).symm⟩
  · cases h

/-- An open queue is closed. -/
theorem exists_of_closed (h : streamStep m x (.closed queue) = some y) :
    ∃ fan, x.IsOpen queue ∧ fanOutStep x.fan (.unsubscribe queue) = some fan ∧
      y = { x with fan := fan } := by
  rw [streamStep] at h
  split at h
  · rename_i hqueue
    obtain ⟨fan, hfan, rfl⟩ := Option.map_eq_some_iff.mp h
    exact ⟨fan, by rw [IsOpen, hqueue]; rfl, hfan, rfl⟩
  · cases h

end EventStreams

/-- The streams are consumers of the fan-out. -/
theorem streams_refine (m : JsonModule) :
    (streamStep m).Refines fanOutStep EventStreams.fan (fanLabels m) := by
  intro x l y h
  cases l with
  | emit uuid occurredAt eventType correlationId payload =>
      rw [streamStep] at h
      obtain ⟨fan, hfan, rfl⟩ := Option.map_eq_some_iff.mp h
      exact run_singleton hfan
  | opened queue =>
      obtain ⟨fan, hfan, rfl⟩ := Option.map_eq_some_iff.mp h
      exact run_singleton hfan
  | event queue =>
      obtain ⟨event, events, fan, -, hfan, hcase⟩ := EventStreams.exists_of_event h
      rcases hcase with ⟨chunk, -, hlabels, rfl⟩ | ⟨e, fan', -, hlabels, hfan', rfl⟩
      · rw [hlabels]
        exact run_singleton hfan
      · rw [hlabels]
        exact run_cons_eq_some.mpr ⟨fan, hfan, run_singleton hfan'⟩
  | timeout queue =>
      obtain ⟨-, rfl⟩ := EventStreams.eq_of_timeout h
      rfl
  | closed queue =>
      obtain ⟨fan, -, hfan, rfl⟩ := EventStreams.exists_of_closed h
      exact run_singleton hfan

/-! ## What a reader gets -/

/-- The message of an event, if the event can be written. -/
def streamMessage (m : JsonModule) (event : MeshEvent) : Option Message :=
  (m.dumps JsonModule.compact event.toValue).toOption.map fun data ↦
    ⟨event.eventType.name.toList, data⟩

/-- A chunk is a frame, with the event on one line. -/
theorem chunk_of_event {m : JsonModule} {event : MeshEvent} {chunk : List Char}
    (h : eventChunk m event = .ok chunk) :
    ∃ message, streamMessage m event = some message ∧ (Frame.message message).IsPlain ∧
      chunk = (Frame.message message).text := by
  obtain ⟨data, hdata, h⟩ := bind_eq_ok_iff.mp h
  have hflat : JsonModule.compact.IsFlat := ⟨Json.isPrintable_nil, Json.isPrintable_nil, fun _ ↦ rfl⟩
  have hline : IsLine data := by
    intro c hc
    have hprintable := JsonModule.isPrintable_dumps hflat hdata c hc
    constructor
    · rintro rfl
      exact absurd hprintable (by decide)
    · rintro rfl
      exact absurd hprintable (by decide)
  have htype : event.eventType.name.toList ≠ [] ∧ IsLine event.eventType.name.toList := by
    cases event.eventType <;> decide
  refine ⟨⟨event.eventType.name.toList, data⟩, ?_, ⟨htype.1, htype.2, hline⟩, ?_⟩
  · rw [streamMessage, hdata]
    rfl
  · obtain rfl := Except.ok.inj h
    simp [Frame.text, Frame.lines]

theorem streamMessage_of_error {m : JsonModule} {event : MeshEvent} {e : PyError}
    (h : eventChunk m event = .error e) : streamMessage m event = none := by
  rw [streamMessage]
  cases hdata : m.dumps JsonModule.compact event.toValue with
  | error e => rfl
  | ok data =>
      rw [eventChunk, hdata] at h
      cases h

/-- What a stream has sent after some events were taken from its queue. -/
structure EventStreams.Sends (m : JsonModule) (x : EventStreams) (queue : ℕ)
    (events : List MeshEvent) : Prop where
  /-- A reader has the messages of the events, and nothing is incomplete. -/
  read : Reader.run {} (x.text queue) = { messages := events.filterMap (streamMessage m) }
  /-- Only the last event may be missing, and the stream is closed then. -/
  complete : x.IsOpen queue → ∀ event ∈ events, (streamMessage m event).isSome
  last : ∀ event ∈ events.dropLast, (streamMessage m event).isSome
  subscribed : events ≠ [] → (x.fan.queue? queue).isSome

namespace EventStreams

open FanOut (consumed taken)

variable {m : JsonModule} {x y : EventStreams} {queue queue' : ℕ} {events : List MeshEvent}

theorem consumed_fanSteps (m : JsonModule) (queue : ℕ) (past : List (EventStreams × StreamLabel))
    (x : EventStreams) (l : StreamLabel) :
    consumed queue (fanSteps m (past ++ [(x, l)])) =
      consumed queue (fanSteps m past) ++ consumed queue (fanOutStep.steps x.fan (fanLabels m x l)) := by
  rw [fanSteps, stepsBelow, List.flatMap_append, List.flatMap_singleton, consumed,
    List.filterMap_append]
  rfl

/-- The fan-out goes on without this stream. -/
theorem Sends.of_fan {l : FanOutLabel} (hsends : Sends m x queue events)
    (hstep : fanOutStep x.fan l = some y.fan) (hl : l ≠ .subscribe queue)
    (htext : y.text queue = x.text queue) : Sends m y queue events := by
  have hqueue := FanOut.isSome_of_step hstep queue
  have hopen := FanOut.subscribes_of_step hstep queue
  refine ⟨by rw [htext, hsends.read], ?_, hsends.last, fun he ↦ hqueue (hsends.subscribed he)⟩
  exact fun hy ↦ hsends.complete ((hopen hy).resolve_right hl)

/-- Other streams do not matter. -/
theorem text_send_of_ne (x : EventStreams) (h : queue' ≠ queue) (fan : FanOut) (chunk : List Char) :
    text { fan := fan, sent := x.send queue' chunk } queue = x.text queue := by
  rw [text, send, Dict.get?_set_of_ne _ h]
  rfl

theorem text_send_self (x : EventStreams) (fan : FanOut) (chunk : List Char) :
    text { fan := fan, sent := x.send queue chunk } queue = x.text queue ++ chunk := by
  rw [text, send, Dict.get?_set_self]
  rfl

/-- A comment changes nothing for a reader. -/
theorem Sends.keepalive (hsends : Sends m x queue events) :
    Sends m { x with sent := x.send queue keepaliveChunk } queue events := by
  refine ⟨?_, hsends.complete, hsends.last, hsends.subscribed⟩
  have hframe : keepaliveChunk = (Frame.comment " keepalive".toList).text := by decide
  have hplain : IsLine " keepalive".toList := by decide
  have hframe' := Reader.run_frame (f := .comment " keepalive".toList) hplain
  rw [text_send_self, Reader.run_append, hsends.read, hframe, hframe', Frame.message?,
    Option.toList_none, List.append_nil]

/-- What one step takes from a queue. -/
theorem consumed_steps_singleton {x y : FanOut} {l : FanOutLabel} (h : fanOutStep x l = some y) :
    consumed queue (fanOutStep.steps x [l]) = (taken queue (x, l)).toList := by
  rw [steps_cons h]
  cases htaken : taken queue (x, l) <;> simp [consumed, steps, htaken]

/-- And when the stream leaves afterwards. -/
theorem consumed_steps_unsubscribe {x y z : FanOut} (h : fanOutStep x (.get queue') = some y)
    (h' : fanOutStep y (.unsubscribe queue') = some z) :
    consumed queue (fanOutStep.steps x [.get queue', .unsubscribe queue']) =
      (taken queue (x, .get queue')).toList := by
  have hleave : consumed queue (fanOutStep.steps y [.unsubscribe queue']) = [] :=
    consumed_steps_singleton h'
  rw [steps_cons h, consumed, ← List.singleton_append, List.filterMap_append]
  show _ ++ consumed queue (fanOutStep.steps y [.unsubscribe queue']) = _
  rw [hleave, List.append_nil, ← consumed_steps_singleton h, steps_cons h]
  rfl

/-- A stream takes an event and sends it. -/
theorem Sends.event {event : MeshEvent} {rest : List MeshEvent} {fan : FanOut} {chunk : List Char}
    (hsends : Sends m x queue events) (hqueue : x.fan.bus.subscribers.get? queue = some (event :: rest))
    (hfan : fanOutStep x.fan (.get queue) = some fan) (hchunk : eventChunk m event = .ok chunk) :
    Sends m { fan := fan, sent := x.send queue chunk } queue (events ++ [event]) := by
  obtain ⟨message, hmessage, hplain, rfl⟩ := chunk_of_event hchunk
  have hopen : x.IsOpen queue := by rw [IsOpen, hqueue]; rfl
  have hsome : ∀ event ∈ events, (streamMessage m event).isSome := hsends.complete hopen
  have hlast : ∀ e ∈ events ++ [event], (streamMessage m e).isSome := by
    rw [List.forall_mem_append, List.forall_mem_singleton, hmessage]
    exact ⟨hsome, rfl⟩
  refine ⟨?_, fun _ ↦ hlast, fun e he ↦ hlast e (List.dropLast_subset _ he), fun _ ↦ ?_⟩
  · rw [text_send_self, Reader.run_append, hsends.read, Reader.run_frame hplain, Frame.message?,
      List.filterMap_append, List.filterMap_cons, hmessage]
    rfl
  · have hsubscribed : (x.fan.queue? queue).isSome := by
      rw [FanOut.queue?, hqueue]
      rfl
    exact FanOut.isSome_of_step hfan queue hsubscribed

/-- A stream takes an event that cannot be written. -/
theorem Sends.error {event : MeshEvent} {rest : List MeshEvent} {fan fan' : FanOut} {e : PyError}
    (hsends : Sends m x queue events) (hqueue : x.fan.bus.subscribers.get? queue = some (event :: rest))
    (hfan : fanOutStep x.fan (.get queue) = some fan)
    (hfan' : fanOutStep fan (.unsubscribe queue) = some fan') (he : eventChunk m event = .error e) :
    Sends m { x with fan := fan' } queue (events ++ [event]) := by
  have hopen : x.IsOpen queue := by rw [IsOpen, hqueue]; rfl
  have hmessage := streamMessage_of_error he
  refine ⟨?_, fun hopen' ↦ ?_, ?_, fun _ ↦ ?_⟩
  · have hread : Reader.run {} (x.text queue) = _ := hsends.read
    rw [List.filterMap_append, List.filterMap_cons, hmessage, List.filterMap_nil, List.append_nil]
    exact hread
  · have hclosed := FanOut.not_subscribed_of_unsubscribe hfan'
    rw [IsOpen, hclosed] at hopen'
    cases hopen'
  · rw [List.dropLast_concat]
    exact hsends.complete hopen
  · have hsubscribed : (x.fan.queue? queue).isSome := by
      rw [FanOut.queue?, hqueue]
      rfl
    exact FanOut.isSome_of_step hfan' queue (FanOut.isSome_of_step hfan queue hsubscribed)

/-- The step lemma. -/
theorem Sends.step {l : StreamLabel} (hsends : Sends m x queue events)
    (h : streamStep m x l = some y) :
    Sends m y queue (events ++ consumed queue (fanOutStep.steps x.fan (fanLabels m x l))) := by
  cases l with
  | emit uuid occurredAt eventType correlationId payload =>
      rw [streamStep] at h
      obtain ⟨fan, hfan, rfl⟩ := Option.map_eq_some_iff.mp h
      rw [fanLabels, consumed_steps_singleton hfan]
      exact (List.append_nil events).symm ▸ hsends.of_fan hfan nofun rfl
  | opened queue' =>
      obtain ⟨fan, hfan, rfl⟩ := Option.map_eq_some_iff.mp h
      rw [fanLabels, consumed_steps_singleton hfan]
      show Sends m _ queue (events ++ [])
      rw [List.append_nil]
      rcases eq_or_ne queue' queue with rfl | hne
      · obtain ⟨hnew, -⟩ := Option.ite_none_right_eq_some.mp hfan
        have hevents : events = [] := by
          by_contra he
          have hsome := hsends.subscribed he
          rw [hnew] at hsome
          cases hsome
        subst hevents
        refine ⟨?_, fun _ ↦ nofun, nofun, fun he ↦ absurd rfl he⟩
        rw [text, Dict.get?_set_self]
        rfl
      · refine hsends.of_fan hfan (fun e ↦ hne (FanOutLabel.subscribe.inj e)) ?_
        rw [text, Dict.get?_set_of_ne _ hne]
        rfl
  | event queue' =>
      obtain ⟨event, rest, fan, hqueue, hfan, hcase⟩ := exists_of_event h
      have htaken : taken queue (x.fan, .get queue') = if queue' = queue then some event else none := by
        show (if queue' = queue then (x.fan.queued queue).head? else none) = _
        split
        · rename_i heq
          rw [← heq, FanOut.queued_of_subscribed hqueue]
          rfl
        · rfl
      rcases hcase with ⟨chunk, hchunk, hlabels, rfl⟩ | ⟨e, fan', he, hlabels, hfan', rfl⟩
      · rw [hlabels, consumed_steps_singleton hfan, htaken]
        split
        · rename_i heq
          subst heq
          exact hsends.event hqueue hfan hchunk
        · rename_i hne
          rw [Option.toList_none, List.append_nil]
          exact hsends.of_fan hfan nofun (text_send_of_ne x hne fan chunk)
      · rw [hlabels, consumed_steps_unsubscribe hfan hfan', htaken]
        split
        · rename_i heq
          subst heq
          exact hsends.error hqueue hfan hfan' he
        · rename_i hne
          rw [Option.toList_none, List.append_nil]
          have hmiddle : Sends m { x with fan := fan } queue events := hsends.of_fan hfan nofun rfl
          exact hmiddle.of_fan hfan' nofun rfl
  | timeout queue' =>
      obtain ⟨-, rfl⟩ := eq_of_timeout h
      show Sends m _ queue (events ++ [])
      rw [List.append_nil]
      rcases eq_or_ne queue' queue with rfl | hne
      · exact hsends.keepalive
      · refine ⟨?_, hsends.complete, hsends.last, hsends.subscribed⟩
        rw [text_send_of_ne x hne]
        exact hsends.read
  | closed queue' =>
      obtain ⟨fan, -, hfan, rfl⟩ := exists_of_closed h
      rw [fanLabels, consumed_steps_singleton hfan]
      exact (List.append_nil events).symm ▸ hsends.of_fan hfan nofun rfl

end EventStreams

/-! ## Runs -/

/-- What a client of a stream gets, however emissions, streams and clients interleave. -/
structure Delivers (m : JsonModule) (x : EventStreams) (steps : List (FanOut × FanOutLabel))
    (queue : ℕ) : Prop where
  fansOut : FanOut.FansOut 1000 x.fan steps
  sends : x.Sends m queue (FanOut.consumed queue steps)
  /-- What the client finds in the data of an event is the event. -/
  data : ∀ event ∈ FanOut.consumed queue steps, m.IsDocument 0 event.toValue →
    ∀ message, streamMessage m event = some message → m.loads message.data = some event.toValue

/-- A stream delivers its events. -/
theorem stream_delivers (m : JsonModule) (labels : List StreamLabel) (x : EventStreams)
    (hrun : (streamStep m).run {} labels = some x) (queue : ℕ) :
    Delivers m x (fanSteps m ((streamStep m).steps {} labels)) queue := by
  let fans (fan : FanOut) (steps : List (FanOut × FanOutLabel)) : Prop :=
    fan.bus.maxEvents = 1000 ∧ FanOut.FansOut 1000 fan steps
  have hfans : ∀ fan steps l fan', fans fan steps → fanOutStep fan l = some fan' →
      fans fan' (steps ++ [(fan, l)]) := by
    rintro fan steps l fan' ⟨hbus, h⟩ hstep
    exact ⟨(FanOut.events_of_step hstep).1.trans hbus, h.step (by decide) hbus hstep⟩
  let J (x : EventStreams) (past : List (EventStreams × StreamLabel)) : Prop :=
    fans x.fan (fanSteps m past) ∧ x.Sends m queue (FanOut.consumed queue (fanSteps m past))
  have hinit : J {} [] :=
    ⟨⟨rfl, ⟨List.suffix_refl _, rfl, fun _ ↦ nofun, fun _ ↦ List.Pairwise.nil, fun _ ↦ rfl,
      fun _ ↦ rfl, fun _ ↦ Nat.zero_le _⟩⟩, ⟨rfl, fun _ ↦ nofun, nofun, fun he ↦ absurd rfl he⟩⟩
  have hkeep : ∀ x past l y, J x past → streamStep m x l = some y → J y (past ++ [(x, l)]) := by
    rintro x past l y ⟨hfan, hsends⟩ hstep
    refine ⟨(streams_refine m).step hfans hfan hstep, ?_⟩
    rw [EventStreams.consumed_fanSteps]
    exact hsends.step hstep
  obtain ⟨⟨-, hfansOut⟩, hsends⟩ := run_steps hkeep hrun hinit
  refine ⟨hfansOut, hsends, fun event _ hdocument message hmessage ↦ ?_⟩
  obtain ⟨data, hdata, rfl⟩ := Option.map_eq_some_iff.mp hmessage
  exact JsonModule.loads_of_dumps hdocument (eq_ok_of_toOption hdata)

/-- A client that connects between two events, waits and leaves. -/
def clientLabels : List StreamLabel :=
  [.emit "1" "" .routeResolved "run-1" .none, .opened 0, .timeout 0,
    .emit "2" "" .invocationStarted "run-1" (.object [("service", .str "a\nb")]), .event 0, .closed 0]

/-- It gets the second event. -/
theorem client_stream_delivers :
    ∃ x, (streamStep default).run {} clientLabels = some x ∧
      Delivers default x (fanSteps default ((streamStep default).steps {} clientLabels)) 0 ∧
      (FanOut.consumed 0 (fanSteps default ((streamStep default).steps {} clientLabels))).map
        MeshEvent.eventType = [.invocationStarted] :=
  ⟨_, rfl, stream_delivers default clientLabels _ rfl 0, rfl⟩

end EstateMesh
