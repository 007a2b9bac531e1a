import EstateMesh.Lib.Machine
import EstateMesh.Mesh.EventBus

/-!
# The fan-out of events

Any number of streams subscribe to the event bus, take events from their queues and
unsubscribe, in between the emissions of the calls.  `fanOutStep` is the machine of all
of them.  What a subscriber has taken and what is queued for it is, in the order of
emission, what was emitted while it was subscribed, without what found its own queue full
(`fans_out`).  The other subscribers do not matter.
-/

namespace EstateMesh

open Lib Machine

/-- The event bus, and the queues of those that have unsubscribed from it. -/
structure FanOut where
  bus : EventBus := {}
  detached : Dict ℕ (List MeshEvent) := ∅

/-- What is done to the event bus or to one of the queues. -/
inductive FanOutLabel
  | emit (uuid occurredAt : String) (eventType : MeshEventType) (correlationId : String)
      (payload : Value)
  | subscribe (queue : ℕ)
  | unsubscribe (queue : ℕ)
  | get (queue : ℕ)

namespace FanOut

/-- A queue, wherever it is. -/
def queue? (x : FanOut) (queue : ℕ) : Option (List MeshEvent) :=
  (x.bus.subscribers.get? queue).or (x.detached.get? queue)

/-- What is queued for a consumer. -/
def queued (x : FanOut) (queue : ℕ) : List MeshEvent := (x.queue? queue).getD []

end FanOut

/-- The machine of the event bus and its consumers.  A new queue is none of those that
there are, and a consumer whose queue is empty waits. -/
def fanOutStep : Machine FanOut FanOutLabel
  | x, .emit uuid occurredAt eventType correlationId payload =>
      some { x with bus := (x.bus.emit uuid occurredAt eventType correlationId payload).2 }
  | x, .subscribe queue =>
      if x.queue? queue = none then some { x with bus := x.bus.subscribe queue } else none
  | x, .unsubscribe queue =>
      match x.bus.subscribers.get? queue with
      | none => some { x with bus := x.bus.unsubscribe queue }
      | some events =>
          some { bus := x.bus.unsubscribe queue, detached := x.detached.set queue events }
  | x, .get queue =>
      match x.bus.subscribers.get? queue, x.queued queue with
      | _, [] => none
      | some _, _ :: events =>
          some { x with bus := { x.bus with subscribers := x.bus.subscribers.set queue events } }
      | none, _ :: events => some { x with detached := x.detached.set queue events }

namespace FanOut

/-! ## What was done -/

/-- The event that a step emits, if it emits one. -/
def emission (x : FanOut × FanOutLabel) : Option MeshEvent :=
  match x.2 with
  | .emit uuid occurredAt eventType correlationId payload =>
      some (x.1.bus.emit uuid occurredAt eventType correlationId payload).1
  | _ => none

/-- The events that were emitted. -/
def emitted (steps : List (FanOut × FanOutLabel)) : List MeshEvent := steps.filterMap emission

/-- An event that was emitted while a consumer was subscribed: the number of the emission,
and how much was queued for the consumer then. -/
structure Offer where
  number : ℕ
  event : MeshEvent
  backlog : ℕ

/-- Whether a consumer is subscribed once something has been done. -/
def subscribedAfter (queue : ℕ) (subscribed : Bool) : FanOutLabel → Bool
  | .subscribe queue' => queue' = queue || subscribed
  | .unsubscribe queue' => queue' ≠ queue && subscribed
  | .emit _ _ _ _ _ | .get _ => subscribed

/-- A consumer has subscribed, and not unsubscribed since.  This is about what was done, and not
about the subscribers that the bus knows. -/
def isSubscribed (queue : ℕ) (steps : List (FanOut × FanOutLabel)) : Bool :=
  steps.foldl (fun subscribed x ↦ subscribedAfter queue subscribed x.2) false

/-- The offer that a step makes to a queue, if it emits the event of this number while the
consumer is subscribed. -/
def offer (queue number : ℕ) (subscribed : Bool) (x : FanOut × FanOutLabel) : Option Offer :=
  (emission x).bind fun event ↦
    if subscribed then some ⟨number, event, (x.1.queued queue).length⟩ else none

/-- The offers to a queue, the emissions being numbered from `number` on. -/
def offersFrom (queue : ℕ) : ℕ → Bool → List (FanOut × FanOutLabel) → List Offer
  | _, _, [] => []
  | number, subscribed, x :: steps =>
      (offer queue number subscribed x).toList ++
        offersFrom queue (number + (emission x).toList.length)
          (subscribedAfter queue subscribed x.2) steps

/-- The offers to a queue. -/
def offers (queue : ℕ) (steps : List (FanOut × FanOutLabel)) : List Offer :=
  offersFrom queue 0 false steps

/-- The event that a step takes from a queue, if it takes one. -/
def taken (queue : ℕ) (x : FanOut × FanOutLabel) : Option MeshEvent :=
  match x.2 with
  | .get queue' => if queue' = queue then (x.1.queued queue).head? else none
  | _ => none

/-- The events that a consumer has taken from its queue. -/
def consumed (queue : ℕ) (steps : List (FanOut × FanOutLabel)) : List MeshEvent :=
  steps.filterMap (taken queue)

/-- The fan-out of events: what has become of the emissions of some steps. -/
structure FansOut (maxEvents : ℕ) (x : FanOut) (steps : List (FanOut × FanOutLabel)) : Prop where
  /-- The bus keeps the last events. -/
  last : x.bus.events <:+ emitted steps
  length : x.bus.events.length = min (emitted steps).length maxEvents
  /-- An offer is one of the emissions, and no emission is offered twice. -/
  numbered : ∀ queue, ∀ o ∈ offers queue steps, (emitted steps)[o.number]? = some o.event
  ordered : ∀ queue, (offers queue steps).Pairwise (·.number < ·.number)
  /-- The bus knows those that have subscribed and not left. -/
  subscribed : ∀ queue, (x.bus.subscribers.get? queue).isSome = isSubscribed queue steps
  /-- What a consumer has got and will get are the offers that did not find its own queue
  full. -/
  received : ∀ queue, consumed queue steps ++ x.queued queue =
    ((offers queue steps).filter (·.backlog ≠ EventBus.queueSize)).map Offer.event
  bounded : ∀ queue, (x.queued queue).length ≤ EventBus.queueSize

/-! ## One step -/

variable {queue number : ℕ} {steps : List (FanOut × FanOutLabel)} {x y : FanOut} {l : FanOutLabel}

theorem emitted_append (steps : List (FanOut × FanOutLabel)) (z : FanOut × FanOutLabel) :
    emitted (steps ++ [z]) = emitted steps ++ (emission z).toList := by
  rw [emitted, List.filterMap_append]
  cases h : emission z <;> simp [emitted, h]

theorem consumed_append (queue : ℕ) (steps : List (FanOut × FanOutLabel))
    (z : FanOut × FanOutLabel) :
    consumed queue (steps ++ [z]) = consumed queue steps ++ (taken queue z).toList := by
  rw [consumed, List.filterMap_append]
  cases h : taken queue z <;> simp [consumed, h]

theorem isSubscribed_append (queue : ℕ) (steps : List (FanOut × FanOutLabel))
    (z : FanOut × FanOutLabel) :
    isSubscribed queue (steps ++ [z]) = subscribedAfter queue (isSubscribed queue steps) z.2 := by
  rw [isSubscribed, List.foldl_append]
  rfl

theorem offersFrom_append (queue number : ℕ) (subscribed : Bool)
    (steps : List (FanOut × FanOutLabel)) (z : FanOut × FanOutLabel) :
    offersFrom queue number subscribed (steps ++ [z]) =
      offersFrom queue number subscribed steps ++
        (offer queue (number + (emitted steps).length)
          (steps.foldl (fun subscribed x ↦ subscribedAfter queue subscribed x.2) subscribed)
          z).toList := by
  induction steps generalizing number subscribed with
  | nil => simp [offersFrom, emitted]
  | cons x steps ih =>
      rw [List.cons_append, offersFrom, ih, offersFrom, List.append_assoc, List.foldl_cons]
      have hlength : (emitted (x :: steps)).length =
          (emission x).toList.length + (emitted steps).length := by
        cases h : emission x with
        | none => simp [emitted, h]
        | some event => simp [emitted, h, Nat.add_comm]
      rw [hlength, Nat.add_assoc]

theorem offers_append (queue : ℕ) (steps : List (FanOut × FanOutLabel))
    (z : FanOut × FanOutLabel) :
    offers queue (steps ++ [z]) =
      offers queue steps ++
        (offer queue (emitted steps).length (isSubscribed queue steps) z).toList := by
  rw [offers, offersFrom_append, Nat.zero_add]
  rfl

/-- The events that the bus keeps after a step. -/
theorem events_of_step (h : fanOutStep x l = some y) :
    y.bus.maxEvents = x.bus.maxEvents ∧
      y.bus.events =
        match emission (x, l) with
        | some event =>
            if x.bus.maxEvents < (x.bus.events ++ [event]).length then
              lastItems x.bus.maxEvents (x.bus.events ++ [event])
            else x.bus.events ++ [event]
        | none => x.bus.events := by
  cases l with
  | emit uuid occurredAt eventType correlationId payload =>
      obtain rfl := Option.some.inj h
      exact ⟨rfl, rfl⟩
  | subscribe queue =>
      rw [fanOutStep] at h
      split at h
      · obtain rfl := Option.some.inj h
        exact ⟨rfl, rfl⟩
      · cases h
  | unsubscribe queue =>
      rw [fanOutStep] at h
      split at h
      · obtain rfl := Option.some.inj h
        exact ⟨rfl, rfl⟩
      · obtain rfl := Option.some.inj h
        exact ⟨rfl, rfl⟩
  | get queue =>
      rw [fanOutStep] at h
      split at h
      · cases h
      · obtain rfl := Option.some.inj h
        exact ⟨rfl, rfl⟩
      · obtain rfl := Option.some.inj h
        exact ⟨rfl, rfl⟩

theorem queued_of_subscribed {events : List MeshEvent}
    (h : x.bus.subscribers.get? queue = some events) : x.queued queue = events := by
  rw [queued, queue?, h]
  rfl

/-- An offer finds the queue as it is. -/
theorem backlog_of_offer {subscribed : Bool} {o : Offer}
    (h : offer queue number subscribed (x, l) = some o) :
    o.number = number ∧ emission (x, l) = some o.event ∧
      o.backlog = (x.queued queue).length := by
  obtain ⟨event, hevent, h⟩ := Option.bind_eq_some_iff.mp h
  obtain ⟨-, h⟩ := Option.ite_none_right_eq_some.mp h
  obtain rfl := Option.some.inj h
  exact ⟨rfl, hevent, rfl⟩

/-- What a step does to a queue: the queue is offered an event, or an event is taken from
it. -/
theorem queued_of_step (h : fanOutStep x l = some y) (queue number : ℕ) :
    (taken queue (x, l)).toList ++ y.queued queue =
      match offer queue number (x.bus.subscribers.get? queue).isSome (x, l) with
      | some o => EventBus.putNowait o.event (x.queued queue)
      | none => x.queued queue := by
  cases l with
  | emit uuid occurredAt eventType correlationId payload =>
      obtain rfl := Option.some.inj h
      cases hsubscribed : x.bus.subscribers.get? queue with
      | none => simp [taken, offer, emission, hsubscribed, queued, queue?, EventBus.emit]
      | some events => simp [taken, offer, emission, hsubscribed, queued, queue?, EventBus.emit]
  | subscribe queue' =>
      rw [fanOutStep] at h
      split at h
      · rename_i hnew
        obtain rfl := Option.some.inj h
        show [] ++ queued _ queue = x.queued queue
        rw [List.nil_append]
        rcases eq_or_ne queue' queue with rfl | e
        · rw [queued_of_subscribed (Dict.get?_set_self _ _ _), queued, hnew]
          rfl
        · simp only [queued, queue?, EventBus.subscribe, Dict.get?_set_of_ne _ e]
      · cases h
  | unsubscribe queue' =>
      rw [fanOutStep] at h
      split at h
      · rename_i hnone
        obtain rfl := Option.some.inj h
        show [] ++ queued _ queue = x.queued queue
        rcases eq_or_ne queue' queue with rfl | e
        · simp [queued, queue?, EventBus.unsubscribe, Dict.get?_erase, hnone]
        · simp [queued, queue?, EventBus.unsubscribe, Dict.get?_erase, e]
      · rename_i events hevents
        obtain rfl := Option.some.inj h
        show [] ++ queued _ queue = x.queued queue
        rcases eq_or_ne queue' queue with rfl | e
        · simp [queued, queue?, EventBus.unsubscribe, Dict.get?_erase, hevents]
        · simp [queued, queue?, EventBus.unsubscribe, Dict.get?_erase, e, Dict.get?_set_of_ne _ e]
  | get queue' =>
      rw [fanOutStep] at h
      split at h
      · cases h
      · rename_i before event events hbefore hqueued
        have hy := (Option.some.inj h).symm
        show (if queue' = queue then (x.queued queue).head? else none).toList ++ y.queued queue =
          x.queued queue
        rcases eq_or_ne queue' queue with rfl | e
        · have hrest : y.queued queue' = events :=
            queued_of_subscribed (by rw [hy]; exact Dict.get?_set_self _ _ _)
          rw [if_pos rfl, hrest, hqueued]
          rfl
        · simp [e, hy, queued, queue?, Dict.get?_set_of_ne _ e]
      · rename_i event events hnone hqueued
        have hy := (Option.some.inj h).symm
        show (if queue' = queue then (x.queued queue).head? else none).toList ++ y.queued queue =
          x.queued queue
        rcases eq_or_ne queue' queue with rfl | e
        · have hrest : y.queued queue' = events := by
            rw [queued, queue?, hy]
            simp only [hnone, Option.none_or, Dict.get?_set_self, Option.getD_some]
          rw [if_pos rfl, hrest, hqueued]
          rfl
        · simp [e, hy, queued, queue?, Dict.get?_set_of_ne _ e]

/-- The bus knows of what is done to its subscribers. -/
theorem subscribed_of_step (h : fanOutStep x l = some y) (queue : ℕ) :
    (y.bus.subscribers.get? queue).isSome =
      subscribedAfter queue (x.bus.subscribers.get? queue).isSome l := by
  cases l with
  | emit uuid occurredAt eventType correlationId payload =>
      obtain rfl := Option.some.inj h
      simp [EventBus.emit, subscribedAfter]
  | subscribe queue' =>
      rw [fanOutStep] at h
      split at h
      · obtain rfl := Option.some.inj h
        rcases eq_or_ne queue' queue with rfl | e
        · simp [EventBus.subscribe, subscribedAfter]
        · simp [EventBus.subscribe, subscribedAfter, e, Dict.get?_set_of_ne _ e]
      · cases h
  | unsubscribe queue' =>
      have hbus : y.bus = x.bus.unsubscribe queue' := by
        rw [fanOutStep] at h
        split at h
        · obtain rfl := Option.some.inj h
          rfl
        · obtain rfl := Option.some.inj h
          rfl
      rw [hbus, EventBus.unsubscribe, Dict.get?_erase, subscribedAfter]
      rcases eq_or_ne queue' queue with rfl | e
      · simp
      · simp [e]
  | get queue' =>
      rw [fanOutStep] at h
      split at h
      · cases h
      · rename_i before event events hbefore hqueued
        obtain rfl := Option.some.inj h
        rcases eq_or_ne queue' queue with rfl | e
        · simp [hbefore, subscribedAfter]
        · simp [Dict.get?_set_of_ne _ e, subscribedAfter]
      · obtain rfl := Option.some.inj h
        rfl

/-- No queue is lost. -/
theorem isSome_of_step (h : fanOutStep x l = some y) (queue : ℕ) :
    (x.queue? queue).isSome → (y.queue? queue).isSome := by
  cases l with
  | emit uuid occurredAt eventType correlationId payload =>
      obtain rfl := Option.some.inj h
      simp [queue?, EventBus.emit]
  | subscribe queue' =>
      rw [fanOutStep] at h
      split at h
      · obtain rfl := Option.some.inj h
        rcases eq_or_ne queue' queue with rfl | e
        · simp [queue?, EventBus.subscribe]
        · simp [queue?, EventBus.subscribe, Dict.get?_set_of_ne _ e]
      · cases h
  | unsubscribe queue' =>
      rw [fanOutStep] at h
      split at h
      · rename_i hnone
        obtain rfl := Option.some.inj h
        rcases eq_or_ne queue' queue with rfl | e
        · simp [queue?, EventBus.unsubscribe, Dict.get?_erase, hnone]
        · simp [queue?, EventBus.unsubscribe, Dict.get?_erase, e]
      · rename_i events hevents
        obtain rfl := Option.some.inj h
        rcases eq_or_ne queue' queue with rfl | e
        · simp [queue?, EventBus.unsubscribe, Dict.get?_erase]
        · simp [queue?, EventBus.unsubscribe, Dict.get?_erase, e, Dict.get?_set_of_ne _ e]
  | get queue' =>
      rw [fanOutStep] at h
      split at h
      · cases h
      · rename_i before event events hbefore hqueued
        obtain rfl := Option.some.inj h
        rcases eq_or_ne queue' queue with rfl | e
        · simp [queue?]
        · simp [queue?, Dict.get?_set_of_ne _ e]
      · rename_i event events hnone hqueued
        obtain rfl := Option.some.inj h
        rcases eq_or_ne queue' queue with rfl | e
        · simp [queue?]
        · simp [queue?, Dict.get?_set_of_ne _ e]

/-- Only a new queue is subscribed. -/
theorem subscribes_of_step (h : fanOutStep x l = some y) (queue : ℕ) :
    (y.bus.subscribers.get? queue).isSome →
      (x.bus.subscribers.get? queue).isSome ∨ l = .subscribe queue := by
  rw [subscribed_of_step h queue]
  cases l with
  | subscribe queue' =>
      intro hy
      rcases eq_or_ne queue' queue with rfl | e
      · exact .inr rfl
      · simpa [subscribedAfter, e] using hy
  | unsubscribe queue' => exact fun hy ↦ .inl (Bool.and_eq_true_iff.mp hy).2
  | _ => exact .inl

/-- A consumer that leaves is not subscribed any more. -/
theorem not_subscribed_of_unsubscribe (h : fanOutStep x (.unsubscribe queue) = some y) :
    y.bus.subscribers.get? queue = none := by
  simpa [subscribedAfter] using subscribed_of_step h queue

/-! ## Runs -/

/-- The last events of a longer list. -/
theorem last_of_append {maxEvents : ℕ} (hmax : 1 ≤ maxEvents) {events all : List MeshEvent}
    (hlast : events <:+ all) (hlength : events.length = min all.length maxEvents)
    (event : MeshEvent) :
    let kept := if maxEvents < (events ++ [event]).length then lastItems maxEvents (events ++ [event])
      else events ++ [event]
    kept <:+ all ++ [event] ∧ kept.length = min (all ++ [event]).length maxEvents := by
  have hsuffix : events ++ [event] <:+ all ++ [event] := by
    obtain ⟨before, rfl⟩ := hlast
    exact ⟨before, (List.append_assoc _ _ _).symm⟩
  intro kept
  by_cases hfull : maxEvents < (events ++ [event]).length
  · have hkept : kept = (events ++ [event]).drop ((events ++ [event]).length - maxEvents) := by
      show (if _ then _ else _) = _
      rw [if_pos hfull, lastItems, if_neg (by omega)]
    rw [hkept]
    refine ⟨(List.drop_suffix _ _).trans hsuffix, ?_⟩
    simp only [List.length_drop, List.length_append, List.length_singleton] at hfull ⊢
    omega
  · have hkept : kept = events ++ [event] := if_neg hfull
    rw [hkept]
    refine ⟨hsuffix, ?_⟩
    simp only [List.length_append, List.length_singleton] at hfull ⊢
    omega

/-- After a step the bus keeps the last events. -/
theorem FansOut.last_step {maxEvents : ℕ} (hmax : 1 ≤ maxEvents)
    (hbus : x.bus.maxEvents = maxEvents) (h : FansOut maxEvents x steps)
    (hstep : fanOutStep x l = some y) :
    y.bus.events <:+ emitted (steps ++ [(x, l)]) ∧
      y.bus.events.length = min (emitted (steps ++ [(x, l)])).length maxEvents := by
  obtain ⟨-, hevents⟩ := events_of_step hstep
  rw [hbus] at hevents
  rw [emitted_append, hevents]
  cases hemission : emission (x, l) with
  | none =>
      rw [Option.toList_none, List.append_nil]
      exact ⟨h.last, h.length⟩
  | some event => exact last_of_append hmax h.last h.length event

/-- What a step offers is the event that it emits, under its number. -/
theorem FansOut.numbered_step {maxEvents : ℕ} (h : FansOut maxEvents x steps) (queue : ℕ)
    (l : FanOutLabel) : ∀ o ∈ offers queue (steps ++ [(x, l)]),
      (emitted (steps ++ [(x, l)]))[o.number]? = some o.event := by
  rw [offers_append, List.forall_mem_append]
  constructor
  · intro o ho
    rw [emitted_append]
    have hold := h.numbered queue o ho
    rwa [List.getElem?_append_left (List.getElem?_eq_some_iff.mp hold).1]
  · intro o ho
    obtain ⟨hnumber, hemission, -⟩ := backlog_of_offer (Option.mem_toList.mp ho)
    rw [emitted_append, hemission, hnumber]
    exact List.getElem?_concat_length

/-- What a step offers comes after the earlier offers. -/
theorem FansOut.ordered_step {maxEvents : ℕ} (h : FansOut maxEvents x steps) (queue : ℕ)
    (l : FanOutLabel) : (offers queue (steps ++ [(x, l)])).Pairwise (·.number < ·.number) := by
  rw [offers_append, List.pairwise_append]
  refine ⟨h.ordered queue, ?_, fun o ho o' ho' ↦ ?_⟩
  · cases offer queue (emitted steps).length (isSubscribed queue steps) (x, l) <;> simp
  · obtain ⟨hnumber, -, -⟩ := backlog_of_offer (Option.mem_toList.mp ho')
    rw [hnumber]
    exact (List.getElem?_eq_some_iff.mp (h.numbered queue o ho)).1

/-- What a step takes from a queue or adds to it is accounted for. -/
theorem FansOut.received_step {maxEvents : ℕ} (h : FansOut maxEvents x steps)
    (hstep : fanOutStep x l = some y) (queue : ℕ) :
    consumed queue (steps ++ [(x, l)]) ++ y.queued queue =
      ((offers queue (steps ++ [(x, l)])).filter
        (·.backlog ≠ EventBus.queueSize)).map Offer.event := by
  have hqueued := queued_of_step hstep queue (emitted steps).length
  rw [h.subscribed queue] at hqueued
  rw [consumed_append, List.append_assoc, hqueued, offers_append, List.filter_append,
    List.map_append, ← h.received queue]
  cases hoffer : offer queue (emitted steps).length (isSubscribed queue steps) (x, l) with
  | none => simp
  | some o =>
      obtain ⟨-, -, hbacklog⟩ := backlog_of_offer hoffer
      have hbounded := h.bounded queue
      dsimp only
      rw [EventBus.putNowait]
      split
      · rename_i hroom
        have hne : o.backlog ≠ EventBus.queueSize := by omega
        simp [hne]
      · rename_i hfull
        have he : o.backlog = EventBus.queueSize := by omega
        simp [he]

/-- A step leaves no more in a queue than it can hold. -/
theorem FansOut.bounded_step {maxEvents : ℕ} (h : FansOut maxEvents x steps)
    (hstep : fanOutStep x l = some y) (queue : ℕ) :
    (y.queued queue).length ≤ EventBus.queueSize := by
  have hqueued := congrArg List.length (queued_of_step hstep queue (emitted steps).length)
  have hbounded := h.bounded queue
  rw [List.length_append, h.subscribed queue] at hqueued
  cases hoffer : offer queue (emitted steps).length (isSubscribed queue steps) (x, l) with
  | none =>
      rw [hoffer] at hqueued
      exact (Nat.le.intro ((Nat.add_comm _ _).trans hqueued)).trans hbounded
  | some o =>
      simp only [hoffer, EventBus.putNowait] at hqueued
      split at hqueued
      · rename_i hroom
        rw [List.length_append, List.length_singleton] at hqueued
        omega
      · omega

/-- The step lemma. -/
theorem FansOut.step {maxEvents : ℕ} (hmax : 1 ≤ maxEvents) (hbus : x.bus.maxEvents = maxEvents)
    (h : FansOut maxEvents x steps) (hstep : fanOutStep x l = some y) :
    FansOut maxEvents y (steps ++ [(x, l)]) where
  last := (h.last_step hmax hbus hstep).1
  length := (h.last_step hmax hbus hstep).2
  numbered queue := h.numbered_step queue l
  ordered queue := h.ordered_step queue l
  subscribed queue := by
    rw [subscribed_of_step hstep queue, isSubscribed_append, h.subscribed queue]
  received := h.received_step hstep
  bounded := h.bounded_step hstep

end FanOut

/-- Event fan-out is ordered, bounded and independent, however emissions, subscriptions
and consumers interleave. -/
theorem fans_out (maxEvents : ℕ) (hmax : 1 ≤ maxEvents) (labels : List FanOutLabel) (x : FanOut)
    (hrun : fanOutStep.run { bus := { maxEvents := maxEvents } } labels = some x) :
    FanOut.FansOut maxEvents x
      (fanOutStep.steps { bus := { maxEvents := maxEvents } } labels) := by
  let J (x : FanOut) (steps : List (FanOut × FanOutLabel)) : Prop :=
    x.bus.maxEvents = maxEvents ∧ FanOut.FansOut maxEvents x steps
  have hinit : J { bus := { maxEvents := maxEvents } } [] :=
    ⟨rfl, ⟨List.suffix_refl _, by simp [FanOut.emitted], by simp [FanOut.offers, FanOut.offersFrom],
      fun _ ↦ List.Pairwise.nil, fun _ ↦ rfl, fun _ ↦ rfl, fun _ ↦ Nat.zero_le _⟩⟩
  have hkeep : ∀ x steps l y, J x steps → fanOutStep x l = some y → J y (steps ++ [(x, l)]) := by
    rintro x steps l y ⟨hbus, h⟩ hstep
    exact ⟨(FanOut.events_of_step hstep).1.trans hbus, h.step hmax hbus hstep⟩
  exact (run_steps hkeep hrun hinit).2

/-- Two streams, one of which leaves before the last event and still takes what was queued
for it. -/
def streamLabels : List FanOutLabel :=
  [.subscribe 0, .emit "1" "" .routeResolved "run-1" .none, .subscribe 1,
    .emit "2" "" .invocationStarted "run-1" .none, .get 0, .unsubscribe 0,
    .emit "3" "" .invocationCompleted "run-1" .none, .get 0, .get 1]

/-- The bus keeps the third event, the first stream has taken the first two, and the second
one has taken the second and has the third queued. -/
theorem streams_fan_out :
    ∃ x, fanOutStep.run { bus := { maxEvents := 1 } } streamLabels = some x ∧
      FanOut.FansOut 1 x (fanOutStep.steps { bus := { maxEvents := 1 } } streamLabels) ∧
      x.bus.events.map MeshEvent.eventType = [.invocationCompleted] ∧
      (FanOut.consumed 0 (fanOutStep.steps { bus := { maxEvents := 1 } } streamLabels)).map
        MeshEvent.eventType = [.routeResolved, .invocationStarted] ∧
      (x.queued 1).map MeshEvent.eventType = [.invocationCompleted] :=
  ⟨_, rfl, fans_out 1 le_rfl streamLabels _ rfl, rfl, rfl, rfl⟩

end EstateMesh
