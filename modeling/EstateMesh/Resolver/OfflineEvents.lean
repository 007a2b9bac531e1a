import EstateMesh.Lib.Alternation
import EstateMesh.Resolver.LiveTable

/-!
# Offline events

A sweep emits an event for each node that it takes offline, and it takes a node offline only
once it has been silent for longer than the time to live.  The health in the live table is
what keeps the sweep from doing so twice: a node that went offline stays so until it is heard
from (`offline_once_per_silence`).

The resolver keeps only the last thousand events, so this is about the events that a run
emits, of which the log is the end (`events_of_run`).
-/

namespace EstateMesh

open Lib Machine

namespace GlobalResolver

variable {r : Renderer} {py : Builtins} {s t : GlobalResolver} {now : ℚ} {id : String}
  {event : EstateEvent} {past : List EstateEvent}

/-! ## The events of a run -/

/-- The event that a sweep emits for a node. -/
def offlineEvent (now : ℚ) (nodeId : String) : EstateEvent :=
  ⟨.nodeOffline, nodeId, now, .object [("reason", .str "heartbeat-expired")]⟩

/-- The events that a sweep emits. -/
def offlineEvents (s : GlobalResolver) (now : ℚ) (ttlSeconds : ℤ) : List EstateEvent :=
  (s.expire now ttlSeconds).1.map (offlineEvent now)

/-- The events that a call emits. -/
def emitted (py : Builtins) : GlobalResolver × (ℚ × ResolverCall) → List EstateEvent
  | (s, (now, .advertise canonicalId capabilities resources health metadata)) =>
      match s.advertise py now canonicalId capabilities resources health metadata with
      | .ok ((_, event), _) => [event]
      | .error _ => []
  | (s, (now, .heartbeat canonicalId health resources)) =>
      match s.heartbeat py now canonicalId health resources with
      | .ok _ => [⟨.nodeHeartbeat, canonicalId, now, .object [("health", .str health)]⟩]
      | .error _ => []
  | (s, (now, .expire ttlSeconds)) => s.offlineEvents now ttlSeconds
  | (s, (now, .topology)) => s.offlineEvents now 90
  | (s, (now, .resolve params)) =>
      match s.resolve py now params with
      | .ok (result, _) => [⟨.routeResolved,
          if params.source.getD "" = "" then "ga://organ/crowngrid" else params.source.getD "",
          now, result.toValue⟩]
      | .error _ => []
  | (_, (_, .reload _)) => []

/-- The events that the steps of a run emit. -/
def history (py : Builtins) (steps : List (GlobalResolver × (ℚ × ResolverCall))) :
    List EstateEvent :=
  steps.flatMap (emitted py)

/-- A node is heard from: an advertisement or a heartbeat of it is accepted. -/
def IsContact (id : String) (event : EstateEvent) : Prop :=
  (event.eventType = .nodeOnline ∨ event.eventType = .nodeHeartbeat) ∧ event.source = id

/-- A node is taken offline. -/
def IsOffline (id : String) (event : EstateEvent) : Prop :=
  event.eventType = .nodeOffline ∧ event.source = id

instance (id : String) : DecidablePred (IsContact id) := fun _ ↦
  inferInstanceAs (Decidable (_ ∧ _))

/-- When a node was last heard from. -/
def lastContact (id : String) (events : List EstateEvent) : Option ℚ :=
  (events.reverse.find? fun event ↦ IsContact id event).map EstateEvent.timestamp

/-- The time to live that the sweep of a call goes by. -/
def sweepTtl : ResolverCall → Option ℤ
  | .expire ttlSeconds => some ttlSeconds
  | .topology => some 90
  | _ => none

/-- The offline events of a node in the steps of a run: between any two of them it is heard
from, and each of them comes after a silence that is longer than the time to live. -/
structure OncePerSilence (py : Builtins) (id : String)
    (steps : List (GlobalResolver × (ℚ × ResolverCall))) : Prop where
  alternates : Alternates (IsContact id) (IsOffline id) (history py steps)
  silent : ∀ pre s now call suf, steps = pre ++ (s, (now, call)) :: suf →
    ∀ event ∈ emitted py (s, (now, call)), IsOffline id event →
      ∃ lastSeen ttlSeconds, lastContact id (history py pre) = some lastSeen ∧
        sweepTtl call = some ttlSeconds ∧ lastSeen + ttlSeconds < now

theorem lastContact_concat : lastContact id (past ++ [event]) =
    if IsContact id event then some event.timestamp else lastContact id past := by
  simp only [lastContact, List.reverse_append, List.reverse_singleton, List.singleton_append,
    List.find?_cons]
  split <;> simp_all

theorem IsOffline.not_contact (h : IsOffline id event) : ¬ IsContact id event := by
  rintro ⟨hon | hbeat, -⟩
  · cases h.1.symm.trans hon
  · cases h.1.symm.trans hbeat

/-! ## The sweep -/

theorem mem_expired_iff {ttlSeconds : ℤ} :
    id ∈ (s.expire now ttlSeconds).1 ↔
      ∃ state, s.nodes.get? id = some state ∧ state.isExpired (now - ttlSeconds) = true := by
  simp only [expire, List.mem_map, List.mem_filter, Dict.get?_eq_some_iff]
  constructor
  · rintro ⟨⟨_, state⟩, ⟨hmem, hexpired⟩, rfl⟩
    exact ⟨state, hmem, hexpired⟩
  · rintro ⟨state, hmem, hexpired⟩
    exact ⟨(id, state), ⟨hmem, hexpired⟩, rfl⟩

theorem nodup_expired {ttlSeconds : ℤ} : (s.expire now ttlSeconds).1.Nodup :=
  s.nodes.nodup.sublist (List.filter_sublist.map Prod.fst)

/-! ## The log -/

/-- Cutting a list to its end before something is added makes no difference. -/
theorem lastItems_append {α : Type} {n : ℕ} (hn : n ≠ 0) (xs ys : List α) :
    lastItems n (lastItems n xs ++ ys) = lastItems n (xs ++ ys) := by
  simp only [lastItems, if_neg hn]
  rcases Nat.le_total xs.length n with hle | hlt
  · rw [Nat.sub_eq_zero_of_le hle, List.drop_zero]
  · rw [← List.drop_append_of_le_length (Nat.sub_le xs.length n), List.drop_drop, List.length_drop,
      List.length_append]
    congr 1
    omega

theorem events_of_emit {eventType : EstateEventType} {payload : Value} :
    (s.emit now eventType id payload).2.events =
      lastItems 1000 (s.events ++ [⟨eventType, id, now, payload⟩]) := by
  simp only [emit]
  split
  · rfl
  · rw [lastItems, if_neg (by decide), Nat.sub_eq_zero_of_le (by omega), List.drop_zero]

/-- The log is the end of the events so far. -/
def Logged (s : GlobalResolver) (past : List EstateEvent) : Prop :=
  s.events = lastItems 1000 past

theorem Logged.emit {eventType : EstateEventType} {payload : Value} (h : Logged s past)
    (hevents : t.events = (s.emit now eventType id payload).2.events) :
    Logged t (past ++ [⟨eventType, id, now, payload⟩]) := by
  rw [Logged, hevents, events_of_emit, h, lastItems_append (by decide)]

theorem Logged.sweep (h : Logged s past) (ids : List String) :
    Logged (ids.foldl (fun self nodeId ↦
      (self.emit now .nodeOffline nodeId (.object [("reason", .str "heartbeat-expired")])).2) s)
      (past ++ ids.map (offlineEvent now)) := by
  induction ids generalizing s past with
  | nil => rwa [List.map_nil, List.append_nil]
  | cons nodeId ids ih =>
      rw [List.map_cons, List.append_cons]
      exact ih (h.emit rfl)

theorem Logged.expire (h : Logged s past) (now : ℚ) (ttlSeconds : ℤ) :
    Logged (s.expire now ttlSeconds).2 (past ++ s.offlineEvents now ttlSeconds) := by
  unfold GlobalResolver.expire offlineEvents
  refine Logged.sweep ?_ _
  exact h

theorem events_of_advertise {capabilities : List String} {resources metadata : PyDict}
    {health : String} {snapshot : NodeSnapshot} {next : GlobalResolver}
    (h : s.advertise py now id capabilities resources health metadata =
      .ok ((snapshot, event), next)) :
    event = ⟨.nodeOnline, id, now, .object [("health", .str health)]⟩ ∧
      next.events = (s.emit now .nodeOnline id (.object [("health", .str health)])).2.events := by
  rw [advertise] at h
  split at h
  · obtain ⟨declared, -, h⟩ := bind_eq_ok_iff.mp h
    obtain ⟨_, -, h⟩ := bind_eq_ok_iff.mp h
    cases h
    exact ⟨rfl, rfl⟩
  · cases h

theorem events_of_heartbeat {health : String} {resources : Option PyDict}
    {outcome : NodeSnapshot × GlobalResolver}
    (h : s.heartbeat py now id health resources = .ok outcome) :
    outcome.2.events =
      (s.emit now .nodeHeartbeat id (.object [("health", .str health)])).2.events := by
  rw [heartbeat] at h
  split at h
  · cases h
  · obtain ⟨_, -, h⟩ := bind_eq_ok_iff.mp h
    cases h
    rfl

theorem events_of_resolve {params : ResolveParams} {outcome : Resolution × GlobalResolver}
    (h : s.resolve py now params = .ok outcome) :
    outcome.2.events = (s.emit now .routeResolved
      (if params.source.getD "" = "" then "ga://organ/crowngrid" else params.source.getD "")
      outcome.1.toValue).2.events := by
  rw [resolve] at h
  dsimp only at h
  split at h
  · obtain ⟨matching, -, h⟩ := bind_eq_ok_iff.mp h
    obtain ⟨runtimePreference, -, h⟩ := bind_eq_ok_iff.mp h
    obtain ⟨found, -, h⟩ := bind_eq_ok_iff.mp h
    cases h
    rfl
  · cases h

theorem Logged.of_step {call : ResolverCall} (h : Logged s past)
    (hstep : step r py s (now, call) = some t) :
    Logged t (past ++ emitted py (s, (now, call))) := by
  cases call with
  | advertise id capabilities resources health metadata =>
      obtain rfl := Option.some.inj hstep
      simp only [emitted]
      cases houtcome : s.advertise py now id capabilities resources health metadata with
      | error e => rwa [List.append_nil]
      | ok outcome =>
          obtain ⟨⟨snapshot, event⟩, next⟩ := outcome
          obtain ⟨rfl, hevents⟩ := events_of_advertise houtcome
          exact h.emit hevents
  | heartbeat id health resources =>
      obtain rfl := Option.some.inj hstep
      simp only [emitted]
      cases houtcome : s.heartbeat py now id health resources with
      | error e => rwa [List.append_nil]
      | ok outcome => exact h.emit (events_of_heartbeat houtcome)
  | expire ttlSeconds =>
      obtain rfl := Option.some.inj hstep
      exact h.expire now ttlSeconds
  | topology =>
      obtain rfl := Option.some.inj hstep
      obtain ⟨topology, htopology, -⟩ := topology_eq_ok py s now
      rw [htopology]
      exact h.expire now 90
  | resolve params =>
      obtain rfl := Option.some.inj hstep
      simp only [emitted]
      cases houtcome : s.resolve py now params with
      | error e => rwa [List.append_nil]
      | ok outcome => exact h.emit (events_of_resolve houtcome)
  | reload root =>
      rw [step] at hstep
      split at hstep
      · rename_i report next hreload
        obtain rfl := Option.some.inj hstep
        obtain ⟨registries, -, -, rfl⟩ := reload_eq_ok_iff.mp hreload
        simp only [emitted, List.append_nil]
        exact h
      · cases hstep

/-! ## What a step emits -/

/-- What a call emits, and what it makes of the live table. -/
inductive Emits (s : GlobalResolver) (now : ℚ) (t : GlobalResolver) :
    Option ℤ → List EstateEvent → Prop
  | nothing (hnodes : t.nodes = s.nodes) : Emits s now t none []
  | route {event : EstateEvent} (hnodes : t.nodes = s.nodes)
      (htype : event.eventType = .routeResolved) : Emits s now t none [event]
  | contact {id : String} {event : EstateEvent} {state : NodeState}
      (hnodes : t.nodes = s.nodes.set id state) (hcontact : IsContact id event)
      (htime : event.timestamp = now) (hstate : state.lastSeen = now) :
      Emits s now t none [event]
  | swept {ttlSeconds : ℤ} (hnodes : t.nodes = s.nodes.mapValues (sweep (now - ttlSeconds))) :
      Emits s now t (some ttlSeconds) (s.offlineEvents now ttlSeconds)

theorem emits_of_step {call : ResolverCall} (h : step r py s (now, call) = some t) :
    Emits s now t (sweepTtl call) (emitted py (s, (now, call))) := by
  cases call with
  | advertise id capabilities resources health metadata =>
      obtain rfl := Option.some.inj h
      simp only [emitted]
      cases houtcome : s.advertise py now id capabilities resources health metadata with
      | error e => exact .nothing rfl
      | ok outcome =>
          obtain ⟨⟨snapshot, event⟩, next⟩ := outcome
          obtain ⟨-, _, _, -, -, hnodes⟩ := nodes_of_advertise houtcome
          obtain ⟨rfl, -⟩ := events_of_advertise houtcome
          exact .contact hnodes ⟨.inl rfl, rfl⟩ rfl rfl
  | heartbeat id health resources =>
      obtain rfl := Option.some.inj h
      simp only [emitted]
      by_cases hdeclared : (s.index py .nodes).get? id = none
      · rw [heartbeat_of_undeclared hdeclared]
        exact .nothing rfl
      · obtain ⟨answer, next, hok, -, hnodes⟩ :=
          @heartbeat_of_declared py s now id health resources hdeclared
        rw [hok]
        exact .contact hnodes ⟨.inr rfl, rfl⟩ rfl rfl
  | expire ttlSeconds =>
      obtain rfl := Option.some.inj h
      exact .swept (expire_spec s now ttlSeconds).1
  | topology =>
      obtain rfl := Option.some.inj h
      obtain ⟨topology, htopology, -⟩ := topology_eq_ok py s now
      rw [htopology]
      exact .swept (expire_spec s now 90).1
  | resolve params =>
      obtain rfl := Option.some.inj h
      simp only [emitted]
      cases houtcome : s.resolve py now params with
      | error e => exact .nothing rfl
      | ok outcome =>
          obtain ⟨-, -, hnodes, -⟩ := resolve_eq_ok houtcome
          exact .route hnodes rfl
  | reload root =>
      rw [step] at h
      split at h
      · rename_i report next hreload
        obtain rfl := Option.some.inj h
        obtain ⟨registries, -, -, rfl⟩ := reload_eq_ok_iff.mp hreload
        exact .nothing rfl
      · cases h

/-! ## The invariant -/

/-- What the live table says of a node agrees with the events so far. -/
structure Tracked (id : String) (s : GlobalResolver) (past : List EstateEvent) : Prop where
  alternates : Alternates (IsContact id) (IsOffline id) past
  lastSeen : ∀ state, s.nodes.get? id = some state → lastContact id past = some state.lastSeen
  /-- The sweep is kept from taking a node offline again. -/
  health : ∀ state, s.nodes.get? id = some state →
    Pending (IsContact id) (IsOffline id) past → state.health = "offline"

theorem Tracked.fresh (id : String) (registries : Registries) :
    Tracked id { registries := registries } [] :=
  ⟨alternates_nil, by rintro _ ⟨⟩, by rintro _ ⟨⟩⟩

/-- An event that is not about a node changes nothing about it. -/
theorem Tracked.concat (h : Tracked id s past) (hnodes : t.nodes.get? id = s.nodes.get? id)
    (hcontact : ¬ IsContact id event) (hoffline : ¬ IsOffline id event) :
    Tracked id t (past ++ [event]) := by
  refine ⟨h.alternates.concat (absurd · hoffline), fun state hstate ↦ ?_,
    fun state hstate hpending ↦ ?_⟩
  · rw [lastContact_concat, if_neg hcontact]
    exact h.lastSeen state (hnodes ▸ hstate)
  · rcases pending_concat_iff.mp hpending with hstop | ⟨hpending, -⟩
    · exact absurd hstop hoffline
    · exact h.health state (hnodes ▸ hstate) hpending

/-- A node that is heard from is seen at that time. -/
theorem Tracked.contact (h : Tracked id s past) {state : NodeState}
    (hnodes : t.nodes.get? id = some state) (hcontact : IsContact id event)
    (htime : event.timestamp = state.lastSeen) : Tracked id t (past ++ [event]) := by
  have hoffline : ¬ IsOffline id event := fun hoffline ↦ hoffline.not_contact hcontact
  refine ⟨h.alternates.concat (absurd · hoffline), fun state' hstate ↦ ?_,
    fun state' hstate hpending ↦ ?_⟩
  · obtain rfl := Option.some.inj (hnodes.symm.trans hstate)
    rw [lastContact_concat, if_pos hcontact, htime]
  · rcases pending_concat_iff.mp hpending with hstop | ⟨-, hnone⟩
    · exact absurd hstop hoffline
    · exact absurd hcontact hnone

theorem Tracked.append {events : List EstateEvent} (h : Tracked id s past)
    (hnodes : t.nodes.get? id = s.nodes.get? id)
    (hcontact : ∀ event ∈ events, ¬ IsContact id event)
    (hoffline : ∀ event ∈ events, ¬ IsOffline id event) : Tracked id t (past ++ events) := by
  induction events generalizing s past with
  | nil =>
      rw [List.append_nil]
      exact ⟨h.alternates, hnodes ▸ h.lastSeen, hnodes ▸ h.health⟩
  | cons event events ih =>
      obtain ⟨hcontact, hcontacts⟩ := List.forall_mem_cons.mp hcontact
      obtain ⟨hoffline, hofflines⟩ := List.forall_mem_cons.mp hoffline
      rw [List.append_cons]
      exact ih (h.concat hnodes hcontact hoffline) rfl hcontacts hofflines

/-- A node is taken offline only if no stop is pending for it. -/
theorem Tracked.offline (h : Tracked id s past) {state state' : NodeState}
    (hnodes : s.nodes.get? id = some state) (hnodes' : t.nodes.get? id = some state')
    (hbefore : state.health ≠ "offline") (hafter : state'.health = "offline")
    (hlast : state'.lastSeen = state.lastSeen) (hoffline : IsOffline id event) :
    Tracked id t (past ++ [event]) := by
  refine ⟨h.alternates.concat fun _ hpending ↦ hbefore (h.health state hnodes hpending),
    fun state'' hstate ↦ ?_, fun state'' hstate _ ↦ ?_⟩
  · obtain rfl := Option.some.inj (hnodes'.symm.trans hstate)
    rw [lastContact_concat, if_neg hoffline.not_contact, hlast]
    exact h.lastSeen state hnodes
  · obtain rfl := Option.some.inj (hnodes'.symm.trans hstate)
    exact hafter

/-- A sweep takes each node offline at most once. -/
theorem Tracked.swept (h : Tracked id s past) {ttlSeconds : ℤ}
    (hnodes : t.nodes = s.nodes.mapValues (sweep (now - ttlSeconds))) :
    Tracked id t (past ++ s.offlineEvents now ttlSeconds) := by
  have hget : t.nodes.get? id = (s.nodes.get? id).map (sweep (now - ttlSeconds)) := by
    rw [hnodes, Dict.get?_mapValues]
  have hcontact : ∀ ids : List String, ∀ event ∈ ids.map (offlineEvent now),
      ¬ IsContact id event := by
    rintro ids event hmem ⟨hon | hbeat, -⟩
    · obtain ⟨nodeId, -, rfl⟩ := List.mem_map.mp hmem
      cases hon
    · obtain ⟨nodeId, -, rfl⟩ := List.mem_map.mp hmem
      cases hbeat
  have hoffline' : ∀ ids : List String, id ∉ ids → ∀ event ∈ ids.map (offlineEvent now),
      ¬ IsOffline id event := by
    rintro ids hid event hmem ⟨-, rfl⟩
    obtain ⟨nodeId, hnodeId, rfl⟩ := List.mem_map.mp hmem
    exact hid hnodeId
  unfold offlineEvents
  by_cases hexpired : id ∈ (s.expire now ttlSeconds).1
  · obtain ⟨state, hstate, hstale⟩ := mem_expired_iff.mp hexpired
    obtain ⟨before, after, hsplit⟩ := List.append_of_mem hexpired
    have hnodup : (before ++ id :: after).Nodup := hsplit ▸ nodup_expired
    obtain ⟨hnotBefore, hnotAfter⟩ : id ∉ before ∧ id ∉ after := by
      rw [List.nodup_append] at hnodup
      exact ⟨fun hmem ↦ hnodup.2.2 id hmem id List.mem_cons_self rfl,
        (List.nodup_cons.mp hnodup.2.1).1⟩
    have hswept : sweep (now - ttlSeconds) state = { state with health := "offline" } :=
      if_pos hstale
    rw [hsplit, List.map_append, List.map_cons, ← List.append_assoc, List.append_cons]
    have hfirst : Tracked id s (past ++ before.map (offlineEvent now)) :=
      h.append rfl (hcontact before) (hoffline' before hnotBefore)
    have hoffline : IsOffline id (offlineEvent now id) := ⟨rfl, rfl⟩
    have hthen : Tracked id t (past ++ before.map (offlineEvent now) ++ [offlineEvent now id]) :=
      hfirst.offline hstate (by rw [hget, hstate]; rfl) (of_decide_eq_true hstale).2
        (by rw [hswept]) (by rw [hswept]) hoffline
    exact hthen.append rfl (hcontact after) (hoffline' after hnotAfter)
  · refine h.append ?_ (hcontact _) (hoffline' _ hexpired)
    rw [hget]
    cases hstate : s.nodes.get? id with
    | none => rfl
    | some state =>
        refine congrArg some (if_neg fun hstale ↦ ?_)
        exact hexpired (mem_expired_iff.mpr ⟨state, hstate, hstale⟩)

/-- Every call keeps the table and the events in agreement. -/
theorem Tracked.of_step {call : ResolverCall} (h : Tracked id s past)
    (hstep : step r py s (now, call) = some t) :
    Tracked id t (past ++ emitted py (s, (now, call))) := by
  have hemits := emits_of_step hstep
  generalize emitted py (s, (now, call)) = events, sweepTtl call = ttl at hemits
  cases hemits with
  | nothing hnodes => exact h.append (by rw [hnodes]) (List.forall_mem_nil _) (List.forall_mem_nil _)
  | route hnodes htype =>
      refine h.concat (by rw [hnodes]) ?_ ?_
      · rintro ⟨hon | hbeat, -⟩
        · cases htype.symm.trans hon
        · cases htype.symm.trans hbeat
      · rintro ⟨hoffline, -⟩
        cases htype.symm.trans hoffline
  | @contact id' event state hnodes hcontact htime hstate =>
      by_cases hid : id' = id
      · subst hid
        exact h.contact (by rw [hnodes, Dict.get?_set_self]) hcontact (htime.trans hstate.symm)
      · refine h.concat (by rw [hnodes, Dict.get?_set_of_ne _ hid]) ?_ ?_
        · exact fun hcontact' ↦ hid (hcontact.2.symm.trans hcontact'.2)
        · exact fun hoffline ↦ hid (hcontact.2.symm.trans hoffline.2)
  | swept hnodes => exact h.swept hnodes

/-- A node that a sweep takes offline was last heard from longer ago than the time to live. -/
theorem Tracked.silent {call : ResolverCall} (h : Tracked id s past)
    (hmem : event ∈ emitted py (s, (now, call))) (hoffline : IsOffline id event) :
    ∃ lastSeen ttlSeconds, lastContact id past = some lastSeen ∧
      sweepTtl call = some ttlSeconds ∧ lastSeen + ttlSeconds < now := by
  have hstep : ∃ t, step default py s (now, call) = some t := by
    cases call with
    | reload root => cases hmem
    | _ => exact ⟨_, rfl⟩
  obtain ⟨t, hstep⟩ := hstep
  have hemits := emits_of_step hstep
  generalize emitted py (s, (now, call)) = events, httl : sweepTtl call = ttl at hemits hmem
  cases hemits with
  | nothing hnodes => cases hmem
  | route hnodes htype =>
      obtain rfl := List.mem_singleton.mp hmem
      cases htype.symm.trans hoffline.1
  | contact hnodes hcontact htime hstate =>
      obtain rfl := List.mem_singleton.mp hmem
      exact absurd ⟨hcontact.1, hoffline.2⟩ hoffline.not_contact
  | @swept ttlSeconds hnodes =>
      obtain ⟨nodeId, hexpired, rfl⟩ := List.mem_map.mp hmem
      obtain rfl : nodeId = id := hoffline.2
      obtain ⟨state, hstate, hstale⟩ := mem_expired_iff.mp hexpired
      refine ⟨state.lastSeen, ttlSeconds, h.lastSeen state hstate, rfl, ?_⟩
      have hlast : state.lastSeen < now - ttlSeconds := (of_decide_eq_true hstale).1
      linarith

theorem history_concat (steps : List (GlobalResolver × (ℚ × ResolverCall)))
    (x : GlobalResolver × (ℚ × ResolverCall)) :
    history py (steps ++ [x]) = history py steps ++ emitted py x := by
  rw [history, List.flatMap_append, List.flatMap_singleton, history]

/-- The log of a run is the end of the events that it emitted. -/
theorem events_of_run {registries : Registries} {is : List (ℚ × ResolverCall)}
    (h : (step r py).run { registries := registries } is = some t) :
    t.events = lastItems 1000 (history py ((step r py).steps { registries := registries } is)) := by
  have hstart : Logged { registries := registries } (history py []) := by
    simp [Logged, history, lastItems]
  have hend : Logged t
      (history py ([] ++ (step r py).steps { registries := registries } is)) := by
    refine run_steps (J := fun s pre ↦ Logged s (history py pre)) ?_ h hstart
    intro s pre i t hs hstep
    rw [history_concat]
    exact hs.of_step hstep
  exact hend

/-- A call that sweeps takes the silent nodes offline. -/
theorem nodes_of_sweepTtl {call : ResolverCall} {ttlSeconds : ℤ}
    (httl : sweepTtl call = some ttlSeconds) (hstep : step r py s (now, call) = some t) :
    t.nodes = s.nodes.mapValues (sweep (now - ttlSeconds)) := by
  have hemits := emits_of_step hstep
  rw [httl] at hemits
  generalize emitted py (s, (now, call)) = events at hemits
  cases hemits with
  | swept hnodes => exact hnodes

/-- Offline events are emitted once per silence, the log is the end of the events that were
emitted, and a sweep, also that of `topology`, leaves no stale node online.  This is so for
every run, whatever the readings of the clock and the time to live of each sweep are. -/
theorem offline_once_per_silence (r : Renderer) (py : Builtins) (registries : Registries)
    (is : List (ℚ × ResolverCall)) (id : String) :
    OncePerSilence py id ((step r py).steps { registries := registries } is) ∧
      (∀ t, (step r py).run { registries := registries } is = some t → t.events =
        lastItems 1000 (history py ((step r py).steps { registries := registries } is))) ∧
      ∀ js now call ttlSeconds t, is = js ++ [(now, call)] → sweepTtl call = some ttlSeconds →
        (step r py).run { registries := registries } is = some t →
          ∀ state, t.nodes.get? id = some state → state.lastSeen < now - (ttlSeconds : ℤ) →
            state.health = "offline" := by
  have hkeep : ∀ s pre i t, Tracked id s (history py pre) → step r py s i = some t →
      Tracked id t (history py (pre ++ [(s, i)])) := by
    intro s pre i t h hstep
    rw [history_concat]
    exact h.of_step hstep
  have hstart : Tracked id { registries := registries } (history py []) :=
    Tracked.fresh id registries
  refine ⟨⟨?_, fun pre s now call suf e event hmem hoffline ↦ ?_⟩, fun t ↦ events_of_run, ?_⟩
  · obtain ⟨t, ht⟩ := exists_of_steps hkeep hstart is
    exact ht.alternates
  · have halong : (step r py).Along (fun _ _ ↦ True) { registries := registries } is :=
      along_of_forall fun _ _ ↦ trivial
    exact Along.steps (Q := fun pre x ↦ ∀ event ∈ emitted py x, IsOffline id event →
      ∃ lastSeen ttlSeconds, lastContact id (history py pre) = some lastSeen ∧
        sweepTtl x.2.2 = some ttlSeconds ∧ lastSeen + ttlSeconds < x.2.1)
      (fun s pre i t h _ hstep ↦ hkeep s pre i t h hstep)
      (fun s pre i h _ event hmem hoffline ↦ h.silent hmem hoffline) halong
      hstart e event hmem hoffline
  · rintro js now call ttlSeconds t rfl httl hrun state hstate hlast
    rw [run_append] at hrun
    obtain ⟨s, -, hrun⟩ := Option.bind_eq_some_iff.mp hrun
    obtain ⟨t', hstep, ht⟩ := run_cons_eq_some.mp hrun
    cases ht
    rw [nodes_of_sweepTtl httl hstep, Dict.get?_mapValues] at hstate
    obtain ⟨before, -, rfl⟩ := Option.map_eq_some_iff.mp hstate
    rw [sweep_lastSeen] at hlast
    exact sweep_health_eq_offline_iff.mpr (.inl hlast)

/-- A node that advertises itself, falls silent and is swept twice. -/
def silentCalls : List (ℚ × ResolverCall) :=
  [(0, .advertise "ga://node/vercel" ["web.serve"] [] "online" []), (100, .expire 90),
    (200, .topology)]

/-- It goes offline with the first sweep. -/
theorem silent_node_goes_offline :
    let steps := (step default default).steps { registries := soleNode } silentCalls
    (history default steps).map (fun event ↦ (event.eventType, event.timestamp)) =
        [(.nodeOnline, 0), (.nodeOffline, 100)] ∧
      OncePerSilence default "ga://node/vercel" steps :=
  ⟨by decide +kernel, (offline_once_per_silence default default soleNode silentCalls _).1⟩

end GlobalResolver

end EstateMesh
