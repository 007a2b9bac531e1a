import EstateMesh.Agent.Inventory
import EstateMesh.Resolver.LiveHistory
import EstateMesh.Resolver.Ranking
import EstateMesh.Resolver.Selection

/-!
# A fleet of node agents

Resolution trusts what is reported to it: a capacity that is no integer makes it raise, and one
that is negative may rank a node that is online behind one that nobody has heard from.  Node
agents report inventories.  Over a live table that only they have written, resolution returns
whenever it can read the documents, and ranks the nodes by the machines that they run on: each
has the standing that its last accepted report gives it, and a node that has announced a
capability is offered for it until a sweep finds its last report too old (`fleet_is_served`).
-/

namespace EstateMesh

open Lib Machine

/-! ## What reaches the control plane -/

/-- A request to the control plane that serves a fleet. -/
inductive FleetLabel
  | /-- The agent of a node advertises. -/
    announced (config : AgentConfig) (environ : Environ) (facts : MachineFacts)
  | /-- The agent of a node sends a heartbeat. -/
    beat (config : AgentConfig) (environ : Environ) (facts : MachineFacts)
  | expire (ttlSeconds : ℤ)
  | topology
  | resolve (params : ResolveParams)
  | reload (root : RegistryRoot)

namespace FleetLabel

/-- What is asked of the resolver, unless the body is refused. -/
def call? (py : Builtins) : FleetLabel → Option ResolverCall
  | announced config environ facts =>
      let agent := NodeAgent.init environ config (inventory py facts)
      (AdvertiseRequest.validate (agent.advertiseBody py environ)).map AdvertiseRequest.call
  | beat config environ facts =>
      let agent := NodeAgent.init environ config (inventory py facts)
      (HeartbeatRequest.validate agent.heartbeatBody).map HeartbeatRequest.call
  | expire ttlSeconds => some (.expire ttlSeconds)
  | topology => some .topology
  | resolve params => some (.resolve params)
  | reload root => some (.reload root)

/-- The machine that is reported on. -/
def facts? : FleetLabel → Option MachineFacts
  | announced _ _ facts | beat _ _ facts => some facts
  | _ => none

/-- The capabilities that are announced. -/
def capabilities? : FleetLabel → Option (List String)
  | announced config environ _ => some (declaredCapabilities environ config.canonicalId)
  | _ => none

end FleetLabel

/-- The resolver of a fleet as a machine. -/
def fleetStep (r : Renderer) (py : Builtins) : Machine GlobalResolver (ℚ × FleetLabel)
  | s, (now, label) =>
      match label.call? py with
      | none => some s
      | some call => GlobalResolver.step r py s (now, call)

section Reports

variable (py : Builtins) (id : String)

/-- What is noted of a request. -/
def fleetNote (x : GlobalResolver × (ℚ × FleetLabel)) : Option NodeNote :=
  (x.2.2.call? py).bind fun call ↦ GlobalResolver.noted py id (x.1, (x.2.1, call))

/-- An accepted report of a node: when it arrived, and what it says of the machine. -/
def reported (x : GlobalResolver × (ℚ × FleetLabel)) : Option (ℚ × MachineFacts) :=
  ((fleetNote py id x).bind NodeNote.report?).bind fun report ↦
    x.2.2.facts?.map fun facts ↦ (report.1, facts)

/-- An accepted advertisement of a node: the capabilities that it announces. -/
def announcement (x : GlobalResolver × (ℚ × FleetLabel)) : Option (List String) :=
  ((fleetNote py id x).bind NodeNote.capabilities?).bind fun _ ↦ x.2.2.capabilities?

/-- A sweep has found the last report of a node too old. -/
def isLapsed (steps : List (GlobalResolver × (ℚ × FleetLabel))) : Bool :=
  (latest (reported py id) steps).any fun report ↦
    (sinceReport (steps.filterMap (fleetNote py id))).any (NodeNote.sweepsAway report.1)

/-- The standing of a node among those of its locality class. -/
def standing (runtimePreference : List Value)
    (steps : List (GlobalResolver × (ℚ × FleetLabel))) : ℤ :=
  GlobalResolver.preferenceScore runtimePreference id +
    (latest (reported py id) steps).elim 25 fun report ↦ 100 + capacityScore py report.2

end Reports

/-! ## One request -/

section Step

variable {r : Renderer} {py : Builtins} {s t : GlobalResolver} {now : ℚ} {id : String}

section Posts

variable {config : AgentConfig} {environ : Environ} {facts : MachineFacts} {call : ResolverCall}

theorem call?_announced (hid : config.canonicalId ≠ "") :
    (FleetLabel.announced config environ facts).call? py =
      some (((NodeAgent.init environ config (inventory py facts)).advertise py environ).call
        config.canonicalId) :=
  @call_advertiseBody py environ (.init environ config (inventory py facts)) hid rfl

theorem call?_beat (hid : config.canonicalId ≠ "") :
    (FleetLabel.beat config environ facts).call? py =
      some ((NodeAgent.init environ config (inventory py facts)).heartbeat.call
        config.canonicalId) :=
  @call_heartbeatBody (.init environ config (inventory py facts)) hid rfl

/-- An advertisement that is not refused asks what the agent means. -/
theorem eq_of_call?_announced
    (h : (FleetLabel.announced config environ facts).call? py = some call) :
    call = ((NodeAgent.init environ config (inventory py facts)).advertise py environ).call
      config.canonicalId := by
  by_cases hid : config.canonicalId = ""
  · have hnone := @validate_advertiseBody_of_empty py environ
      (.init environ config (inventory py facts)) hid
    rw [FleetLabel.call?, hnone] at h
    cases h
  · rw [call?_announced hid] at h
    exact (Option.some.inj h).symm

theorem eq_of_call?_beat (h : (FleetLabel.beat config environ facts).call? py = some call) :
    call = (NodeAgent.init environ config (inventory py facts)).heartbeat.call
      config.canonicalId := by
  by_cases hid : config.canonicalId = ""
  · have hnone := @validate_heartbeatBody_of_empty
      (.init environ config (inventory py facts)) hid
    rw [FleetLabel.call?, hnone] at h
    cases h
  · rw [call?_beat hid] at h
    exact (Option.some.inj h).symm

/-- What an agent posts is dealt with as its loop takes it to be. -/
theorem fleetStep_announced (r : Renderer) (hid : config.canonicalId ≠ "") :
    fleetStep r py s (now, .announced config environ facts) =
      some (((NodeAgent.init environ config (inventory py facts)).advertise py environ).process
        py now config.canonicalId s).2 := by
  unfold fleetStep
  dsimp only
  rw [call?_announced hid]
  exact step_call r _ config.canonicalId s now

theorem fleetStep_beat (r : Renderer) (hid : config.canonicalId ≠ "") :
    fleetStep r py s (now, .beat config environ facts) =
      some ((NodeAgent.init environ config (inventory py facts)).heartbeat.process
        py now config.canonicalId s).2 := by
  unfold fleetStep
  dsimp only
  rw [call?_beat hid]
  exact step_call r _ config.canonicalId s now

end Posts

/-- What a note of a request says. -/
inductive Says (py : Builtins) (now : ℚ) : FleetLabel → NodeNote → Prop
  | announced (config : AgentConfig) (environ : Environ) (facts : MachineFacts)
      {capabilities : Finset String} (metadata : PyDict)
      (hcapabilities : ∀ c ∈ declaredCapabilities environ config.canonicalId,
        normalizeCapability c ∈ capabilities) :
      Says py now (.announced config environ facts)
        (.advertised now "online" (inventory py facts) capabilities metadata)
  | beat (config : AgentConfig) (environ : Environ) (facts : MachineFacts) :
      Says py now (.beat config environ facts) (.beat now "online" (some (inventory py facts)))
  | swept {label : FleetLabel} (hfacts : label.facts? = none)
      (hcapabilities : label.capabilities? = none) (cutoff : ℚ) : Says py now label (.swept cutoff)

/-- The inversion lemma of notes. -/
theorem says_of_fleetNote {label : FleetLabel} {note : NodeNote}
    (h : fleetNote py id (s, (now, label)) = some note) : Says py now label note := by
  obtain ⟨call, hcall, hnote⟩ := Option.bind_eq_some_iff.mp h
  cases label with
  | announced config environ facts =>
      obtain rfl := eq_of_call?_announced hcall
      obtain ⟨-, hnote⟩ := Option.ite_none_right_eq_some.mp hnote
      obtain ⟨node, -, hnote⟩ := Option.bind_eq_some_iff.mp hnote
      obtain ⟨declared, -, rfl⟩ := Option.map_eq_some_iff.mp hnote
      refine .announced config environ facts _ fun c hc ↦ ?_
      exact Finset.mem_union_left _ (List.mem_toFinset.mpr (List.mem_map_of_mem hc))
  | beat config environ facts =>
      obtain rfl := eq_of_call?_beat hcall
      obtain ⟨-, hnote⟩ := Option.ite_none_right_eq_some.mp hnote
      obtain rfl := Option.some.inj hnote
      exact .beat config environ facts
  | expire ttlSeconds =>
      obtain rfl := Option.some.inj hcall
      obtain rfl := Option.some.inj hnote
      exact .swept rfl rfl _
  | topology =>
      obtain rfl := Option.some.inj hcall
      obtain rfl := Option.some.inj hnote
      exact .swept rfl rfl _
  | resolve params =>
      obtain rfl := Option.some.inj hcall
      cases hnote
  | reload root =>
      obtain rfl := Option.some.inj hcall
      cases hnote

/-- A step does to the entry of a node what is noted of the request. -/
theorem entry_of_fleetStep {label : FleetLabel} (h : fleetStep r py s (now, label) = some t) :
    t.nodes.get? id = (fleetNote py id (s, (now, label))).elim (s.nodes.get? id)
      (GlobalResolver.noteEntry id (s.nodes.get? id)) := by
  unfold fleetStep at h
  unfold fleetNote
  dsimp only at h ⊢
  cases hcall : label.call? py with
  | none =>
      rw [hcall] at h
      obtain rfl := Option.some.inj h
      rfl
  | some call =>
      rw [hcall] at h
      exact GlobalResolver.entry_of_step h

end Step

/-! ## The latest of some requests -/

theorem latest_filterMap {α β γ : Type} (f : α → Option β) (g : β → Option γ) (xs : List α) :
    latest g (xs.filterMap f) = latest (fun x ↦ (f x).bind g) xs := by
  rw [latest, latest, ← List.filterMap_reverse]
  induction xs.reverse with
  | nil => rfl
  | cons x xs ih =>
      cases hx : f x with
      | none => rw [List.filterMap_cons_none hx, List.findSome?_cons, hx, ih, Option.bind_none]
      | some y =>
          rw [List.filterMap_cons_some hx, List.findSome?_cons, List.findSome?_cons, hx, ih,
            Option.bind_some]

theorem latest_map {α β γ : Type} (f : α → Option β) (g : β → γ) (xs : List α) :
    latest (fun x ↦ (f x).map g) xs = (latest f xs).map g :=
  (List.map_findSome? ..).symm

/-- Two readings of the same items have their latest values from the same item. -/
theorem latest_rel {α β γ : Type} {f : α → Option β} {g : α → Option γ} {R : β → γ → Prop}
    (hnone : ∀ x, f x = none → g x = none)
    (hsome : ∀ x b, f x = some b → ∃ c, g x = some c ∧ R b c) {xs : List α} {b : β}
    (h : latest f xs = some b) : ∃ c, latest g xs = some c ∧ R b c := by
  obtain ⟨before, x, after, hxs, hx, hbefore⟩ := List.findSome?_eq_some_iff.mp h
  obtain ⟨c, hc, hR⟩ := hsome x b hx
  refine ⟨c, List.findSome?_eq_some_iff.mpr ⟨before, x, after, hxs, hc, ?_⟩, hR⟩
  exact fun y hy ↦ hnone y (hbefore y hy)

/-! ## Runs -/

section Run

variable {r : Renderer} {py : Builtins} {registries : Registries} {t : GlobalResolver}
  {labels : List (ℚ × FleetLabel)} {id : String}
  {steps : List (GlobalResolver × (ℚ × FleetLabel))}

theorem latest_report : latest NodeNote.report? (steps.filterMap (fleetNote py id)) =
    (latest (reported py id) steps).map fun report ↦ (report.1, "online") := by
  rw [latest_filterMap, ← latest_map]
  congr 1
  funext ⟨s, now, label⟩
  cases hnote : fleetNote py id (s, (now, label)) with
  | none => simp only [reported, hnote, Option.bind_none, Option.map_none]
  | some note =>
      cases says_of_fleetNote hnote <;>
        simp [reported, hnote, NodeNote.report?, FleetLabel.facts?]

theorem latest_resources : latest NodeNote.resources? (steps.filterMap (fleetNote py id)) =
    (latest (reported py id) steps).map fun report ↦ inventory py report.2 := by
  rw [latest_filterMap, ← latest_map]
  congr 1
  funext ⟨s, now, label⟩
  cases hnote : fleetNote py id (s, (now, label)) with
  | none => simp only [reported, hnote, Option.bind_none, Option.map_none]
  | some note =>
      cases says_of_fleetNote hnote <;>
        simp [reported, hnote, NodeNote.report?, NodeNote.resources?, FleetLabel.facts?]

/-- What is noted of an announcement. -/
theorem note_of_announcement {x : GlobalResolver × (ℚ × FleetLabel)} {capabilities : List String}
    (h : announcement py id x = some capabilities) :
    ∃ facts found metadata, x.2.2.facts? = some facts ∧
      fleetNote py id x = some (.advertised x.2.1 "online" (inventory py facts) found metadata) ∧
      ∀ c ∈ capabilities, normalizeCapability c ∈ found := by
  obtain ⟨s, now, label⟩ := x
  cases hnote : fleetNote py id (s, (now, label)) with
  | none => simp [announcement, hnote] at h
  | some note =>
      cases says_of_fleetNote hnote with
      | announced config environ facts metadata hcapabilities =>
          rw [announcement, hnote] at h
          obtain rfl := Option.some.inj h
          exact ⟨facts, _, metadata, rfl, rfl, hcapabilities⟩
      | beat config environ facts =>
          rw [announcement, hnote] at h
          cases h
      | swept hfacts hcapabilities cutoff =>
          rw [announcement, hnote] at h
          cases h

theorem latest_capabilities {capabilities : List String}
    (h : latest (announcement py id) steps = some capabilities) :
    ∃ found, latest NodeNote.capabilities? (steps.filterMap (fleetNote py id)) = some found ∧
      ∀ c ∈ capabilities, normalizeCapability c ∈ found := by
  rw [latest_filterMap]
  refine latest_rel (R := fun capabilities found ↦
    ∀ c ∈ capabilities, normalizeCapability c ∈ found) ?_ ?_ h
  · rintro ⟨s, now, label⟩ hnone
    cases hnote : fleetNote py id (s, (now, label)) with
    | none => rfl
    | some note =>
        cases says_of_fleetNote hnote with
        | announced config environ facts metadata hcapabilities =>
            rw [announcement, hnote] at hnone
            cases hnone
        | beat config environ facts => rfl
        | swept hfacts hcapabilities cutoff => rfl
  · intro x capabilities hx
    obtain ⟨facts, found, metadata, -, hnote, hfound⟩ := note_of_announcement hx
    exact ⟨found, by rw [hnote]; rfl, hfound⟩

/-- A node that has announced something has reported. -/
theorem reported_of_announcement {capabilities : List String}
    (h : latest (announcement py id) steps = some capabilities) :
    latest (reported py id) steps ≠ none := by
  intro hnone
  rw [latest, List.findSome?_eq_none_iff] at hnone
  obtain ⟨x, hx, hannounced⟩ := List.exists_of_findSome?_eq_some h
  obtain ⟨facts, found, metadata, hfacts, hnote, -⟩ := note_of_announcement hannounced
  have hsilent := hnone x hx
  rw [reported, hnote, Option.bind_some, hfacts] at hsilent
  cases hsilent

/-- The entry of a node in the run of a fleet. -/
theorem entry_of_fleet (h : (fleetStep r py).run { registries := registries } labels = some t) :
    t.nodes.get? id = reconstructed id
      (((fleetStep r py).steps { registries := registries } labels).filterMap
        (fleetNote py id)) := by
  have hend : t.nodes.get? id = reconstructed id
      (([] ++ (fleetStep r py).steps { registries := registries } labels).filterMap
        (fleetNote py id)) := by
    refine run_steps (J := fun s pre ↦
      s.nodes.get? id = reconstructed id (pre.filterMap (fleetNote py id))) ?_ h rfl
    rintro s pre ⟨now, label⟩ t hs hstep
    rw [entry_of_fleetStep hstep, List.filterMap_append]
    cases hnote : fleetNote py id (s, (now, label)) with
    | none =>
        rw [List.filterMap_cons_none hnote, List.filterMap_nil, List.append_nil, ← hs]
        rfl
    | some note =>
        rw [List.filterMap_cons_some hnote, List.filterMap_nil,
          GlobalResolver.reconstructed_concat, ← hs]
        rfl
  exact hend

/-- Nobody has heard from a node. -/
theorem entry_of_unheard
    (h : (fleetStep r py).run { registries := registries } labels = some t)
    (hnone : latest (reported py id)
      ((fleetStep r py).steps { registries := registries } labels) = none) :
    t.nodes.get? id = none := by
  rw [entry_of_fleet h, reconstructed, latest_report, hnone]
  rfl

/-- What the entry of a node says that has reported. -/
theorem entry_of_heard {report : ℚ × MachineFacts}
    (h : (fleetStep r py).run { registries := registries } labels = some t)
    (hsteps : (fleetStep r py).steps { registries := registries } labels = steps)
    (hreport : latest (reported py id) steps = some report) :
    ∃ state, t.nodes.get? id = some state ∧
      state.health = (if isLapsed py id steps then "offline" else "online") ∧
      state.resources = inventory py report.2 ∧
      ∀ capabilities, latest (announcement py id) steps = some capabilities →
        ∀ c ∈ capabilities, normalizeCapability c ∈ state.capabilities := by
  have hentry : t.nodes.get? id = _ := entry_of_fleet h
  rw [hsteps, reconstructed, latest_report, hreport, latest_resources, hreport] at hentry
  refine ⟨_, hentry, ?_, rfl, fun capabilities hcapabilities c hc ↦ ?_⟩
  · rw [isLapsed, hreport, Option.any_some]
  · obtain ⟨found, hfound, hmem⟩ := latest_capabilities hcapabilities
    show normalizeCapability c ∈ (latest NodeNote.capabilities? _).getD ∅
    rw [hfound]
    exact hmem c hc

end Run

/-! ## Resolution -/

namespace GlobalResolver

/-- What resolution makes of a fleet. -/
structure FleetServed (py : Builtins) (s : GlobalResolver)
    (steps : List (GlobalResolver × (ℚ × FleetLabel))) (params : ResolveParams)
    (runtimePreference : List Value) (resolution : Resolution) : Prop where
  /-- A candidate that has reported is what its last report says. -/
  heard : ∀ c ∈ resolution.candidates, ∀ report,
    latest (reported py c.canonicalId) steps = some report →
      c.health = "online" ∧ c.resources = inventory py report.2 ∧
        isLapsed py c.canonicalId steps = false
  unheard : ∀ c ∈ resolution.candidates, latest (reported py c.canonicalId) steps = none →
    c.health = "undiscovered" ∧ c.resources = []
  scored : ∀ c ∈ resolution.candidates,
    c.score = standing py c.canonicalId runtimePreference steps
  ranked : ∀ c ∈ resolution.candidates, ∀ d ∈ resolution.candidates,
    SameClass params.preferLocal c d →
      standing py d.canonicalId runtimePreference steps <
          standing py c.canonicalId runtimePreference steps →
        Precedes resolution.candidates c d
  offered : ∀ nodeId node capabilities, (s.index py .nodes).get? nodeId = some node →
    Acceptable params.securityClass node →
    latest (announcement py nodeId) steps = some capabilities →
    (∃ c ∈ capabilities, normalizeCapability c = normalizeCapability params.capability) →
    isLapsed py nodeId steps = false → ∃ c ∈ resolution.candidates, c.canonicalId = nodeId

end GlobalResolver

section Served

variable {r : Renderer} {py : Builtins} {registries : Registries} {t : GlobalResolver}
  {labels : List (ℚ × FleetLabel)} {steps : List (GlobalResolver × (ℚ × FleetLabel))}
  {params : ResolveParams}

open GlobalResolver

/-- Every capacity that resolution reads is that of an inventory. -/
theorem capacitiesReadable_of_fleet
    (h : (fleetStep r py).run { registries := registries } labels = some t) :
    CapacitiesReadable py t params := by
  intro nodeId node _ _
  cases hreport : latest (reported py nodeId)
      ((fleetStep r py).steps { registries := registries } labels) with
  | none =>
      rw [entry_of_unheard h hreport]
      exact ⟨0, rfl⟩
  | some report =>
      obtain ⟨state, hstate, -, hresources, -⟩ := entry_of_heard h rfl hreport
      rw [hstate]
      show ∃ capacity, capacityOf py state.resources = .ok capacity
      rw [hresources]
      exact ⟨_, capacityOf_inventory report.2⟩

/-- A candidate that has reported. -/
theorem candidate_of_heard
    (h : (fleetStep r py).run { registries := registries } labels = some t)
    (hsteps : (fleetStep r py).steps { registries := registries } labels = steps) {now : ℚ}
    {resolution : Resolution} {next : GlobalResolver}
    (hresolve : t.resolve py now params = .ok (resolution, next)) {c : Candidate}
    (hc : c ∈ resolution.candidates) {report : ℚ × MachineFacts}
    (hreport : latest (reported py c.canonicalId) steps = some report) :
    c.health = "online" ∧ c.resources = inventory py report.2 ∧
      isLapsed py c.canonicalId steps = false := by
  obtain ⟨x, hx, hresolution⟩ := parts_of_resolve hresolve
  obtain ⟨hhealth, hresources, -⟩ := score_eq hx ((mem_candidates hresolution).mp hc)
  obtain ⟨state, hstate, hstatehealth, hstateresources, -⟩ := entry_of_heard h hsteps hreport
  obtain ⟨node, -, hconsidered⟩ := (exists_candidate_iff hresolve).mp ⟨c, hc, rfl⟩
  have husable := hconsidered.usable
  rw [hstate] at hhealth hresources husable
  have honline : isLapsed py c.canonicalId steps = false := by
    rw [← Bool.not_eq_true]
    intro hlapsed
    rw [if_pos hlapsed] at hstatehealth
    rw [healthOf, Option.map_some, Option.getD_some, hstatehealth] at husable
    exact absurd husable (by decide)
  rw [honline, if_neg Bool.false_ne_true] at hstatehealth
  exact ⟨hhealth.trans hstatehealth, hresources.trans hstateresources, honline⟩

/-- A candidate that nobody has heard from. -/
theorem candidate_of_unheard
    (h : (fleetStep r py).run { registries := registries } labels = some t)
    (hsteps : (fleetStep r py).steps { registries := registries } labels = steps) {now : ℚ}
    {resolution : Resolution} {next : GlobalResolver}
    (hresolve : t.resolve py now params = .ok (resolution, next)) {c : Candidate}
    (hc : c ∈ resolution.candidates) (hnone : latest (reported py c.canonicalId) steps = none) :
    c.health = "undiscovered" ∧ c.resources = [] := by
  obtain ⟨x, hx, hresolution⟩ := parts_of_resolve hresolve
  obtain ⟨hhealth, hresources, -⟩ := score_eq hx ((mem_candidates hresolution).mp hc)
  rw [entry_of_unheard h (hsteps ▸ hnone)] at hhealth hresources
  exact ⟨hhealth, hresources⟩

/-- The score of a candidate is the standing of its node. -/
theorem score_eq_standing
    (h : (fleetStep r py).run { registries := registries } labels = some t)
    (hsteps : (fleetStep r py).steps { registries := registries } labels = steps) {now : ℚ}
    {resolution : Resolution} {next : GlobalResolver}
    (hresolve : t.resolve py now params = .ok (resolution, next)) {runtimePreference : List Value}
    (hpreference : mergedPreference py t params = .ok runtimePreference) {c : Candidate}
    (hc : c ∈ resolution.candidates) :
    c.score = standing py c.canonicalId runtimePreference steps := by
  obtain ⟨x, hx, hresolution⟩ := parts_of_resolve hresolve
  obtain ⟨-, -, capacity, hcapacity, hscore⟩ := score_eq hx ((mem_candidates hresolution).mp hc)
  rw [runtimePreference_eq hx hpreference] at hscore
  rw [hscore, standing]
  cases hreport : latest (reported py c.canonicalId) steps with
  | none =>
      obtain ⟨hhealth, hresources⟩ := candidate_of_unheard h hsteps hresolve hc hreport
      rw [hresources] at hcapacity
      obtain rfl := Except.ok.inj hcapacity
      have hbase : healthScore c.health = 25 := if_neg (by rw [hhealth]; decide)
      rw [hbase, Option.elim_none]
      ring
  | some report =>
      obtain ⟨hhealth, hresources, -⟩ := candidate_of_heard h hsteps hresolve hc hreport
      rw [hresources, capacityOf_inventory] at hcapacity
      obtain rfl := Except.ok.inj hcapacity
      have hbase : healthScore c.health = 100 := if_pos hhealth
      rw [hbase, Option.elim_some]
      ring

/-- Resolution of a capability that is known returns, and serves the fleet. -/
theorem served_of_run (h : (fleetStep r py).run { registries := registries } labels = some t)
    {now : ℚ} (hknown : KnownCapability py t params) (hreadable : Readable py t params) :
    ∃ resolution next runtimePreference, t.resolve py now params = .ok (resolution, next) ∧
      mergedPreference py t params = .ok runtimePreference ∧
      FleetServed py t ((fleetStep r py).steps { registries := registries } labels) params
        runtimePreference resolution := by
  obtain ⟨⟨resolution, next⟩, hresolve⟩ :=
    (@resolve_isOk_iff py t now params).mpr ⟨hknown, hreadable, capacitiesReadable_of_fleet h⟩
  obtain ⟨x, hx, hresolution⟩ := parts_of_resolve hresolve
  have hpreference : mergedPreference py t params = .ok x.runtimePreference := by
    rw [mergedPreference, hx.matching, ok_bind, hx.runtimePreference]
  have hscored : ∀ c ∈ resolution.candidates, c.score = standing py c.canonicalId
      x.runtimePreference ((fleetStep r py).steps { registries := registries } labels) :=
    fun c hc ↦ score_eq_standing h rfl hresolve hpreference hc
  refine ⟨resolution, next, x.runtimePreference, hresolve, hpreference, ?_, ?_, hscored, ?_, ?_⟩
  · exact fun c hc report hreport ↦ candidate_of_heard h rfl hresolve hc hreport
  · exact fun c hc hnone ↦ candidate_of_unheard h rfl hresolve hc hnone
  · intro c hc d hd hclass hstanding
    rw [← hscored c hc, ← hscored d hd] at hstanding
    exact precedes_of_score hresolution ((mem_candidates hresolution).mp hc)
      ((mem_candidates hresolution).mp hd) hclass hstanding
  · rintro nodeId node capabilities hnode hacceptable hannounced ⟨c, hc, hname⟩ hlapsed
    obtain ⟨report, hreport⟩ := Option.ne_none_iff_exists'.mp (reported_of_announcement hannounced)
    obtain ⟨state, hstate, hhealth, -, hcapabilities⟩ := entry_of_heard h rfl hreport
    rw [hlapsed, if_neg Bool.false_ne_true] at hhealth
    refine (exists_candidate_iff hresolve).mpr ⟨node, hnode, ?_, ?_, ?_⟩
    · obtain ⟨caps, hcaps, -⟩ := hreadable.nodes nodeId node hnode
      refine ⟨caps, hcaps, decide_eq_true (.inr (.inl ?_))⟩
      rw [hstate, ← hname]
      exact hcapabilities capabilities hannounced c hc
    · exact acceptsSecurity_iff.mpr hacceptable
    · rw [hstate]
      exact decide_eq_true (by rw [healthOf, Option.map_some, Option.getD_some, hhealth]; decide)

/-- What the agents of a fleet post is dealt with as they mean it, and over a live table that
only they have written, resolution returns whenever the capability is known and the documents can
be read.  Its candidates are what their last accepted reports say of their machines, and are
ranked by it; and a node that has announced the capability is among them, unless a sweep has
found its last report too old. -/
theorem fleet_is_served (r : Renderer) (py : Builtins) :
    (∀ (s : GlobalResolver) (now : ℚ) (config : AgentConfig) (environ : Environ)
      (facts : MachineFacts), config.canonicalId ≠ "" →
        fleetStep r py s (now, .announced config environ facts) =
            some (((NodeAgent.init environ config (inventory py facts)).advertise py
              environ).process py now config.canonicalId s).2 ∧
          fleetStep r py s (now, .beat config environ facts) =
            some ((NodeAgent.init environ config (inventory py facts)).heartbeat.process
              py now config.canonicalId s).2) ∧
      ∀ (registries : Registries) (labels : List (ℚ × FleetLabel)) (t : GlobalResolver),
        (fleetStep r py).run { registries := registries } labels = some t →
          ∀ (now : ℚ) (params : ResolveParams), KnownCapability py t params →
            Readable py t params →
              ∃ resolution next runtimePreference,
                t.resolve py now params = .ok (resolution, next) ∧
                mergedPreference py t params = .ok runtimePreference ∧
                FleetServed py t ((fleetStep r py).steps { registries := registries } labels)
                  params runtimePreference resolution :=
  ⟨fun _ _ _ _ _ hid ↦ ⟨fleetStep_announced r hid, fleetStep_beat r hid⟩,
    fun _ _ _ h _ _ hknown hreadable ↦ served_of_run h hknown hreadable⟩

end Served

/-! ## A small fleet -/

/-- One node declares the capability; what the other one has, only its agent knows. -/
def fleetRegistries : Registries
  | .nodes => [(.str "nodes", .list
      [.object [("canonical_id", .str "ga://node/render"),
        ("capabilities", .list [.str "model.infer"])],
      .object [("canonical_id", .str "ga://node/eden")]])]
  | .capabilities => [(.str "capabilities", .list [.object
      [("canonical_id", .str "ga://capability/model.infer")]])]
  | _ => []

/-- A machine with eight processors. -/
def edenFacts : MachineFacts where
  hostname := "eden"
  platform := "Linux"
  system := "Linux"
  machine := "x86_64"
  python := "3.11"
  cpuCount := some 8
  meminfo := none
  diskTotal := 2
  diskUsed := 1
  diskFree := 1
  nvidiaSmi := .raised
  tailscale := .raised

/-- Its agent advertises and sends a heartbeat. -/
def fleetRun : List (ℚ × FleetLabel) :=
  [(0, .announced ⟨"ga://node/eden", 8765⟩ (fun _ ↦ none) edenFacts),
    (30, .beat ⟨"ga://node/eden", 8765⟩ (fun _ ↦ none) edenFacts), (60, .topology)]

open GlobalResolver in
/-- It is selected. -/
theorem small_fleet_is_served : ∃ t resolution next runtimePreference,
    (fleetStep default default).run { registries := fleetRegistries } fleetRun = some t ∧
      t.resolve default 61 { capability := "model.infer" } = .ok (resolution, next) ∧
      resolution.selected.map (fun c ↦ (c.canonicalId, c.score)) = some ("ga://node/eden", 108) ∧
      FleetServed default t
        ((fleetStep default default).steps { registries := fleetRegistries } fleetRun)
        { capability := "model.infer" } runtimePreference resolution := by
  have hview : ((fleetStep default default).run { registries := fleetRegistries } fleetRun).bind
      (fun t ↦ (t.resolve default 61 { capability := "model.infer" }).toOption.bind fun answer ↦
        answer.1.selected.map fun c ↦ (c.canonicalId, c.score)) = some ("ga://node/eden", 108) := by
    decide +kernel
  obtain ⟨t, ht, hview⟩ := Option.bind_eq_some_iff.mp hview
  obtain ⟨answer, hanswer, hselected⟩ := Option.bind_eq_some_iff.mp hview
  have hok := eq_ok_of_toOption hanswer
  obtain ⟨hknown, hreadable, -⟩ := resolve_isOk_iff.mp ⟨_, hok⟩
  obtain ⟨resolution, next, runtimePreference, hresolve, -, hserved⟩ :=
    (fleet_is_served default default).2 fleetRegistries fleetRun t ht 61 _ hknown hreadable
  obtain rfl := Except.ok.inj (hok.symm.trans hresolve)
  exact ⟨t, resolution, next, runtimePreference, ht, hresolve, hselected, hserved⟩

end EstateMesh
