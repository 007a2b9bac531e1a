import EstateMesh.Resolver.LiveTable

/-!
# The live table as a record of reports

The live table is overwritten by every report of a node and by every sweep.  What an entry says is
nevertheless a matter of the past calls: `reconstructed` tells it from the calls about the node,
field by field, without a table.  The time and the health are those of the last report, unless
the node has been silent for too long for a sweep since; the resources are the last ones that were
reported; the capabilities and the metadata are those of the last advertisement.  This is so in
every run, whatever becomes of other nodes and of the registries (`live_entry_is_reconstructed`).
-/

namespace EstateMesh

open Lib Machine

/-! ## Notes -/

/-- What a call has to do with a node. -/
inductive NodeNote
  | advertised (now : ℚ) (health : String) (resources : PyDict) (capabilities : Finset String)
      (metadata : PyDict)
  | beat (now : ℚ) (health : String) (resources : Option PyDict)
  | swept (cutoff : ℚ)

namespace NodeNote

/-- The time and the health of a report. -/
def report? : NodeNote → Option (ℚ × String)
  | advertised now health _ _ _ | beat now health _ => some (now, health)
  | swept _ => none

def resources? : NodeNote → Option PyDict
  | advertised _ _ resources _ _ => some resources
  | beat _ _ resources => resources
  | swept _ => none

def capabilities? : NodeNote → Option (Finset String)
  | advertised _ _ _ capabilities _ => some capabilities
  | _ => none

def metadata? : NodeNote → Option PyDict
  | advertised _ _ _ _ metadata => some metadata
  | _ => none

/-- A sweep for which a report is too old. -/
def sweepsAway (lastSeen : ℚ) : NodeNote → Bool
  | swept cutoff => lastSeen < cutoff
  | _ => false

end NodeNote

/-- The latest value that some notes give. -/
def latest {α β : Type} (f : α → Option β) (notes : List α) : Option β := notes.reverse.findSome? f

theorem latest_concat {α β : Type} (f : α → Option β) (notes : List α) (note : α) :
    latest f (notes ++ [note]) = (f note).or (latest f notes) := by
  simp only [latest, List.reverse_append, List.reverse_singleton, List.singleton_append,
    List.findSome?_cons]
  cases f note <;> rfl

/-- The sweeps since the last report. -/
def sinceReport (notes : List NodeNote) : List NodeNote :=
  notes.reverse.takeWhile fun note ↦ note.report?.isNone

/-- What the notes say of a node. -/
def reconstructed (id : String) (notes : List NodeNote) : Option NodeState :=
  (latest NodeNote.report? notes).map fun report ↦
    { canonicalId := id
      lastSeen := report.1
      health := if (sinceReport notes).any (NodeNote.sweepsAway report.1) then "offline" else report.2
      resources := (latest NodeNote.resources? notes).getD []
      capabilities := (latest NodeNote.capabilities? notes).getD ∅
      metadata := (latest NodeNote.metadata? notes).getD [] }

namespace GlobalResolver

/-- What is noted of a call: an advertisement or a heartbeat of the node that is accepted, and
every sweep. -/
def noted (py : Builtins) (id : String) : GlobalResolver × (ℚ × ResolverCall) → Option NodeNote
  | (s, (now, .advertise canonicalId capabilities resources health metadata)) =>
      if canonicalId = id then
        ((s.index py .nodes).get? id).bind fun node ↦
          (node.getD "capabilities" (.list [])).iter.toOption.map fun declared ↦
            .advertised now health resources
              ((capabilities.map normalizeCapability).toFinset ∪ (declared.map py.str).toFinset)
              metadata
      else none
  | (s, (now, .heartbeat canonicalId health resources)) =>
      if canonicalId = id ∧ ((s.index py .nodes).get? id).isSome then
        some (.beat now health resources)
      else none
  | (_, (now, .expire ttlSeconds)) => some (.swept (now - ttlSeconds))
  | (_, (now, .topology)) => some (.swept (now - 90))
  | _ => none

/-! ## One note -/

/-- What a note makes of an entry. -/
def noteEntry (id : String) (entry : Option NodeState) : NodeNote → Option NodeState
  | .advertised now health resources capabilities metadata =>
      some ⟨id, now, health, resources, capabilities, metadata⟩
  | .beat now health resources => some (beaten now id health resources entry)
  | .swept cutoff => entry.map (sweep cutoff)

theorem sinceReport_concat (notes : List NodeNote) (note : NodeNote) :
    sinceReport (notes ++ [note]) =
      if note.report?.isNone then note :: sinceReport notes else [] := by
  simp only [sinceReport, List.reverse_append, List.reverse_singleton, List.singleton_append,
    List.takeWhile_cons]

/-- Without a report there is nothing else. -/
theorem latest_eq_none {α : Type} {f : NodeNote → Option α} {notes : List NodeNote}
    (hf : ∀ note, note.report? = none → f note = none) (h : latest NodeNote.report? notes = none) :
    latest f notes = none := by
  rw [latest, List.findSome?_eq_none_iff] at h ⊢
  exact fun note hnote ↦ hf note (h note hnote)

/-- A sweep decides about an entry by the last report. -/
theorem sweep_eq (cutoff : ℚ) (state : NodeState) :
    sweep cutoff state =
      { state with health := if state.lastSeen < cutoff then "offline" else state.health } := by
  obtain ⟨id, lastSeen, health, resources, capabilities, metadata⟩ := state
  simp only [sweep, NodeState.isExpired, decide_eq_true_eq]
  by_cases hlast : lastSeen < cutoff
  · by_cases hhealth : health = "offline" <;> simp [hlast, hhealth]
  · simp [hlast]

/-- One more note is what it makes of the entry so far. -/
theorem reconstructed_concat (id : String) (notes : List NodeNote) (note : NodeNote) :
    reconstructed id (notes ++ [note]) = noteEntry id (reconstructed id notes) note := by
  cases note with
  | advertised now health resources capabilities metadata =>
      simp [reconstructed, noteEntry, latest_concat, sinceReport_concat, NodeNote.report?,
        NodeNote.resources?, NodeNote.capabilities?, NodeNote.metadata?]
  | beat now health resources =>
      simp only [reconstructed, latest_concat, sinceReport_concat, NodeNote.report?,
        NodeNote.resources?, NodeNote.capabilities?, NodeNote.metadata?, Option.some_or,
        Option.none_or, Option.map_some, noteEntry, beaten]
      cases hreport : latest NodeNote.report? notes with
      | none =>
          rw [latest_eq_none (by rintro ⟨⟩ <;> simp [NodeNote.report?, NodeNote.resources?]) hreport,
            latest_eq_none (by rintro ⟨⟩ <;> simp [NodeNote.report?, NodeNote.capabilities?]) hreport,
            latest_eq_none (by rintro ⟨⟩ <;> simp [NodeNote.report?, NodeNote.metadata?]) hreport]
          cases resources <;> simp
      | some report => cases resources <;> simp
  | swept cutoff =>
      simp only [reconstructed, latest_concat, sinceReport_concat, NodeNote.report?,
        NodeNote.resources?, NodeNote.capabilities?, NodeNote.metadata?, Option.none_or, noteEntry,
        Option.map_map]
      congr 1
      funext report
      simp only [Function.comp_apply, sweep_eq, NodeNote.sweepsAway, Option.isNone_none, if_true,
        List.any_cons, Bool.or_eq_true, decide_eq_true_eq]
      by_cases hsince : (sinceReport notes).any (NodeNote.sweepsAway report.1) = true
      · simp only [hsince, or_true, if_true, ite_self]
      · simp only [hsince, or_false, if_false, Bool.false_eq_true]

/-! ## Runs -/

variable {r : Renderer} {py : Builtins} {s t : GlobalResolver} {now : ℚ} {id : String}

theorem noteEntry_advertise {canonicalId health : String} {capabilities : List String}
    {resources metadata : PyDict} {answer : NodeSnapshot × EstateEvent}
    (h : s.advertise py now canonicalId capabilities resources health metadata = .ok (answer, t)) :
    t.nodes.get? id =
      ((noted py id (s, (now, .advertise canonicalId capabilities resources health metadata))).elim
        (s.nodes.get? id) (noteEntry id (s.nodes.get? id))) := by
  obtain ⟨-, node, declared, hnode, hdeclared, hnodes⟩ := nodes_of_advertise h
  rw [hnodes, noted]
  split
  · rename_i hid
    subst hid
    rw [hnode, Option.bind_some, hdeclared, Dict.get?_set_self]
    rfl
  · rename_i hid
    rw [Dict.get?_set_of_ne _ hid]
    rfl

theorem noted_of_refused {canonicalId health : String} {capabilities : List String}
    {resources metadata : PyDict} {e : ResolverFault}
    (h : s.advertise py now canonicalId capabilities resources health metadata = .error e) :
    noted py id (s, (now, .advertise canonicalId capabilities resources health metadata)) = none := by
  rw [noted]
  split
  · rename_i hid
    subst hid
    cases hnode : (s.index py .nodes).get? canonicalId with
    | none => rfl
    | some node =>
        rw [Option.bind_some]
        cases hdeclared : (node.getD "capabilities" (.list [])).iter with
        | error e => rfl
        | ok declared =>
            obtain ⟨answer, next, hok⟩ := advertise_of_declared hnode hdeclared
            cases h.symm.trans hok
  · rfl

/-- A step does to the entry of a node what its note says. -/
theorem entry_of_step {call : ResolverCall} (h : step r py s (now, call) = some t) :
    t.nodes.get? id = (noted py id (s, (now, call))).elim (s.nodes.get? id)
      (noteEntry id (s.nodes.get? id)) := by
  have hswept (ttlSeconds : ℤ) : (s.expire now ttlSeconds).2.nodes.get? id =
      (s.nodes.get? id).map (sweep (now - ttlSeconds)) := by
    rw [(expire_spec s now ttlSeconds).1, Dict.get?_mapValues]
  cases call with
  | advertise canonicalId capabilities resources health metadata =>
      obtain rfl := Option.some.inj h
      cases houtcome : s.advertise py now canonicalId capabilities resources health metadata with
      | error e =>
          rw [noted_of_refused houtcome]
          rfl
      | ok outcome => exact noteEntry_advertise houtcome
  | heartbeat canonicalId health resources =>
      obtain rfl := Option.some.inj h
      by_cases hdeclared : (s.index py .nodes).get? canonicalId = none
      · rw [heartbeat_of_undeclared hdeclared, noted, if_neg]
        · rfl
        · rintro ⟨rfl, hsome⟩
          rw [hdeclared] at hsome
          cases hsome
      · obtain ⟨answer, next, hok, -, hnodes⟩ :=
          @heartbeat_of_declared py s now canonicalId health resources hdeclared
        rw [hok, noted]
        show next.nodes.get? id = _
        rw [hnodes]
        split
        · rename_i hid
          obtain ⟨rfl, -⟩ := hid
          rw [Dict.get?_set_self]
          rfl
        · rename_i hid
          have hne : canonicalId ≠ id := by
            rintro rfl
            exact hid ⟨rfl, Option.isSome_iff_ne_none.mpr hdeclared⟩
          rw [Dict.get?_set_of_ne _ hne]
          rfl
  | expire ttlSeconds =>
      obtain rfl := Option.some.inj h
      exact hswept ttlSeconds
  | topology =>
      obtain rfl := Option.some.inj h
      obtain ⟨topology, htopology, -⟩ := topology_eq_ok py s now
      rw [htopology]
      exact hswept 90
  | resolve params =>
      obtain rfl := Option.some.inj h
      cases houtcome : s.resolve py now params with
      | error e => rfl
      | ok outcome =>
          obtain ⟨-, -, hnodes, -⟩ := resolve_eq_ok houtcome
          exact congrArg (fun nodes ↦ Dict.get? nodes id) hnodes
  | reload root =>
      rw [step] at h
      split at h
      · rename_i report next hreload
        obtain rfl := Option.some.inj h
        obtain ⟨registries, -, -, rfl⟩ := reload_eq_ok_iff.mp hreload
        rfl
      · cases h

/-- At every point of every run, the entry of a node is the one that the calls about it so far
say. -/
theorem live_entry_is_reconstructed (r : Renderer) (py : Builtins) (registries : Registries)
    (is : List (ℚ × ResolverCall)) (t : GlobalResolver)
    (h : (step r py).run { registries := registries } is = some t) (id : String) :
    t.nodes.get? id = reconstructed id
      (((step r py).steps { registries := registries } is).filterMap (noted py id)) := by
  have hend : t.nodes.get? id = reconstructed id
      (([] ++ (step r py).steps { registries := registries } is).filterMap (noted py id)) := by
    refine run_steps (J := fun s pre ↦
      s.nodes.get? id = reconstructed id (pre.filterMap (noted py id))) ?_ h rfl
    rintro s pre ⟨now, call⟩ t hs hstep
    rw [entry_of_step hstep, List.filterMap_append]
    cases hnoted : noted py id (s, (now, call)) with
    | none =>
        rw [List.filterMap_cons_none hnoted, List.filterMap_nil, List.append_nil, ← hs]
        rfl
    | some note =>
        rw [List.filterMap_cons_some hnoted, List.filterMap_nil, reconstructed_concat, ← hs]
        rfl
  exact hend

/-- A node advertises, is swept away and is back with a heartbeat. -/
def returningRun : List (ℚ × ResolverCall) :=
  [(0, .advertise "ga://node/vercel" ["compile"] [(.str "gpu", .int 1)] "online" []),
    (100, .expire 90), (110, .heartbeat "ga://node/vercel" "degraded" none)]

/-- The heartbeat leaves it its resources. -/
theorem returned_node_is_reconstructed :
    ∃ t, (step default default).run { registries := soleNode } returningRun = some t ∧
      ((t.nodes.get? "ga://node/vercel").map fun state ↦
        (state.lastSeen, state.health, state.resources.length)) = some (110, "degraded", 1) ∧
      t.nodes.get? "ga://node/vercel" = reconstructed "ga://node/vercel"
        (((step default default).steps { registries := soleNode } returningRun).filterMap
          (noted default "ga://node/vercel")) := by
  have hrun : ((step default default).run { registries := soleNode } returningRun).bind
      (fun t ↦ (t.nodes.get? "ga://node/vercel").map fun state ↦
        (state.lastSeen, state.health, state.resources.length)) = some (110, "degraded", 1) := by
    decide +kernel
  obtain ⟨t, ht, hview⟩ := Option.bind_eq_some_iff.mp hrun
  exact ⟨t, ht, hview, live_entry_is_reconstructed default default soleNode returningRun t ht _⟩

end GlobalResolver

end EstateMesh
