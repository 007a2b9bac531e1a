import EstateMesh.Agent.Rejoin
import EstateMesh.Lib.Lease

/-!
# The loop of an agent, in time

`NodeAgent.loop` advertises, sleeps for `heartbeat_seconds` before each heartbeat, and after a
call that fails it sleeps for the backoff and advertises again.  The backoff starts at two
seconds, doubles up to a minute, and starts anew with an advertisement that succeeds.

`loopStep` is the machine of `Rejoin` with a clock, in which the agent sleeps.  The entry of the
node is a lease that the agent renews (`Lib.Lease`), so as long as its calls end in time and not
too many fail in a row, no sweep takes the node offline, and the node is back in the table not
long after a restart of the control plane (`node_stays_online`).
-/

namespace EstateMesh

open Lib Machine

/-- The loop of an agent. -/
structure AgentLoop where
  rejoin : Rejoin
  /-- The agent is in the inner loop, which sends heartbeats. -/
  beating : Bool := false
  backoff : ℕ := 2
  /-- When the agent has slept enough. -/
  wakesAt : ℚ
  clock : ℚ
  /-- A history variable: the calls that have failed since one succeeded. -/
  failures : ℕ := 0

/-- The step happens at the given time. -/
def RejoinStep.At (now : ℚ) : RejoinStep → Prop
  | .processed now' _ | .expired now' _ | .other now' _ _ => now' = now
  | _ => True

instance (now : ℚ) : DecidablePred (RejoinStep.At now)
  | .processed now' _ | .expired now' _ | .other now' _ _ => inferInstanceAs (Decidable (now' = now))
  | .call _ | .lost _ | .answered _ | .failed | .restarted => .isTrue trivial

namespace AgentLoop

/-- The loop goes on after a call: with the next heartbeat, or with the backoff. -/
def concluded (heartbeatSeconds : ℕ) (s : AgentLoop) (now : ℚ) (rejoin : Rejoin) : AgentLoop :=
  if rejoin.phase = .beating then
    { rejoin := rejoin
      beating := true
      backoff := if s.beating then s.backoff else 2
      wakesAt := now + heartbeatSeconds
      clock := now
      failures := 0 }
  else
    { rejoin := rejoin
      beating := false
      backoff := min (s.backoff * 2) 60
      wakesAt := now + s.backoff
      clock := now
      failures := s.failures + 1 }

/-- What a step of the two parties is for the loop.  The agent does not call before it wakes
up. -/
def advance (heartbeatSeconds : ℕ) (s : AgentLoop) (now : ℚ) (rejoin : Rejoin) :
    RejoinStep → Option AgentLoop
  | .call _ => if now < s.wakesAt then none else some { s with rejoin := rejoin, clock := now }
  | .answered _ | .failed => some (s.concluded heartbeatSeconds now rejoin)
  | _ => some { s with rejoin := rejoin, clock := now }

end AgentLoop

/-- The machine of the loop. -/
def loopStep (py : Builtins) (environ : Environ) (heartbeatSeconds : ℕ) :
    Machine AgentLoop (ℚ × RejoinStep)
  | s, (now, l) =>
      if now < s.clock ∨ ¬ l.At now then none
      else
        (Rejoin.step py environ s.rejoin l).bind fun rejoin ↦
          s.advance heartbeatSeconds now rejoin l

namespace AgentLoop

/-- An agent that starts against a control plane that has just started. -/
def start (now : ℚ) (agent : NodeAgent) (registries : Registries) : AgentLoop where
  rejoin := .start agent registries
  wakesAt := now
  clock := now

/-- The lease that the agent holds. -/
def lease (s : AgentLoop) (mark : ℚ) : Lease ℚ := ⟨s.clock, s.wakesAt, s.failures, mark⟩

/-- The terms on which the agent renews it. -/
def terms (heartbeatSeconds : ℕ) (latency : NNRat) : Terms ℚ where
  period := heartbeatSeconds
  latency := latency
  delay n := min (2 ^ (n + 1)) 60
  period_nonneg := Nat.cast_nonneg _
  latency_nonneg := latency.coe_nonneg
  delay_nonneg n := le_min (by positivity) (by norm_num)

/-! ## What is to be preserved -/

end AgentLoop

/-- If the step is a sweep, it leaves a node that much time. -/
def RejoinStep.Leaves (time : ℚ) : RejoinStep → Prop
  | .expired _ ttlSeconds => time ≤ ttlSeconds
  | _ => True

instance (time : ℚ) : DecidablePred (RejoinStep.Leaves time)
  | .expired _ ttlSeconds => inferInstanceAs (Decidable (time ≤ ttlSeconds))
  | .call _ | .lost _ | .processed _ _ | .answered _ | .failed | .other _ _ _ | .restarted =>
      .isTrue trivial

/-- The step comes before the call of the agent should have ended, not too many calls have failed
in a row, and a sweep is not too soon for that. -/
def AgentLoop.Prompt (T : Terms ℚ) (k : ℕ) (s : AgentLoop) (l : ℚ × RejoinStep) : Prop :=
  l.1 ≤ s.wakesAt + T.latency ∧ s.failures ≤ k ∧ l.2.Leaves (T.silence k)

instance (T : Terms ℚ) (k : ℕ) (s : AgentLoop) (l : ℚ × RejoinStep) : Decidable (s.Prompt T k l) :=
  inferInstanceAs (Decidable (_ ∧ _ ∧ _))

/-- A request says that the node is online. -/
def AgentCall.SaysOnline : AgentCall → Prop
  | .advertise _ _ health _ => health = "online"
  | .heartbeat health _ => health = "online"

/-- The entry of the node is a lease that was renewed, or lost, at `mark`. -/
structure AgentLoop.Kept (T : Terms ℚ) (s : AgentLoop) (mark : ℚ) : Prop where
  held : (s.lease mark).Held T
  online : ∀ state, s.rejoin.entry = some state → state.health = "online" ∧ state.lastSeen = mark
  /-- An answer that is awaited and good has renewed the lease. -/
  waiting : ∀ n, s.rejoin.phase = .waiting n →
    s.wakesAt ≤ s.clock ∧ ((n, true) ∈ s.rejoin.answers → s.wakesAt ≤ mark)
  requests : ∀ x ∈ s.rejoin.requests, x.1 < s.rejoin.calls ∧ x.2.SaysOnline
  answers : ∀ x ∈ s.rejoin.answers, x.1 < s.rejoin.calls
  backoff : s.backoff = min (2 ^ (s.failures + 1)) 60
  beating : s.beating = true → s.failures = 0

namespace AgentCall

variable {py : Builtins} {self : GlobalResolver} {now : ℚ} {nodeId : String} {call : AgentCall}

/-- A request that succeeds makes an entry. -/
theorem process_of_ok (hcall : call.SaysOnline) (h : (call.process py now nodeId self).1 = true) :
    ∃ state, (call.process py now nodeId self).2.nodes.get? nodeId = some state ∧
      state.health = "online" ∧ state.lastSeen = now := by
  cases call with
  | advertise capabilities resources health metadata =>
      rw [process] at h ⊢
      split at h
      · rename_i answer next hok
        obtain ⟨-, node, declared, -, -, hnodes⟩ := GlobalResolver.nodes_of_advertise hok
        have hentry := congrArg (fun nodes ↦ nodes.get? nodeId) hnodes
        exact ⟨_, hentry.trans (Dict.get?_set_self _ _ _), hcall, rfl⟩
      · cases h
  | heartbeat health resources =>
      by_cases hnode : (self.index py .nodes).get? nodeId = none
      · rw [process, GlobalResolver.heartbeat_of_undeclared hnode] at h
        cases h
      · obtain ⟨answer, next, hok, -, hnodes⟩ :=
          @GlobalResolver.heartbeat_of_declared py self now nodeId health resources hnode
        have hentry := congrArg (fun nodes ↦ nodes.get? nodeId) hnodes
        rw [process, hok]
        exact ⟨_, hentry.trans (Dict.get?_set_self _ _ _), hcall, rfl⟩

/-- A request that fails changes nothing. -/
theorem process_of_not_ok (h : (call.process py now nodeId self).1 = false) :
    (call.process py now nodeId self).2 = self := by
  cases call <;> rw [process] at h ⊢ <;> split at h <;> first | rfl | cases h

end AgentCall

namespace AgentLoop

variable {py : Builtins} {environ : Environ} {heartbeatSeconds : ℕ} {latency : NNRat}
variable {T : Terms ℚ} {s t : AgentLoop} {mark now : ℚ} {l : RejoinStep}

/-! ## One step -/

/-- A step that is no end of a call. -/
theorem Kept.passed (h : s.Kept T mark) (hnow : s.clock ≤ now) {rejoin : Rejoin}
    (hentry : rejoin.entry = s.rejoin.entry)
    (hphase : rejoin.phase = s.rejoin.phase) (hcalls : rejoin.calls = s.rejoin.calls)
    (hrequests : ∀ x ∈ rejoin.requests, x ∈ s.rejoin.requests)
    (hanswers : ∀ x ∈ rejoin.answers, x ∈ s.rejoin.answers ∨ x.1 < s.rejoin.calls ∧ x.2 = false) :
    Kept T { s with rejoin := rejoin, clock := now } mark where
  held := h.held.passed hnow
  online state hstate := h.online state (hentry.symm.trans hstate)
  waiting n hn := by
    rw [hphase] at hn
    obtain ⟨hdue, hmark⟩ := h.waiting n hn
    refine ⟨hdue.trans hnow, fun hanswer ↦ ?_⟩
    rcases hanswers _ hanswer with hanswer | ⟨-, hanswer⟩
    · exact hmark hanswer
    · cases hanswer
  requests x hx := by
    dsimp only
    rw [hcalls]
    exact h.requests x (hrequests x hx)
  answers x hx := by
    dsimp only
    rw [hcalls]
    rcases hanswers x hx with hx | ⟨hx, -⟩
    · exact h.answers x hx
    · exact hx
  backoff := h.backoff
  beating := h.beating

/-- The agent makes a call. -/
theorem Kept.called (h : s.Kept T mark) (hnow : s.clock ≤ now) (hdue : s.wakesAt ≤ now)
    {agent : NodeAgent} {call : AgentCall} (hconfig : agent.config = s.rejoin.agent.config)
    (hcall : call.SaysOnline) :
    Kept T { s with rejoin := s.rejoin.send agent call, clock := now } mark where
  held := h.held.passed hnow
  online state hstate := by
    refine h.online state ?_
    rwa [Rejoin.entry, Rejoin.send, hconfig] at hstate
  waiting n hn := by
    obtain rfl := AgentPhase.waiting.inj hn
    exact ⟨hdue, fun hanswer ↦ absurd (h.answers _ hanswer) (lt_irrefl _)⟩
  requests x hx := by
    rcases List.mem_append.mp hx with hx | hx
    · exact ⟨(h.requests x hx).1.trans (Nat.lt_succ_self _), (h.requests x hx).2⟩
    · obtain rfl := List.mem_singleton.mp hx
      exact ⟨Nat.lt_succ_self _, hcall⟩
  answers x hx := (h.answers x hx).trans (Nat.lt_succ_self _)
  backoff := h.backoff
  beating := h.beating

/-- The control plane accepts a request. -/
theorem Kept.accepted (h : s.Kept T mark) (hnow : s.clock ≤ now) {i n : ℕ} {call : AgentCall}
    (hrequest : s.rejoin.requests[i]? = some (n, call)) {resolver : GlobalResolver}
    (hentry : ∃ state, resolver.nodes.get? s.rejoin.agent.config.canonicalId = some state ∧
      state.health = "online" ∧ state.lastSeen = now) :
    Kept T
      { s with
        rejoin :=
          { s.rejoin with
            requests := s.rejoin.requests.eraseIdx i
            answers := s.rejoin.answers ++ [(n, true)]
            resolver := resolver }
        clock := now } now where
  held := h.held.marked hnow
  online state hstate := by
    obtain ⟨state', hstate', hhealth, hseen⟩ := hentry
    obtain rfl := Option.some.inj (hstate'.symm.trans hstate)
    exact ⟨hhealth, hseen⟩
  waiting m hm := by
    have hdue := (h.waiting m hm).1.trans hnow
    exact ⟨hdue, fun _ ↦ hdue⟩
  requests x hx := h.requests x (List.mem_of_mem_eraseIdx hx)
  answers x hx := by
    rcases List.mem_append.mp hx with hx | hx
    · exact h.answers x hx
    · obtain rfl := List.mem_singleton.mp hx
      exact (h.requests _ (List.mem_of_getElem? hrequest)).1
  backoff := h.backoff
  beating := h.beating

/-- The control plane is restarted, and the entry is lost. -/
theorem Kept.restarted (h : s.Kept T mark) (hnow : s.clock ≤ now) :
    Kept T
      { s with
        rejoin := { s.rejoin with resolver := { registries := s.rejoin.resolver.registries } }
        clock := now } now where
  held := h.held.marked hnow
  online := by
    rintro state ⟨⟩
  waiting n hn := by
    have hdue := (h.waiting n hn).1.trans hnow
    exact ⟨hdue, fun _ ↦ hdue⟩
  requests := h.requests
  answers := h.answers
  backoff := h.backoff
  beating := h.beating

/-- A sweep in time changes nothing. -/
theorem Kept.swept (h : s.Kept T mark) {ttlSeconds : ℤ} (httl : now ≤ mark + ttlSeconds) :
    (s.rejoin.resolver.expire now ttlSeconds).2.nodes.get? s.rejoin.agent.config.canonicalId =
      s.rejoin.entry := by
  rw [(GlobalResolver.expire_spec s.rejoin.resolver now ttlSeconds).1, Dict.get?_mapValues,
    ← Rejoin.entry]
  cases hentry : s.rejoin.entry with
  | none => rfl
  | some state =>
      have hseen := (h.online state hentry).2
      have hfresh : ¬ state.isExpired (now - ttlSeconds) = true := by
        intro hexpired
        have hlast := (of_decide_eq_true hexpired).1
        linarith
      rw [Option.map_some, GlobalResolver.sweep, if_neg hfresh]

/-- The backoff of the loop is the pause of its terms. -/
theorem Kept.delay (h : s.Kept (terms heartbeatSeconds latency) mark) :
    (terms heartbeatSeconds latency).delay s.failures = s.backoff := by
  rw [h.backoff, terms]
  push_cast
  rfl

/-- A call ends. -/
theorem Kept.concluded (h : s.Kept (terms heartbeatSeconds latency) mark) (hnow : s.clock ≤ now)
    (hprompt : now ≤ s.wakesAt + latency) {rejoin : Rejoin} {ok : Bool}
    (hphase : rejoin.phase = Rejoin.afterCall ok)
    (hmark : ok = true → s.wakesAt ≤ mark)
    (hentry : rejoin.entry = s.rejoin.entry) (hcalls : rejoin.calls = s.rejoin.calls)
    (hrequests : rejoin.requests = s.rejoin.requests)
    (hanswers : ∀ x ∈ rejoin.answers, x ∈ s.rejoin.answers) :
    Kept (terms heartbeatSeconds latency) (s.concluded heartbeatSeconds now rejoin) mark := by
  have honline : ∀ state, rejoin.entry = some state →
      state.health = "online" ∧ state.lastSeen = mark := by
    rw [hentry]
    exact h.online
  have hrequests : ∀ x ∈ rejoin.requests, x.1 < rejoin.calls ∧ x.2.SaysOnline := by
    rw [hrequests, hcalls]
    exact h.requests
  have hanswers : ∀ x ∈ rejoin.answers, x.1 < rejoin.calls := by
    rw [hcalls]
    exact fun x hx ↦ h.answers x (hanswers x hx)
  cases ok with
  | true =>
      have hbeating : rejoin.phase = .beating := hphase
      rw [AgentLoop.concluded, if_pos hbeating]
      refine ⟨h.held.succeeded hnow hprompt (hmark rfl), honline, ?_, hrequests, hanswers, ?_,
        fun _ ↦ rfl⟩
      · intro n hn
        cases hbeating.symm.trans hn
      · dsimp only
        split_ifs with hinner
        · rw [h.backoff, h.beating hinner]
        · rfl
  | false =>
      have hadvertising : rejoin.phase = .advertising := hphase
      have hnot : rejoin.phase ≠ .beating := by
        rw [hadvertising]
        nofun
      have hfailed := h.held.failed hnow hprompt
      rw [AgentLoop.concluded, if_neg hnot]
      refine ⟨?_, honline, ?_, hrequests, hanswers, ?_, fun hinner ↦ by cases hinner⟩
      · rw [Lease.failed, lease, h.delay] at hfailed
        exact hfailed
      · intro n hn
        cases hadvertising.symm.trans hn
      · dsimp only
        rw [h.backoff, pow_succ]
        omega

/-- A step is one of the two parties, at a time that has come. -/
theorem rejoin_of_loopStep (h : loopStep py environ heartbeatSeconds s (now, l) = some t) :
    s.clock ≤ now ∧ l.At now ∧ ∃ rejoin, Rejoin.step py environ s.rejoin l = some rejoin ∧
      s.advance heartbeatSeconds now rejoin l = some t := by
  rw [loopStep] at h
  split_ifs at h with hnow
  obtain ⟨hclock, hat⟩ := not_or.mp hnow
  obtain ⟨rejoin, hrejoin, h⟩ := Option.bind_eq_some_iff.mp h
  exact ⟨not_lt.mp hclock, not_not.mp hat, rejoin, hrejoin, h⟩

/-- What a prompt step keeps.  It makes no difference to a node without an entry, unless it makes
one. -/
theorem Kept.step {k : ℕ} (h : s.Kept (terms heartbeatSeconds latency) mark)
    (hprompt : s.Prompt (terms heartbeatSeconds latency) k (now, l))
    (hstep : loopStep py environ heartbeatSeconds s (now, l) = some t) :
    ∃ mark', t.Kept (terms heartbeatSeconds latency) mark' ∧ mark ≤ mark' ∧ t.clock = now ∧
      (l ≠ .restarted → t.rejoin.entry = none → s.rejoin.entry = none ∧ mark' = mark) := by
  obtain ⟨hclock, hat, rejoin, hrejoin, ht⟩ := rejoin_of_loopStep hstep
  have hlater : mark ≤ now := h.held.mark_le.trans hclock
  cases l with
  | call inventory =>
      rw [advance] at ht
      split_ifs at ht with hwakes
      obtain rfl := Option.some.inj ht
      have hdue := not_lt.mp hwakes
      rw [Rejoin.step, Rejoin.nextCall] at hrejoin
      split at hrejoin
      · obtain rfl := Option.some.inj hrejoin
        exact ⟨mark, h.called hclock hdue rfl rfl, le_refl _, rfl, fun _ hentry ↦ ⟨hentry, rfl⟩⟩
      · obtain rfl := Option.some.inj hrejoin
        exact ⟨mark, h.called hclock hdue rfl rfl, le_refl _, rfl, fun _ hentry ↦ ⟨hentry, rfl⟩⟩
      · cases hrejoin
  | lost i =>
      obtain rfl := Option.some.inj ht
      rw [Rejoin.step] at hrejoin
      split_ifs at hrejoin
      obtain rfl := Option.some.inj hrejoin
      exact ⟨mark, h.passed hclock rfl rfl rfl (fun x hx ↦ List.mem_of_mem_eraseIdx hx)
        fun x hx ↦ .inl hx, le_refl _, rfl, fun _ hentry ↦ ⟨hentry, rfl⟩⟩
  | processed now' i =>
      obtain rfl : now' = now := hat
      obtain rfl := Option.some.inj ht
      rw [Rejoin.step] at hrejoin
      split at hrejoin
      · cases hrejoin
      · rename_i n call hrequest
        obtain rfl := Option.some.inj hrejoin
        obtain ⟨hn, hcall⟩ := h.requests _ (List.mem_of_getElem? hrequest)
        cases hok : (call.process py now' s.rejoin.agent.config.canonicalId s.rejoin.resolver).1 with
        | true =>
            have hentry := AgentCall.process_of_ok hcall hok
            refine ⟨now', h.accepted hclock hrequest hentry, hlater, rfl, fun _ hnone ↦ ?_⟩
            obtain ⟨state, hstate, -⟩ := hentry
            cases hstate.symm.trans hnone
        | false =>
            have hresolver := AgentCall.process_of_not_ok hok
            dsimp only
            rw [hresolver]
            refine ⟨mark, h.passed hclock rfl rfl rfl (fun x hx ↦ List.mem_of_mem_eraseIdx hx)
              fun x hx ↦ ?_, le_refl _, rfl, fun _ hentry ↦ ⟨hentry, rfl⟩⟩
            rcases List.mem_append.mp hx with hx | hx
            · exact .inl hx
            · obtain rfl := List.mem_singleton.mp hx
              exact .inr ⟨hn, rfl⟩
  | answered i =>
      obtain rfl := Option.some.inj ht
      rw [Rejoin.step] at hrejoin
      split at hrejoin
      · cases hrejoin
      · rename_i n ok hanswer
        split_ifs at hrejoin with hphase
        obtain rfl := Option.some.inj hrejoin
        have hmem := List.mem_of_getElem? hanswer
        refine ⟨mark, h.concluded hclock hprompt.1 rfl ?_ rfl rfl rfl
          fun x hx ↦ List.mem_of_mem_eraseIdx hx, le_refl _, ?_, ?_⟩
        · rintro rfl
          exact (h.waiting n hphase).2 hmem
        · rw [AgentLoop.concluded]
          split_ifs <;> rfl
        · intro _ hentry
          rw [AgentLoop.concluded] at hentry
          split_ifs at hentry <;> exact ⟨hentry, rfl⟩
  | failed =>
      obtain rfl := Option.some.inj ht
      rw [Rejoin.step] at hrejoin
      split at hrejoin
      · obtain rfl := Option.some.inj hrejoin
        have hmark : false = true → s.wakesAt ≤ mark := fun hfalse ↦ by cases hfalse
        refine ⟨mark, h.concluded hclock hprompt.1 rfl hmark rfl rfl rfl fun x hx ↦ hx, le_refl _,
          rfl, fun _ hentry ↦ ⟨hentry, rfl⟩⟩
      · cases hrejoin
  | expired now' ttlSeconds =>
      obtain rfl : now' = now := hat
      obtain rfl := Option.some.inj ht
      obtain rfl := Option.some.inj hrejoin
      have hwithin := h.held.within hprompt.2.1 hprompt.1
      have hswept := h.swept (hwithin.trans (add_le_add_right hprompt.2.2 _))
      exact ⟨mark, h.passed hclock hswept rfl rfl (fun x hx ↦ hx) fun x hx ↦ .inl hx, le_refl _, rfl,
        fun _ hentry ↦ ⟨hswept.symm.trans hentry, rfl⟩⟩
  | other now' nodeId call =>
      obtain rfl := Option.some.inj ht
      rw [Rejoin.step] at hrejoin
      split_ifs at hrejoin with hid
      obtain rfl := Option.some.inj hrejoin
      have hkept := (@AgentCall.process_frame py s.rejoin.resolver now' nodeId call).2 _ hid
      exact ⟨mark, h.passed hclock hkept rfl rfl (fun x hx ↦ hx) fun x hx ↦ .inl hx, le_refl _, rfl,
        fun _ hentry ↦ ⟨hkept.symm.trans hentry, rfl⟩⟩
  | restarted =>
      obtain rfl := Option.some.inj ht
      obtain rfl := Option.some.inj hrejoin
      exact ⟨now, h.restarted hclock, hlater, rfl, fun hnot ↦ absurd rfl hnot⟩

/-! ## Runs -/

theorem start_kept (now : ℚ) (agent : NodeAgent) (registries : Registries) :
    (start now agent registries).Kept T now where
  held := .start T now
  online := by
    rintro state ⟨⟩
  waiting := nofun
  requests := nofun
  answers := nofun
  backoff := rfl
  beating := nofun

/-- A prompt run keeps the lease, and no step comes long after the last renewal. -/
theorem kept_of_prompt {k : ℕ} {now₀ : ℚ} {agent : NodeAgent} {registries : Registries}
    {ls : List (ℚ × RejoinStep)}
    (hprompt : (loopStep py environ heartbeatSeconds).Along
      (Prompt (terms heartbeatSeconds latency) k) (start now₀ agent registries) ls) :
    (loopStep py environ heartbeatSeconds).Always
      (fun s ↦ ∃ mark, s.Kept (terms heartbeatSeconds latency) mark ∧
        s.clock ≤ mark + (terms heartbeatSeconds latency).silence k)
      (start now₀ agent registries) ls := by
  refine hprompt.always ?_ ⟨now₀, start_kept now₀ agent registries, ?_⟩
  · rintro s ⟨now, l⟩ t ⟨mark, hkept, -⟩ hl hstep
    obtain ⟨mark', hkept', hmark, hclock, -⟩ := hkept.step hl hstep
    have hwithin := hkept.held.within hl.2.1 hl.1
    refine ⟨mark', hkept', ?_⟩
    rw [hclock]
    exact hwithin.trans (add_le_add_left hmark _)
  · have hstart := (Lease.Held.start (terms heartbeatSeconds latency) now₀).within (Nat.zero_le k)
      (le_add_of_nonneg_right (terms heartbeatSeconds latency).latency_nonneg)
    exact hstart

/-- The node stays online.  In every run in which the calls end in time, at most `k` fail in a
row, and the sweeps leave as much time, the control plane never has the node offline; and when
there was no restart for as long, it has an entry for it. -/
theorem node_stays_online (py : Builtins) (environ : Environ) (heartbeatSeconds : ℕ)
    (latency : NNRat) (k : ℕ) (agent : NodeAgent) (registries : Registries) (now₀ : ℚ)
    {pre suf : List (ℚ × RejoinStep)} {r s : AgentLoop}
    (hpre : (loopStep py environ heartbeatSeconds).run (start now₀ agent registries) pre = some r)
    (hsuf : (loopStep py environ heartbeatSeconds).run r suf = some s)
    (hprompt : (loopStep py environ heartbeatSeconds).Along
      (Prompt (terms heartbeatSeconds latency) k) (start now₀ agent registries) (pre ++ suf))
    (hquiet : ∀ l ∈ suf, l.2 ≠ .restarted) :
    (∀ state, s.rejoin.entry = some state → state.health = "online" ∧
      s.clock ≤ state.lastSeen + (terms heartbeatSeconds latency).silence k) ∧
    (r.clock + (terms heartbeatSeconds latency).silence k < s.clock → s.rejoin.entry ≠ none) := by
  obtain ⟨mark, hkept, hclock⟩ :=
    Machine.always_iff.mp (kept_of_prompt hprompt) pre suf rfl r hpre
  -- without an entry the last mark is one from before `suf`
  have hend := (hprompt.of_run hpre).and (along_of_forall hquiet)
  have halways := hend.always
    (Q := fun s ↦ ∃ mark, s.Kept (terms heartbeatSeconds latency) mark ∧
      s.clock ≤ mark + (terms heartbeatSeconds latency).silence k ∧
      (s.rejoin.entry = none → mark ≤ r.clock)) ?_
    ⟨mark, hkept, hclock, fun _ ↦ hkept.held.mark_le⟩
  · obtain ⟨mark', hkept', hclock', hnone⟩ := halways.last hsuf
    refine ⟨fun state hstate ↦ ?_, fun hlate hentry ↦ ?_⟩
    · obtain ⟨hhealth, hseen⟩ := hkept'.online state hstate
      rw [hseen]
      exact ⟨hhealth, hclock'⟩
    · have hmark := hnone hentry
      linarith
  · rintro s ⟨now, l⟩ t ⟨mark, hkept, hclock, hnone⟩ ⟨hl, hquiet⟩ hstep
    obtain ⟨mark', hkept', hmark, hnow, hentry⟩ := hkept.step hl hstep
    have hwithin := hkept.held.within hl.2.1 hl.1
    refine ⟨mark', hkept', ?_, fun hnone' ↦ ?_⟩
    · rw [hnow]
      exact hwithin.trans (add_le_add_left hmark _)
    · obtain ⟨hbefore, rfl⟩ := hentry hquiet hnone'
      exact hnone hbefore

/-- With a heartbeat every thirty seconds, four calls of five seconds may fail in a row. -/
example : (terms 30 5).silence 4 = 90 := by decide +kernel

/-- The node advertises once in vain and once with success, sends a heartbeat, and the table is
swept. -/
def edenRun : List (ℚ × RejoinStep) :=
  [(0, .call []), (1, .failed), (3, .call []), (3, .processed 3 1), (4, .answered 0),
    (34, .call []), (34, .processed 34 1), (35, .answered 0), (36, .expired 36 90)]

theorem eden_stays_online :
    ∃ s state, (loopStep default (fun _ ↦ none) 30).run
        (start 0 Rejoin.edenAgent Rejoin.edenRegistries) edenRun = some s ∧
      s.rejoin.entry = some state ∧ state.health = "online" := by
  have hrun : ((loopStep default (fun _ ↦ none) 30).run
      (start 0 Rejoin.edenAgent Rejoin.edenRegistries) edenRun).map AgentLoop.clock = some 36 := by
    decide +kernel
  have hprompt : (loopStep default (fun _ ↦ none) 30).Along (Prompt (terms 30 1) 1)
      (start 0 Rejoin.edenAgent Rejoin.edenRegistries) ([] ++ edenRun) := by
    decide +kernel
  obtain ⟨s, hs, hclock⟩ := Option.map_eq_some_iff.mp hrun
  have hquiet : ∀ l ∈ edenRun, l.2 ≠ .restarted := by
    simp [edenRun]
  have honline := node_stays_online default (fun _ ↦ none) 30 1 1 Rejoin.edenAgent
    Rejoin.edenRegistries 0 rfl hs hprompt hquiet
  have hlate : (0 : ℚ) + (terms 30 1).silence 1 < s.clock := by
    rw [hclock]
    decide +kernel
  obtain ⟨state, hstate⟩ := Option.ne_none_iff_exists'.mp (honline.2 hlate)
  exact ⟨s, state, hs, hstate, (honline.1 state hstate).1⟩

end AgentLoop

end EstateMesh
