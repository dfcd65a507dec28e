import KubeNova.Topology.RelationSet

/-!
# The Services a route is connected with

`serviceBackends` reads the name and the port of a reference and nothing else, and the name is
looked up in the namespace of the route: what the reference says of a namespace, a kind or a group
is not read.
-/

namespace KubeNova.Topology

open KubeNova.Foundation

variable {locale : Locale} {version : GraphVersion} {rows : List TopologyRow}

structure Refers (route : PersistedResource) (backend : Js) (service : PersistedResource) :
    Prop where
  cluster : service.clusterId = route.clusterId
  kind : service.kind = "Service"
  name : backendName backend = some service.name
  «namespace» : (asString (backend.field "namespace")).or route.namespace = service.namespace
  core : (asString (backend.field "kind")).getD "Service" = "Service" ∧
    asString (backend.field "group") = none

/-- The reference states no namespace but the route's own, and no kind or group but those of a
Service. -/
def IsLocalService (route : PersistedResource) (backend : Js) : Prop :=
  (asString (backend.field "namespace")).or route.namespace = route.namespace ∧
    (asString (backend.field "kind")).getD "Service" = "Service" ∧
    asString (backend.field "group") = none

def routeKinds : List String := ["Ingress", "IngressRoute", "HTTPRoute"]

/-- Every edge from a route leads to a Service its references name, and each reference with that
name means it. -/
def RoutesAsReferred (locale : Locale) (version : GraphVersion) (rows : List TopologyRow) : Prop :=
  ∀ relation ∈ graphRelations locale version rows, relation.type = .routesTo →
    ∀ route ∈ rows, relation.source = resourceId version route → route.row.kind ∈ routeKinds →
      ∃ service ∈ rows, relation.target = resourceId version service ∧
        (∃ backend ∈ backendRefs route.row, Refers route.row backend.1 service.row) ∧
        ∀ backend ∈ backendRefs route.row, backendName backend.1 = some service.row.name →
          Refers route.row backend.1 service.row

def IsRoute (item : TopologyRow) : Prop :=
  item.source = .network ∧ (item.row.kind = "Ingress" ∨ item.row.kind = "IngressRoute") ∨
    item.source = .gateway ∧ item.row.kind = "HTTPRoute"

def NamesLocalServices (rows : List TopologyRow) : Prop :=
  ∀ route ∈ rows, IsRoute route → ∀ service ∈ rows, service.row.kind = "Service" →
    sameNamespace route.row service.row = true →
    ∀ backend ∈ backendRefs route.row, backendName backend.1 = some service.row.name →
      IsLocalService route.row backend.1

/-! ## The requests for routes -/

section Requests

variable {row : PersistedResource} {request : AddRequest}

theorem type_ownerRequests (h : request ∈ ownerRequests rows row) : request.type = .owns := by
  obtain ⟨ref, -, h⟩ := List.mem_flatMap.mp h
  obtain ⟨owner, -, rfl⟩ := List.mem_map.mp h
  rfl

theorem type_workloadRequests (h : request ∈ workloadRequests rows row) :
    request.type ≠ .routesTo := by
  obtain ⟨ref, -, h⟩ := List.mem_flatMap.mp h
  obtain ⟨target, -, rfl⟩ := List.mem_map.mp h
  intro htype
  cases hkind : ref.kind <;> rw [hkind] at htype <;> cases htype

theorem type_selectedPods {selector : Js}
    {ask : List (String × String) → PersistedResource → AddRequest} {type : TopologyRelationType}
    (hask : ∀ selector pod, (ask selector pod).type = type)
    (h : request ∈ selectedPods rows row selector ask) : request.type = type := by
  unfold selectedPods at h
  split at h
  · cases h
  · rename_i selector _
    by_cases hempty : selector.isEmpty = true
    · rw [if_pos hempty] at h
      cases h
    · rw [if_neg hempty] at h
      obtain ⟨pod, -, rfl⟩ := List.mem_map.mp h
      exact hask selector pod

theorem type_serviceRequests (h : request ∈ serviceRequests rows row) :
    request.type = .selects := by
  unfold serviceRequests at h
  dsimp only at h
  split at h
  · cases h
  · exact type_selectedPods (fun _ _ => rfl) h

theorem type_networkPolicyRequests (h : request ∈ networkPolicyRequests rows row) :
    request.type = .governs := type_selectedPods (fun _ _ => rfl) h

theorem type_publishesRequests {name evidence : String}
    (h : request ∈ publishesRequests rows row name evidence) : request.type = .publishes := by
  obtain ⟨service, -, rfl⟩ := List.mem_map.mp h
  rfl

theorem type_resolvesRequests (h : request ∈ resolvesRequests rows row) :
    request.type = .resolves := by
  obtain ⟨target, -, h⟩ := List.mem_flatMap.mp h
  obtain ⟨workload, -, rfl⟩ := List.mem_map.mp h
  rfl

theorem type_endpointSliceRequests (h : request ∈ endpointSliceRequests rows row) :
    request.type ≠ .routesTo := by
  rw [endpointSliceRequests, List.mem_append] at h
  rcases h with h | h
  · split at h
    · rw [type_publishesRequests h]
      decide
    · cases h
  · rw [type_resolvesRequests h]
    decide

theorem type_endpointsRequests (h : request ∈ endpointsRequests rows row) :
    request.type ≠ .routesTo := by
  rw [endpointsRequests, List.mem_append] at h
  rcases h with h | h
  · rw [type_publishesRequests h]
    decide
  · split at h
    · cases h
    · rw [type_resolvesRequests h]
      decide

theorem type_gatewayRequests (h : request ∈ gatewayRequests rows row) :
    request.type = .provisions := by
  unfold gatewayRequests at h
  split at h
  · cases h
  · obtain ⟨gatewayClass, -, rfl⟩ := List.mem_map.mp h
    rfl

theorem type_acceptsRequests (h : request ∈ acceptsRequests rows row) :
    request.type = .accepts := by
  obtain ⟨parent, -, h⟩ := List.mem_flatMap.mp h
  obtain ⟨gateway, -, rfl⟩ := List.mem_map.mp h
  rfl

theorem type_bindsRequests (h : request ∈ bindsRequests rows row) : request.type = .binds := by
  unfold bindsRequests at h
  split at h
  · cases h
  · obtain ⟨pv, -, rfl⟩ := List.mem_map.mp h
    rfl

theorem type_storageClassRequests (h : request ∈ storageClassRequests rows row) :
    request.type = .usesStorageClass := by
  unfold storageClassRequests at h
  split at h
  · cases h
  · rename_i storageClass _
    by_cases hempty : storageClass = ""
    · rw [if_pos hempty] at h
      cases h
    · rw [if_neg hempty] at h
      obtain ⟨item, -, rfl⟩ := List.mem_map.mp h
      rfl

theorem mem_resolveServiceRoutes {item : TopologyRow} (h : request ∈ requestsOf rows item)
    (htype : request.type = .routesTo) :
    ∃ role, request ∈ resolveServiceRoutes rows item.row role ∧
      (item.source = .network ∧ (item.row.kind = "Ingress" ∨ item.row.kind = "IngressRoute") ∨
        item.source = .gateway ∧ isGatewayRoute item.row.kind = true) := by
  have hother : ∀ {type : TopologyRelationType}, request.type = type → type ≠ .routesTo → False :=
    fun heq hne => hne (heq ▸ htype)
  unfold requestsOf at h
  simp only [List.mem_append] at h
  rcases h with (((((((h | h) | h) | h) | h) | h) | h) | h) | h
  · rcases List.mem_append.mp (mem_ite_nil h).2 with h | h
    · exact (hother (type_ownerRequests h) (by decide)).elim
    · exact absurd htype (type_workloadRequests h)
  · exact (hother (type_serviceRequests (mem_ite_nil h).2) (by decide)).elim
  · exact absurd htype (type_endpointSliceRequests (mem_ite_nil h).2)
  · exact absurd htype (type_endpointsRequests (mem_ite_nil h).2)
  · exact (hother (type_networkPolicyRequests (mem_ite_nil h).2) (by decide)).elim
  · obtain ⟨hroute, h⟩ := mem_ite_nil h
    exact ⟨.network, h, .inl hroute⟩
  · exact (hother (type_gatewayRequests (mem_ite_nil h).2) (by decide)).elim
  · obtain ⟨hroute, h⟩ := mem_ite_nil h
    rcases List.mem_append.mp h with h | h
    · exact (hother (type_acceptsRequests h) (by decide)).elim
    · exact ⟨.gateway, h, .inr hroute⟩
  · rcases List.mem_append.mp (mem_ite_nil h).2 with h | h
    · exact (hother (type_bindsRequests h) (by decide)).elim
    · exact (hother (type_storageClassRequests h) (by decide)).elim

theorem mem_serviceBackends {row : PersistedResource} {backend : ServiceBackend} :
    backend ∈ serviceBackends row ↔ ∃ ref ∈ backendRefs row, ∃ name,
      backendName ref.1 = some name ∧
        { name := name, path := ref.2, ports := (backendPort ref.1).toList } = backend := by
  rw [serviceBackends, List.mem_filterMap]
  constructor
  · rintro ⟨ref, href, hbackend⟩
    obtain ⟨name, hname, rfl⟩ := Option.map_eq_some_iff.mp hbackend
    exact ⟨ref, href, name, hname, rfl⟩
  · rintro ⟨ref, href, name, hname, rfl⟩
    refine ⟨ref, href, ?_⟩
    show (backendName ref.1).map _ = _
    rw [hname]
    rfl

/-- What `resolveServiceRoutes` asks for: a Service of the route's namespace, by the name in a
reference. -/
theorem of_mem_resolveServiceRoutes {role : TopologyRelationRole}
    (h : request ∈ resolveServiceRoutes rows row role) :
    request.source = row ∧ request.target.kind = "Service" ∧
      sameNamespace row request.target = true ∧
      ∃ ref ∈ backendRefs row, backendName ref.1 = some request.target.name := by
  obtain ⟨backend, hbackend, h⟩ := List.mem_flatMap.mp h
  obtain ⟨service, hservice, rfl⟩ := List.mem_map.mp h
  obtain ⟨ref, href, name, hname, rfl⟩ := mem_serviceBackends.mp hbackend
  obtain ⟨-, -, -, hkind, hsame⟩ := mem_findByKindAndName hservice
  refine ⟨rfl, hkind, (List.mem_filter.mp hservice).2, ref, href, ?_⟩
  rw [hname]
  exact congrArg some hsame.symm

theorem exists_route_request {role : TopologyRelationRole} {service : PersistedResource}
    (hservice : service ∈ rows.map (·.row)) (hkind : service.kind = "Service")
    (hsame : sameNamespace row service = true) {ref : Js × String} (href : ref ∈ backendRefs row)
    (hname : backendName ref.1 = some service.name) :
    ∃ request ∈ resolveServiceRoutes rows row role,
      request.source = row ∧ request.target = service ∧ request.type = .routesTo := by
  let backend : ServiceBackend :=
    { name := service.name, path := ref.2, ports := (backendPort ref.1).toList }
  have hbackend : backend ∈ serviceBackends row :=
    mem_serviceBackends.mpr ⟨ref, href, service.name, hname, rfl⟩
  have hparts := hsame
  rw [sameNamespace, Bool.and_eq_true, decide_eq_true_iff, decide_eq_true_iff] at hparts
  have hfound : service ∈
      (findByKindAndName rows row "Service" backend.name).filter (sameNamespace row) := by
    refine List.mem_filter.mpr ⟨mem_indexed.mpr ⟨hservice, ?_⟩, hsame⟩
    rw [kindNameKey, hkind, hparts.1, hparts.2]
  exact ⟨_, List.mem_flatMap.mpr ⟨backend, hbackend, List.mem_map_of_mem hfound⟩, rfl, rfl, rfl⟩

end Requests

theorem IsLocalService.refers {route service : PersistedResource} {backend : Js}
    (h : IsLocalService route backend) (hkind : service.kind = "Service")
    (hsame : sameNamespace route service = true)
    (hname : backendName backend = some service.name) : Refers route backend service := by
  rw [sameNamespace, Bool.and_eq_true, decide_eq_true_iff, decide_eq_true_iff] at hsame
  exact ⟨hsame.1.symm, hkind, hname, h.1.trans hsame.2, h.2⟩

theorem routesAsReferred_of_local (h : RecordIds rows) (hlocal : NamesLocalServices rows) :
    RoutesAsReferred locale version rows := by
  intro relation hrelation htype route hroute hsource hkind
  obtain ⟨-, item, hitem, request, hrequest, hconnects, hsame⟩ := exists_request h hrelation
  obtain ⟨source, hs, service, hservice, hsRow, htRow, hsourceId, htarget⟩ := hconnects
  obtain ⟨role, hmem, hdrawn⟩ := mem_resolveServiceRoutes hrequest (hsame.symm.trans htype)
  obtain ⟨hrow, hserviceKind, hnamespace, ref, href, hname⟩ := of_mem_resolveServiceRoutes hmem
  have hitemRoute : item = route := by
    have hsourceRoute := h.item_eq hs hroute (id_eq_of_resourceId (hsourceId.symm.trans hsource))
    apply h.item_eq hitem hroute
    rw [← hsourceRoute, hsRow, hrow]
  subst hitemRoute
  have hisRoute : IsRoute item := by
    rcases hdrawn with hdrawn | ⟨hgateway, hgatewayKind⟩
    · exact .inl hdrawn
    · refine .inr ⟨hgateway, ?_⟩
      simp only [routeKinds, List.mem_cons, List.not_mem_nil, or_false] at hkind
      rcases hkind with hkind | hkind | hkind
      · rw [hkind] at hgatewayKind
        exact absurd hgatewayKind (by decide)
      · rw [hkind] at hgatewayKind
        exact absurd hgatewayKind (by decide)
      · exact hkind
  rw [← htRow] at hserviceKind hnamespace hname
  have hrefers : ∀ backend ∈ backendRefs item.row,
      backendName backend.1 = some service.row.name → Refers item.row backend.1 service.row := by
    intro backend hbackend hbackendName
    have hmeans := hlocal item hitem hisRoute service hservice hserviceKind hnamespace backend
      hbackend hbackendName
    exact hmeans.refers hserviceKind hnamespace hbackendName
  exact ⟨service, hservice, htarget, ⟨ref, href, hrefers ref href hname⟩, hrefers⟩

theorem local_of_routesAsReferred (h : RecordIds rows)
    (hreferred : RoutesAsReferred locale version rows) : NamesLocalServices rows := by
  intro route hroute hisRoute service hservice hkind hsame backend hbackend hname
  have hserviceRow : service.row ∈ rows.map (·.row) := List.mem_map_of_mem hservice
  obtain ⟨request, hrequest, hsource, htarget, htype⟩ : ∃ request ∈ requestsOf rows route,
      request.source = route.row ∧ request.target = service.row ∧ request.type = .routesTo := by
    have hrequests : ∃ role, ∀ request ∈ resolveServiceRoutes rows route.row role,
        request ∈ requestsOf rows route := by
      unfold requestsOf
      rcases hisRoute with hisRoute | ⟨hgateway, hroutekind⟩
      · refine ⟨.network, fun request hmem => ?_⟩
        simp only [List.mem_append]
        rw [if_pos hisRoute]
        exact .inl (.inl (.inl (.inr hmem)))
      · refine ⟨.gateway, fun request hmem => ?_⟩
        have hdrawn : route.source = .gateway ∧ isGatewayRoute route.row.kind = true := by
          rw [hroutekind]
          exact ⟨hgateway, by decide⟩
        simp only [List.mem_append]
        rw [if_pos hdrawn]
        exact .inl (.inr (List.mem_append_right _ hmem))
    obtain ⟨role, hmem⟩ := hrequests
    obtain ⟨request, hrequest, hends⟩ :=
      @exists_route_request _ _ role _ hserviceRow hkind hsame _ hbackend hname
    exact ⟨request, hmem request hrequest, hends⟩
  have hkinds : route.row.kind ∈ routeKinds ∧ route.row.kind ≠ "Service" := by
    rcases hisRoute with ⟨-, hroutekind | hroutekind⟩ | ⟨-, hroutekind⟩ <;>
      (rw [hroutekind]; decide)
  have hne : request.source.id ≠ request.target.id := by
    rw [hsource, htarget]
    intro hid
    have hrow := h.item_eq hroute hservice hid
    exact hkinds.2 (hrow ▸ hkind)
  obtain ⟨relation, hrelation, hconnects, hrelationType⟩ :=
    @exists_relation locale version _ h _ hroute _ hrequest hne
  obtain ⟨source, hs, target, ht, hsRow, htRow, hsourceId, htargetId⟩ := hconnects
  have hsourceRoute : source = route := h.item_eq hs hroute (by rw [hsRow, hsource])
  have htargetService : target = service := h.item_eq ht hservice (by rw [htRow, htarget])
  subst hsourceRoute htargetService
  obtain ⟨service', hservice', htarget', -, hrefers⟩ := hreferred relation hrelation
    (hrelationType.trans htype) source hs hsourceId hkinds.1
  have hsameService : service' = target :=
    h.item_eq hservice' ht (id_eq_of_resourceId (htarget'.symm.trans htargetId))
  subst hsameService
  have hmeans := hrefers backend hbackend hname
  rw [sameNamespace, Bool.and_eq_true, decide_eq_true_iff, decide_eq_true_iff] at hsame
  exact ⟨hmeans.namespace.trans hsame.2.symm, hmeans.core⟩

/-- The edges of the routes are right exactly where no reference that names a Service of the
route's own namespace means something else. -/
theorem routesAsReferred_iff (locale : Locale) (version : GraphVersion) (rows : List TopologyRow)
    (h : RecordIds rows) :
    RoutesAsReferred locale version rows ↔ NamesLocalServices rows :=
  ⟨local_of_routesAsReferred h, routesAsReferred_of_local h⟩

theorem routedRows_iff :
    RoutesAsReferred plainLocale .v2 (routedRows [("name", .string "api")]) ↔
      NamesLocalServices (routedRows [("name", .string "api")]) :=
  routesAsReferred_iff plainLocale .v2 _ (recordIds_routedRows _)

/-- A backend of another namespace is drawn as the Service with its name in the route's own. -/
theorem other_namespace_ignored :
    ¬∀ (locale : Locale) (version : GraphVersion) (rows : List TopologyRow), RecordIds rows →
      RoutesAsReferred locale version rows := by
  intro h
  let backend : List (String × Js) := [("name", .string "api"), ("namespace", .string "billing")]
  have hids := recordIds_routedRows backend
  have hlocal := local_of_routesAsReferred hids (h plainLocale .v2 _ hids)
  have hroute : IsRoute (httpRoute backend) := .inr ⟨rfl, rfl⟩
  have hmeans := hlocal (httpRoute backend) List.mem_cons_self hroute (apiService "s" "app")
    (List.mem_cons_of_mem _ List.mem_cons_self) rfl (by decide)
    (.object backend, "spec.rules[].backendRefs[]") (List.mem_cons_of_mem _ List.mem_cons_self)
    (by decide +kernel)
  have hnamespace : asString ((Js.object backend).field "namespace") = some "billing" := by
    decide +kernel
  have hown := hmeans.1
  rw [hnamespace] at hown
  exact absurd hown (by decide)

end KubeNova.Topology
