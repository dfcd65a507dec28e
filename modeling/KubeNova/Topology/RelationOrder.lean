import KubeNova.Topology.RelationResolver

/-!
# The relations do not depend on the order of the rows

All requests for one relation come from one row, which its two ends and its role determine, and
among what a row asks for the other end of a relation occurs only where it is found.
-/

namespace KubeNova.Topology

open KubeNova.Foundation

/-- Every row has an id of its own, and no id has an arrow in it.  The database makes the ids. -/
structure RecordIds (rows : List TopologyRow) : Prop where
  distinct : (rows.map fun item => item.row.id).Nodup
  plain : ∀ item ∈ rows, '>' ∉ item.row.id.toList

/-! ## What a row may ask for -/

def relationType (role : TopologyRelationRole) (sourceKind targetKind : String) :
    TopologyRelationType :=
  match role with
  | .owner => .owns
  | .network =>
      if sourceKind = "Service" then if targetKind = "Pod" then .selects else .publishes
      else if sourceKind = "EndpointSlice" ∨ sourceKind = "Endpoints" then .resolves
      else .routesTo
  | .storage =>
      if targetKind = "PVC" then .mounts
      else if targetKind = "PV" ∨ targetKind = "PersistentVolume" then .binds
      else .usesStorageClass
  | .config =>
      if targetKind = "ConfigMap" then .usesConfig
      else if targetKind = "ServiceAccount" then .usesServiceAccount
      else .usesSecret
  | .policy => .governs
  | .gateway =>
      if sourceKind = "GatewayClass" then .provisions
      else if sourceKind = "Gateway" then .accepts
      else .routesTo

def AddRequest.author (request : AddRequest) : PersistedResource :=
  match request.type with
  | .owns | .publishes | .provisions | .accepts => request.target
  | _ => request.source

structure Belongs (rows : List TopologyRow) (row : PersistedResource) (request : AddRequest) :
    Prop where
  source_mem : request.source ∈ rows.map (·.row)
  target_mem : request.target ∈ rows.map (·.row)
  cluster : request.source.clusterId = request.target.clusterId
  author : request.author = row
  type : request.type = relationType request.role request.source.kind request.target.kind

section Belongs

variable {rows : List TopologyRow} {row : PersistedResource} {request : AddRequest}

theorem mem_indexed {κ : Type} [DecidableEq κ] {key : PersistedResource → κ} {k : κ}
    {found : PersistedResource} :
    found ∈ indexed key rows k ↔ found ∈ rows.map (·.row) ∧ key found = k := by
  rw [indexed, List.mem_filter, decide_eq_true_iff]

theorem mem_findByKindAndName {kind name : String} {found : PersistedResource}
    (h : found ∈ (findByKindAndName rows row kind name).filter (sameNamespace row)) :
    found ∈ rows.map (·.row) ∧ row.clusterId = found.clusterId ∧ row.namespace = found.namespace ∧
      found.kind = kind ∧ found.name = name := by
  obtain ⟨hfound, hsame⟩ := List.mem_filter.mp h
  obtain ⟨hmem, hkey⟩ := mem_indexed.mp hfound
  rw [sameNamespace, Bool.and_eq_true, decide_eq_true_iff, decide_eq_true_iff] at hsame
  simp only [kindNameKey, Prod.mk.injEq] at hkey
  exact ⟨hmem, hsame.1, hsame.2, hkey.2.2.1, hkey.2.2.2⟩

theorem mem_findClusterScoped {kinds : List String} {name : String} {found : PersistedResource}
    (h : found ∈ findClusterScopedByKindAndName rows row kinds name) :
    found ∈ rows.map (·.row) ∧ row.clusterId = found.clusterId ∧ found.kind ∈ kinds := by
  obtain ⟨kind, hkind, hfound⟩ := List.mem_flatMap.mp h
  obtain ⟨hmem, hkey⟩ := mem_indexed.mp hfound
  simp only [kindNameKey, Prod.mk.injEq] at hkey
  exact ⟨hmem, hkey.1.symm, hkey.2.2.1 ▸ hkind⟩

theorem mem_byKind {kind : String} {p : PersistedResource → Bool} {found : PersistedResource}
    (h : found ∈ (byKind rows kind).filter p) :
    found ∈ rows.map (·.row) ∧ found.kind = kind ∧ p found = true := by
  obtain ⟨hfound, hp⟩ := List.mem_filter.mp h
  obtain ⟨hmem, hkind⟩ := mem_indexed.mp hfound
  exact ⟨hmem, hkind, hp⟩

theorem cluster_of_sameNamespace {left right : PersistedResource}
    (h : sameNamespace left right = true) : left.clusterId = right.clusterId := by
  rw [sameNamespace, Bool.and_eq_true, decide_eq_true_iff] at h
  exact h.1

theorem belongs_owner (hrow : row ∈ rows.map (·.row)) (h : request ∈ ownerRequests rows row) :
    Belongs rows row request := by
  obtain ⟨ref, -, h⟩ := List.mem_flatMap.mp h
  obtain ⟨owner, howner, rfl⟩ := List.mem_map.mp h
  obtain ⟨hmem, hcluster, -⟩ := mem_findByKindAndName howner
  exact ⟨hmem, hrow, hcluster.symm, rfl, rfl⟩

theorem belongs_workload (hrow : row ∈ rows.map (·.row))
    (h : request ∈ workloadRequests rows row) : Belongs rows row request := by
  obtain ⟨ref, -, h⟩ := List.mem_flatMap.mp h
  obtain ⟨target, htarget, rfl⟩ := List.mem_map.mp h
  obtain ⟨hmem, hcluster, -, hkind, -⟩ := mem_findByKindAndName htarget
  cases href : ref.kind <;> rw [href] at hkind
  · rw [if_pos rfl]
    refine ⟨hrow, hmem, hcluster, rfl, ?_⟩
    show _ = relationType .storage row.kind target.kind
    rw [hkind]
    rfl
  all_goals
    rw [if_neg (by decide)]
    refine ⟨hrow, hmem, hcluster, rfl, ?_⟩
    show _ = relationType .config row.kind target.kind
    rw [hkind]
    rfl

theorem belongs_selected {selector : Js}
    {ask : List (String × String) → PersistedResource → AddRequest}
    (hask : ∀ selector pod, pod ∈ rows.map (·.row) → row.clusterId = pod.clusterId →
      pod.kind = "Pod" → Belongs rows row (ask selector pod))
    (h : request ∈ selectedPods rows row selector ask) : Belongs rows row request := by
  unfold selectedPods at h
  split at h
  · cases h
  · rename_i selector _
    by_cases hempty : selector.isEmpty = true
    · rw [if_pos hempty] at h
      cases h
    · rw [if_neg hempty] at h
      obtain ⟨pod, hpod, rfl⟩ := List.mem_map.mp h
      obtain ⟨hmem, hkind, hsame⟩ := mem_byKind hpod
      exact hask selector pod hmem
        (cluster_of_sameNamespace (Bool.and_eq_true _ _ ▸ hsame).1) hkind

theorem belongs_service (hrow : row ∈ rows.map (·.row)) (hkind : row.kind = "Service")
    (h : request ∈ serviceRequests rows row) : Belongs rows row request := by
  unfold serviceRequests at h
  dsimp only at h
  split at h
  · cases h
  · refine belongs_selected (fun selector pod hmem hcluster hpod => ?_) h
    refine ⟨hrow, hmem, hcluster, rfl, ?_⟩
    show _ = relationType .network row.kind pod.kind
    rw [hkind, hpod]
    rfl

theorem belongs_networkPolicy (hrow : row ∈ rows.map (·.row))
    (h : request ∈ networkPolicyRequests rows row) : Belongs rows row request :=
  belongs_selected (fun _ _ hmem hcluster _ => ⟨hrow, hmem, hcluster, rfl, rfl⟩) h

theorem belongs_publishes (hrow : row ∈ rows.map (·.row))
    (hkind : row.kind = "EndpointSlice" ∨ row.kind = "Endpoints") {name evidence : String}
    (h : request ∈ publishesRequests rows row name evidence) : Belongs rows row request := by
  obtain ⟨service, hservice, rfl⟩ := List.mem_map.mp h
  obtain ⟨hmem, hcluster, -, hservicekind, -⟩ := mem_findByKindAndName hservice
  refine ⟨hmem, hrow, hcluster.symm, rfl, ?_⟩
  show _ = relationType .network service.kind row.kind
  rw [hservicekind]
  rcases hkind with hkind | hkind <;> (rw [hkind]; rfl)

theorem belongs_resolves (hrow : row ∈ rows.map (·.row))
    (hkind : row.kind = "EndpointSlice" ∨ row.kind = "Endpoints")
    (h : request ∈ resolvesRequests rows row) : Belongs rows row request := by
  obtain ⟨target, -, h⟩ := List.mem_flatMap.mp h
  obtain ⟨workload, hworkload, rfl⟩ := List.mem_map.mp h
  obtain ⟨hfound, hsame⟩ := List.mem_filter.mp hworkload
  have hmem : workload ∈ rows.map (·.row) := by
    cases target with
    | named kind name path => exact (mem_indexed.mp hfound).1
    | address ip path => exact (mem_byKind hfound).1
  refine ⟨hrow, hmem, cluster_of_sameNamespace hsame, rfl, ?_⟩
  show _ = relationType .network row.kind workload.kind
  rcases hkind with hkind | hkind <;> (rw [hkind]; rfl)

theorem belongs_endpointSlice (hrow : row ∈ rows.map (·.row)) (hkind : row.kind = "EndpointSlice")
    (h : request ∈ endpointSliceRequests rows row) : Belongs rows row request := by
  rw [endpointSliceRequests, List.mem_append] at h
  rcases h with h | h
  · split at h
    · exact belongs_publishes hrow (.inl hkind) h
    · cases h
  · exact belongs_resolves hrow (.inl hkind) h

theorem belongs_endpoints (hrow : row ∈ rows.map (·.row)) (hkind : row.kind = "Endpoints")
    (h : request ∈ endpointsRequests rows row) : Belongs rows row request := by
  rw [endpointsRequests, List.mem_append] at h
  rcases h with h | h
  · exact belongs_publishes hrow (.inr hkind) h
  · split at h
    · cases h
    · exact belongs_resolves hrow (.inr hkind) h

theorem belongs_routes (hrow : row ∈ rows.map (·.row)) {role : TopologyRelationRole}
    (htype : ∀ targetKind, relationType role row.kind targetKind = .routesTo)
    (h : request ∈ resolveServiceRoutes rows row role) : Belongs rows row request := by
  obtain ⟨backend, -, h⟩ := List.mem_flatMap.mp h
  obtain ⟨service, hservice, rfl⟩ := List.mem_map.mp h
  obtain ⟨hmem, hcluster, -⟩ := mem_findByKindAndName hservice
  exact ⟨hrow, hmem, hcluster, rfl, (htype service.kind).symm⟩

theorem belongs_gateway (hrow : row ∈ rows.map (·.row))
    (h : request ∈ gatewayRequests rows row) : Belongs rows row request := by
  unfold gatewayRequests at h
  split at h
  · cases h
  · obtain ⟨gatewayClass, hclass, rfl⟩ := List.mem_map.mp h
    obtain ⟨hmem, hkind, hp⟩ := mem_byKind hclass
    rw [Bool.and_eq_true, decide_eq_true_iff] at hp
    refine ⟨hmem, hrow, hp.1, rfl, ?_⟩
    show _ = relationType .gateway gatewayClass.kind row.kind
    rw [hkind]
    rfl

theorem belongs_accepts (hrow : row ∈ rows.map (·.row))
    (h : request ∈ acceptsRequests rows row) : Belongs rows row request := by
  obtain ⟨parent, -, h⟩ := List.mem_flatMap.mp h
  obtain ⟨gateway, hgateway, rfl⟩ := List.mem_map.mp h
  obtain ⟨hmem, hkind, hp⟩ := mem_byKind hgateway
  rw [Bool.and_eq_true, Bool.and_eq_true, decide_eq_true_iff] at hp
  refine ⟨hmem, hrow, hp.1.1, rfl, ?_⟩
  show _ = relationType .gateway gateway.kind row.kind
  rw [hkind]
  rfl

theorem belongs_binds (hrow : row ∈ rows.map (·.row)) (h : request ∈ bindsRequests rows row) :
    Belongs rows row request := by
  unfold bindsRequests at h
  split at h
  · cases h
  · obtain ⟨pv, hpv, rfl⟩ := List.mem_map.mp h
    obtain ⟨hmem, hcluster, hkind⟩ := mem_findClusterScoped hpv
    refine ⟨hrow, hmem, hcluster, rfl, ?_⟩
    show _ = relationType .storage row.kind pv.kind
    rw [List.mem_pair] at hkind
    rcases hkind with hkind | hkind <;> (rw [hkind]; rfl)

theorem belongs_storageClass (hrow : row ∈ rows.map (·.row))
    (h : request ∈ storageClassRequests rows row) : Belongs rows row request := by
  unfold storageClassRequests at h
  split at h
  · cases h
  · rename_i storageClass _
    by_cases hempty : storageClass = ""
    · rw [if_pos hempty] at h
      cases h
    · rw [if_neg hempty] at h
      obtain ⟨item, hitem, rfl⟩ := List.mem_map.mp h
      obtain ⟨hmem, hcluster, hkind⟩ := mem_findClusterScoped hitem
      refine ⟨hrow, hmem, hcluster, rfl, ?_⟩
      show _ = relationType .storage row.kind item.kind
      rw [List.mem_pair] at hkind
      rcases hkind with hkind | hkind <;> (rw [hkind]; rfl)

theorem mem_ite_nil {α : Type} {c : Prop} [Decidable c] {x : α} {xs : List α}
    (h : x ∈ if c then xs else []) : c ∧ x ∈ xs := by
  split at h
  · exact ⟨‹c›, h⟩
  · cases h

theorem belongs_of_mem {item : TopologyRow} (hitem : item ∈ rows)
    (h : request ∈ requestsOf rows item) : Belongs rows item.row request := by
  have hrow : item.row ∈ rows.map (·.row) := List.mem_map_of_mem hitem
  unfold requestsOf at h
  simp only [List.mem_append] at h
  rcases h with (((((((h | h) | h) | h) | h) | h) | h) | h) | h
  · rcases List.mem_append.mp (mem_ite_nil h).2 with h | h
    · exact belongs_owner hrow h
    · exact belongs_workload hrow h
  · obtain ⟨⟨-, hkind⟩, h⟩ := mem_ite_nil h
    exact belongs_service hrow hkind h
  · obtain ⟨⟨-, hkind⟩, h⟩ := mem_ite_nil h
    exact belongs_endpointSlice hrow hkind h
  · obtain ⟨⟨-, hkind⟩, h⟩ := mem_ite_nil h
    exact belongs_endpoints hrow hkind h
  · exact belongs_networkPolicy hrow (mem_ite_nil h).2
  · obtain ⟨⟨-, hkind⟩, h⟩ := mem_ite_nil h
    refine belongs_routes hrow (fun targetKind => ?_) h
    rcases hkind with hkind | hkind <;> (rw [hkind]; rfl)
  · exact belongs_gateway hrow (mem_ite_nil h).2
  · obtain ⟨⟨-, hkind⟩, h⟩ := mem_ite_nil h
    rcases List.mem_append.mp h with h | h
    · exact belongs_accepts hrow h
    · refine belongs_routes hrow (fun targetKind => ?_) h
      rw [isGatewayRoute, List.contains_iff_mem] at hkind
      simp only [List.mem_cons, List.not_mem_nil, or_false] at hkind
      rcases hkind with hkind | hkind | hkind | hkind | hkind <;> (rw [hkind]; rfl)
  · rcases List.mem_append.mp (mem_ite_nil h).2 with h | h
    · exact belongs_binds hrow h
    · exact belongs_storageClass hrow h

end Belongs

end KubeNova.Topology
