import KubeNova.Topology.NewestReplicaSet
import KubeNova.Topology.RelationOrder

/-!
# The set of relations

Ids are told apart by the role and the two rows, so a relation is made of the requests of one row
and does not depend on the order in which the rows are read.
-/

namespace KubeNova.Topology

open KubeNova.Foundation

variable {locale : Locale} {version : GraphVersion} {rows rows' : List TopologyRow}

/-! ## Resources -/

theorem RecordIds.item_eq (h : RecordIds rows) {item other : TopologyRow} (hitem : item ∈ rows)
    (hother : other ∈ rows) (hid : item.row.id = other.row.id) : item = other :=
  List.inj_on_of_nodup_map h.distinct hitem hother hid

theorem RecordIds.nodup (h : RecordIds rows) : rows.Nodup := h.distinct.of_map _

theorem colon_notMem_text (source : TopologySource) : ':' ∉ source.text.toList := by
  cases source <;> decide

theorem arrow_notMem_text (source : TopologySource) : '>' ∉ source.text.toList := by
  cases source <;> decide

theorem toList_resourceId (item : TopologyRow) : (resourceId version item).toList =
    (resourceSource version item.source).text.toList ++ ':' :: item.row.id.toList := by
  rw [resourceId, String.toList_append, String.toList_append, List.append_assoc]
  rfl

theorem id_eq_of_resourceId {item other : TopologyRow}
    (h : resourceId version item = resourceId version other) : item.row.id = other.row.id := by
  have hchars := congrArg String.toList h
  rw [toList_resourceId, toList_resourceId] at hchars
  obtain ⟨-, hid⟩ := split_eq_of_notMem (colon_notMem_text _) (colon_notMem_text _) hchars
  exact String.toList_inj.mp hid

theorem arrow_notMem_resourceId (h : RecordIds rows) {item : TopologyRow} (hitem : item ∈ rows) :
    '>' ∉ (resourceId version item).toList := by
  rw [toList_resourceId, List.mem_append, List.mem_cons]
  rintro (htext | heq | hid)
  · exact arrow_notMem_text _ htext
  · exact absurd heq (by decide)
  · exact h.plain item hitem hid

theorem mem_project {resource : GraphResource} : resource ∈ project locale version rows ↔
    ∃ item ∈ rows, { id := resourceId version item, recordId := item.row.id } = resource := by
  rw [project, List.mem_insertionSort, List.mem_map]

theorem resourceOf_project (h : RecordIds rows) {item : TopologyRow} (hitem : item ∈ rows) :
    resourceOf (project locale version rows) item.row.id =
      some { id := resourceId version item, recordId := item.row.id } := by
  rw [resourceOf]
  cases hfound : (project locale version rows).reverse.find? fun resource =>
      resource.recordId = item.row.id with
  | none =>
      rw [List.find?_eq_none] at hfound
      have hmem := (@mem_project locale version _ _).mpr ⟨item, hitem, rfl⟩
      exact absurd (decide_eq_true rfl) (hfound _ (List.mem_reverse.mpr hmem))
  | some resource =>
      have hrecord : resource.recordId = item.row.id := by
        simpa only [decide_eq_true_eq] using List.find?_some hfound
      obtain ⟨other, hother, rfl⟩ :=
        mem_project.mp (List.mem_reverse.mp (List.mem_of_find?_eq_some hfound))
      rw [h.item_eq hother hitem hrecord]

theorem resourceOf_perm (h : RecordIds rows) (hperm : rows.Perm rows') :
    resourceOf (project locale version rows) = resourceOf (project locale version rows') := by
  funext recordId
  have hsorted : (project locale version rows).Perm (project locale version rows') :=
    calc project locale version rows
      List.Perm _ _ := List.perm_insertionSort _ _
      List.Perm _ _ := hperm.map _
      List.Perm _ _ := (List.perm_insertionSort _ _).symm
  apply find?_eq_of_perm
  · exact (List.reverse_perm _).trans (hsorted.trans (List.reverse_perm _).symm)
  · rw [List.nodup_reverse, project, (List.perm_insertionSort _ _).nodup_iff]
    apply List.Nodup.of_map GraphResource.recordId
    rw [List.map_map]
    exact h.distinct
  · intro a ha b hb hrecord hrecord'
    obtain ⟨item, hitem, rfl⟩ := mem_project.mp (List.mem_reverse.mp ha)
    obtain ⟨other, hother, rfl⟩ := mem_project.mp (List.mem_reverse.mp hb)
    have hid : item.row.id = other.row.id :=
      (of_decide_eq_true hrecord).trans (of_decide_eq_true hrecord').symm
    rw [h.item_eq hitem hother hid]

def Within (rows : List TopologyRow) (request : AddRequest) : Prop :=
  request.source ∈ rows.map (·.row) ∧ request.target ∈ rows.map (·.row)

theorem of_locate (h : RecordIds rows) {request : AddRequest} (hrequest : Within rows request)
    {located : LocatedRequest}
    (hlocated : locate (project locale version rows) request = some located) :
    ∃ source ∈ rows, ∃ target ∈ rows, source.row = request.source ∧ target.row = request.target ∧
      resourceId version source ≠ resourceId version target ∧
      located = { request with
        sourceId := resourceId version source, targetId := resourceId version target } := by
  obtain ⟨source, hsource, hsourceRow⟩ := List.mem_map.mp hrequest.1
  obtain ⟨target, htarget, htargetRow⟩ := List.mem_map.mp hrequest.2
  refine ⟨source, hsource, target, htarget, hsourceRow, htargetRow, ?_⟩
  rw [locate, ← hsourceRow, ← htargetRow, resourceOf_project h hsource,
    resourceOf_project h htarget] at hlocated
  simp only [Option.bind_eq_bind, Option.bind_some] at hlocated
  by_cases hsame : resourceId version source = resourceId version target
  · rw [if_pos hsame] at hlocated
    cases hlocated
  · rw [if_neg hsame, Option.some_inj] at hlocated
    exact ⟨hsame, hlocated.symm⟩

theorem locate_of_ne (h : RecordIds rows) {request : AddRequest} (hrequest : Within rows request)
    (hne : request.source.id ≠ request.target.id) :
    ∃ located, locate (project locale version rows) request = some located := by
  obtain ⟨source, hsource, hsourceRow⟩ := List.mem_map.mp hrequest.1
  obtain ⟨target, htarget, htargetRow⟩ := List.mem_map.mp hrequest.2
  rw [← hsourceRow, ← htargetRow] at hne
  rw [locate, ← hsourceRow, ← htargetRow, resourceOf_project h hsource,
    resourceOf_project h htarget]
  simp only [Option.bind_eq_bind, Option.bind_some]
  rw [if_neg (mt id_eq_of_resourceId hne)]
  exact ⟨_, rfl⟩

theorem colon_notMem_role (role : TopologyRelationRole) : ':' ∉ role.text.toList := by
  cases role <;> decide

theorem arrow_notMem_role (role : TopologyRelationRole) : '>' ∉ role.text.toList := by
  cases role <;> decide

theorem role_text_injective {a b : TopologyRelationRole} (h : a.text = b.text) : a = b := by
  cases a <;> cases b <;> first | rfl | exact absurd h (by decide)

theorem toList_relationId (request : LocatedRequest) : request.id.toList =
    (request.role.text.toList ++ ':' :: (request.sourceId.toList ++ ['-'])) ++
      '>' :: request.targetId.toList := by
  rw [LocatedRequest.id]
  simp only [String.toList_append, List.append_assoc, List.cons_append, List.nil_append]
  rfl

theorem eq_of_relationId {a b : LocatedRequest} (h : a.id = b.id) (ha : '>' ∉ a.sourceId.toList)
    (hb : '>' ∉ b.sourceId.toList) :
    a.role = b.role ∧ a.sourceId = b.sourceId ∧ a.targetId = b.targetId := by
  have hfree : ∀ {request : LocatedRequest}, '>' ∉ request.sourceId.toList →
      '>' ∉ request.role.text.toList ++ ':' :: (request.sourceId.toList ++ ['-']) := by
    intro request hsource
    simp only [List.mem_append, List.mem_cons, List.not_mem_nil, or_false]
    rintro (hrole | heq | hmem | heq)
    · exact arrow_notMem_role _ hrole
    · exact absurd heq (by decide)
    · exact hsource hmem
    · exact absurd heq (by decide)
  have hchars := congrArg String.toList h
  rw [toList_relationId, toList_relationId] at hchars
  obtain ⟨hleft, htarget⟩ := split_eq_of_notMem (hfree ha) (hfree hb) hchars
  obtain ⟨hrole, hsource⟩ :=
    split_eq_of_notMem (colon_notMem_role _) (colon_notMem_role _) hleft
  refine ⟨role_text_injective (String.toList_inj.mp hrole), ?_, String.toList_inj.mp htarget⟩
  exact String.toList_inj.mp (List.append_left_injective ['-'] hsource)

theorem ends_eq_of_relationId (h : RecordIds rows) {a b : AddRequest} (ha : Within rows a)
    (hb : Within rows b) {la lb : LocatedRequest}
    (hla : locate (project locale version rows) a = some la)
    (hlb : locate (project locale version rows) b = some lb) (hid : la.id = lb.id) :
    a.role = b.role ∧ a.source = b.source ∧ a.target = b.target := by
  obtain ⟨s, hs, t, ht, hsRow, htRow, -, rfl⟩ := of_locate h ha hla
  obtain ⟨s', hs', t', ht', hsRow', htRow', -, rfl⟩ := of_locate h hb hlb
  obtain ⟨hrole, hsource, htarget⟩ :=
    eq_of_relationId hid (arrow_notMem_resourceId h hs) (arrow_notMem_resourceId h hs')
  have hssame := h.item_eq hs hs' (id_eq_of_resourceId hsource)
  have htsame := h.item_eq ht ht' (id_eq_of_resourceId htarget)
  exact ⟨hrole, by rw [← hsRow, ← hsRow', hssame], by rw [← htRow, ← htRow', htsame]⟩

/-! ## The order of the rows -/

def asksFor (resources : List GraphResource) (id : String) (request : AddRequest) : Bool :=
  (locate resources request).any fun located => located.id = id

theorem exists_of_asksFor {resources : List GraphResource} {id : String} {request : AddRequest}
    (h : asksFor resources id request = true) :
    ∃ located, locate resources request = some located ∧ located.id = id := by
  rw [asksFor, Option.any_eq_true] at h
  obtain ⟨located, hlocated, hid⟩ := h
  exact ⟨located, hlocated, of_decide_eq_true hid⟩

def OrderFree (resources : List GraphResource) (rows rows' : List TopologyRow)
    (requests : List TopologyRow → List AddRequest) : Prop :=
  ∀ id, (requests rows).filter (asksFor resources id) =
    (requests rows').filter (asksFor resources id)

section OrderFree

variable {resources : List GraphResource} {f g : List TopologyRow → List AddRequest}

theorem OrderFree.append (hf : OrderFree resources rows rows' f)
    (hg : OrderFree resources rows rows' g) :
    OrderFree resources rows rows' fun rows => f rows ++ g rows := by
  intro id
  rw [List.filter_append, List.filter_append, hf id, hg id]

theorem OrderFree.flatMap {α : Type} (xs : List α) {f : α → List TopologyRow → List AddRequest}
    (hf : ∀ x, OrderFree resources rows rows' (f x)) :
    OrderFree resources rows rows' fun rows => xs.flatMap fun x => f x rows := by
  intro id
  rw [List.filter_flatMap, List.filter_flatMap]
  apply List.flatMap_congr
  intro x _
  exact hf x id

theorem OrderFree.ite {c : List TopologyRow → Prop} [DecidablePred c] (hc : c rows ↔ c rows')
    (hf : OrderFree resources rows rows' f) (hg : OrderFree resources rows rows' g) :
    OrderFree resources rows rows' fun rows => if c rows then f rows else g rows := by
  intro id
  show (if c rows then f rows else g rows).filter _ = (if c rows' then f rows' else g rows').filter _
  by_cases h : c rows
  · rw [if_pos h, if_pos (hc.mp h)]
    exact hf id
  · rw [if_neg h, if_neg (mt hc.mpr h)]
    exact hg id

theorem OrderFree.nil : OrderFree resources rows rows' fun _ => [] := fun _ => rfl

end OrderFree

def Picked (found : List TopologyRow → List PersistedResource) : Prop :=
  ∃ p : PersistedResource → Bool, ∀ rows, found rows = (rows.map (·.row)).filter p

theorem picked_indexed {κ : Type} [DecidableEq κ] (key : PersistedResource → κ) (k : κ) :
    Picked fun rows => indexed key rows k := ⟨_, fun _ => rfl⟩

theorem Picked.filter {found : List TopologyRow → List PersistedResource} (h : Picked found)
    (q : PersistedResource → Bool) : Picked fun rows => (found rows).filter q := by
  obtain ⟨p, hp⟩ := h
  refine ⟨fun a => p a && q a, fun rows => ?_⟩
  show (found rows).filter q = _
  rw [hp, List.filter_filter]
  apply List.filter_congr
  intro a _
  rw [Bool.and_comm]

section Row

variable (h : RecordIds rows) (hperm : rows.Perm rows') {row : PersistedResource}
  (hrow : row ∈ rows.map (·.row))

include h hperm hrow

theorem orderFree_picked {found : List TopologyRow → List PersistedResource}
    (hfound : Picked found) (ask : PersistedResource → AddRequest)
    (hask : (∀ other, (ask other).source = other ∧ (ask other).target = row) ∨
      ∀ other, (ask other).source = row ∧ (ask other).target = other) :
    OrderFree (project locale version rows) rows rows' fun rows => (found rows).map ask := by
  intro id
  obtain ⟨p, hp⟩ := hfound
  have hwithin : ∀ other ∈ rows.map (·.row), Within rows (ask other) := by
    intro other hother
    rcases hask with hask | hask
    · rw [Within, (hask other).1, (hask other).2]
      exact ⟨hother, hrow⟩
    · rw [Within, (hask other).1, (hask other).2]
      exact ⟨hrow, hother⟩
  have hone : ∀ a ∈ rows.map (·.row), ∀ b ∈ rows.map (·.row),
      (asksFor (project locale version rows) id (ask a) && p a) = true →
      (asksFor (project locale version rows) id (ask b) && p b) = true → a = b := by
    intro a ha b hb hasksA hasksB
    rw [Bool.and_eq_true] at hasksA hasksB
    obtain ⟨la, hla, hidA⟩ := exists_of_asksFor hasksA.1
    obtain ⟨lb, hlb, hidB⟩ := exists_of_asksFor hasksB.1
    obtain ⟨-, hsource, htarget⟩ := ends_eq_of_relationId h (hwithin a ha) (hwithin b hb) hla hlb
      (hidA.trans hidB.symm)
    rcases hask with hask | hask
    · rw [← (hask a).1, ← (hask b).1, hsource]
    · rw [← (hask a).2, ← (hask b).2, htarget]
  have hnodup : (rows.map (·.row)).Nodup := by
    apply List.Nodup.of_map PersistedResource.id
    rw [List.map_map]
    exact h.distinct
  show ((found rows).map ask).filter _ = ((found rows').map ask).filter _
  rw [hp, hp, List.filter_map (f := ask), List.filter_map (f := ask), List.filter_filter,
    List.filter_filter]
  exact congrArg (List.map ask) (filter_eq_of_perm (hperm.map _) hnodup hone)

theorem orderFree_byKindAndName (kind name : String) (ask : PersistedResource → AddRequest)
    (hask : (∀ other, (ask other).source = other ∧ (ask other).target = row) ∨
      ∀ other, (ask other).source = row ∧ (ask other).target = other) :
    OrderFree (project locale version rows) rows rows' fun rows =>
      ((findByKindAndName rows row kind name).filter (sameNamespace row)).map ask :=
  orderFree_picked h hperm hrow ((picked_indexed _ _).filter _) ask hask

theorem orderFree_clusterScoped (kinds : List String) (name : String)
    (ask : PersistedResource → AddRequest)
    (hask : ∀ other, (ask other).source = row ∧ (ask other).target = other) :
    OrderFree (project locale version rows) rows rows' fun rows =>
      (findClusterScopedByKindAndName rows row kinds name).map ask := by
  simp only [findClusterScopedByKindAndName, List.map_flatMap]
  apply OrderFree.flatMap
  intro kind
  exact orderFree_picked h hperm hrow (picked_indexed _ _) ask (.inr hask)

theorem orderFree_workload : OrderFree (project locale version rows) rows rows' fun rows =>
    workloadRequests rows row := by
  apply OrderFree.flatMap
  intro ref
  apply orderFree_byKindAndName h hperm hrow
  right
  intro other
  by_cases hkind : ref.kind = .persistentVolumeClaim
  · rw [if_pos hkind]
    exact ⟨rfl, rfl⟩
  · rw [if_neg hkind]
    exact ⟨rfl, rfl⟩

theorem orderFree_selected (selector : Js)
    (ask : List (String × String) → PersistedResource → AddRequest)
    (hask : ∀ selector other, (ask selector other).source = row ∧
      (ask selector other).target = other) :
    OrderFree (project locale version rows) rows rows' fun rows =>
      selectedPods rows row selector ask := by
  unfold selectedPods
  cases asStringRecord selector with
  | none => exact OrderFree.nil
  | some selector =>
      dsimp only
      apply OrderFree.ite
      · exact Iff.rfl
      · exact OrderFree.nil
      · exact orderFree_picked h hperm hrow ((picked_indexed _ _).filter _) _
          (.inr (hask selector))

omit h hrow in
theorem contains_endpointSliceServices (key : WorkloadKey) :
    (endpointSliceServices rows).contains key = (endpointSliceServices rows').contains key := by
  have hsame : (endpointSliceServices rows).Perm (endpointSliceServices rows') :=
    (hperm.filter _).filterMap _
  rw [Bool.eq_iff_iff, List.contains_iff_mem, List.contains_iff_mem, hsame.mem_iff]

omit h hrow in
theorem contains_endpointServices (key : WorkloadKey) :
    (endpointServices rows).contains key = (endpointServices rows').contains key := by
  have hsame : (endpointServices rows).Perm (endpointServices rows') := (hperm.filter _).map _
  rw [Bool.eq_iff_iff, List.contains_iff_mem, List.contains_iff_mem, hsame.mem_iff]

theorem orderFree_service : OrderFree (project locale version rows) rows rows' fun rows =>
    serviceRequests rows row := by
  apply OrderFree.ite
  · rw [contains_endpointSliceServices hperm, contains_endpointServices hperm]
  · exact OrderFree.nil
  · exact orderFree_selected h hperm hrow _ _ fun _ _ => ⟨rfl, rfl⟩

theorem orderFree_resolves : OrderFree (project locale version rows) rows rows' fun rows =>
    resolvesRequests rows row := by
  apply OrderFree.flatMap
  intro target
  have hpicked : Picked fun rows => endpointWorkloads rows row target := by
    cases target with
    | named kind name path => exact picked_indexed _ _
    | address ip path => exact (picked_indexed _ _).filter _
  exact orderFree_picked h hperm hrow (hpicked.filter _) _ (.inr fun _ => ⟨rfl, rfl⟩)

theorem orderFree_publishes (name evidence : String) :
    OrderFree (project locale version rows) rows rows' fun rows =>
      publishesRequests rows row name evidence :=
  orderFree_byKindAndName h hperm hrow _ _ _ (.inl fun _ => ⟨rfl, rfl⟩)

theorem orderFree_endpointSlice : OrderFree (project locale version rows) rows rows' fun rows =>
    endpointSliceRequests rows row := by
  apply OrderFree.append
  · cases serviceNameOf row with
    | none => exact OrderFree.nil
    | some name => exact orderFree_publishes h hperm hrow name _
  · exact orderFree_resolves h hperm hrow

theorem orderFree_endpoints : OrderFree (project locale version rows) rows rows' fun rows =>
    endpointsRequests rows row := by
  apply OrderFree.append
  · exact orderFree_publishes h hperm hrow _ _
  · apply OrderFree.ite
    · rw [contains_endpointSliceServices hperm]
    · exact OrderFree.nil
    · exact orderFree_resolves h hperm hrow

theorem orderFree_routes (role : TopologyRelationRole) :
    OrderFree (project locale version rows) rows rows' fun rows =>
      resolveServiceRoutes rows row role := by
  apply OrderFree.flatMap
  intro backend
  exact orderFree_byKindAndName h hperm hrow _ _ _ (.inr fun _ => ⟨rfl, rfl⟩)

theorem orderFree_gateway : OrderFree (project locale version rows) rows rows' fun rows =>
    gatewayRequests rows row := by
  unfold gatewayRequests
  cases asString (row.spec.field "gatewayClassName") with
  | none => exact OrderFree.nil
  | some name =>
      exact orderFree_picked h hperm hrow ((picked_indexed _ _).filter _) _
        (.inl fun _ => ⟨rfl, rfl⟩)

theorem orderFree_accepts : OrderFree (project locale version rows) rows rows' fun rows =>
    acceptsRequests rows row := by
  apply OrderFree.flatMap
  intro parent
  exact orderFree_picked h hperm hrow ((picked_indexed _ _).filter _) _ (.inl fun _ => ⟨rfl, rfl⟩)

theorem orderFree_binds : OrderFree (project locale version rows) rows rows' fun rows =>
    bindsRequests rows row := by
  unfold bindsRequests
  cases asString (row.spec.field "volumeName") with
  | none => exact OrderFree.nil
  | some name => exact orderFree_clusterScoped h hperm hrow _ _ _ fun _ => ⟨rfl, rfl⟩

theorem orderFree_storageClass : OrderFree (project locale version rows) rows rows' fun rows =>
    storageClassRequests rows row := by
  unfold storageClassRequests
  cases (asString (row.spec.field "storageClassName")).or row.storageClass with
  | none => exact OrderFree.nil
  | some name =>
      dsimp only
      apply OrderFree.ite
      · exact Iff.rfl
      · exact OrderFree.nil
      · exact orderFree_clusterScoped h hperm hrow _ _ _ fun _ => ⟨rfl, rfl⟩

theorem orderFree_owner : OrderFree (project locale version rows) rows rows' fun rows =>
    ownerRequests rows row := by
  apply OrderFree.flatMap
  intro ref
  exact orderFree_byKindAndName h hperm hrow _ _ _ (.inl fun _ => ⟨rfl, rfl⟩)

theorem orderFree_networkPolicy :
    OrderFree (project locale version rows) rows rows' fun rows =>
      networkPolicyRequests rows row :=
  orderFree_selected h hperm hrow _ _ fun _ _ => ⟨rfl, rfl⟩

end Row

theorem orderFree_requestsOf (h : RecordIds rows) (hperm : rows.Perm rows') {item : TopologyRow}
    (hitem : item ∈ rows) : OrderFree (project locale version rows) rows rows' fun rows =>
      requestsOf rows item := by
  have hrow : item.row ∈ rows.map (·.row) := List.mem_map_of_mem hitem
  have hwhen : ∀ (c : Prop) [Decidable c] {f : List TopologyRow → List AddRequest},
      OrderFree (project locale version rows) rows rows' f →
      OrderFree (project locale version rows) rows rows' fun rows => if c then f rows else [] :=
    fun c _ f hf => OrderFree.ite (c := fun _ => c) Iff.rfl hf OrderFree.nil
  unfold requestsOf
  repeat' apply OrderFree.append
  · exact hwhen _ ((orderFree_owner h hperm hrow).append (orderFree_workload h hperm hrow))
  · exact hwhen _ (orderFree_service h hperm hrow)
  · exact hwhen _ (orderFree_endpointSlice h hperm hrow)
  · exact hwhen _ (orderFree_endpoints h hperm hrow)
  · exact hwhen _ (orderFree_networkPolicy h hperm hrow)
  · exact hwhen _ (orderFree_routes h hperm hrow .network)
  · exact hwhen _ (orderFree_gateway h hperm hrow)
  · exact hwhen _ ((orderFree_accepts h hperm hrow).append (orderFree_routes h hperm hrow .gateway))
  · exact hwhen _ ((orderFree_binds h hperm hrow).append (orderFree_storageClass h hperm hrow))

/-! ## The relations -/

theorem Belongs.within {row : PersistedResource} {request : AddRequest}
    (h : Belongs rows row request) : Within rows request := ⟨h.source_mem, h.target_mem⟩

theorem item_eq_of_asksFor (h : RecordIds rows) {item other : TopologyRow} (hitem : item ∈ rows)
    (hother : other ∈ rows) {a b : AddRequest} (ha : a ∈ requestsOf rows item)
    (hb : b ∈ requestsOf rows other) {id : String}
    (hasksA : asksFor (project locale version rows) id a = true)
    (hasksB : asksFor (project locale version rows) id b = true) : item = other := by
  have hbelongsA := belongs_of_mem hitem ha
  have hbelongsB := belongs_of_mem hother hb
  obtain ⟨la, hla, hidA⟩ := exists_of_asksFor hasksA
  obtain ⟨lb, hlb, hidB⟩ := exists_of_asksFor hasksB
  obtain ⟨hrole, hsource, htarget⟩ := ends_eq_of_relationId h hbelongsA.within hbelongsB.within
    hla hlb (hidA.trans hidB.symm)
  have htype : a.type = b.type := by
    rw [hbelongsA.type, hbelongsB.type, hrole, hsource, htarget]
  have hauthor : a.author = b.author := by
    rw [AddRequest.author, AddRequest.author, htype, hsource, htarget]
  apply h.item_eq hitem hother
  rw [← hbelongsA.author, ← hbelongsB.author, hauthor]

theorem requests_orderFree (h : RecordIds rows) (hperm : rows.Perm rows') :
    OrderFree (project locale version rows) rows rows' fun rows =>
      rows.flatMap (requestsOf rows) := by
  intro id
  rw [List.filter_flatMap, List.filter_flatMap]
  have hsame : ∀ item ∈ rows, (requestsOf rows item).filter
      (asksFor (project locale version rows) id) =
        (requestsOf rows' item).filter (asksFor (project locale version rows) id) :=
    fun item hitem => orderFree_requestsOf h hperm hitem id
  rw [← List.flatMap_congr fun item hitem => hsame item (hperm.mem_iff.mpr hitem)]
  apply flatMap_eq_of_perm hperm h.nodup
  intro item hitem other hother hne hne'
  obtain ⟨a, ha⟩ := List.exists_mem_of_ne_nil _ hne
  obtain ⟨b, hb⟩ := List.exists_mem_of_ne_nil _ hne'
  obtain ⟨ha, hasksA⟩ := List.mem_filter.mp ha
  obtain ⟨hb, hasksB⟩ := List.mem_filter.mp hb
  exact item_eq_of_asksFor h hitem hother ha hb hasksA hasksB

theorem foldl_addRelation (resources : List GraphResource) (requests : List AddRequest)
    (relations : List TopologyGraphRelation) :
    requests.foldl (addRelation locale resources) relations =
      (requests.filterMap (locate resources)).foldl (relationsById locale).add relations := by
  induction requests generalizing relations with
  | nil => rfl
  | cons request requests ih =>
      rw [List.foldl_cons, ih, addRelation]
      cases hlocated : locate resources request with
      | none => rw [List.filterMap_cons_none hlocated]
      | some located => rw [List.filterMap_cons_some hlocated, List.foldl_cons]

def locatedRequests (locale : Locale) (version : GraphVersion) (rows : List TopologyRow) :
    List LocatedRequest :=
  (rows.flatMap (requestsOf rows)).filterMap (locate (project locale version rows))

theorem graphRelations_perm_collect :
    (graphRelations locale version rows).Perm
      ((relationsById locale).collect (locatedRequests locale version rows)) := by
  rw [graphRelations, resolve, foldl_addRelation]
  exact List.perm_insertionSort _ _

theorem mem_graphRelations {relation : TopologyGraphRelation} :
    relation ∈ graphRelations locale version rows ↔
      relation ∈ (relationsById locale).collect (locatedRequests locale version rows) :=
  graphRelations_perm_collect.mem_iff

theorem mem_graphRelations_perm (h : RecordIds rows) (hperm : rows.Perm rows')
    {relation : TopologyGraphRelation} :
    relation ∈ graphRelations locale version rows ↔
      relation ∈ graphRelations locale version rows' := by
  have hlocate : locate (project locale version rows') = locate (project locale version rows) := by
    funext request
    rw [locate, locate, resourceOf_perm h hperm]
  rw [mem_graphRelations, mem_graphRelations, locatedRequests, locatedRequests, hlocate]
  apply Merging.mem_collect_congr
  intro id
  rw [filter_filterMap_eq, filter_filterMap_eq]
  exact congrArg (List.filterMap _) (requests_orderFree h hperm id)

theorem exists_located {relation : TopologyGraphRelation}
    (hrelation : relation ∈ graphRelations locale version rows) :
    ∃ item ∈ rows, ∃ request ∈ requestsOf rows item, ∃ located,
      locate (project locale version rows) request = some located ∧ located.id = relation.id ∧
      relation.source = located.sourceId ∧ relation.target = located.targetId ∧
      relation.type = located.type := by
  obtain ⟨located, hlocated, hid, hends⟩ :=
    Merging.exists_of_mem_collect (R := fun located relation =>
      relation.source = located.sourceId ∧ relation.target = located.targetId ∧
        relation.type = located.type) (relationsById locale)
      (mem_graphRelations.mp hrelation) (fun _ _ => ⟨rfl, rfl, rfl⟩) (fun _ _ _ hR => hR)
  obtain ⟨request, hrequest, hlocate⟩ := List.mem_filterMap.mp hlocated
  obtain ⟨item, hitem, hrequest⟩ := List.mem_flatMap.mp hrequest
  exact ⟨item, hitem, request, hrequest, located, hlocate, hid, hends⟩

def Connects (version : GraphVersion) (rows : List TopologyRow) (request : AddRequest)
    (relation : TopologyGraphRelation) : Prop :=
  ∃ source ∈ rows, ∃ target ∈ rows, source.row = request.source ∧ target.row = request.target ∧
    relation.source = resourceId version source ∧ relation.target = resourceId version target

theorem exists_request (h : RecordIds rows) {relation : TopologyGraphRelation}
    (hrelation : relation ∈ graphRelations locale version rows) :
    relation.source ≠ relation.target ∧ ∃ item ∈ rows, ∃ request ∈ requestsOf rows item,
      Connects version rows request relation ∧ relation.type = request.type := by
  obtain ⟨item, hitem, request, hrequest, located, hlocate, -, hsource, htarget, htype⟩ :=
    exists_located hrelation
  have hbelongs := belongs_of_mem hitem hrequest
  obtain ⟨source, hs, target, ht, hsRow, htRow, hne, rfl⟩ := of_locate h hbelongs.within hlocate
  constructor
  · rw [hsource, htarget]
    exact hne
  · exact ⟨item, hitem, request, hrequest,
      ⟨source, hs, target, ht, hsRow, htRow, hsource, htarget⟩, htype⟩

theorem exists_relation (h : RecordIds rows) {item : TopologyRow} (hitem : item ∈ rows)
    {request : AddRequest} (hrequest : request ∈ requestsOf rows item)
    (hne : request.source.id ≠ request.target.id) :
    ∃ relation ∈ graphRelations locale version rows,
      Connects version rows request relation ∧ relation.type = request.type := by
  have hbelongs := belongs_of_mem hitem hrequest
  obtain ⟨located, hlocate⟩ :=
    @locate_of_ne locale version _ h _ hbelongs.within hne
  have hlocated : located ∈ locatedRequests locale version rows :=
    List.mem_filterMap.mpr ⟨request, List.mem_flatMap.mpr ⟨item, hitem, hrequest⟩, hlocate⟩
  obtain ⟨relation, hmem, hkey⟩ := (relationsById locale).exists_mem_collect hlocated
  have hrelation := mem_graphRelations.mpr hmem
  obtain ⟨item', hitem', request', hrequest', located', hlocate', hid, hsource, htarget, htype⟩ :=
    exists_located hrelation
  have hbelongs' := belongs_of_mem hitem' hrequest'
  obtain ⟨hrole, hsourceRow, htargetRow⟩ := ends_eq_of_relationId h hbelongs'.within
    hbelongs.within hlocate' hlocate (hid.trans hkey)
  obtain ⟨source, hs, target, ht, hsRow, htRow, -, rfl⟩ :=
    of_locate h hbelongs'.within hlocate'
  refine ⟨relation, hrelation, ⟨source, hs, target, ht, hsRow.trans hsourceRow,
    htRow.trans htargetRow, hsource, htarget⟩, htype.trans ?_⟩
  show request'.type = request.type
  rw [hbelongs'.type, hbelongs.type, hrole, hsourceRow, htargetRow]

structure WellFormed (locale : Locale) (version : GraphVersion) (rows : List TopologyRow) :
    Prop where
  order : ∀ rows', rows.Perm rows' → ∀ relation,
    relation ∈ graphRelations locale version rows ↔ relation ∈ graphRelations locale version rows'
  ids : ((graphRelations locale version rows).map (·.id)).Nodup
  irreflexive : ∀ relation ∈ graphRelations locale version rows,
    relation.source ≠ relation.target
  ends : ∀ relation ∈ graphRelations locale version rows,
    ∃ source ∈ rows, ∃ target ∈ rows, relation.source = resourceId version source ∧
      relation.target = resourceId version target ∧ source.row.clusterId = target.row.clusterId

/-- The relations of a list of rows are the same in every order of the rows, no two have one id,
none is a loop, and each connects two of the rows, of one cluster. -/
theorem graphRelations_wellFormed (locale : Locale) (version : GraphVersion)
    (rows : List TopologyRow) (h : RecordIds rows) : WellFormed locale version rows where
  order := fun rows' hperm relation => mem_graphRelations_perm h hperm
  ids := by
    rw [(graphRelations_perm_collect.map _).nodup_iff]
    exact (relationsById locale).nodup_keys_collect _
  irreflexive := fun relation hrelation => (exists_request h hrelation).1
  ends := by
    intro relation hrelation
    obtain ⟨-, item, hitem, request, hrequest, hconnects, -⟩ := exists_request h hrelation
    obtain ⟨source, hs, target, ht, hsRow, htRow, hsource, htarget⟩ := hconnects
    have hcluster := (belongs_of_mem hitem hrequest).cluster
    rw [← hsRow, ← htRow] at hcluster
    exact ⟨source, hs, target, ht, hsource, htarget, hcluster⟩

def apiService (id «namespace» : String) : TopologyRow where
  source := .network
  row := {
    id := id
    clusterId := "c"
    «namespace» := some «namespace»
    kind := "Service"
    name := "api"
    spec := .object []
    statusJson := .object []
    labels := .object []
    replicas := none
    readyReplicas := none
    storageClass := none
    updatedAt := 0 }

/-- A route of the namespace `app` with one backend. -/
def httpRoute (backend : List (String × Js)) : TopologyRow where
  source := .gateway
  row := {
    id := "r"
    clusterId := "c"
    «namespace» := some "app"
    kind := "HTTPRoute"
    name := "web"
    spec := .object [("rules", .array [.object [("backendRefs", .array [.object backend])]])]
    statusJson := .object []
    labels := .object []
    replicas := none
    readyReplicas := none
    storageClass := none
    updatedAt := 0 }

def routedRows (backend : List (String × Js)) : List TopologyRow :=
  [httpRoute backend, apiService "s" "app", apiService "t" "billing"]

theorem recordIds_routedRows (backend : List (String × Js)) : RecordIds (routedRows backend) where
  distinct := by
    show ["r", "s", "t"].Nodup
    decide
  plain := by
    intro item hitem
    simp only [routedRows, List.mem_cons, List.not_mem_nil, or_false] at hitem
    rcases hitem with rfl | rfl | rfl
    · show '>' ∉ "r".toList
      decide
    · show '>' ∉ "s".toList
      decide
    · show '>' ∉ "t".toList
      decide

theorem wellFormed_routedRows :
    WellFormed plainLocale .v2 (routedRows [("name", .string "api")]) :=
  graphRelations_wellFormed plainLocale .v2 _ (recordIds_routedRows _)

end KubeNova.Topology
