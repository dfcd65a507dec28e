import KubeNova.Autoscaling.AutoscalingService

/-!
# Autoscaling and the scope of the caller

The scopes that the sibling services check say what a caller may read and change.  The autoscaling
service does not ask for them: `respectsScope_iff_fits` says which requests stay within them all the
same, whatever the clusters hold.
-/

namespace KubeNova.Autoscaling

open KubeNova.Foundation KubeNova.Common KubeNova.Access

structure Caller where
  actor : Actor
  tables : AccessTables
  readNamespace : String → String → Option String
  now : Nat

namespace Caller

def subject (caller : Caller) : ClusterAccessSubject :=
  ⟨caller.actor.id, caller.actor.username, caller.actor.role⟩

/-- The place lies in the scopes that `WorkloadsService` and its siblings check. -/
def permits (caller : Caller) (mutation : Bool) (place : Place) : Bool :=
  match caller.tables.scopes caller.readNamespace caller.now caller.subject mutation with
  | .ok none => true
  | .ok (some scopes) => inScope scopes place.clusterId place.namespace
  | .error _ => false

end Caller

/-- The clusters answer alike, and hold the same at the places that are seen. -/
structure AgreeOn (seen : Place → Bool) (clusters clusters' : Clusters) : Prop where
  refused : ∀ id, (clusters id).refused = (clusters' id).refused
  isSlow : ∀ id, (clusters id).isSlow = (clusters' id).isSlow
  objects : ∀ id, ((clusters id).objects.filter fun object => seen ⟨id, object.namespace⟩) =
    (clusters' id).objects.filter fun object => seen ⟨id, object.namespace⟩
  events : ∀ id, ((clusters id).events.filter fun event => seen ⟨id, event.namespace⟩) =
    (clusters' id).events.filter fun event => seen ⟨id, event.namespace⟩

namespace AutoscalingService

/-- What the service reads and writes for the request lies in the scope of the caller, who gets the
same answer from clusters that agree on it. -/
structure RespectsScope (service : AutoscalingService) (caller : Caller)
    (request : AutoscalingRequest) : Prop where
  accesses : ∀ clusters : Clusters,
    ∀ a ∈ ((service.serve (some caller.actor) request).run ⟨clusters, []⟩).2.accesses,
      caller.permits a.isWrite a.place = true
  answers : ∀ clusters clusters' : Clusters, AgreeOn (caller.permits false) clusters clusters' →
    ((service.serve (some caller.actor) request).run ⟨clusters, []⟩).1 =
      ((service.serve (some caller.actor) request).run ⟨clusters', []⟩).1

def writeIdentity (actor : Actor) (type kind name : String) (query : ResourceQuery) :
    Option Identity :=
  if (assertWritePermission (some actor)).isOk && (normalizeType type).isOk then
    (resolveResourceIdentity query kind name).toOption
  else none

/-- The object that the request is about, where it passes the first checks. -/
def identityOf (actor : Actor) : AutoscalingRequest → Option Identity
  | .list _ => none
  | .events query => (eventIdentity query).toOption
  | .create body =>
      if (assertWritePermission (some actor)).isOk then (normalizeIdentity body).toOption else none
  | .update type kind name query _ => writeIdentity actor type kind name query
  | .setState type kind name query _ =>
      if type = "VPA" then writeIdentity actor type kind name query else none
  | .delete type kind name query => writeIdentity actor type kind name query

def target (service : AutoscalingService) (actor : Actor) (request : AutoscalingRequest) :
    Option Identity :=
  (identityOf actor request).filter fun identity =>
    (service.assertClusterOnlineForRead identity.clusterId).isOk &&
      (service.getKubeconfig identity.clusterId).isOk

def Configures (body : UpdateAutoscalingPolicyRequest) : AutoscalingType → Prop
  | .hpa => ∃ current config, buildHpaConfig (some (mergedHpa body.hpa current)) = .ok config
  | .vpa => ∃ current config, buildVpaConfig (some (mergedVpa body.vpa current)) = .ok config

def Changes : AutoscalingRequest → Prop
  | .list _ => False
  | .events _ => False
  | .create body =>
      (normalizeType body.type = .ok .hpa ∧ ∃ config, buildHpaConfig body.hpa = .ok config) ∨
        (normalizeType body.type = .ok .vpa ∧ ∃ config, buildVpaConfig body.vpa = .ok config)
  | .update type _ _ _ body => ∃ kind, normalizeType type = .ok kind ∧ Configures body kind
  | .setState _ _ _ _ _ => True
  | .delete _ _ _ _ => True

/-- A list asks only for clusters all of whose namespaces are seen, and any other request only for
a namespace that is seen, and may be changed if the request asks for a change. -/
structure Fits (service : AutoscalingService) (actor : Actor) (seen changed : Place → Bool)
    (request : AutoscalingRequest) : Prop where
  listed : ∀ query, request = .list query →
    ∀ id ∈ service.resolveClusterIds (passedOn query).clusterId,
      (service.getKubeconfig id).isOk = true → ∀ name, seen ⟨id, name⟩ = true
  read : ∀ identity, service.target actor request = some identity →
    seen ⟨identity.clusterId, identity.namespace⟩ = true
  written : ∀ identity, service.target actor request = some identity → Changes request →
    changed ⟨identity.clusterId, identity.namespace⟩ = true

/-- Only places that are seen may be read, and only the others given may be written. -/
def scopePolicy (seen changed : Place → Bool) : Policy Place Clusters where
  may a := (if a.isWrite then changed a.place else seen a.place) = true
  alike := AgreeOn seen

end AutoscalingService

section Agreement

variable {seen : Place → Bool} {clusters clusters' : Clusters} {clusterId : String}
  {apiVersion kind «namespace» name : String}

theorem seen_of_isAt {object : K8sObject} (hseen : seen ⟨clusterId, «namespace»⟩ = true)
    (hat : object.isAt apiVersion kind «namespace» name = true) :
    seen ⟨clusterId, object.namespace⟩ = true := by
  simp only [K8sObject.isAt, Bool.and_eq_true, beq_iff_eq] at hat
  rw [hat.1.2]
  exact hseen

theorem find?_filter_seen (hseen : seen ⟨clusterId, «namespace»⟩ = true)
    (objects : List K8sObject) :
    (objects.filter fun object => seen ⟨clusterId, object.namespace⟩).find?
        (K8sObject.isAt apiVersion kind «namespace» name) =
      objects.find? (K8sObject.isAt apiVersion kind «namespace» name) := by
  rw [List.find?_filter]
  congr 1
  funext object
  cases hat : object.isAt apiVersion kind «namespace» name with
  | false => simp
  | true => simp [seen_of_isAt hseen hat]

namespace AgreeOn

theorem find? (h : AgreeOn seen clusters clusters')
    (hseen : seen ⟨clusterId, «namespace»⟩ = true) :
    (clusters clusterId).objects.find? (K8sObject.isAt apiVersion kind «namespace» name) =
      (clusters' clusterId).objects.find? (K8sObject.isAt apiVersion kind «namespace» name) := by
  rw [← find?_filter_seen hseen, h.objects clusterId, find?_filter_seen hseen]

theorem objects_eq (h : AgreeOn seen clusters clusters')
    (hseen : ∀ name, seen ⟨clusterId, name⟩ = true) :
    (clusters clusterId).objects = (clusters' clusterId).objects := by
  have hobjects := h.objects clusterId
  simpa [hseen] using hobjects

theorem set (h : AgreeOn seen clusters clusters') {objects objects' : List K8sObject}
    (hobjects : (objects.filter fun object => seen ⟨clusterId, object.namespace⟩) =
      objects'.filter fun object => seen ⟨clusterId, object.namespace⟩) :
    AgreeOn seen (clusters.set clusterId objects) (clusters'.set clusterId objects') := by
  refine ⟨fun id => ?_, fun id => ?_, fun id => ?_, fun id => ?_⟩
  all_goals
    by_cases hid : id = clusterId
    · subst hid
      simp only [Clusters.set, if_true]
      first | exact hobjects | exact h.refused id | exact h.isSlow id | exact h.events id
    · simp only [Clusters.set, if_neg hid]
      first | exact h.refused id | exact h.isSlow id | exact h.objects id | exact h.events id

end AgreeOn

end Agreement

theorem isOk_of_eq {ε α : Type} {r : Except ε α} {a : α} (h : r = .ok a) : r.isOk = true := by
  rw [h]
  rfl

theorem eq_ok_of_isOk {ε α : Type} {r : Except ε α} (h : r.isOk = true) : ∃ a, r = .ok a := by
  cases r with
  | ok a => exact ⟨a, rfl⟩
  | error e => cases h

namespace AutoscalingService

variable {service : AutoscalingService} {seen changed : Place → Bool} {clusterId : String}

theorem confined_listAcrossNamespaces (hseen : ∀ name, seen ⟨clusterId, name⟩ = true)
    (apiVersion kind : String) :
    Confined (scopePolicy seen changed) (listAcrossNamespaces clusterId apiVersion kind) := by
  refine .access (fun clusters a ha => ?_) fun clusters clusters' h => ?_
  · split at ha
    · cases ha
    · obtain ⟨object, -, rfl⟩ := List.mem_map.mp ha
      exact hseen object.namespace
  · rw [h.refused clusterId, h.objects_eq hseen]
    split
    · exact ⟨rfl, h⟩
    · exact ⟨rfl, h⟩

theorem confined_listNamespacedEvent {«namespace» : String}
    (hseen : seen ⟨clusterId, «namespace»⟩ = true) (resourceName : String) :
    Confined (scopePolicy seen changed)
      (listNamespacedEvent clusterId «namespace» resourceName) := by
  refine .access (fun clusters a ha => ?_) fun clusters clusters' h => ?_
  · split at ha
    · cases ha
    · obtain ⟨event, -, rfl⟩ := List.mem_map.mp ha
      exact hseen
  · have hevents : ∀ events : List ClusterEvent,
        (events.filter fun event => event.namespace == «namespace» &&
          event.involvedName == some resourceName && event.involvedNamespace == some «namespace») =
        (events.filter fun event => seen ⟨clusterId, event.namespace⟩).filter fun event =>
          event.namespace == «namespace» && event.involvedName == some resourceName &&
            event.involvedNamespace == some «namespace» := by
      intro events
      rw [List.filter_filter]
      refine List.filter_congr fun event _ => ?_
      by_cases hname : event.namespace = «namespace»
      · rw [hname, hseen, Bool.and_true]
      · simp [hname]
    rw [h.refused clusterId, hevents, h.events clusterId, ← hevents]
    split
    · exact ⟨rfl, h⟩
    · exact ⟨rfl, h⟩

section Objects

variable {apiVersion kind «namespace» name : String}

theorem confined_readObject (hseen : seen ⟨clusterId, «namespace»⟩ = true) :
    Confined (scopePolicy seen changed)
      (service.readObject clusterId apiVersion kind «namespace» name) := by
  refine .access (fun clusters a ha => ?_) fun clusters clusters' h => ?_
  · split at ha
    · cases ha
    · split at ha
      · cases ha
      · obtain rfl := List.mem_singleton.mp ha
        exact hseen
  · rw [h.refused clusterId, h.find? hseen]
    split
    · exact ⟨rfl, h⟩
    · split
      · exact ⟨rfl, h⟩
      · exact ⟨rfl, h⟩

theorem confined_createObject (hseen : seen ⟨clusterId, «namespace»⟩ = true)
    (hchanged : changed ⟨clusterId, «namespace»⟩ = true) (spec : Js) :
    Confined (scopePolicy seen changed)
      (service.createObject clusterId apiVersion kind «namespace» name spec) := by
  refine .access (fun clusters a ha => ?_) fun clusters clusters' h => ?_
  · split at ha
    · cases ha
    · split at ha
      · cases ha
      · obtain rfl := List.mem_singleton.mp ha
        exact hchanged
  · have hany : ∀ clusters : Clusters, (clusters clusterId).objects.any
          (K8sObject.isAt apiVersion kind «namespace» name) =
        ((clusters clusterId).objects.find?
          (K8sObject.isAt apiVersion kind «namespace» name)).isSome := fun clusters => by
      rw [Bool.eq_iff_iff, List.any_eq_true, List.find?_isSome]
    rw [h.refused clusterId, hany, hany, h.find? hseen]
    split
    · exact ⟨rfl, h⟩
    · split
      · exact ⟨rfl, h⟩
      · refine ⟨rfl, h.set ?_⟩
        rw [List.filter_append, List.filter_append, h.objects clusterId]

theorem confined_replaceObject (hseen : seen ⟨clusterId, «namespace»⟩ = true)
    (hchanged : changed ⟨clusterId, «namespace»⟩ = true) (resourceVersion : Nat) (spec : Js) :
    Confined (scopePolicy seen changed)
      (service.replaceObject clusterId apiVersion kind «namespace» name resourceVersion spec) := by
  refine .access (fun clusters a ha => ?_) fun clusters clusters' h => ?_
  · split at ha
    · cases ha
    · dsimp only at ha
      split at ha
      · cases ha
      · split at ha
        · cases ha
        · obtain rfl := List.mem_singleton.mp ha
          exact hchanged
  · dsimp only
    rw [h.refused clusterId, h.find? hseen]
    split
    · exact ⟨rfl, h⟩
    · split
      · exact ⟨rfl, h⟩
      · split
        · exact ⟨rfl, h⟩
        · rename_i object hfind hversion
          refine ⟨rfl, h.set ?_⟩
          have hplace : seen ⟨clusterId, object.namespace⟩ = true :=
            seen_of_isAt hseen (List.find?_some hfind)
          have hkept : ∀ replaced : K8sObject, replaced.namespace = object.namespace →
              ((fun other : K8sObject => seen ⟨clusterId, other.namespace⟩) ∘ fun other =>
                if K8sObject.isAt apiVersion kind «namespace» name other then replaced else other) =
                fun other => seen ⟨clusterId, other.namespace⟩ := by
            intro replaced hreplaced
            funext other
            show seen ⟨clusterId, (if _ then replaced else other).namespace⟩ = _
            split
            · rename_i hat
              rw [hreplaced, hplace, seen_of_isAt hseen hat]
            · rfl
          have hsame := hkept { object with
            spec := spec, annotations := [], resourceVersion := object.resourceVersion + 1 } rfl
          rw [List.filter_map, List.filter_map, hsame, h.objects clusterId]

theorem confined_deleteObject (hseen : seen ⟨clusterId, «namespace»⟩ = true)
    (hchanged : changed ⟨clusterId, «namespace»⟩ = true) (resourceVersion : Nat) :
    Confined (scopePolicy seen changed)
      (service.deleteObject clusterId apiVersion kind «namespace» name resourceVersion) := by
  refine .access (fun clusters a ha => ?_) fun clusters clusters' h => ?_
  · split at ha
    · cases ha
    · dsimp only at ha
      split at ha
      · cases ha
      · split at ha
        · cases ha
        · obtain rfl := List.mem_singleton.mp ha
          exact hchanged
  · dsimp only
    rw [h.refused clusterId, h.find? hseen]
    split
    · exact ⟨rfl, h⟩
    · split
      · exact ⟨rfl, h⟩
      · split
        · exact ⟨rfl, h⟩
        · refine ⟨rfl, h.set ?_⟩
          rw [List.filter_comm, h.objects clusterId, List.filter_comm]

end Objects

/-! ## What the requests have to do with -/

variable {query : AutoscalingListQuery}

theorem confined_listPolicies (hseen : ∀ name, seen ⟨clusterId, name⟩ = true)
    (type : AutoscalingType) :
    Confined (scopePolicy seen changed) (service.listPolicies query clusterId type) := by
  refine .ofExcept_bind fun _ _ => .bind (confined_listAcrossNamespaces hseen _ _) fun answer => ?_
  cases answer with
  | error e => exact .done _
  | ok items => exact .done _

theorem confined_listCluster
    (hseen : (service.getKubeconfig clusterId).isOk = true →
      ∀ name, seen ⟨clusterId, name⟩ = true) :
    Confined (scopePolicy seen changed) (service.listCluster query clusterId) := by
  cases hconfig : service.getKubeconfig clusterId with
  | error e =>
      have hfails : service.listCluster query clusterId = .fail e := by
        simp [listCluster, listHpas, listPolicies, hconfig, Async.ofExcept]
      rw [hfails]
      exact .fail e
  | ok kubeconfig =>
      have hall := hseen (by rw [hconfig]; rfl)
      refine .bind (confined_listPolicies hall _) fun hpas =>
        .bind (confined_listPolicies hall _) fun vpas =>
          .bind (.query fun s s' h => ?_) fun isSlow => .ensure_bind fun _ => .done _
      exact h.isSlow clusterId

theorem confined_listClusters {ids : List String}
    (hseen : ∀ id ∈ ids, (service.getKubeconfig id).isOk = true →
      ∀ name, seen ⟨id, name⟩ = true) :
    Confined (scopePolicy seen changed) (service.listClusters query ids) := by
  induction ids with
  | nil => exact .done _
  | cons id ids ih =>
      have hhead := hseen id List.mem_cons_self
      have hrest := ih fun other hother => hseen other (List.mem_cons_of_mem _ hother)
      refine .bind (confined_listCluster hhead).toExcept fun settled => .bind hrest fun others => ?_
      cases settled with
      | ok items => exact .done _
      | error e => exact .done _

section Writes

variable {identity : Identity}
  (hseen : (service.getKubeconfig identity.clusterId).isOk = true →
    seen ⟨identity.clusterId, identity.namespace⟩ = true)

include hseen

theorem confined_assertWorkloadExists :
    Confined (scopePolicy seen changed) (service.assertWorkloadExists identity) := by
  refine .ofExcept_bind fun _ hconfig =>
    .bind (confined_readObject (hseen (isOk_of_eq hconfig))) fun answer => ?_
  cases answer with
  | ok object => exact .done _
  | error e =>
      dsimp only
      split
      · exact .fail _
      · exact .fail _

theorem confined_readPolicy (type : AutoscalingType) :
    Confined (scopePolicy seen changed) (service.readPolicy type identity) :=
  .ofExcept_bind fun _ hconfig =>
    .bind (confined_readObject (hseen (isOk_of_eq hconfig))) fun _ => .ofExcept _

variable (hchanged : (service.getKubeconfig identity.clusterId).isOk = true →
    changed ⟨identity.clusterId, identity.namespace⟩ = true)

include hchanged

theorem confined_createHpa (config : HpaConfig) :
    Confined (scopePolicy seen changed) (service.createHpa identity config) :=
  .ofExcept_bind fun _ hconfig => .bind (confined_createObject (hseen (isOk_of_eq hconfig))
    (hchanged (isOk_of_eq hconfig)) _) fun _ => .ofExcept _

theorem confined_createVpa (config : VpaConfig) :
    Confined (scopePolicy seen changed) (service.createVpa identity config) :=
  .ofExcept_bind fun _ hconfig => .bind (confined_createObject (hseen (isOk_of_eq hconfig))
    (hchanged (isOk_of_eq hconfig)) _) fun _ => .ofExcept _

theorem confined_replacePolicy (type : AutoscalingType) (plural name : String)
    (resourceVersion : Nat) (spec : Js) :
    Confined (scopePolicy seen changed)
      (service.replacePolicy type identity plural name resourceVersion spec) :=
  .ofExcept_bind fun _ hconfig => .bind (confined_replaceObject (hseen (isOk_of_eq hconfig))
    (hchanged (isOk_of_eq hconfig)) _ _) fun _ => .ofExcept _

theorem confined_deleteCurrent (current : K8sObject) (type : AutoscalingType) :
    Confined (scopePolicy seen changed) (service.deleteCurrent identity current type) := by
  cases type with
  | hpa =>
      exact .ofExcept_bind fun _ hconfig => .bind (confined_deleteObject
        (hseen (isOk_of_eq hconfig)) (hchanged (isOk_of_eq hconfig)) _) fun _ => .ofExcept _
  | vpa =>
      exact .ofExcept_bind fun _ hconfig => .bind (confined_deleteObject
        (hseen (isOk_of_eq hconfig)) (hchanged (isOk_of_eq hconfig)) _) fun _ => .ofExcept _

omit hchanged

theorem confined_createPolicy {body : CreateAutoscalingPolicyRequest}
    (hchanged : (service.getKubeconfig identity.clusterId).isOk = true → Changes (.create body) →
      changed ⟨identity.clusterId, identity.namespace⟩ = true) :
    Confined (scopePolicy seen changed) (service.createPolicy identity body) := by
  refine .ofExcept_bind fun type htype => ?_
  cases type with
  | hpa =>
      refine .ofExcept_bind fun config hbuilt => ?_
      have hwritten := fun hconfig => hchanged hconfig (.inl ⟨htype, config, hbuilt⟩)
      exact .bind (confined_createHpa hseen hwritten config) fun _ => .done _
  | vpa =>
      refine .ofExcept_bind fun config hbuilt => ?_
      have hwritten := fun hconfig => hchanged hconfig (.inr ⟨htype, config, hbuilt⟩)
      exact .bind (confined_createVpa hseen hwritten config) fun _ => .done _

theorem confined_replaceCurrent {body : UpdateAutoscalingPolicyRequest} {current : K8sObject}
    (type : AutoscalingType)
    (hchanged : (service.getKubeconfig identity.clusterId).isOk = true → Configures body type →
      changed ⟨identity.clusterId, identity.namespace⟩ = true) :
    Confined (scopePolicy seen changed) (service.replaceCurrent identity body current type) := by
  cases type with
  | hpa =>
      refine .ofExcept_bind fun config hbuilt => ?_
      have hwritten := fun hconfig => hchanged hconfig ⟨current, config, hbuilt⟩
      exact .bind (confined_replacePolicy hseen hwritten _ _ _ _ _) fun _ => .done _
  | vpa =>
      refine .ofExcept_bind fun config hbuilt => ?_
      have hwritten := fun hconfig => hchanged hconfig ⟨current, config, hbuilt⟩
      exact .bind (confined_replacePolicy hseen hwritten _ _ _ _ _) fun _ => .done _

end Writes

section Requests

variable {actor : Actor}

theorem writeIdentity_eq {type kind name : String} {query : ResourceQuery} {identity : Identity}
    {parsed : AutoscalingType} (hrole : assertWritePermission (some actor) = .ok ())
    (htype : normalizeType type = .ok parsed)
    (hidentity : resolveResourceIdentity query kind name = .ok identity) :
    writeIdentity actor type kind name query = some identity := by
  simp [writeIdentity, isOk_of_eq hrole, isOk_of_eq htype, hidentity, Except.toOption]

theorem target_eq {request : AutoscalingRequest} {identity : Identity}
    (hidentity : identityOf actor request = some identity)
    (honline : service.assertClusterOnlineForRead identity.clusterId = .ok ())
    (hconfig : (service.getKubeconfig identity.clusterId).isOk = true) :
    service.target actor request = some identity := by
  rw [target, hidentity, Option.filter_some, isOk_of_eq honline, hconfig]
  rfl

theorem confined_listEvents {query : EventQuery}
    (hfits : service.Fits actor seen changed (.events query)) :
    Confined (scopePolicy seen changed) (service.listEvents query) := by
  refine .ofExcept_bind fun identity hidentity => .ofExcept_bind fun _ honline =>
    .ofExcept_bind fun _ hconfig => ?_
  have hsome : identityOf actor (.events query) = some identity := by
    rw [identityOf, hidentity]
    rfl
  have hseen := hfits.read identity (target_eq hsome honline (isOk_of_eq hconfig))
  exact .bind (confined_listNamespacedEvent hseen _) fun _ => .ofExcept_bind fun _ _ => .done _

theorem confined_create {body : CreateAutoscalingPolicyRequest}
    (hfits : service.Fits actor seen changed (.create body)) :
    Confined (scopePolicy seen changed) (service.create (some actor) body) := by
  refine .ofExcept_bind fun _ hrole => .ofExcept_bind fun identity hidentity =>
    .ofExcept_bind fun _ honline => ?_
  have hsome : identityOf actor (.create body) = some identity := by
    rw [identityOf, isOk_of_eq hrole, hidentity]
    rfl
  have htarget := target_eq hsome honline
  have hseen := fun hconfig => hfits.read identity (htarget hconfig)
  exact .bind (confined_assertWorkloadExists hseen) fun _ => confined_createPolicy hseen
    fun hconfig hchanges => hfits.written identity (htarget hconfig) hchanges

theorem confined_update {type kind name : String} {query : ResourceQuery}
    {body : UpdateAutoscalingPolicyRequest}
    (hfits : service.Fits actor seen changed (.update type kind name query body)) :
    Confined (scopePolicy seen changed)
      (service.update (some actor) type kind name query body) := by
  refine .ofExcept_bind fun _ hrole => .ofExcept_bind fun identity hidentity =>
    .ofExcept_bind fun parsed htype => .ofExcept_bind fun _ honline => ?_
  have hsome : identityOf actor (.update type kind name query body) = some identity :=
    writeIdentity_eq hrole htype hidentity
  have htarget := target_eq hsome honline
  have hseen := fun hconfig => hfits.read identity (htarget hconfig)
  exact .bind (confined_readPolicy hseen parsed) fun current =>
    confined_replaceCurrent hseen parsed fun hconfig hconfigures =>
      hfits.written identity (htarget hconfig) ⟨parsed, htype, hconfigures⟩

theorem normalizeType_eq_vpa {type : String} (h : normalizeType type = .ok .vpa) : type = "VPA" := by
  unfold normalizeType at h
  split at h
  · cases h
  · rfl
  · cases h

theorem confined_setPolicyState {type kind name : String} {query : ResourceQuery} {enabled : Bool}
    (hfits : service.Fits actor seen changed (.setState type kind name query enabled)) :
    Confined (scopePolicy seen changed)
      (service.setPolicyState (some actor) type kind name query enabled) := by
  refine .ofExcept_bind fun parsed htype => .ensure_bind fun hvpa => ?_
  subst hvpa
  obtain rfl := normalizeType_eq_vpa htype
  exact confined_update ⟨fun _ h => (nomatch h), hfits.read,
    fun identity htarget _ => hfits.written identity htarget trivial⟩

theorem confined_delete {type kind name : String} {query : ResourceQuery}
    (hfits : service.Fits actor seen changed (.delete type kind name query)) :
    Confined (scopePolicy seen changed) (service.delete (some actor) type kind name query) := by
  refine .ofExcept_bind fun _ hrole => .ofExcept_bind fun identity hidentity =>
    .ofExcept_bind fun parsed htype => .ofExcept_bind fun _ honline => ?_
  have hsome : identityOf actor (.delete type kind name query) = some identity :=
    writeIdentity_eq hrole htype hidentity
  have htarget := target_eq hsome honline
  have hseen := fun hconfig => hfits.read identity (htarget hconfig)
  have hchanged := fun hconfig => hfits.written identity (htarget hconfig) trivial
  exact .bind (confined_readPolicy hseen parsed) fun current =>
    .bind (confined_deleteCurrent hseen hchanged current parsed) fun _ => .done _

theorem confined_serve {request : AutoscalingRequest}
    (hfits : service.Fits actor seen changed request) :
    Confined (scopePolicy seen changed) (service.serve (some actor) request) := by
  cases request with
  | list query => exact .bind (.bind (confined_listClusters (hfits.listed query rfl))
      fun _ => .done _) fun _ => .done _
  | events query => exact .bind (confined_listEvents hfits) fun _ => .done _
  | create body => exact .bind (confined_create hfits) fun _ => .done _
  | update type kind name query body => exact .bind (confined_update hfits) fun _ => .done _
  | setState type kind name query enabled =>
      exact .bind (confined_setPolicyState hfits) fun _ => .done _
  | delete type kind name query => exact .bind (confined_delete hfits) fun _ => .done _

end Requests

/-! ## What a request can come to -/

def everywhere : Place → Bool := fun _ => true

theorem mem_first {α β : Type} {h : Handler α} {k : α → Handler β}
    (hk : ∀ a, Confined (scopePolicy everywhere everywhere) (k a)) {s : Traced Place Clusters}
    {x : Access Place} (hx : x ∈ (h.run s).2.accesses) : x ∈ ((h >>= k).run s).2.accesses :=
  Confined.mem_bind hk hx

def holding (objects : List K8sObject) (events : List ClusterEvent) : Clusters :=
  fun _ => ⟨objects, events, fun _ => none, false⟩

def sampleObject (apiVersion kind «namespace» name : String) (spec : Js) : K8sObject :=
  ⟨apiVersion, kind, «namespace», name, "", 1, "", [], spec, .undefined⟩

theorem isAt_sampleObject (apiVersion kind «namespace» name : String) (spec : Js) :
    (sampleObject apiVersion kind «namespace» name spec).isAt apiVersion kind «namespace» name =
      true := by
  simp [sampleObject, K8sObject.isAt]

section Runs

variable {objects : List K8sObject} {events : List ClusterEvent} {log : List (Access Place)}

theorem run_readObject {apiVersion kind «namespace» name : String} {object : K8sObject}
    (hfind : objects.find? (K8sObject.isAt apiVersion kind «namespace» name) = some object) :
    (service.readObject clusterId apiVersion kind «namespace» name).run
        ⟨holding objects events, log⟩ =
      (.ok (.ok object), ⟨holding objects events, log ++ [Place.read ⟨clusterId, «namespace»⟩]⟩) := by
  simp [readObject, access, holding, hfind]

theorem run_readPolicy {identity : Identity} {type : AutoscalingType} {object : K8sObject}
    (hconfig : (service.getKubeconfig identity.clusterId).isOk = true)
    (hfind : objects.find? (K8sObject.isAt type.apiVersion type.kind identity.namespace
      identity.name) = some object) :
    (service.readPolicy type identity).run ⟨holding objects events, log⟩ =
      (.ok object, ⟨holding objects events,
        log ++ [Place.read ⟨identity.clusterId, identity.namespace⟩]⟩) := by
  obtain ⟨kubeconfig, hok⟩ := eq_ok_of_isOk hconfig
  rw [readPolicy, hok]
  show (service.readObject _ _ _ _ _ >>= _).run _ = _
  rw [Async.run_bind, run_readObject hfind]
  rfl

theorem run_assertWorkloadExists {identity : Identity} {object : K8sObject}
    (hconfig : (service.getKubeconfig identity.clusterId).isOk = true)
    (hfind : objects.find? (K8sObject.isAt (resolveWorkloadApiVersion identity.kind) identity.kind
      identity.namespace identity.name) = some object) :
    (service.assertWorkloadExists identity).run ⟨holding objects events, log⟩ =
      (.ok (), ⟨holding objects events,
        log ++ [Place.read ⟨identity.clusterId, identity.namespace⟩]⟩) := by
  obtain ⟨kubeconfig, hok⟩ := eq_ok_of_isOk hconfig
  rw [assertWorkloadExists, hok]
  show (service.readObject _ _ _ _ _ >>= _).run _ = _
  rw [Async.run_bind, run_readObject hfind]
  rfl

theorem mem_createObject {apiVersion kind «namespace» name : String} {spec : Js}
    (hfree : objects.any (K8sObject.isAt apiVersion kind «namespace» name) = false) :
    Place.write ⟨clusterId, «namespace»⟩ ∈
      ((service.createObject clusterId apiVersion kind «namespace» name spec).run
        ⟨holding objects events, log⟩).2.accesses := by
  simp only [createObject, access, holding, Async.run_exec, hfree]
  exact List.mem_append_right _ List.mem_cons_self

theorem mem_replaceObject {apiVersion kind «namespace» name : String} {spec : Js}
    {object : K8sObject}
    (hfind : objects.find? (K8sObject.isAt apiVersion kind «namespace» name) = some object) :
    Place.write ⟨clusterId, «namespace»⟩ ∈
      ((service.replaceObject clusterId apiVersion kind «namespace» name object.resourceVersion
        spec).run ⟨holding objects events, log⟩).2.accesses := by
  simp [replaceObject, access, holding, hfind]

theorem mem_deleteObject {apiVersion kind «namespace» name : String} {object : K8sObject}
    (hfind : objects.find? (K8sObject.isAt apiVersion kind «namespace» name) = some object) :
    Place.write ⟨clusterId, «namespace»⟩ ∈
      ((service.deleteObject clusterId apiVersion kind «namespace» name object.resourceVersion).run
        ⟨holding objects events, log⟩).2.accesses := by
  simp [deleteObject, access, holding, hfind]

end Runs

/-! ### Lists -/

theorem run_bind_store {α β : Type} {h : Handler α} {k : α → Handler β}
    (hh : ∀ s, (h.run s).2.store = s.store) (hk : ∀ a s, ((k a).run s).2.store = s.store)
    (s : Traced Place Clusters) : ((h >>= k).run s).2.store = s.store := by
  rw [Async.run_bind]
  rcases hrun : h.run s with ⟨r, t⟩
  have hstore : t.store = s.store := by
    rw [← hh s, hrun]
  cases r with
  | ok a => exact (hk a t).trans hstore
  | error e => exact hstore

theorem run_listPolicies_store (type : AutoscalingType) (s : Traced Place Clusters) :
    ((service.listPolicies query clusterId type).run s).2.store = s.store := by
  refine run_bind_store (fun s => by rw [Async.run_ofExcept_snd]) (fun _ =>
    run_bind_store (fun s => ?_) fun answer s => ?_) s
  · simp only [listAcrossNamespaces, access, Async.run_exec]
    split <;> rfl
  · cases answer <;> rfl

theorem run_listCluster_store (s : Traced Place Clusters) :
    ((service.listCluster query clusterId).run s).2.store = s.store :=
  run_bind_store (run_listPolicies_store .hpa) (fun _ => run_bind_store (run_listPolicies_store .vpa)
    fun _ => run_bind_store (fun _ => rfl) fun _ =>
      run_bind_store (fun s => by rw [Async.run_ensure_snd]) fun _ _ => rfl) s

theorem mem_listCluster {«namespace» : String}
    (hconfig : (service.getKubeconfig clusterId).isOk = true) {s : Traced Place Clusters}
    (hs : s.store = holding [sampleObject hpaApiVersion hpaKind «namespace» "" .undefined] []) :
    Place.read ⟨clusterId, «namespace»⟩ ∈
      ((service.listCluster query clusterId).run s).2.accesses := by
  obtain ⟨kubeconfig, hok⟩ := eq_ok_of_isOk hconfig
  have hlist : Place.read ⟨clusterId, «namespace»⟩ ∈
      ((listAcrossNamespaces clusterId hpaApiVersion hpaKind).run s).2.accesses := by
    simp [listAcrossNamespaces, access, hs, holding, sampleObject]
  refine mem_first (fun hpas => ?_) ?_
  · exact .bind (confined_listPolicies (fun _ => rfl) _) fun vpas =>
      .bind (.query fun s s' h => h.isSlow clusterId) fun _ => .ensure_bind fun _ => .done _
  · rw [listHpas, listPolicies, hok, Async.ofExcept, Async.done_bind]
    refine mem_first (fun answer => ?_) hlist
    cases answer <;> exact .done _

theorem mem_listClusters {«namespace» : String} {ids : List String} (hid : clusterId ∈ ids)
    (hconfig : (service.getKubeconfig clusterId).isOk = true) {s : Traced Place Clusters}
    (hs : s.store = holding [sampleObject hpaApiVersion hpaKind «namespace» "" .undefined] []) :
    Place.read ⟨clusterId, «namespace»⟩ ∈
      ((service.listClusters query ids).run s).2.accesses := by
  induction ids generalizing s with
  | nil => cases hid
  | cons id ids ih =>
      rcases List.mem_cons.mp hid with rfl | hid
      · refine mem_first (fun settled => ?_) ?_
        · refine .bind (confined_listClusters fun _ _ _ _ => rfl) fun others => ?_
          cases settled <;> exact .done _
        rw [Async.run_toExcept]
        exact mem_listCluster hconfig hs
      · have hstore := @run_listCluster_store service id query s
        rw [listClusters, Async.run_bind, Async.run_toExcept]
        refine mem_first (fun others => ?_)
          (ih hid (hstore.trans hs))
        cases ((service.listCluster query id).run s).1 <;> exact .done _

theorem reads_of_listed {actor : Actor} (query : AutoscalingListQuery)
    (hid : clusterId ∈ service.resolveClusterIds (passedOn query).clusterId)
    (hconfig : (service.getKubeconfig clusterId).isOk = true) («namespace» : String) :
    ∃ clusters, Place.read ⟨clusterId, «namespace»⟩ ∈
      ((service.serve (some actor) (.list query)).run ⟨clusters, []⟩).2.accesses := by
  refine ⟨holding [sampleObject hpaApiVersion hpaKind «namespace» "" .undefined] [], ?_⟩
  rw [serve, list]
  refine mem_first (fun _ => .done _) (mem_first (fun _ => .done _) ?_)
  exact mem_listClusters hid hconfig rfl

/-! ### Requests about one object -/

section Targets

variable {actor : Actor} {identity : Identity}

theorem target_cases {request : AutoscalingRequest}
    (h : service.target actor request = some identity) :
    identityOf actor request = some identity ∧
      service.assertClusterOnlineForRead identity.clusterId = .ok () ∧
        (service.getKubeconfig identity.clusterId).isOk = true := by
  obtain ⟨hidentity, honline⟩ := Option.filter_eq_some_iff.mp h
  rw [Bool.and_eq_true] at honline
  obtain ⟨u, hu⟩ := eq_ok_of_isOk honline.1
  exact ⟨hidentity, hu, honline.2⟩

theorem toOption_eq_some {ε α : Type} {r : Except ε α} {a : α} (h : r.toOption = some a) :
    r = .ok a := by
  cases r with
  | ok b => rw [Option.some.inj h]
  | error e => cases h

theorem writeIdentity_cases {type kind name : String} {query : ResourceQuery}
    (h : writeIdentity actor type kind name query = some identity) :
    assertWritePermission (some actor) = .ok () ∧ (∃ parsed, normalizeType type = .ok parsed) ∧
      resolveResourceIdentity query kind name = .ok identity := by
  unfold writeIdentity at h
  split at h
  · rename_i hchecks
    rw [Bool.and_eq_true] at hchecks
    obtain ⟨u, hrole⟩ := eq_ok_of_isOk hchecks.1
    exact ⟨hrole, eq_ok_of_isOk hchecks.2, toOption_eq_some h⟩
  · cases h

theorem create_eq {body : CreateAutoscalingPolicyRequest}
    (h : service.target actor (.create body) = some identity) :
    service.create (some actor) body =
      service.assertWorkloadExists identity >>= fun _ => service.createPolicy identity body := by
  obtain ⟨hidentity, honline, -⟩ := target_cases h
  simp only [identityOf] at hidentity
  split at hidentity
  · rename_i hrole
    obtain ⟨u, hrole⟩ := eq_ok_of_isOk hrole
    simp only [create, hrole, toOption_eq_some hidentity, honline, Async.ofExcept, Async.done_bind]
  · cases hidentity

theorem update_eq {type kind name : String} {query : ResourceQuery}
    {body : UpdateAutoscalingPolicyRequest}
    (h : service.target actor (.update type kind name query body) = some identity) :
    ∃ parsed, normalizeType type = .ok parsed ∧
      service.update (some actor) type kind name query body =
        service.readPolicy parsed identity >>= fun current =>
          service.replaceCurrent identity body current parsed := by
  obtain ⟨hidentity, honline, -⟩ := target_cases h
  obtain ⟨hrole, ⟨parsed, htype⟩, hresolved⟩ := writeIdentity_cases hidentity
  refine ⟨parsed, htype, ?_⟩
  simp only [update, hrole, hresolved, htype, honline, Async.ofExcept, Async.done_bind]

theorem delete_eq {type kind name : String} {query : ResourceQuery}
    (h : service.target actor (.delete type kind name query) = some identity) :
    ∃ parsed : AutoscalingType, ∃ deleted : DeletedPolicy,
      service.delete (some actor) type kind name query =
        service.readPolicy parsed identity >>= fun current =>
          service.deleteCurrent identity current parsed >>= fun _ => .done deleted := by
  obtain ⟨hidentity, honline, -⟩ := target_cases h
  obtain ⟨hrole, ⟨parsed, htype⟩, hresolved⟩ := writeIdentity_cases hidentity
  refine ⟨parsed, ⟨parsed.text ++ " 策略删除成功", parsed, identity.clusterId, identity.namespace, kind,
    name, toISOString service.now⟩, ?_⟩
  simp only [delete, hrole, hresolved, htype, honline, Async.ofExcept, Async.done_bind]
  rfl

theorem setPolicyState_eq {type kind name : String} {query : ResourceQuery} {enabled : Bool}
    (h : service.target actor (.setState type kind name query enabled) = some identity) :
    ∃ body config, buildVpaConfig (some (mergedVpa body.vpa (sampleObject "" "" "" "" .undefined))) =
        .ok config ∧
      service.target actor (.update "VPA" kind name query body) = some identity ∧
      service.setPolicyState (some actor) type kind name query enabled =
        service.update (some actor) "VPA" kind name query body := by
  obtain ⟨hidentity, honline, hconfig⟩ := target_cases h
  simp only [identityOf] at hidentity
  split at hidentity
  · rename_i hvpa
    subst hvpa
    refine ⟨⟨none, some ⟨some (if enabled then "Auto" else "Off"), none, none, none, none, none⟩⟩,
      ⟨if enabled then "Auto" else "Off", none, none, none, none, some ["cpu", "memory"]⟩, ?_,
      target_eq hidentity honline hconfig, rfl⟩
    cases enabled <;> rfl
  · cases hidentity

theorem find?_sampleObject (apiVersion kind «namespace» name : String) (spec : Js)
    (others : List K8sObject) :
    (sampleObject apiVersion kind «namespace» name spec :: others).find?
        (K8sObject.isAt apiVersion kind «namespace» name) =
      some (sampleObject apiVersion kind «namespace» name spec) :=
  List.find?_cons_of_pos (isAt_sampleObject _ _ _ _ _)

theorem mem_listEvents {query : EventQuery}
    (h : service.target actor (.events query) = some identity) :
    Place.read ⟨identity.clusterId, identity.namespace⟩ ∈
      ((service.listEvents query).run ⟨holding [] [⟨identity.namespace, none, none, none, none,
        some (eventResourceName identity), some identity.namespace, 0⟩], []⟩).2.accesses := by
  obtain ⟨hidentity, honline, hconfig⟩ := target_cases h
  obtain ⟨kubeconfig, hok⟩ := eq_ok_of_isOk hconfig
  have hidentity' : eventIdentity query = .ok identity := toOption_eq_some hidentity
  simp only [listEvents, hidentity', honline, hok, Async.ofExcept, Async.done_bind]
  refine mem_first (fun answer => ?_) ?_
  · exact .ofExcept_bind fun _ _ => .done _
  · simp [listNamespacedEvent, access, holding]

theorem reads_of_target {request : AutoscalingRequest}
    (h : service.target actor request = some identity) :
    ∃ clusters, Place.read ⟨identity.clusterId, identity.namespace⟩ ∈
      ((service.serve (some actor) request).run ⟨clusters, []⟩).2.accesses := by
  obtain ⟨hidentity, -, hconfig⟩ := target_cases h
  have hupdate : ∀ {type kind name query body},
      service.target actor (.update type kind name query body) = some identity →
      ∃ clusters, Place.read ⟨identity.clusterId, identity.namespace⟩ ∈
        ((service.update (some actor) type kind name query body).run
          ⟨clusters, []⟩).2.accesses := by
    intro type kind name query body htarget
    obtain ⟨parsed, -, hrun⟩ := update_eq htarget
    rw [hrun]
    refine ⟨holding [sampleObject parsed.apiVersion parsed.kind identity.namespace identity.name
      .undefined] [], mem_first (fun current =>
        confined_replaceCurrent (fun _ => rfl) parsed fun _ _ => rfl) ?_⟩
    rw [run_readPolicy hconfig (find?_sampleObject _ _ _ _ _ _)]
    exact List.mem_cons_self
  cases request with
  | list query => cases hidentity
  | events query =>
      exact ⟨_, mem_first (fun _ => .done _)
        (mem_listEvents h)⟩
  | create body =>
      refine ⟨holding [sampleObject (resolveWorkloadApiVersion identity.kind) identity.kind
        identity.namespace identity.name .undefined] [],
        mem_first (fun _ => .done _) ?_⟩
      rw [create_eq h]
      refine mem_first (fun _ =>
        confined_createPolicy (fun _ => rfl) fun _ _ => rfl) ?_
      rw [run_assertWorkloadExists hconfig (find?_sampleObject _ _ _ _ _ _)]
      exact List.mem_cons_self
  | update type kind name query body =>
      obtain ⟨clusters, hmem⟩ := hupdate h
      exact ⟨clusters, mem_first
        (fun _ => .done _) hmem⟩
  | setState type kind name query enabled =>
      obtain ⟨body, config, -, htarget, heq⟩ := setPolicyState_eq h
      obtain ⟨clusters, hmem⟩ := hupdate htarget
      rw [← heq] at hmem
      exact ⟨clusters, mem_first
        (fun _ => .done _) hmem⟩
  | delete type kind name query =>
      obtain ⟨parsed, deleted, hrun⟩ := delete_eq h
      refine ⟨holding [sampleObject parsed.apiVersion parsed.kind identity.namespace identity.name
        .undefined] [], mem_first
          (fun _ => .done _) ?_⟩
      rw [hrun]
      refine mem_first (fun current =>
        .bind (confined_deleteCurrent (fun _ => rfl) (fun _ => rfl) current parsed)
          fun _ => .done _) ?_
      rw [run_readPolicy hconfig (find?_sampleObject _ _ _ _ _ _)]
      exact List.mem_cons_self

def copies (type : AutoscalingType) (identity : Identity) (written : String) (spec : Js) :
    List K8sObject :=
  [sampleObject type.apiVersion type.kind identity.namespace identity.name spec,
    sampleObject type.apiVersion type.kind identity.namespace written spec]

theorem find?_copies (type : AutoscalingType) (identity : Identity) (written : String) (spec : Js) :
    ∃ object : K8sObject, object.resourceVersion = 1 ∧
      (copies type identity written spec).find?
        (K8sObject.isAt type.apiVersion type.kind identity.namespace written) = some object := by
  refine ⟨sampleObject type.apiVersion type.kind identity.namespace written spec, rfl, ?_⟩
  by_cases hname : identity.name = written
  · rw [copies, hname]
    exact find?_sampleObject _ _ _ _ _ _
  · rw [copies, List.find?_cons_of_neg (by simp [sampleObject, K8sObject.isAt, hname])]
    exact find?_sampleObject _ _ _ _ _ _

theorem mem_replacePolicy {type : AutoscalingType} {plural written : String} {spec spec' : Js}
    {log : List (Access Place)}
    (hconfig : (service.getKubeconfig identity.clusterId).isOk = true) :
    Place.write ⟨identity.clusterId, identity.namespace⟩ ∈
      ((service.replacePolicy type identity plural written 1 spec').run
        ⟨holding (copies type identity written spec) [], log⟩).2.accesses := by
  obtain ⟨kubeconfig, hok⟩ := eq_ok_of_isOk hconfig
  obtain ⟨object, hversion, hfind⟩ := find?_copies type identity written spec
  rw [replacePolicy, hok]
  refine mem_first (fun answer => .ofExcept _) ?_
  have hmem := @mem_replaceObject service identity.clusterId _ [] log _ _ _ _ spec' _ hfind
  rw [hversion] at hmem
  exact hmem

theorem writes_update {type kind name : String} {query : ResourceQuery}
    {body : UpdateAutoscalingPolicyRequest}
    (h : service.target actor (.update type kind name query body) = some identity)
    (hchanges : Changes (.update type kind name query body)) :
    ∃ clusters, Place.write ⟨identity.clusterId, identity.namespace⟩ ∈
      ((service.update (some actor) type kind name query body).run ⟨clusters, []⟩).2.accesses := by
  obtain ⟨-, -, hconfig⟩ := target_cases h
  obtain ⟨parsed, htype, hrun⟩ := update_eq h
  obtain ⟨parsed', htype', hconfigures⟩ := hchanges
  obtain rfl := Except.ok.inj (htype.symm.trans htype')
  rw [hrun]
  cases parsed with
  | hpa =>
      obtain ⟨current, config, hbuilt⟩ := hconfigures
      refine ⟨holding (copies .hpa identity (writtenName identity.name "-hpa") current.spec) [],
        mem_bind_of_run (run_readPolicy hconfig (find?_sampleObject _ _ _ _ _ _)) ?_⟩
      have hbuilt' : buildHpaConfig (some (mergedHpa body.hpa (sampleObject hpaApiVersion hpaKind
          identity.namespace identity.name current.spec))) = .ok config := hbuilt
      simp only [replaceCurrent, AutoscalingType.apiVersion, AutoscalingType.kind, hbuilt',
        Async.ofExcept, Async.done_bind]
      exact mem_first (fun _ => .done _) (mem_replacePolicy hconfig)
  | vpa =>
      obtain ⟨current, config, hbuilt⟩ := hconfigures
      refine ⟨holding (copies .vpa identity (writtenName identity.name "-vpa") current.spec) [],
        mem_bind_of_run (run_readPolicy hconfig (find?_sampleObject _ _ _ _ _ _)) ?_⟩
      have hbuilt' : buildVpaConfig (some (mergedVpa body.vpa (sampleObject vpaApiVersion vpaKind
          identity.namespace identity.name current.spec))) = .ok config := hbuilt
      simp only [replaceCurrent, AutoscalingType.apiVersion, AutoscalingType.kind, hbuilt',
        Async.ofExcept, Async.done_bind]
      exact mem_first (fun _ => .done _) (mem_replacePolicy hconfig)

theorem resolveWorkloadApiVersion_ne (kind : String) :
    resolveWorkloadApiVersion kind ≠ hpaApiVersion ∧
      resolveWorkloadApiVersion kind ≠ vpaApiVersion := by
  unfold resolveWorkloadApiVersion
  split <;> decide

theorem writes_create {body : CreateAutoscalingPolicyRequest}
    (h : service.target actor (.create body) = some identity) (hchanges : Changes (.create body)) :
    ∃ clusters, Place.write ⟨identity.clusterId, identity.namespace⟩ ∈
      ((service.create (some actor) body).run ⟨clusters, []⟩).2.accesses := by
  obtain ⟨-, -, hconfig⟩ := target_cases h
  obtain ⟨kubeconfig, hok⟩ := eq_ok_of_isOk hconfig
  have hne := resolveWorkloadApiVersion_ne identity.kind
  rw [create_eq h]
  refine ⟨holding [sampleObject (resolveWorkloadApiVersion identity.kind) identity.kind
    identity.namespace identity.name .undefined] [],
    mem_bind_of_run (run_assertWorkloadExists hconfig (find?_sampleObject _ _ _ _ _ _)) ?_⟩
  rcases hchanges with ⟨htype, config, hbuilt⟩ | ⟨htype, config, hbuilt⟩
  · simp only [createPolicy, htype, hbuilt, Async.ofExcept, Async.done_bind]
    refine mem_first (fun _ => .done _) ?_
    rw [createHpa, hok, Async.ofExcept, Async.done_bind]
    refine mem_first (fun answer => .ofExcept _) ?_
    apply mem_createObject
    simp [sampleObject, K8sObject.isAt, hne.1]
  · simp only [createPolicy, htype, hbuilt, Async.ofExcept, Async.done_bind]
    refine mem_first (fun _ => .done _) ?_
    rw [createVpa, hok, Async.ofExcept, Async.done_bind]
    refine mem_first (fun answer => .ofExcept _) ?_
    apply mem_createObject
    simp [sampleObject, K8sObject.isAt, hne.2]

theorem writes_delete {type kind name : String} {query : ResourceQuery}
    (h : service.target actor (.delete type kind name query) = some identity) :
    ∃ clusters, Place.write ⟨identity.clusterId, identity.namespace⟩ ∈
      ((service.delete (some actor) type kind name query).run ⟨clusters, []⟩).2.accesses := by
  obtain ⟨-, -, hconfig⟩ := target_cases h
  obtain ⟨kubeconfig, hok⟩ := eq_ok_of_isOk hconfig
  obtain ⟨parsed, deleted, hrun⟩ := delete_eq h
  rw [hrun]
  refine ⟨holding [sampleObject parsed.apiVersion parsed.kind identity.namespace identity.name
    .undefined] [], mem_bind_of_run (run_readPolicy hconfig (find?_sampleObject _ _ _ _ _ _)) ?_⟩
  refine mem_first (fun _ => .done _) ?_
  cases parsed with
  | hpa =>
      rw [deleteCurrent, deleteHpa, hok]
      exact mem_first (fun answer => .ofExcept _)
        (mem_deleteObject (find?_sampleObject _ _ _ _ _ _))
  | vpa =>
      rw [deleteCurrent, deleteVpa, hok]
      exact mem_first (fun answer => .ofExcept _)
        (mem_deleteObject (find?_sampleObject _ _ _ _ _ _))

theorem writes_of_target {request : AutoscalingRequest}
    (h : service.target actor request = some identity) (hchanges : Changes request) :
    ∃ clusters, Place.write ⟨identity.clusterId, identity.namespace⟩ ∈
      ((service.serve (some actor) request).run ⟨clusters, []⟩).2.accesses := by
  cases request with
  | list query => exact hchanges.elim
  | events query => exact hchanges.elim
  | create body =>
      obtain ⟨clusters, hmem⟩ := writes_create h hchanges
      exact ⟨clusters, mem_first (fun _ => .done _) hmem⟩
  | update type kind name query body =>
      obtain ⟨clusters, hmem⟩ := writes_update h hchanges
      exact ⟨clusters, mem_first (fun _ => .done _) hmem⟩
  | setState type kind name query enabled =>
      obtain ⟨body, config, hbuilt, htarget, heq⟩ := setPolicyState_eq h
      obtain ⟨clusters, hmem⟩ := writes_update htarget ⟨.vpa, rfl, _, config, hbuilt⟩
      rw [← heq] at hmem
      exact ⟨clusters, mem_first (fun _ => .done _) hmem⟩
  | delete type kind name query =>
      obtain ⟨clusters, hmem⟩ := writes_delete h
      exact ⟨clusters, mem_first (fun _ => .done _) hmem⟩

end Targets

/-- The request stays within the caller's scope, whatever the clusters hold, just when it asks for
nothing outside it. -/
theorem respectsScope_iff_fits (service : AutoscalingService) (caller : Caller)
    (request : AutoscalingRequest) :
    service.RespectsScope caller request ↔
      service.Fits caller.actor (caller.permits false) (caller.permits true) request := by
  constructor
  · intro hrespects
    refine ⟨fun query hlist id hid hconfig name => ?_, fun identity htarget => ?_,
      fun identity htarget hchanges => ?_⟩
    · subst hlist
      obtain ⟨clusters, hmem⟩ := reads_of_listed query hid hconfig name
      exact hrespects.accesses clusters (Place.read ⟨id, name⟩) hmem
    · obtain ⟨clusters, hmem⟩ := reads_of_target htarget
      exact hrespects.accesses clusters (Place.read _) hmem
    · obtain ⟨clusters, hmem⟩ := writes_of_target htarget hchanges
      exact hrespects.accesses clusters (Place.write _) hmem
  · intro hfits
    have hconfined := confined_serve hfits
    refine ⟨fun clusters a ha => ?_, fun clusters clusters' hagree =>
      (hconfined.answers ⟨clusters, []⟩ ⟨clusters', []⟩ hagree).1⟩
    obtain ⟨more, hmore, hmay⟩ := hconfined.accesses ⟨clusters, []⟩
    rw [hmore, List.nil_append] at ha
    have hallowed := hmay a ha
    simp only [scopePolicy] at hallowed
    cases hwrite : a.isWrite with
    | true => simpa [hwrite] using hallowed
    | false => simpa [hwrite] using hallowed

end AutoscalingService

def teamGrant : Grant where
  id := "grant"
  userId := some "user"
  groupId := none
  clusterId := "cluster"
  role := "operator"
  state := "active"
  validFrom := 0
  expiresAt := none
  revokedAt := none
  namespaces := [⟨"uid", "team"⟩]
  capabilities := []
  exactlyOnePrincipal := Bool.false_ne_true
  groupId_ne_empty := Option.not_mem_none ""

def teamOperator : Caller where
  actor := ⟨some "user", some "name", some "operator"⟩
  tables :=
    { directory :=
        { users := []
          groupActive := fun _ => true
          memberships := []
          clusters := fun _ => some ⟨none, "active"⟩
          grants := [teamGrant] }
      bindings := [] }
  readNamespace := fun _ _ => some "uid"
  now := 0

def plainError : ApiError := ⟨none, none, none, "", none, none, ""⟩

def sampleService : AutoscalingService where
  now := 0
  listReadableClusterIdsForResourceRead := ["cluster"]
  clusters := []
  assertClusterOnlineForRead := fun _ => .ok ()
  kubeconfigOf := fun _ => some "kubeconfig"
  localeCompare := fun _ _ => 0
  missing := plainError
  alreadyExists := plainError
  conflict := plainError
  newUid := ""

/-- `GET api/autoscaling/policies` without any filter. -/
def unfiltered : AutoscalingService.AutoscalingListQuery :=
  ⟨none, none, none, none, none, none, 0, 0, none, none⟩

/-- The operator may read its own namespace, and has the policies of another one read. -/
theorem unfiltered_leaves_scope :
    teamOperator.subject.isPlatformAdmin = false ∧
      teamOperator.permits false ⟨"cluster", "team"⟩ = true ∧
      ¬sampleService.RespectsScope teamOperator (.list unfiltered) := by
  refine ⟨by decide +kernel, by decide +kernel, fun h => ?_⟩
  have hid : "cluster" ∈ sampleService.resolveClusterIds
      (AutoscalingService.passedOn unfiltered).clusterId := by decide +kernel
  obtain ⟨clusters, hread⟩ :=
    @AutoscalingService.reads_of_listed _ _ teamOperator.actor unfiltered hid rfl "other"
  have hpermitted := h.accesses clusters (Place.read ⟨"cluster", "other"⟩) hread
  have hrefused : teamOperator.permits false ⟨"cluster", "other"⟩ = false := by decide +kernel
  exact Bool.false_ne_true (hrefused.symm.trans hpermitted)

end KubeNova.Autoscaling
