import KubeNova.Native.Rbac

/-!
# The gateway's decisions

`authorizeNativeRequest` for one request, and `nativeDiscovery` for the catalogue of
resources a Kubernetes client sees.
-/

namespace KubeNova.Native

open KubeNova.Foundation KubeNova.Common KubeNova.Access

structure NativeActor where
  userId : String
  authzVersion : Nat
  expiresAt : Nat
  deriving Repr, DecidableEq

structure NativeDecision where
  request : NativeRequest
  clusterId : String
  namespaceUid : String
  userId : String
  authzVersion : Nat
  grantIds : List String
  expiresAt : Nat
  deriving Repr, DecidableEq

/-- `Math.min` of the actor's expiry and those of the grants. -/
def nativeExpiry (actor : NativeActor) (grants : List Grant) : Nat :=
  grants.foldl (fun best grant => min best (grant.expiresAt.getD best)) actor.expiresAt

/-- Called only with a freshly authenticated actor and a server-resolved cluster.  The
clock is read twice, `now` and `later`. -/
def authorizeNativeRequest (d : Directory) (readNamespace : String → String → Option String)
    (actor : NativeActor) (clusterId method target : String) (now later : Nat) :
    Except Exception NativeDecision := do
  let request ← classifyNativeRequest method target
  if actor.userId = "" ∨ clusterId = "" ∨ actor.expiresAt ≤ now then
    .error (.forbidden "Native access denied")
  else
    let candidates := (d.listEffectiveGrants actor.userId now (some clusterId)).filter fun grant =>
      grant.clusterId == clusterId && grant.hasCapability .kubeconfig &&
        request.capability.all grant.hasCapability
    if candidates = [] then .error (.forbidden "Native access denied")
    else do
      let namespaceUid ← resolveNamespace readNamespace clusterId request.namespaceName
      let matching := candidates.filter fun grant =>
        grant.namespaces.any fun scope => scope.namespaceUid == namespaceUid
      if namespaceUid = "" ∨ matching = [] then .error (.forbidden "Native access denied")
      else if nativeExpiry actor matching ≤ later then .error (.forbidden "Native access expired")
      else return ⟨request, clusterId, namespaceUid, actor.userId, actor.authzVersion,
        matching.map (·.id), nativeExpiry actor matching⟩

/-! ## Discovery -/

/-- A row of the cluster's discovery inventory.  `verbs` are the strings of `verbsJson`,
nothing where it is not an array. -/
structure CapabilityRow where
  group : String
  version : String
  kind : String
  resource : String
  namespaced : Bool
  verbs : Option (List String)
  deriving Repr, DecidableEq

structure DiscoveryResource where
  name : String
  singularName : String
  namespaced : Bool
  kind : String
  verbs : List String
  deriving Repr, DecidableEq

structure GroupVersion where
  groupVersion : String
  version : String
  deriving Repr, DecidableEq

structure DiscoveryGroup where
  name : String
  versions : List GroupVersion
  preferredVersion : Option GroupVersion
  deriving Repr, DecidableEq

inductive DiscoveryDocument where
  | apiVersions (versions : List String)
  | apiGroupList (groups : List DiscoveryGroup)
  | apiGroup (group : DiscoveryGroup)
  | apiResourceList (groupVersion : String) (resources : List DiscoveryResource)
  deriving Repr, DecidableEq

def isDiscoveryPath (pathname : List Char) : Bool :=
  match pathname.splitOn '/' with
  | [[], ['a', 'p', 'i']] => true
  | [[], ['a', 'p', 'i'], ['v', '1']] => true
  | [[], ['a', 'p', 'i', 's']] => true
  | [[], ['a', 'p', 'i', 's'], group] => isApiGroup group
  | [[], ['a', 'p', 'i', 's'], group, version] => isApiGroup group && isApiVersion version
  | _ => false

/-- `^\d+(?:\.\d+)?(?:ms|s|m|h)$`. -/
def isDuration (text : List Char) : Bool :=
  let units : List (List Char) := [['m', 's'], ['s'], ['m'], ['h']]
  let rest := text.dropWhile Text.isDigit
  isDigits (text.takeWhile Text.isDigit) && (units.contains rest || match rest with
    | '.' :: fraction => isDigits (fraction.takeWhile Text.isDigit) &&
        units.contains (fraction.dropWhile Text.isDigit)
    | _ => false)

def isNativeDiscoveryTarget (target : String) : Bool :=
  let chars := target.toList
  if 2048 < Text.length target ∨
      chars.any (fun c => Text.isSpace c || c == '#' || c == '\\') = true then false
  else match chars.splitOn '?' with
    | [pathname] => isDiscoveryPath pathname
    | [pathname, query] => isDiscoveryPath pathname && match searchParams query with
        | [(name, value)] => name == utf8 "timeout" &&
            isDuration (value.map fun byte => Char.ofNat byte.toNat)
        | _ => false
    | _ => false

/-- `row.group ? /apis/<group>/<version> : /api/<version>`. -/
def CapabilityRow.api (row : CapabilityRow) : String :=
  if row.group = "" then "/api/" ++ row.version else "/apis/" ++ row.group ++ "/" ++ row.version

def discoveryResource (capabilities : List String) (row : CapabilityRow) : Option DiscoveryResource :=
  if row.namespaced = false ∨ (readResources row.api).contains row.resource = false ∨
      (row.resource = "secrets" ∧ capabilities.contains "secrets" = false) then none
  else
    let verbs := ["get", "list", "watch"].filter fun verb => row.verbs.any (·.contains verb)
    if verbs = [] then none else some ⟨row.resource, "", true, row.kind, verbs⟩

abbrev ApiMap := List (String × List DiscoveryResource)

/-- `apis.set(api, [...(apis.get(api) ?? []), resource])`. -/
def addResource (api : String) (resource : DiscoveryResource) : ApiMap → ApiMap
  | [] => [(api, [resource])]
  | (key, resources) :: rest =>
      if key = api then (key, resources ++ [resource]) :: rest
      else (key, resources) :: addResource api resource rest

def addRow (capabilities : List String) (apis : ApiMap) (row : CapabilityRow) : ApiMap :=
  match discoveryResource capabilities row with
  | some resource => addResource row.api resource apis
  | none => apis

def collectApis (capabilities : List String) (rows : List CapabilityRow) : ApiMap :=
  rows.foldl (addRow capabilities) []

def sortStrings (xs : List String) : List String := xs.mergeSort fun a b => decide (a ≤ b)

def sliceFrom (n : Nat) (api : String) : String := String.ofList (api.toList.drop n)

def discoveryGroups (apis : ApiMap) : List DiscoveryGroup :=
  let keys := apis.map (·.1)
  let groupKeys := keys.filter (Text.startsWith "/apis/")
  (sortStrings (groupKeys.map apiGroup).dedup).map fun name =>
    let versions := (sortStrings (keys.filter (Text.startsWith ("/apis/" ++ name ++ "/")))).map
      fun api => (⟨sliceFrom 6 api, ((Text.split '/' api)[3]?).getD ""⟩ : GroupVersion)
    ⟨name, versions, versions.head?⟩

def sortResources (resources : List DiscoveryResource) : List DiscoveryResource :=
  resources.mergeSort fun a b => decide (a.name ≤ b.name)

/-- Uses the cluster discovery inventory, intersected with the implemented gateway surface. -/
def nativeDiscovery (target : String) (rows : List CapabilityRow) (capabilities : List String) :
    Except Exception DiscoveryDocument :=
  if isNativeDiscoveryTarget target = false then .error (.notFound "Unsupported discovery path")
  else
    let target := String.ofList (target.toList.takeWhile (· ≠ '?'))
    let apis := collectApis capabilities rows
    let groups := discoveryGroups apis
    if target = "/api" then
      .ok (.apiVersions (if (apis.lookup "/api/v1").isSome then ["v1"] else []))
    else if target = "/apis" then .ok (.apiGroupList groups)
    else match groups.find? fun group => target = "/apis/" ++ group.name with
      | some group => .ok (.apiGroup group)
      | none => match apis.lookup target with
          | none => .error (.notFound "Unsupported discovery API")
          | some resources =>
              .ok (.apiResourceList
                (if Text.startsWith "/apis/" target then sliceFrom 6 target else sliceFrom 5 target)
                (sortResources resources))

/-- Everything in the map is in the gateway's table, with read verbs only. -/
def ApiMap.Served (apis : ApiMap) : Prop :=
  ∀ entry ∈ apis, ∀ resource ∈ entry.2, resource.name ∈ readResources entry.1 ∧
    resource.verbs ⊆ ["get", "list", "watch"]

theorem ApiMap.Served.addResource {apis : ApiMap} (h : apis.Served) {api : String}
    {resource : DiscoveryResource} (hname : resource.name ∈ readResources api)
    (hverbs : resource.verbs ⊆ ["get", "list", "watch"]) :
    ApiMap.Served (Native.addResource api resource apis) := by
  induction apis with
  | nil =>
      intro entry hentry r hr
      obtain rfl : entry = (api, [resource]) := by simpa [Native.addResource] using hentry
      obtain rfl : r = resource := by simpa using hr
      exact ⟨hname, hverbs⟩
  | cons head rest ih =>
      have hrest : ApiMap.Served rest := fun entry hentry => h entry (by simp [hentry])
      obtain ⟨key, resources⟩ := head
      simp only [Native.addResource]
      split
      · rename_i hkey
        subst hkey
        intro entry hentry r hr
        rcases List.mem_cons.mp hentry with rfl | hentry
        · rcases List.mem_append.mp hr with hr | hr
          · exact h (key, resources) (by simp) r hr
          · obtain rfl : r = resource := by simpa using hr
            exact ⟨hname, hverbs⟩
        · exact hrest entry hentry r hr
      · intro entry hentry r hr
        rcases List.mem_cons.mp hentry with rfl | hentry
        · exact h (key, resources) (by simp) r hr
        · exact ih hrest entry hentry r hr

theorem discoveryResource_eq_some {capabilities : List String} {row : CapabilityRow}
    {resource : DiscoveryResource} (h : discoveryResource capabilities row = some resource) :
    resource.name ∈ readResources row.api ∧ resource.verbs ⊆ ["get", "list", "watch"] := by
  unfold discoveryResource at h
  split at h
  · simp at h
  rename_i hguard
  push Not at hguard
  dsimp only at h
  split at h
  · simp at h
  obtain rfl := Option.some.inj h
  exact ⟨by simpa using hguard.2.1, List.filter_sublist.subset⟩

theorem served_collectApis (capabilities : List String) (rows : List CapabilityRow) :
    ApiMap.Served (collectApis capabilities rows) := by
  suffices ∀ apis : ApiMap, apis.Served → ApiMap.Served (rows.foldl (addRow capabilities) apis) from
    this [] (by simp [ApiMap.Served])
  induction rows with
  | nil => exact fun apis h => h
  | cons row rows ih =>
      intro apis h
      refine ih _ ?_
      unfold addRow
      split
      · rename_i resource hres
        obtain ⟨hname, hverbs⟩ := discoveryResource_eq_some hres
        exact h.addResource hname hverbs
      · exact h

/-- A resource list names an API of the gateway's table, and its resources and verbs are
those of the table. -/
theorem nativeDiscovery_eq_resourceList {target groupVersion : String}
    {rows : List CapabilityRow} {capabilities : List String} {resources : List DiscoveryResource}
    (h : nativeDiscovery target rows capabilities = .ok (.apiResourceList groupVersion resources)) :
    ∃ api, groupVersion = (if Text.startsWith "/apis/" api then sliceFrom 6 api else sliceFrom 5 api) ∧
      ∀ resource ∈ resources, resource.name ∈ readResources api ∧
        resource.verbs ⊆ ["get", "list", "watch"] := by
  unfold nativeDiscovery at h
  split at h
  · simp at h
  dsimp only at h
  split at h
  · simp at h
  split at h
  · simp at h
  split at h
  · simp at h
  split at h
  · simp at h
  rename_i listed hlookup
  simp only [Except.ok.injEq, DiscoveryDocument.apiResourceList.injEq] at h
  obtain ⟨hversion, hresources⟩ := h
  refine ⟨_, hversion.symm, fun resource hresource => ?_⟩
  rw [← hresources, sortResources, List.mem_mergeSort] at hresource
  exact served_collectApis capabilities rows _ (mem_of_lookup hlookup) resource hresource

end KubeNova.Native
