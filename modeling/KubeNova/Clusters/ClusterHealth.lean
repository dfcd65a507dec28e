import KubeNova.Foundation.Pages
import KubeNova.Foundation.Text
import Mathlib.Data.List.Sort
import Mathlib.Data.String.Basic

/-!
# The health of the clusters

`ClusterHealthService.listClusterHealth` takes a page of the clusters from `ClustersRepository.list`,
adds what is known of their health, and filters the page by the runtime status.
-/

namespace KubeNova.Clusters.Health

open KubeNova.Foundation

inductive ClusterState where
  | active
  | disabled
  | deleted
  deriving Repr, DecidableEq

def ClusterState.text : ClusterState → String
  | active => "active"
  | disabled => "disabled"
  | deleted => "deleted"

structure ClusterMetadata where
  environment : Option String
  provider : Option String
  status : Option String
  state : Option String
  kubeconfig : Option String

structure ClusterRow where
  id : String
  name : String
  status : String
  metadata : ClusterMetadata
  deletedAt : Option Int
  createdAt : Int
  updatedAt : Int
  /-- The status in the health snapshot of the cluster, as it is stored. -/
  snapshotStatus : Option String

structure ClusterRecord where
  id : String
  name : String
  environment : String
  provider : String
  status : String
  state : ClusterState
  kubeconfig : Option String

def parseState (value : String) : ClusterState :=
  if value = "disabled" then .disabled else if value = "deleted" then .deleted else .active

def toRecord (row : ClusterRow) : ClusterRecord :=
  let state := if row.deletedAt.isSome then .deleted
    else parseState (row.metadata.state.getD row.status)
  { id := row.id
    name := row.name
    environment := row.metadata.environment.getD "本地"
    provider := row.metadata.provider.getD "unknown"
    status := row.metadata.status.getD (match state with
      | .deleted => "已删除"
      | .disabled => "维护"
      | .active => "正常")
    state := state
    kubeconfig := row.metadata.kubeconfig }

def ClusterRecord.hasKubeconfig (record : ClusterRecord) : Bool := record.kubeconfig.any (· ≠ "")

/-! ## Listing the registry -/

structure ClusterListParams where
  keyword : Option String
  provider : Option String
  state : Option ClusterState
  environment : Option String
  status : Option String
  sortBy : Option String
  ascending : Bool
  page : Nat
  pageSize : Nat
  /-- Nothing means unrestricted access. -/
  accessibleClusterIds : Option (List String)

structure ClusterListResult where
  items : List ClusterRecord
  total : Nat
  page : Nat
  pageSize : Nat

/-- How texts are compared and searched: `toLowerCase`, the `localeCompare` of names in the memory
sort, the plain `localeCompare`, and the database's search for a keyword in a name. -/
structure Texts where
  lower : String → String
  nameCompare : String → String → Int
  localeCompare : String → String → Int
  nameContains : String → String → Bool

variable (texts : Texts)

/-- The `WHERE` of the listing. -/
def ClusterListParams.whereClause (params : ClusterListParams) (row : ClusterRow) : Bool :=
  params.accessibleClusterIds.all (·.contains row.id) &&
    (match params.state with
      | some .deleted => row.deletedAt.isSome || row.status == "deleted"
      | some state => row.deletedAt.isNone && row.status == state.text
      | none => row.deletedAt.isNone && row.status != "deleted") &&
    params.keyword.all fun keyword => texts.nameContains row.name keyword

/-- `resolveOrderBy`: the first row does not come after the second. -/
def resolveOrderBy (params : ClusterListParams) (left right : ClusterRow) : Prop :=
  if params.sortBy = some "name" then
    if left.name = right.name then left.id ≤ right.id
    else if params.ascending then left.name ≤ right.name else right.name ≤ left.name
  else if params.sortBy = some "provider" ∨ params.sortBy = some "environment" then
    if left.name = right.name then left.id ≤ right.id else left.name ≤ right.name
  else if params.sortBy = some "updatedAt" then
    if left.updatedAt = right.updatedAt then left.id ≤ right.id
    else if params.ascending then left.updatedAt ≤ right.updatedAt
    else right.updatedAt ≤ left.updatedAt
  else if left.createdAt = right.createdAt then left.id ≤ right.id
  else if params.sortBy = some "createdAt" ∧ params.ascending = true then
    left.createdAt ≤ right.createdAt
  else right.createdAt ≤ left.createdAt

instance (params : ClusterListParams) : DecidableRel (resolveOrderBy params) := fun _ _ => by
  unfold resolveOrderBy
  infer_instance

def ClusterListParams.found (params : ClusterListParams) (rows : List ClusterRow) :
    List ClusterRow :=
  (rows.filter (params.whereClause texts)).insertionSort (resolveOrderBy params)

def ClusterListParams.sortsByRuntime (params : ClusterListParams) : Bool :=
  params.sortBy == some "runtimeStatus"

def ClusterListParams.keeps (params : ClusterListParams) (record : ClusterRecord) : Bool :=
  params.provider.all (record.provider == ·) && params.environment.all (record.environment == ·) &&
    params.status.all (record.status == ·) &&
    (params.keyword.map fun keyword => texts.lower (Text.trim keyword)).all fun keyword =>
      keyword == "" || [record.id, record.name, record.provider].any fun text =>
        Text.contains keyword (texts.lower text)

def rank (record : ClusterRecord) (snapshotStatus : Option String) : Nat :=
  if record.state = .disabled then 3
  else match snapshotStatus with
    | some "running" => 0
    | some "checking" => 1
    | some "offline-mode" => 2
    | some "disabled" => 3
    | some "offline" => 4
    | _ => if record.hasKubeconfig then 1 else 2

def runtimeOrder (left right : ClusterRow) : Prop :=
  let leftRank := rank (toRecord left) left.snapshotStatus
  let rightRank := rank (toRecord right) right.snapshotStatus
  if leftRank ≠ rightRank then leftRank ≤ rightRank
  else if texts.nameCompare left.name right.name ≠ 0 then
    texts.nameCompare left.name right.name ≤ 0
  else texts.localeCompare left.id right.id ≤ 0

instance : DecidableRel (runtimeOrder texts) := fun _ _ => by
  unfold runtimeOrder
  infer_instance

def ClusterListParams.needsMemoryFilter (params : ClusterListParams) : Bool :=
  params.provider.isSome || params.environment.isSome || params.status.isSome ||
    params.sortsByRuntime

def ClusterListParams.listed (params : ClusterListParams) (rows : List ClusterRow) :
    List ClusterRow :=
  if params.needsMemoryFilter then
    let filtered := (params.found texts rows).filter fun row => params.keeps texts (toRecord row)
    if params.sortsByRuntime then filtered.insertionSort (runtimeOrder texts) else filtered
  else params.found texts rows

/-- `ClustersRepository.list` -/
def repositoryList (params : ClusterListParams) (rows : List ClusterRow) : ClusterListResult where
  items := (pageOf params.pageSize params.page (params.listed texts rows)).map toRecord
  total := (params.listed texts rows).length
  page := params.page
  pageSize := params.pageSize

/-! ## Health -/

inductive RuntimeStatus where
  | running
  | offline
  | checking
  | disabled
  | offlineMode
  deriving Repr, DecidableEq

def RuntimeStatus.text : RuntimeStatus → String
  | running => "running"
  | offline => "offline"
  | checking => "checking"
  | disabled => "disabled"
  | offlineMode => "offline-mode"

/-- A row of `ClusterHealthSnapshot`. -/
structure HealthSnapshot where
  ok : Bool
  checkedAt : Int
  latencyMs : Option Int
  reason : Option String
  source : String

structure HealthState where
  clusters : List ClusterRow
  snapshots : String → Option HealthSnapshot
  inFlight : List String
  now : Int

structure ClusterHealthListQuery where
  keyword : Option String
  provider : Option String
  environment : Option String
  lifecycleState : Option ClusterState
  runtimeStatus : Option RuntimeStatus
  /-- `Number.parseInt(query.page, 10)`, nothing where it is no number. -/
  page : Option Int
  pageSize : Option Int
  sortBy : Option String
  ascending : Bool

structure ClusterHealthListItem where
  clusterId : String
  clusterName : String
  lifecycleState : ClusterState
  runtimeStatus : RuntimeStatus
  ok : Option Bool
  latencyMs : Option Int
  checkedAt : Option Int
  reason : Option String
  source : Option String
  isStale : Bool

structure ClusterHealthListResponse where
  items : List ClusterHealthListItem
  page : Nat
  pageSize : Nat
  total : Nat

def parsePositiveInt (value : Option Int) (fallback : Nat) : Nat :=
  match value with
  | some n => if n ≤ 0 then fallback else n.toNat
  | none => fallback

/-- `value?.trim() || undefined` -/
def trimmed (value : Option String) : Option String :=
  (value.map Text.trim).filter (· ≠ "")

def resolveRuntimeStatus (state : ClusterState) (hasKubeconfig : Bool)
    (snapshot : Option HealthSnapshot) (isProbing : Bool) : RuntimeStatus :=
  if state = .disabled then .disabled
  else if hasKubeconfig = false then .offlineMode
  else if isProbing then .checking
  else match snapshot with
    | none => .checking
    | some snapshot => if snapshot.ok then .running else .offline

def freshnessWindowMs : Int := 90000

def normalizeSource (value : String) : String :=
  if ["auto", "manual", "event"].contains value then value else "manual"

def healthItem (s : HealthState) (cluster : ClusterRecord) : ClusterHealthListItem where
  clusterId := cluster.id
  clusterName := cluster.name
  lifecycleState := cluster.state
  runtimeStatus := resolveRuntimeStatus cluster.state cluster.hasKubeconfig
    (s.snapshots cluster.id) (s.inFlight.contains cluster.id)
  ok := (s.snapshots cluster.id).map (·.ok)
  latencyMs := (s.snapshots cluster.id).bind (·.latencyMs)
  checkedAt := (s.snapshots cluster.id).map (·.checkedAt)
  reason := ((s.snapshots cluster.id).map (·.reason)).getD (some "等待首个探测结果")
  source := (s.snapshots cluster.id).map fun snapshot => normalizeSource snapshot.source
  isStale := (s.snapshots cluster.id).all fun snapshot =>
    decide (freshnessWindowMs < s.now - snapshot.checkedAt)

/-- The comparison of `sortHealthItems`. -/
def compareItems (sortBy : Option String) (ascending : Bool)
    (left right : ClusterHealthListItem) : Int :=
  let direction : Int := if ascending then 1 else -1
  let field := Text.trim (sortBy.getD "")
  let names := texts.localeCompare left.clusterName right.clusterName
  let statuses := texts.localeCompare left.runtimeStatus.text right.runtimeStatus.text
  let times := left.checkedAt.getD 0 - right.checkedAt.getD 0
  let latencies := left.latencyMs.getD (2 ^ 53 - 1) - right.latencyMs.getD (2 ^ 53 - 1)
  if (field = "clusterName" ∨ field = "name") ∧ names ≠ 0 then names * direction
  else if field = "runtimeStatus" ∧ statuses ≠ 0 then statuses * direction
  else if (field = "checkedAt" ∨ field = "updatedAt") ∧ times ≠ 0 then times * direction
  else if field = "latencyMs" ∧ latencies ≠ 0 then latencies * direction
  else names

def sortHealthItems (sortBy : Option String) (ascending : Bool)
    (items : List ClusterHealthListItem) : List ClusterHealthListItem :=
  items.insertionSort fun left right => compareItems texts sortBy ascending left right ≤ 0

def ClusterHealthListQuery.params (query : ClusterHealthListQuery)
    (accessibleClusterIds : Option (List String)) : ClusterListParams where
  keyword := trimmed query.keyword
  provider := trimmed query.provider
  state := query.lifecycleState
  environment := trimmed query.environment
  status := none
  sortBy := trimmed query.sortBy
  ascending := query.ascending
  page := parsePositiveInt query.page 1
  pageSize := parsePositiveInt query.pageSize 10
  accessibleClusterIds := accessibleClusterIds

def listClusterHealth (s : HealthState) (query : ClusterHealthListQuery)
    (accessibleClusterIds : Option (List String)) : ClusterHealthListResponse :=
  let list := repositoryList texts (query.params accessibleClusterIds) s.clusters
  let filteredItems := (list.items.map (healthItem s)).filter fun item =>
    query.runtimeStatus.all (item.runtimeStatus == ·)
  let items := sortHealthItems texts query.sortBy query.ascending filteredItems
  { items := items, page := list.page, pageSize := list.pageSize, total := items.length }

def selectableQuery : ClusterHealthListQuery where
  keyword := none
  provider := none
  environment := none
  lifecycleState := some .active
  runtimeStatus := some .running
  page := some 1
  pageSize := some 500
  sortBy := none
  ascending := false

def listSelectableClusterIdsForResourceRead (s : HealthState) : List String :=
  (listClusterHealth texts s selectableQuery none).items.map (·.clusterId)

end KubeNova.Clusters.Health
