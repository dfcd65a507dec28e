import KubeNova.Workloads.WorkloadCreation
import KubeNova.Workloads.WorkspaceRequest

/-!
# The validation of a workspace request

`validateWorkspaceNormalized` collects an issue for everything that is missing, unreadable or out of
range, and for everything the request names that does not exist.
-/

namespace KubeNova.Workloads.Workspace

open KubeNova.Foundation

structure Issue where
  step : String
  fieldPath : String
  message : String
  code : String
  deriving DecidableEq

def workspaceIssue (step fieldPath message : String) : Issue :=
  ⟨step, fieldPath, message, "VALIDATION_ERROR"⟩

/-- `if (condition) errors.push(issue)` -/
def issueIf (condition : Bool) (issue : Issue) : List Issue := if condition then [issue] else []

/-- What the validation looks up: the registry, the stored workloads and storage resources, and the
definitions the cluster has.  `parse` is `JSON.parse`, with the message of what it throws. -/
structure Lookups where
  availableCluster : String → Bool
  existingWorkload : String → String → String → String → Bool
  scopedPvc : String → String → String → Bool
  clusterStorage : String → String → String → Bool
  kubeconfig : String → Option String
  definitionNames : String → Except String (List String)
  parse : String → Except String Js

def numericIssues (name field : String) (min max : Nat) (value : NumberField) : List Issue :=
  let issue (message : String) := workspaceIssue "advanced" ("probes." ++ name ++ "." ++ field)
    (name ++ " 探针 " ++ field ++ message)
  match value with
  | .unset => []
  | value =>
      match value.int? with
      | none => [issue (" 必须为不小于 " ++ toString min ++ " 的整数")]
      | some n =>
          if n < min then [issue (" 必须为不小于 " ++ toString min ++ " 的整数")]
          else if max < n then
            [issue (" 必须在 " ++ toString min ++ "-" ++ toString max ++ " 范围内")]
          else []

def portIssues (name : String) (probe : Probe) : List Issue :=
  issueIf (!isValidProbePort probe.port)
    (workspaceIssue "advanced" ("probes." ++ name ++ ".port") (name ++ " 探针需填写合法端口（1-65535）"))

def handlerIssues (name : String) (probe : Probe) : List Issue :=
  let type := probe.type.getD "httpGet"
  if type = "httpGet" then
    issueIf (probe.path.all (· == ""))
      (workspaceIssue "advanced" ("probes." ++ name ++ ".path") (name ++ " 探针需填写 Path")) ++
      portIssues name probe
  else if type = "tcpSocket" then portIssues name probe
  else if type = "exec" then
    issueIf (toWorkspaceTokens probe.command).isNone
      (workspaceIssue "advanced" ("probes." ++ name ++ ".command") (name ++ " 探针需填写命令"))
  else []

def periodIssues (name : String) (probe : Probe) : List Issue :=
  match probe.timeoutSeconds.int?, probe.periodSeconds.int? with
  | some timeout, some period =>
      issueIf (decide (period < timeout))
        (workspaceIssue "advanced" ("probes." ++ name ++ ".timeoutSeconds")
          (name ++ " 探针 timeoutSeconds 不能大于 periodSeconds"))
  | _, _ => []

def probeIssues (name : String) : Option Probe → List Issue
  | none => []
  | some probe =>
      if !probe.enabled then []
      else
        handlerIssues name probe ++
          (numericIssues name "initialDelaySeconds" 0 3600 probe.initialDelaySeconds ++
            (numericIssues name "periodSeconds" 1 3600 probe.periodSeconds ++
              (numericIssues name "timeoutSeconds" 1 3600 probe.timeoutSeconds ++
                (numericIssues name "successThreshold" 1 300 probe.successThreshold ++
                  numericIssues name "failureThreshold" 1 300 probe.failureThreshold)))) ++
          periodIssues name probe

def validateWorkspaceProbes : Option Probes → List Issue
  | none => []
  | some probes =>
      probeIssues "liveness" probes.liveness ++
        (probeIssues "readiness" probes.readiness ++ probeIssues "startup" probes.startup)

/-- `value?.trim()`, where an empty text counts as none. -/
def schedulingText (input : WorkspaceRequest) (field : Scheduling → Option String) : Option String :=
  trim (input.scheduling.bind field)

def selectorIssues (input : WorkspaceRequest) : List Issue :=
  match schedulingText input (·.nodeSelector) with
  | none => []
  | some raw =>
      match parseNodeSelector raw with
      | .ok _ => []
      | .error message => [workspaceIssue "advanced" "scheduling.nodeSelector" message]

/-- The checks of a text of JSON: it is readable, and what it says is of the kind asked for. -/
def jsonIssues (lookups : Lookups) (raw : Option String) (field kindName : String)
    (isKind : Js → Bool) : List Issue :=
  match raw with
  | none => []
  | some raw =>
      match parseJsonValue lookups.parse raw field with
      | .error message => [workspaceIssue "advanced" ("scheduling." ++ field) message]
      | .ok value =>
          issueIf (!isKind value)
            (workspaceIssue "advanced" ("scheduling." ++ field) (field ++ " 必须为 JSON " ++ kindName))

def isArray (value : Js) : Bool := value.elements?.isSome

def schedulingIssues (lookups : Lookups) (input : WorkspaceRequest) : List Issue :=
  selectorIssues input ++
    (jsonIssues lookups (schedulingText input (·.tolerations)) "tolerations" "数组" isArray ++
      jsonIssues lookups (schedulingText input (·.affinity)) "affinity" "对象"
        fun value => value.isComposite && !isArray value)

def basicIssues (input : WorkspaceRequest) : List Issue :=
  issueIf input.clusterId.isNone (workspaceIssue "basic" "clusterId" "请选择集群") ++
    (issueIf input.ns.isNone (workspaceIssue "basic" "namespace" "请输入名称空间") ++
      (issueIf input.kind.isNone (workspaceIssue "basic" "kind" "请选择资源类型") ++
        (issueIf input.name.isNone (workspaceIssue "basic" "name" "请输入名称") ++
          issueIf input.image.isNone (workspaceIssue "image" "image" "请输入主容器镜像"))))

def placeIssues (lookups : Lookups) (input : WorkspaceRequest) : List Issue :=
  match input.clusterId, input.ns, input.kind, input.name with
  | some clusterId, some ns, some kind, some name =>
      issueIf (!lookups.availableCluster clusterId)
        (workspaceIssue "basic" "clusterId" "所选集群不可用，请重新选择") ++
        issueIf (lookups.existingWorkload clusterId ns (normalizeKind kind) name)
          (workspaceIssue "basic" "name" (kind ++ " " ++ ns ++ "/" ++ name ++ " 已存在"))
  | _, _, _, _ => []

def existingPvcIssues (lookups : Lookups) (input : WorkspaceRequest) (mount : StorageMount) :
    List Issue :=
  match mount.existingPvcName with
  | none => [workspaceIssue "storage" "pvcMount.existingPvcName" "请选择已有 PVC"]
  | some pvc =>
      match input.clusterId, input.ns with
      | some clusterId, some ns =>
          issueIf (!lookups.scopedPvc clusterId ns pvc)
            (workspaceIssue "storage" "pvcMount.existingPvcName"
              ("在集群 " ++ clusterId ++ " / 名称空间 " ++ ns ++ " 中未找到 PVC " ++ pvc ++
                "，请刷新后重选"))
      | _, _ => []

/-- The checks of a volume or a storage class, which are looked up in the cluster. -/
def clusterStorageIssues (lookups : Lookups) (input : WorkspaceRequest) (resource : Option String)
    (kind field missing noun : String) : List Issue :=
  match resource with
  | none => [workspaceIssue "storage" field missing]
  | some resource =>
      match input.clusterId with
      | some clusterId =>
          issueIf (!lookups.clusterStorage clusterId kind resource)
            (workspaceIssue "storage" field
              ("在集群 " ++ clusterId ++ " 中未找到 " ++ noun ++ " " ++ resource ++ "，请刷新后重选"))
      | none => []

def existingPvIssues (lookups : Lookups) (input : WorkspaceRequest) (mount : StorageMount) :
    List Issue :=
  clusterStorageIssues lookups input mount.existingPvName "PV" "pvcMount.existingPvName"
    "请选择已有 PV" "PV"

def existingStorageClassIssues (lookups : Lookups) (input : WorkspaceRequest)
    (mount : StorageMount) : List Issue :=
  clusterStorageIssues lookups input mount.existingStorageClassName "SC"
    "pvcMount.existingStorageClassName" "请选择 StorageClass" "StorageClass"

def sourceTypeOf (mount : StorageMount) : String := mount.storageSourceType.getD "PVC"

def sourceIssues (lookups : Lookups) (input : WorkspaceRequest) (mount : StorageMount) :
    List Issue :=
  if mount.useExistingPvc then
    if sourceTypeOf mount = "PVC" then existingPvcIssues lookups input mount
    else if sourceTypeOf mount = "PV" then existingPvIssues lookups input mount
    else existingStorageClassIssues lookups input mount
  else
    issueIf mount.newPvcName.isNone
      (workspaceIssue "storage" "pvcMount.newPvcName" "请输入新 PVC 名称")

def storageIssues (lookups : Lookups) (input : WorkspaceRequest) : List Issue :=
  if !input.mountPvc then []
  else
    issueIf (input.pvcMount.bind (·.mountPath)).isNone
      (workspaceIssue "storage" "pvcMount.mountPath" "请输入挂载路径") ++
      match input.pvcMount with
      | some mount => sourceIssues lookups input mount
      | none => [workspaceIssue "storage" "pvcMount.newPvcName" "请输入新 PVC 名称"]

def isTruthyNumber (value : Option Number) : Bool :=
  value.any fun n => n != .finite 0 && n != .nan

def serviceIssues (input : WorkspaceRequest) : List Issue :=
  if !input.createService then []
  else
    issueIf (input.service.bind (·.name)).isNone
      (workspaceIssue "network" "service.name" "请输入 Service 名称") ++
      (issueIf (!isTruthyNumber (input.service.bind (·.containerPort)))
        (workspaceIssue "network" "service.containerPort" "请输入容器端口") ++
        issueIf (!isTruthyNumber (input.service.bind (·.servicePort)))
          (workspaceIssue "network" "service.servicePort" "请输入 Service 端口"))

/-- `checkIngressRouteCapability`: what keeps the cluster from routing by Traefik. -/
def checkIngressRouteCapability (lookups : Lookups) (clusterId : String) : Option String :=
  match lookups.kubeconfig clusterId with
  | none => some "集群未配置 kubeconfig，无法验证 IngressRoute CRD，请先完成集群接入"
  | some kubeconfig =>
      match lookups.definitionNames kubeconfig with
      | .error message => some ("IngressRoute CRD 探测失败：" ++ message ++ "。请检查集群连通与权限")
      | .ok names =>
          if names.contains "ingressroutes.traefik.io" ||
              names.contains "ingressroutes.traefik.containo.us" then none
          else some ("当前集群未安装 IngressRoute CRD（ingressroutes.traefik.io），请先安装 Traefik CRD " ++
            "或切换为 Ingress 模式")

def ingressRouteIssues (lookups : Lookups) (input : WorkspaceRequest) : List Issue :=
  issueIf (input.ingressRoute.bind (·.name)).isNone
    (workspaceIssue "network" "ingressRoute.name" "请输入 IngressRoute 名称") ++
    (issueIf (input.ingressRoute.bind (·.entryPoints)).isNone
      (workspaceIssue "network" "ingressRoute.entryPoints" "请输入 entryPoints") ++
      (issueIf (input.ingressRoute.bind (·.routeMatch)).isNone
        (workspaceIssue "network" "ingressRoute.match" "请输入路由匹配表达式") ++
        ((input.clusterId.bind (checkIngressRouteCapability lookups)).map fun message =>
          { workspaceIssue "network" "networkMode" message with
            code := "INGRESSROUTE_CRD_MISSING" }).toList))

def ingressIssues (lookups : Lookups) (input : WorkspaceRequest) : List Issue :=
  if !input.createIngress then []
  else
    issueIf (!input.createService)
      (workspaceIssue "network" "createIngress" "创建 Ingress 前必须启用 Service") ++
      if input.networkMode.getD "ingress" = "ingressroute" then ingressRouteIssues lookups input
      else
        issueIf (input.ingress.bind (·.name)).isNone
          (workspaceIssue "network" "ingress.name" "请输入 Ingress 名称") ++
          issueIf (input.ingress.bind (·.host)).isNone
            (workspaceIssue "network" "ingress.host" "请输入 Ingress Host")

def initContainerIssues (items : List InitContainer) : List Issue :=
  items.zipIdx.flatMap fun entry =>
    issueIf (entry.1.name.isSome != entry.1.image.isSome)
      (workspaceIssue "init" ("initContainers." ++ toString entry.2)
        "初始化容器名称和镜像必须同时提供")

structure Validation where
  errors : List Issue
  warnings : List Issue

def Validation.valid (validation : Validation) : Bool := validation.errors.isEmpty

def validateWorkspaceNormalized (lookups : Lookups) (input : WorkspaceRequest) : Validation where
  errors :=
    basicIssues input ++
      (schedulingIssues lookups input ++
        (validateWorkspaceProbes input.probes ++
          (placeIssues lookups input ++
            (storageIssues lookups input ++
              (serviceIssues input ++
                (ingressIssues lookups input ++
                  initContainerIssues (input.initContainers.getD [])))))))
  warnings :=
    issueIf (input.clusterId.isSome && input.ns.isSome && input.kind == some "StatefulSet" &&
        !input.createService)
      (workspaceIssue "network" "createService" "StatefulSet 通常建议搭配 Service 使用")

end KubeNova.Workloads.Workspace
