import KubeNova.Topology.KubejojoGraph

/-!
# What a relation means

The type of a relation says how it is drawn, and whether it holds a workload together.
-/

namespace KubeNova.Topology

open KubeNova.Foundation

inductive KubejojoRelationDomain where
  | workload
  | network
  | storage
  | configuration
  | scope
  deriving Repr, DecidableEq

structure KubejojoRelationSemantics where
  type : KubejojoRelationType
  domain : KubejojoRelationDomain
  label : String
  stroke : String
  dashed : Bool
  deriving DecidableEq

def KubejojoRelationType.semantics (type : KubejojoRelationType) : KubejojoRelationSemantics :=
  match type with
  | .owns => ⟨type, .workload, "拥有", "#475569", false⟩
  | .selects => ⟨type, .network, "选择", "#2563eb", false⟩
  | .publishes => ⟨type, .network, "发布端点", "#0284c7", false⟩
  | .resolves => ⟨type, .network, "解析后端", "#0369a1", false⟩
  | .routesTo => ⟨type, .network, "路由至", "#0891b2", false⟩
  | .governs => ⟨type, .network, "策略约束", "#7c3aed", true⟩
  | .provisions => ⟨type, .network, "供应网关", "#0e7490", true⟩
  | .accepts => ⟨type, .network, "接纳路由", "#155e75", false⟩
  | .mounts => ⟨type, .storage, "挂载", "#059669", false⟩
  | .binds => ⟨type, .storage, "绑定", "#047857", false⟩
  | .usesStorageClass => ⟨type, .storage, "使用存储类", "#0f766e", true⟩
  | .usesConfig => ⟨type, .configuration, "使用配置", "#d97706", true⟩
  | .usesSecret => ⟨type, .configuration, "使用密钥", "#dc2626", true⟩
  | .usesServiceAccount => ⟨type, .configuration, "使用服务账号", "#9333ea", true⟩
  | .groups => ⟨type, .scope, "分组", "#94a3b8", true⟩

section Infer

variable (toLowerCase : String → String)

def inferKubejojoRelationType (role : Option KubejojoRelationRole) (label : String) :
    KubejojoRelationType :=
  let normalized := toLowerCase label
  match role with
  | some .owner => .owns
  | some .storage =>
      if Text.contains "storageclass" normalized || Text.contains "class" normalized then
        .usesStorageClass
      else if Text.contains "bind" normalized then .binds
      else .mounts
  | some .config =>
      if Text.contains "secret" normalized then .usesSecret
      else if Text.contains "serviceaccount" normalized then .usesServiceAccount
      else .usesConfig
  | some .policy => .governs
  | some .gateway =>
      if Text.contains "provision" normalized then .provisions
      else if Text.contains "accept" normalized then .accepts
      else .routesTo
  | role =>
      if Text.contains "publish" normalized then .publishes
      else if Text.contains "resolve" normalized || Text.contains "endpoint" normalized then .resolves
      else if Text.contains "ingress" normalized || Text.contains "route" normalized then .routesTo
      else if role = some .scope then .groups
      else .selects

def getKubejojoRelationSemantics (relation : KubejojoRelation) : KubejojoRelationSemantics :=
  (relation.type.getD (inferKubejojoRelationType toLowerCase relation.role
    (relation.label.getD ""))).semantics

end Infer

end KubeNova.Topology
