import KubeNova.Workloads.WorkspaceSpec

/-!
# What a valid workspace keeps of its request

Every check of the validation implies a condition of the builder, so that a spec that is built from a
valid request has all the request asks for.  The one thing that gets lost is a label selector by the
key `__proto__`.
-/

namespace KubeNova.Workloads.Workspace

open KubeNova.Foundation

inductive ProbeSlot where
  | liveness
  | readiness
  | startup

def Probes.slot (probes : Probes) : ProbeSlot → Option Probe
  | .liveness => probes.liveness
  | .readiness => probes.readiness
  | .startup => probes.startup

def ContainerSpec.slot (container : ContainerSpec) : ProbeSlot → Option ProbeSpec
  | .liveness => container.livenessProbe
  | .readiness => container.readinessProbe
  | .startup => container.startupProbe

inductive NumericField where
  | initialDelaySeconds
  | periodSeconds
  | timeoutSeconds
  | successThreshold
  | failureThreshold

def Probe.numeric (probe : Probe) : NumericField → NumberField
  | .initialDelaySeconds => probe.initialDelaySeconds
  | .periodSeconds => probe.periodSeconds
  | .timeoutSeconds => probe.timeoutSeconds
  | .successThreshold => probe.successThreshold
  | .failureThreshold => probe.failureThreshold

def ProbeSpec.numeric (spec : ProbeSpec) : NumericField → Option Int
  | .initialDelaySeconds => spec.initialDelaySeconds
  | .periodSeconds => spec.periodSeconds
  | .timeoutSeconds => spec.timeoutSeconds
  | .successThreshold => spec.successThreshold
  | .failureThreshold => spec.failureThreshold

def AsksFor (probe : Probe) : ProbeHandler → Prop
  | .exec command => probe.type = some "exec" ∧ toWorkspaceTokens probe.command = some command
  | .tcpSocket port => probe.type = some "tcpSocket" ∧ probe.port = .ofInt port
  | .httpGet path port scheme => probe.type = some "httpGet" ∧ probe.path = some path ∧
      probe.port = .ofInt port ∧ probe.scheme = some scheme

structure KeepsProbe (probe : Probe) (spec : ProbeSpec) : Prop where
  handler : AsksFor probe spec.handler
  numbers : ∀ field, probe.numeric field ≠ .unset →
    ∃ n, probe.numeric field = .ofInt n ∧ spec.numeric field = some n

def lastValue (raw key : String) : Option String :=
  ((selectorLines raw).map linePair).reverse.lookup key

def WorkspaceRequest.schedulingField (input : WorkspaceRequest)
    (field : Scheduling → Option String) : Option String := input.scheduling.bind field

structure DropsNothing (parse : String → Except String Js) (input : WorkspaceRequest)
    (claimName : Option String) (spec : PodSpec) : Prop where
  probes : ∀ probes ∈ input.probes, ∀ slot, ∀ probe ∈ probes.slot slot, probe.enabled = true →
    ∃ container ∈ spec.containers, ∃ built ∈ container.slot slot, KeepsProbe probe built
  nodeSelector : ∀ raw ∈ input.schedulingField (·.nodeSelector), ∀ key, ∀ value ∈ lastValue raw key,
    ∃ selector ∈ spec.scheduling.nodeSelector, selector.lookup key = some value
  tolerations : ∀ raw ∈ input.schedulingField (·.tolerations),
    ∃ value, parse raw = .ok value ∧ spec.scheduling.tolerations = some value
  affinity : ∀ raw ∈ input.schedulingField (·.affinity),
    ∃ value, parse raw = .ok value ∧ spec.scheduling.affinity = some value
  initContainers : ∀ items ∈ input.initContainers, ∀ item ∈ items, ∀ name ∈ item.name,
    ∀ image ∈ item.image, ∃ container ∈ spec.initContainers, container.name = name ∧
      container.image = image ∧ container.command = toWorkspaceTokens item.command ∧
      container.args = toWorkspaceTokens item.args
  mount : input.mountPvc = true → ∃ claim ∈ claimName, ∃ mount ∈ input.pvcMount,
    ∃ path ∈ mount.mountPath, ∃ volume ∈ spec.volumes, volume.claimName = claim ∧
      ∃ container ∈ spec.containers, ⟨volume.name, path⟩ ∈ container.volumeMounts

/-- No line of the selector has the key `__proto__`. -/
def WorkspaceRequest.SelectsNoPrototype (input : WorkspaceRequest) : Prop :=
  ∀ raw ∈ input.schedulingField (·.nodeSelector), ∀ line ∈ selectorLines raw,
    (linePair line).1 ≠ "__proto__"

/-! ## What the checks imply -/

section Checks

variable {lookups : Lookups} {input : WorkspaceRequest}

theorem issueIf_eq_nil {condition : Bool} {issue : Issue} :
    issueIf condition issue = [] ↔ condition = false := by
  cases condition <;> simp [issueIf]

/-- The parts of a validation without errors that the builder relies on. -/
structure Checked (lookups : Lookups) (input : WorkspaceRequest) : Prop where
  basic : basicIssues input = []
  scheduling : schedulingIssues lookups input = []
  probes : validateWorkspaceProbes input.probes = []
  storage : storageIssues lookups input = []

theorem checked_of_valid (h : (validateWorkspaceNormalized lookups input).valid = true) :
    Checked lookups input := by
  have herrors : (validateWorkspaceNormalized lookups input).errors = [] := List.isEmpty_iff.mp h
  rw [validateWorkspaceNormalized] at herrors
  simp only [List.append_eq_nil_iff] at herrors
  obtain ⟨hbasic, hscheduling, hprobes, -, hstorage, -⟩ := herrors
  exact ⟨hbasic, hscheduling, hprobes, hstorage⟩

theorem named_of_basic (h : basicIssues input = []) :
    (∃ name, input.name = some name) ∧ ∃ image, input.image = some image := by
  simp only [basicIssues, List.append_eq_nil_iff, issueIf_eq_nil, Option.isNone_eq_false_iff,
    Option.isSome_iff_exists] at h
  exact ⟨h.2.2.2.1, h.2.2.2.2⟩

/-! ### Probes -/

theorem commonField_of_numericIssues {name field : String} {min max : Nat} {value : NumberField}
    (h : numericIssues name field min max value = []) (hset : value ≠ .unset) :
    ∃ n, value = .ofInt n ∧ commonField min value = some n := by
  have hint : ∃ n, value.int? = some n ∧ (min : Int) ≤ n := by
    cases value with
    | unset => exact absurd rfl hset
    | other => cases h
    | number value =>
        unfold numericIssues at h
        dsimp only at h
        cases hn : (NumberField.number value).int? with
        | none =>
            rw [hn] at h
            cases h
        | some n =>
            rw [hn] at h
            dsimp only at h
            by_cases hmin : n < min
            · rw [if_pos hmin] at h
              cases h
            · exact ⟨n, rfl, not_lt.mp hmin⟩
  obtain ⟨n, hn, hmin⟩ := hint
  refine ⟨n, eq_ofInt hn, ?_⟩
  rw [commonField, hn, Option.filter_some, if_pos (decide_eq_true hmin)]

theorem portOf_of_portIssues {name : String} {probe : Probe} (h : portIssues name probe = []) :
    ∃ port, probe.port = .ofInt port ∧ portOf probe.port = some port := by
  rw [portIssues, issueIf_eq_nil, Bool.not_eq_false'] at h
  obtain ⟨port, hport, -⟩ := (Option.any_eq_true _ _).mp h
  exact ⟨port, eq_ofInt hport, by rw [portOf, if_pos h, hport]⟩

structure IsNormalProbe (probe : Probe) : Prop where
  type : probe.type = some "tcpSocket" ∨ probe.type = some "exec" ∨ probe.type = some "httpGet"
  scheme : probe.scheme = some (if probe.scheme = some "HTTPS" then "HTTPS" else "HTTP")

theorem isNormalProbe (probe : Probe) : IsNormalProbe (normalizeWorkspaceProbe probe) := by
  constructor
  · rw [normalizeWorkspaceProbe]
    dsimp only
    split
    · rename_i htype
      exact htype.imp_right .inl
    · exact .inr (.inr rfl)
  · rw [normalizeWorkspaceProbe]
    dsimp only
    by_cases hscheme : probe.scheme = some "HTTPS"
    · rw [if_pos hscheme, if_pos rfl]
    · rw [if_neg hscheme, if_neg (by decide)]

theorem handlerOf_of_handlerIssues {name : String} {probe : Probe} (hnormal : IsNormalProbe probe)
    (h : handlerIssues name probe = []) :
    ∃ handler, handlerOf probe = some handler ∧ AsksFor probe handler := by
  rw [handlerIssues] at h
  rw [handlerOf]
  obtain htype | htype | htype := hnormal.type
  · rw [htype, Option.getD_some] at h ⊢
    rw [if_neg (by decide), if_pos rfl] at h
    obtain ⟨port, hport, hof⟩ := portOf_of_portIssues h
    rw [if_neg (by decide), if_pos rfl, hof]
    exact ⟨.tcpSocket port, rfl, htype, hport⟩
  · rw [htype, Option.getD_some] at h ⊢
    rw [if_neg (by decide), if_neg (by decide), if_pos rfl, issueIf_eq_nil,
      Option.isNone_eq_false_iff] at h
    obtain ⟨command, hcommand⟩ := Option.isSome_iff_exists.mp h
    rw [if_pos rfl, hcommand]
    exact ⟨.exec command, rfl, htype, hcommand⟩
  · rw [htype, Option.getD_some] at h ⊢
    rw [if_pos rfl, List.append_eq_nil_iff, issueIf_eq_nil] at h
    obtain ⟨port, hport, hof⟩ := portOf_of_portIssues h.2
    rw [if_neg (by decide), if_neg (by decide), hof]
    cases hpath : probe.path with
    | none =>
        rw [hpath] at h
        cases h.1
    | some path =>
        have hne : path ≠ "" := by
          rw [hpath, Option.all_some, beq_eq_false_iff_ne] at h
          exact h.1
        rw [Option.filter_some, if_pos (decide_eq_true hne)]
        exact ⟨_, rfl, htype, hpath, hport, hnormal.scheme⟩

theorem keepsProbe_of_probeIssues {name : String} {probe : Probe} (hnormal : IsNormalProbe probe)
    (henabled : probe.enabled = true) (h : probeIssues name (some probe) = []) :
    ∃ built, buildWorkspaceProbeSpec (some probe) = some built ∧ KeepsProbe probe built := by
  rw [probeIssues, henabled, Bool.not_true, if_neg Bool.false_ne_true] at h
  simp only [List.append_eq_nil_iff] at h
  obtain ⟨⟨hhandler, hdelay, hperiod, htimeout, hsuccess, hfailure⟩, -⟩ := h
  obtain ⟨handler, hof, hasks⟩ := handlerOf_of_handlerIssues hnormal hhandler
  rw [buildWorkspaceProbeSpec, henabled, Bool.not_true, if_neg Bool.false_ne_true, hof]
  refine ⟨_, rfl, hasks, fun field hset => ?_⟩
  cases field with
  | initialDelaySeconds => exact commonField_of_numericIssues hdelay hset
  | periodSeconds => exact commonField_of_numericIssues hperiod hset
  | timeoutSeconds => exact commonField_of_numericIssues htimeout hset
  | successThreshold => exact commonField_of_numericIssues hsuccess hset
  | failureThreshold => exact commonField_of_numericIssues hfailure hset

/-! ### Scheduling -/

theorem schedulingText_normalize (body : WorkspaceRequest) :
    schedulingText (normalizeWorkspaceRequest body) (·.nodeSelector) =
        (normalizeWorkspaceRequest body).schedulingField (·.nodeSelector) ∧
      schedulingText (normalizeWorkspaceRequest body) (·.tolerations) =
        (normalizeWorkspaceRequest body).schedulingField (·.tolerations) ∧
      schedulingText (normalizeWorkspaceRequest body) (·.affinity) =
        (normalizeWorkspaceRequest body).schedulingField (·.affinity) := by
  have hscheduling : (normalizeWorkspaceRequest body).scheduling =
      body.scheduling.map fun scheduling =>
        ⟨trim scheduling.nodeSelector, trim scheduling.tolerations, trim scheduling.affinity⟩ := rfl
  unfold schedulingText WorkspaceRequest.schedulingField
  rw [hscheduling]
  cases body.scheduling with
  | none => exact ⟨rfl, rfl, rfl⟩
  | some scheduling => exact ⟨trim_trim _, trim_trim _, trim_trim _⟩

theorem parse_of_selectorIssues {raw : String} (h : selectorIssues input = [])
    (hraw : schedulingText input (·.nodeSelector) = some raw) :
    ∃ selector, parseNodeSelector raw = .ok selector := by
  rw [selectorIssues, hraw] at h
  dsimp only at h
  cases hparse : parseNodeSelector raw with
  | ok selector => exact ⟨selector, rfl⟩
  | error message =>
      rw [hparse] at h
      cases h

theorem lookup_selector_iff {raw : String} {selector : List (String × String)}
    (h : parseNodeSelector raw = .ok selector) :
    (∀ key, ∀ value ∈ lastValue raw key, selector.lookup key = some value) ↔
      ∀ line ∈ selectorLines raw, (linePair line).1 ≠ "__proto__" := by
  rw [parseSelectorLines_eq_ok h]
  constructor
  · intro hkept line hline hproto
    have hmem : linePair line ∈ ((selectorLines raw).map linePair).reverse :=
      List.mem_reverse.mpr (List.mem_map_of_mem hline)
    cases hlast : lastValue raw "__proto__" with
    | none =>
        have hnone := List.lookup_eq_none_iff.mp hlast (linePair line) hmem
        rw [bne_iff_ne] at hnone
        exact absurd hproto.symm hnone
    | some value =>
        have hvalue := hkept "__proto__" value hlast
        rw [lookup_proto_foldl] at hvalue
        cases hvalue
  · intro hlines key value hvalue
    have hkey : key ≠ "__proto__" := by
      obtain ⟨line, hline, hpair⟩ := List.mem_map.mp (List.mem_reverse.mp (mem_of_lookup hvalue))
      have hne := hlines line hline
      rw [hpair] at hne
      exact hne
    have hlast : ((selectorLines raw).map linePair).reverse.lookup key = some value := hvalue
    rw [lookup_foldl_assignText hkey, hlast]
    rfl

theorem jsonPatch_of_jsonIssues {raw : Option String} {text field kindName : String}
    {isKind : Js → Bool} (h : jsonIssues lookups raw field kindName isKind = [])
    (hraw : raw = some text) : ∃ value, lookups.parse text = .ok value ∧
      jsonPatch lookups.parse raw field isKind = some value := by
  subst hraw
  rw [jsonPatch]
  unfold jsonIssues at h
  dsimp only at h ⊢
  rw [parseJsonValue] at h ⊢
  cases hparse : lookups.parse text with
  | error message =>
      rw [hparse] at h
      cases h
  | ok value =>
      rw [hparse] at h
      rw [issueIf_eq_nil, Bool.not_eq_false'] at h
      exact ⟨value, rfl, if_pos h⟩

/-! ### Storage -/

def IsTrimmed (text : String) : Prop := Text.trim text = text ∧ text ≠ ""

theorem trim_of_isTrimmed {text : String} (h : IsTrimmed text) : trim (some text) = some text := by
  rw [trim, Option.map_some, h.1, Option.filter_some, if_pos (decide_eq_true h.2)]

theorem isSpace_of_isDnsChar {c : Char} (h : isDnsChar c = true) : Text.isSpace c = false := by
  rw [isDnsChar, Bool.or_eq_true, Bool.or_eq_true, beq_iff_eq, Bool.and_eq_true,
    decide_eq_true_eq, decide_eq_true_eq, Text.isDigit, Bool.and_eq_true, decide_eq_true_eq,
    decide_eq_true_eq] at h
  have hrange : 33 ≤ c.toNat ∧ c.toNat ≤ 122 := by
    obtain (⟨hlow, hhigh⟩ | ⟨hlow, hhigh⟩) | rfl := h
    · exact ⟨Nat.le_trans (by decide) hlow, hhigh⟩
    · exact ⟨Nat.le_trans (by decide) hlow, Nat.le_trans hhigh (by decide)⟩
    · decide
  simp only [Text.isSpace, Bool.or_eq_false_iff, Bool.and_eq_false_iff, decide_eq_false_iff_not,
    beq_eq_false_iff_ne]
  omega

theorem mem_of_mem_joinDashes {cs : List Char} {c : Char} (h : c ∈ joinDashes cs) : c ∈ cs := by
  induction cs with
  | nil => exact h
  | cons d cs ih =>
      rw [joinDashes] at h
      split at h
      · exact List.mem_cons_of_mem _ (ih h)
      · obtain rfl | h := List.mem_cons.mp h
        · exact List.mem_cons_self
        · exact List.mem_cons_of_mem _ (ih h)

theorem isTrimmed_toDns1123Name (lower : String → String) (value : String) :
    IsTrimmed (toDns1123Name lower value) := by
  have hchars : ∀ c ∈ (toDns1123Name lower value).toList, isDnsChar c = true := by
    intro c hc
    rw [toDns1123Name, String.toList_ofList] at hc
    have hmem := List.mem_of_mem_take hc
    split at hmem
    · have hall : "workspace-pvc".toList.all isDnsChar = true := by decide
      exact List.all_eq_true.mp hall c hmem
    · have hdashed := mem_of_mem_joinDashes (mem_of_mem_trimBoth hmem)
      obtain ⟨d, -, rfl⟩ := List.mem_map.mp hdashed
      split
      · assumption
      · rfl
  refine ⟨Text.trim_of_none fun c hc => isSpace_of_isDnsChar (hchars c hc), fun hempty => ?_⟩
  have hnil := congrArg String.toList hempty
  rw [toDns1123Name, String.toList_ofList, String.toList_empty, List.take_eq_nil_iff] at hnil
  obtain hnil | hnil := hnil
  · cases hnil
  · split at hnil
    · revert hnil
      decide
    · rename_i hne
      exact hne hnil

theorem isTrimmed_of_trim {value : Option String} {text : String} (h : trim value = some text) :
    IsTrimmed text := trim_eq_some h

def MountPlan.IsReady (plan : MountPlan) : Prop :=
  ∃ claim, plan.claimName = some claim ∧ IsTrimmed claim

theorem isReady_claimFor (lower : String → String) (mount : StorageMount)
    (workloadName resource : String) (storageClass volumeName : Option String) :
    (claimFor lower (normalizeMount mount) workloadName resource storageClass
      volumeName).IsReady := by
  refine ⟨_, rfl, ?_⟩
  cases hname : (normalizeMount mount).newPvcName with
  | none => exact isTrimmed_toDns1123Name lower _
  | some name => exact isTrimmed_of_trim hname

theorem sourceTypeOf_normalize (mount : StorageMount) :
    sourceTypeOf (normalizeMount mount) = "PVC" ∨ sourceTypeOf (normalizeMount mount) = "PV" ∨
      sourceTypeOf (normalizeMount mount) = "SC" := by
  rw [sourceTypeOf, normalizeMount]
  dsimp only
  split
  · rename_i htype
    obtain htype | htype := htype
    · exact .inr (.inl (by rw [htype]; rfl))
    · exact .inr (.inr (by rw [htype]; rfl))
  · exact .inl rfl

theorem some_of_clusterStorageIssues {resource : Option String} {kind field missing noun : String}
    (h : clusterStorageIssues lookups input resource kind field missing noun = []) :
    ∃ name, resource = some name := by
  cases resource with
  | none => cases h
  | some name => exact ⟨name, rfl⟩

theorem isReady_of_sourceIssues (lower : String → String) {body : WorkspaceRequest}
    {mount : StorageMount} (workloadName : String) (hmountPvc : body.mountPvc = true)
    (hmount : body.pvcMount = some (normalizeMount mount))
    (h : sourceIssues lookups input (normalizeMount mount) = []) :
    (resolveWorkspaceMountPlan lower body workloadName).IsReady := by
  rw [sourceIssues] at h
  rw [resolveWorkspaceMountPlan, hmountPvc, hmount]
  dsimp only
  cases hexisting : (normalizeMount mount).useExistingPvc with
  | false =>
      rw [hexisting, if_neg Bool.false_ne_true, issueIf_eq_nil, Option.isNone_eq_false_iff] at h
      obtain ⟨name, hname⟩ := Option.isSome_iff_exists.mp h
      simp only [Bool.false_eq_true, false_and, if_false, hname]
      exact ⟨name, rfl, isTrimmed_of_trim hname⟩
  | true =>
      rw [hexisting, if_pos rfl] at h
      obtain htype | htype | htype := sourceTypeOf_normalize mount
      · rw [htype, if_pos rfl, existingPvcIssues] at h
        rw [htype, if_pos ⟨rfl, rfl⟩]
        cases hname : (normalizeMount mount).existingPvcName with
        | none =>
            rw [hname] at h
            cases h
        | some name => exact ⟨name, rfl, isTrimmed_of_trim hname⟩
      · rw [htype, if_neg (by decide), if_pos rfl] at h
        obtain ⟨name, hname⟩ := some_of_clusterStorageIssues h
        rw [htype, if_neg (by decide), if_pos ⟨rfl, rfl⟩, hname]
        exact isReady_claimFor lower mount workloadName name _ _
      · rw [htype, if_neg (by decide), if_neg (by decide)] at h
        obtain ⟨name, hname⟩ := some_of_clusterStorageIssues h
        rw [htype, if_neg (by decide), if_neg (by decide), if_pos ⟨rfl, rfl⟩, hname]
        exact isReady_claimFor lower mount workloadName name _ _

end Checks

/-! ## The spec of a valid request -/

section Agreement

variable {lookups : Lookups} {lower : String → String} {body : WorkspaceRequest}

def claimNameOf (lower : String → String) (input : WorkspaceRequest) : Option String :=
  (resolveWorkspaceMountPlan lower input (input.name.getD "")).claimName

theorem podSpec_of_build {parse : String → Except String Js} {input : WorkspaceRequest}
    {claimName : Option String} {spec : WorkspaceSpec}
    (h : buildWorkspaceSpec parse input claimName = some spec) :
    ∃ image, spec.podSpec = podSpecOf parse input image claimName := by
  unfold buildWorkspaceSpec at h
  split at h
  · rename_i image _ _
    refine ⟨Text.trim image, ?_⟩
    rw [← Option.some.inj h]
    split_ifs <;> rfl
  · cases h

theorem slot_podSpecOf {parse : String → Except String Js} {input : WorkspaceRequest} {image : String}
    {claimName : Option String} {probes : Probes} (h : input.probes = some probes)
    (slot : ProbeSlot) : ∃ container ∈ (podSpecOf parse input image claimName).containers,
      container.slot slot = buildWorkspaceProbeSpec (probes.slot slot) := by
  refine ⟨_, List.mem_singleton_self _, ?_⟩
  rw [h]
  cases slot <;> rfl

theorem mounts_podSpecOf {parse : String → Except String Js} {input : WorkspaceRequest}
    {image path claim : String} {claimName : Option String}
    (h : mountOf input claimName = some (path, claim)) :
    ⟨"workspace-pvc", claim⟩ ∈ (podSpecOf parse input image claimName).volumes ∧
      ∃ container ∈ (podSpecOf parse input image claimName).containers,
        ⟨"workspace-pvc", path⟩ ∈ container.volumeMounts := by
  rw [podSpecOf]
  dsimp only
  rw [h]
  exact ⟨List.mem_singleton_self _, _, List.mem_singleton_self _, List.mem_singleton_self _⟩

theorem slotIssues_of_probes {probes : Probes} (h : validateWorkspaceProbes (some probes) = [])
    (slot : ProbeSlot) : ∃ name, probeIssues name (probes.slot slot) = [] := by
  rw [validateWorkspaceProbes, List.append_eq_nil_iff, List.append_eq_nil_iff] at h
  cases slot with
  | liveness => exact ⟨"liveness", h.1⟩
  | readiness => exact ⟨"readiness", h.2.1⟩
  | startup => exact ⟨"startup", h.2.2⟩

theorem slot_normalizeProbes (probes : Probes) (slot : ProbeSlot) :
    (normalizeProbes probes).slot slot = (probes.slot slot).map normalizeWorkspaceProbe := by
  cases slot <;> rfl

theorem keepsProbes (h : Checked lookups (normalizeWorkspaceRequest body)) :
    ∀ probes ∈ (normalizeWorkspaceRequest body).probes, ∀ slot, ∀ probe ∈ probes.slot slot,
      probe.enabled = true →
        ∃ built ∈ buildWorkspaceProbeSpec (probes.slot slot), KeepsProbe probe built := by
  intro probes hprobes slot probe hprobe henabled
  obtain ⟨raw, -, rfl⟩ := Option.map_eq_some_iff.mp hprobes
  have hissues := h.probes
  rw [hprobes] at hissues
  obtain ⟨name, hslotIssues⟩ := slotIssues_of_probes hissues slot
  have hslot : (normalizeProbes raw).slot slot = some probe := hprobe
  rw [hslot] at hslotIssues ⊢
  rw [slot_normalizeProbes] at hslot
  obtain ⟨before, -, rfl⟩ := Option.map_eq_some_iff.mp hslot
  exact keepsProbe_of_probeIssues (isNormalProbe before) henabled hslotIssues

theorem keepsMount (h : Checked lookups (normalizeWorkspaceRequest body))
    (hmountPvc : (normalizeWorkspaceRequest body).mountPvc = true) :
    ∃ claim ∈ claimNameOf lower (normalizeWorkspaceRequest body),
      ∃ mount ∈ (normalizeWorkspaceRequest body).pvcMount, ∃ path ∈ mount.mountPath,
        mountOf (normalizeWorkspaceRequest body)
          (claimNameOf lower (normalizeWorkspaceRequest body)) = some (path, claim) := by
  have hissues := h.storage
  rw [storageIssues, hmountPvc, Bool.not_true, if_neg Bool.false_ne_true,
    List.append_eq_nil_iff, issueIf_eq_nil, Option.isNone_eq_false_iff] at hissues
  obtain ⟨hpath, hsource⟩ := hissues
  obtain ⟨path, hpath⟩ := Option.isSome_iff_exists.mp hpath
  obtain ⟨mount, hmount, hmountPath⟩ := Option.bind_eq_some_iff.mp hpath
  obtain ⟨raw, -, rfl⟩ := Option.map_eq_some_iff.mp hmount
  rw [hmount] at hsource
  obtain ⟨claim, hclaim, htrimmed⟩ := isReady_of_sourceIssues lower
    ((normalizeWorkspaceRequest body).name.getD "") hmountPvc hmount hsource
  refine ⟨claim, hclaim, normalizeMount raw, hmount, path, hmountPath, ?_⟩
  have hclaimName : claimNameOf lower (normalizeWorkspaceRequest body) = some claim := hclaim
  rw [mountOf, if_pos hmountPvc, hpath, hclaimName, trim_of_isTrimmed htrimmed,
    trim_of_isTrimmed (isTrimmed_of_trim hmountPath)]

theorem keepsInitContainers : ∀ items ∈ (normalizeWorkspaceRequest body).initContainers, ∀ item ∈ items,
      ∀ name ∈ item.name, ∀ image ∈ item.image,
        ∃ container ∈ items.filterMap initContainerSpec, container.name = name ∧
          container.image = image ∧ container.command = toWorkspaceTokens item.command ∧
          container.args = toWorkspaceTokens item.args := by
  intro items hitems item hitem name hname image himage
  obtain ⟨raw, -, rfl⟩ := List.mem_map.mp (Option.some.inj hitems ▸ hitem)
  refine ⟨buildWorkspaceContainerSpec name image (normalizeInitContainer raw).command
    (normalizeInitContainer raw).args none, List.mem_filterMap.mpr ⟨_, hitem, ?_⟩, rfl, rfl, rfl, rfl⟩
  rw [initContainerSpec, show (normalizeInitContainer raw).name = some name from hname,
    show (normalizeInitContainer raw).image = some image from himage,
    trim_of_isTrimmed (isTrimmed_of_trim hname), trim_of_isTrimmed (isTrimmed_of_trim himage)]

theorem keepsSelector_iff {input : WorkspaceRequest} (h : selectorIssues input = [])
    (htext : schedulingText input (·.nodeSelector) = input.schedulingField (·.nodeSelector)) :
    (∀ raw ∈ input.schedulingField (·.nodeSelector), ∀ key, ∀ value ∈ lastValue raw key,
      ∃ selector ∈ selectorPatch (schedulingText input (·.nodeSelector)),
        selector.lookup key = some value) ↔ input.SelectsNoPrototype := by
  refine forall₂_congr fun raw hraw => ?_
  have hschedulingText : schedulingText input (·.nodeSelector) = some raw := htext.trans hraw
  obtain ⟨selector, hparse⟩ := parse_of_selectorIssues h hschedulingText
  have hpatch : selectorPatch (some raw) = if selector = [] then none else some selector := by
    rw [selectorPatch, hparse]
  rw [← lookup_selector_iff hparse, hschedulingText, hpatch]
  refine forall₃_congr fun key value _ => ?_
  constructor
  · rintro ⟨other, hother, hlookup⟩
    obtain ⟨-, hsame⟩ := Option.ite_none_left_eq_some.mp hother
    rw [Option.some.inj hsame]
    exact hlookup
  · intro hlookup
    have hne : selector ≠ [] := by
      rintro rfl
      cases hlookup
    exact ⟨selector, if_neg hne, hlookup⟩

/-- A valid request makes a spec with everything the request asks for exactly where it selects no
nodes by the key `__proto__`. -/
theorem workspace_drops_nothing_iff (lookups : Lookups) (lower : String → String)
    (body : WorkspaceRequest)
    (h : (validateWorkspaceNormalized lookups (normalizeWorkspaceRequest body)).valid = true) :
    (∃ spec, buildWorkspaceSpec lookups.parse (normalizeWorkspaceRequest body)
          (claimNameOf lower (normalizeWorkspaceRequest body)) = some spec ∧
        DropsNothing lookups.parse (normalizeWorkspaceRequest body)
          (claimNameOf lower (normalizeWorkspaceRequest body)) spec.podSpec) ↔
      (normalizeWorkspaceRequest body).SelectsNoPrototype := by
  have hchecked := checked_of_valid h
  obtain ⟨⟨name, hname⟩, image, himage⟩ := named_of_basic hchecked.basic
  obtain ⟨hselectorText, htolerationsText, haffinityText⟩ := schedulingText_normalize body
  have hscheduling := hchecked.scheduling
  rw [schedulingIssues, List.append_eq_nil_iff, List.append_eq_nil_iff] at hscheduling
  obtain ⟨hselector, htolerations, haffinity⟩ := hscheduling
  rw [← keepsSelector_iff hselector hselectorText]
  constructor
  · rintro ⟨spec, hspec, hkeeps⟩
    obtain ⟨used, hpod⟩ := podSpec_of_build hspec
    have hkept := hkeeps.nodeSelector
    rw [hpod] at hkept
    exact hkept
  · intro hkept
    obtain ⟨spec, hspec⟩ : ∃ spec, buildWorkspaceSpec lookups.parse (normalizeWorkspaceRequest body)
        (claimNameOf lower (normalizeWorkspaceRequest body)) = some spec := by
      rw [buildWorkspaceSpec, hname, himage]
      exact ⟨_, rfl⟩
    obtain ⟨used, hpod⟩ := podSpec_of_build hspec
    refine ⟨spec, hspec, ?_⟩
    rw [hpod]
    refine ⟨fun probes hprobes slot probe hprobe henabled => ?_, hkept, fun raw hraw => ?_,
      fun raw hraw => ?_, fun items hitems item hitem name hname image himage => ?_,
      fun hmountPvc => ?_⟩
    · obtain ⟨built, hbuilt, hkeepsProbe⟩ := keepsProbes hchecked probes hprobes slot probe hprobe
        henabled
      obtain ⟨container, hcontainer, hslot⟩ := slot_podSpecOf hprobes slot
      exact ⟨container, hcontainer, built, hslot.trans hbuilt, hkeepsProbe⟩
    · exact jsonPatch_of_jsonIssues htolerations (htolerationsText.trans hraw)
    · exact jsonPatch_of_jsonIssues haffinity (haffinityText.trans hraw)
    · obtain ⟨container, hcontainer, hsame⟩ := keepsInitContainers items hitems item hitem name hname
        image himage
      refine ⟨container, ?_, hsame⟩
      show container ∈ ((normalizeWorkspaceRequest body).initContainers.getD []).filterMap _
      rw [hitems]
      exact hcontainer
    · obtain ⟨claim, hclaim, mount, hmount, path, hpath, hof⟩ := keepsMount hchecked hmountPvc
      obtain ⟨hvolumes, container, hcontainer, hmounts⟩ := mounts_podSpecOf hof
      exact ⟨claim, hclaim, mount, hmount, path, hpath, ⟨"workspace-pvc", claim⟩, hvolumes, rfl,
        container, hcontainer, hmounts⟩

end Agreement

def everythingThere : Lookups where
  availableCluster _ := true
  existingWorkload _ _ _ _ := false
  scopedPvc _ _ _ := true
  clusterStorage _ _ _ := true
  kubeconfig _ := none
  definitionNames _ := .ok []
  parse _ := .error ""

def selectingPod (nodeSelector : String) : WorkspaceRequest where
  clusterId := some "c1"
  ns := some "default"
  kind := some "Pod"
  name := some "web"
  replicas := none
  containerName := none
  image := some "nginx"
  command := none
  args := none
  mountPvc := false
  pvcMount := none
  createService := false
  service := none
  createIngress := false
  networkMode := none
  ingress := none
  ingressRoute := none
  initContainers := none
  scheduling := some ⟨some nodeSelector, none, none⟩
  probes := none

theorem selectingPod_drops_nothing_iff :
    (∃ spec, buildWorkspaceSpec everythingThere.parse
          (normalizeWorkspaceRequest (selectingPod "disk=ssd"))
          (claimNameOf id (normalizeWorkspaceRequest (selectingPod "disk=ssd"))) = some spec ∧
        DropsNothing everythingThere.parse (normalizeWorkspaceRequest (selectingPod "disk=ssd"))
          (claimNameOf id (normalizeWorkspaceRequest (selectingPod "disk=ssd"))) spec.podSpec) ↔
      (normalizeWorkspaceRequest (selectingPod "disk=ssd")).SelectsNoPrototype :=
  workspace_drops_nothing_iff everythingThere id (selectingPod "disk=ssd") (by decide)

/-- A selector by `__proto__` is valid, and nothing is selected. -/
theorem proto_selector_lost :
    ¬∀ (lookups : Lookups) (lower : String → String) (body : WorkspaceRequest),
      (validateWorkspaceNormalized lookups (normalizeWorkspaceRequest body)).valid = true →
        ∃ spec, buildWorkspaceSpec lookups.parse (normalizeWorkspaceRequest body)
            (claimNameOf lower (normalizeWorkspaceRequest body)) = some spec ∧
          DropsNothing lookups.parse (normalizeWorkspaceRequest body)
            (claimNameOf lower (normalizeWorkspaceRequest body)) spec.podSpec := by
  intro h
  obtain ⟨spec, hspec, hkeeps⟩ := h everythingThere id (selectingPod "__proto__=x") (by decide)
  obtain ⟨selector, hselector, -⟩ := hkeeps.nodeSelector "__proto__=x" (by decide) "__proto__" "x"
    (by decide)
  obtain ⟨image, hpod⟩ := podSpec_of_build hspec
  have hnone : spec.podSpec.scheduling.nodeSelector = none := by
    rw [hpod]
    show selectorPatch (schedulingText (normalizeWorkspaceRequest (selectingPod "__proto__=x"))
      (·.nodeSelector)) = none
    decide
  rw [hnone] at hselector
  cases hselector

end KubeNova.Workloads.Workspace
