import KubeNova.Access.Authorization
import KubeNova.Common.Crypto
import Mathlib.Data.List.Basic

/-!
# Native Kubernetes requests

`classifyNativeRequest`: which requests of a Kubernetes client the gateway knows
at all, with the verb and the capability each of them needs.
-/

namespace KubeNova.Native

open KubeNova.Foundation KubeNova.Common KubeNova.Access

inductive NativeVerb where
  | get
  | list
  | watch
  | create
  deriving Repr, DecidableEq

def NativeVerb.text : NativeVerb → String
  | get => "get"
  | list => "list"
  | watch => "watch"
  | create => "create"

structure NativeRequest where
  api : String
  namespaceName : String
  resource : String
  name : Option String
  subresource : Option String
  verb : NativeVerb
  capability : Option AuthorizationCapability
  deriving Repr, DecidableEq

def nativeReadResources : List (String × List String) :=
  [("/api/v1", ["pods", "services", "endpoints", "configmaps", "secrets", "persistentvolumeclaims",
      "events", "resourcequotas", "limitranges"]),
    ("/apis/apps/v1", ["deployments", "replicasets", "statefulsets", "daemonsets"]),
    ("/apis/batch/v1", ["jobs", "cronjobs"]),
    ("/apis/networking.k8s.io/v1", ["ingresses", "networkpolicies"]),
    ("/apis/discovery.k8s.io/v1", ["endpointslices"]),
    ("/apis/autoscaling/v2", ["horizontalpodautoscalers"]),
    ("/apis/policy/v1", ["poddisruptionbudgets"])]

/-- `nativeReadResources[api]`, nothing where the API is not in the table. -/
def readResources (api : String) : List String := (nativeReadResources.lookup api).getD []

def isLowerAlnum (c : Char) : Bool := ('a' ≤ c && c ≤ 'z') || Text.isDigit c

/-- `[a-z0-9](?:[inner a-z0-9]*[a-z0-9])?`. -/
def isName (inner : List Char) (cs : List Char) : Bool :=
  cs.head?.any isLowerAlnum && cs.getLast?.any isLowerAlnum &&
    cs.all fun c => isLowerAlnum c || inner.contains c

/-- `[a-z]+`. -/
def isWord (cs : List Char) : Bool := !cs.isEmpty && cs.all fun c => 'a' ≤ c && c ≤ 'z'

def isDigits (cs : List Char) : Bool := !cs.isEmpty && cs.all Text.isDigit

/-- `[a-z0-9.-]+`. -/
def isApiGroup (cs : List Char) : Bool :=
  !cs.isEmpty && cs.all fun c => isLowerAlnum c || c == '.' || c == '-'

/-- `(?:alpha[0-9]+|beta[0-9]+)?`. -/
def isStability : List Char → Bool
  | [] => true
  | 'a' :: 'l' :: 'p' :: 'h' :: 'a' :: digits => isDigits digits
  | 'b' :: 'e' :: 't' :: 'a' :: digits => isDigits digits
  | _ => false

/-- `v[0-9]+(?:alpha[0-9]+|beta[0-9]+)?`. -/
def isApiVersion : List Char → Bool
  | 'v' :: rest => isDigits (rest.takeWhile Text.isDigit) && isStability (rest.dropWhile Text.isDigit)
  | _ => false

/-- `/api/v1` or `/apis/<group>/<version>`, and the segments behind it. -/
def matchApi : List (List Char) → Option (String × List (List Char))
  | [] :: ['a', 'p', 'i'] :: ['v', '1'] :: rest => some ("/api/v1", rest)
  | [] :: ['a', 'p', 'i', 's'] :: group :: version :: rest =>
      if isApiGroup group && isApiVersion version then
        some (String.ofList ("/apis/".toList ++ group ++ '/' :: version), rest)
      else none
  | _ => none

def matchName : List (List Char) → Option (Option String × Option String)
  | [] => some (none, none)
  | [name] => if isName ['-', '.'] name then some (some (String.ofList name), none) else none
  | [name, subresource] =>
      if isName ['-', '.'] name && isWord subresource then
        some (some (String.ofList name), some (String.ofList subresource))
      else none
  | _ => none

structure NativePath where
  api : String
  namespaceName : String
  resource : String
  name : Option String
  subresource : Option String
  deriving Repr, DecidableEq

def matchPath (pathname : List Char) : Option NativePath := do
  let (api, rest) ← matchApi (pathname.splitOn '/')
  match rest with
  | literal :: namespaceName :: resource :: tail =>
      if literal = "namespaces".toList ∧ isName ['-'] namespaceName = true ∧ isWord resource = true then do
        let (name, subresource) ← matchName tail
        some ⟨api, String.ofList namespaceName, String.ofList resource, name, subresource⟩
      else none
  | _ => none

def formDecode : List Char → List UInt8
  | '%' :: a :: b :: rest =>
      if Text.isHex a && Text.isHex b then
        UInt8.ofNat (hexValue a * 16 + hexValue b) :: formDecode rest
      else 37 :: formDecode (a :: b :: rest)
  | '+' :: rest => 32 :: formDecode rest
  | c :: rest => String.utf8EncodeChar c ++ formDecode rest
  | [] => []

def utf8 (s : String) : List UInt8 := s.toList.flatMap String.utf8EncodeChar

/-- `new URLSearchParams(query)`: the names and values of the form. -/
def searchParams (query : List Char) : List (List UInt8 × List UInt8) :=
  ((query.splitOn '&').filter (· ≠ [])).map fun piece =>
    (formDecode (piece.takeWhile (· ≠ '=')), formDecode ((piece.dropWhile (· ≠ '=')).drop 1))

/-- The query of `new URL(target, …)`: the parser strips control characters from the end. -/
def urlQuery (target : List Char) : List Char :=
  (((target.reverse.dropWhile fun c => c.toNat ≤ 0x20).reverse).dropWhile (· ≠ '?')).drop 1

def getAll (params : List (List UInt8 × List UInt8)) (name : String) : List (List UInt8) :=
  (params.filter fun param => param.1 = utf8 name).map (·.2)

def hasDoubleSlash : List Char → Bool
  | '/' :: '/' :: _ => true
  | _ :: rest => hasDoubleSlash rest
  | [] => false

def unsupportedRequest : Exception := .forbidden "Unsupported native request"

def classifyVerb (method : String) (path : NativePath) (watch : List (List UInt8)) :
    Except Exception (NativeVerb × Option AuthorizationCapability) :=
  match path.subresource with
  | some subresource =>
      if path.resource ≠ "pods" ∨ path.name = none ∨ watch ≠ [] then .error unsupportedRequest
      else if subresource = "log" ∧ method = "GET" then .ok (.get, some .logs)
      else if subresource = "exec" ∧ (method = "GET" ∨ method = "POST") then
        .ok (if method = "POST" then .create else .get, some .exec)
      else .error unsupportedRequest
  | none =>
      if method ≠ "GET" then .error unsupportedRequest
      else .ok
        (if watch.head? = some (utf8 "true") ∨ watch.head? = some (utf8 "1") then .watch
          else if path.name.isSome then .get else .list,
        if path.resource = "secrets" then some .secrets else none)

def classifyNativeRequest (method target : String) : Except Exception NativeRequest :=
  let chars := target.toList
  let pathname := chars.takeWhile (· ≠ '?')
  if 16384 < Text.length target ∨ chars.head? ≠ some '/' ∨
      chars.any (fun c => Text.isSpace c || c == '#' || c == '\\') = true then
    .error unsupportedRequest
  -- Reject normalization ambiguities before URL parsing can erase them.
  else if pathname.contains '%' ∨ hasDoubleSlash pathname = true then .error unsupportedRequest
  else match matchPath pathname with
    | none => .error unsupportedRequest
    | some path =>
        if 63 < path.namespaceName.length ∨ path.name.any (fun name => 253 < name.length) = true ∨
            (readResources path.api).contains path.resource = false then .error unsupportedRequest
        else
          let watch := getAll (searchParams (urlQuery chars)) "watch"
          if 1 < watch.length ∨ (watch.any fun value =>
              !(["true", "false", "1", "0"].map utf8).contains value) = true then
            .error unsupportedRequest
          else do
            let (verb, capability) ← classifyVerb method path watch
            return ⟨path.api, path.namespaceName, path.resource, path.name, path.subresource, verb,
              capability⟩

inductive NativeRequest.Supported (r : NativeRequest) : Prop
  | read (hsub : r.subresource = none) (hverb : r.verb ∈ [NativeVerb.get, .list, .watch])
      (hcapability : r.capability = if r.resource = "secrets" then some .secrets else none)
  | log (hsub : r.subresource = some "log") (hresource : r.resource = "pods")
      (hverb : r.verb = .get) (hcapability : r.capability = some .logs)
  | exec (hsub : r.subresource = some "exec") (hresource : r.resource = "pods")
      (hverb : r.verb ∈ [NativeVerb.get, .create]) (hcapability : r.capability = some .exec)

theorem supported_of_classifyVerb {method : String} {path : NativePath}
    {watch : List (List UInt8)} {verb : NativeVerb} {capability : Option AuthorizationCapability}
    (h : classifyVerb method path watch = .ok (verb, capability)) :
    NativeRequest.Supported ⟨path.api, path.namespaceName, path.resource, path.name, path.subresource,
      verb, capability⟩ := by
  unfold classifyVerb at h
  cases hsub : path.subresource with
  | some subresource =>
      simp only [hsub] at h
      split at h
      · simp at h
      · rename_i hguard
        push Not at hguard
        split at h
        · rename_i hlog
          obtain ⟨rfl, rfl⟩ : NativeVerb.get = verb ∧ some AuthorizationCapability.logs = capability := by
            simpa using h
          exact .log (by simp [hlog.1]) hguard.1 rfl rfl
        · split at h
          · rename_i hexec
            obtain ⟨rfl, rfl⟩ : (if method = "POST" then NativeVerb.create else .get) = verb ∧
                some AuthorizationCapability.exec = capability := by simpa using h
            refine .exec (by simp [hexec.1]) hguard.1 ?_ rfl
            dsimp only
            split <;> simp
          · simp at h
  | none =>
      simp only [hsub] at h
      split at h
      · simp at h
      · simp only [Except.ok.injEq, Prod.mk.injEq] at h
        obtain ⟨rfl, rfl⟩ := h
        refine .read rfl ?_ rfl
        dsimp only
        split
        · simp
        · split <;> simp

theorem matchPath_eq_some {pathname : List Char} {path : NativePath}
    (h : matchPath pathname = some path) : isName ['-'] path.namespaceName.toList = true := by
  simp only [matchPath, Option.bind_eq_bind, Option.bind_eq_some_iff] at h
  obtain ⟨⟨api, rest⟩, -, hrest⟩ := h
  dsimp only at hrest
  split at hrest
  · split at hrest
    · rename_i hparts
      obtain ⟨⟨name, subresource⟩, -, hpath⟩ := Option.bind_eq_some_iff.mp hrest
      obtain rfl := Option.some.inj hpath
      simpa using hparts.2.1
    · simp at hrest
  · simp at hrest

theorem classifyNativeRequest_eq_ok {method target : String} {r : NativeRequest}
    (h : classifyNativeRequest method target = .ok r) :
    (isName ['-'] r.namespaceName.toList = true ∧ r.namespaceName.toList.length ≤ 63) ∧
      r.resource ∈ readResources r.api ∧ r.Supported := by
  unfold classifyNativeRequest at h
  dsimp only at h
  split at h
  · simp at h
  split at h
  · simp at h
  split at h
  · simp at h
  rename_i path hpath
  split at h
  · simp at h
  rename_i hguard
  push Not at hguard
  split at h
  · simp at h
  cases hverb : classifyVerb method path
      (getAll (searchParams (urlQuery target.toList)) "watch") with
  | error e => simp [hverb, bind, Except.bind] at h
  | ok answer =>
      obtain ⟨verb, capability⟩ := answer
      simp only [hverb, bind, Except.bind, pure, Except.pure, Except.ok.injEq] at h
      subst h
      refine ⟨⟨matchPath_eq_some hpath, ?_⟩, by simpa using hguard.2.2,
        supported_of_classifyVerb hverb⟩
      rw [String.length_toList]
      exact hguard.1

end KubeNova.Native
