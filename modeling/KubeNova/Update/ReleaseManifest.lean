import KubeNova.Foundation.JsValue
import KubeNova.Foundation.Results
import KubeNova.Update.ImageUpdate

/-!
# The images of a release

`validateKubernetesReleaseManifest`, and what becomes of the images it lets through.  The manifest
and the task queue take a reference in any case, the image update takes it in lower case only.
-/

namespace KubeNova.Update

open KubeNova.Common KubeNova.Foundation

/-- `/@sha256:[a-f0-9]{64}$/i` -/
def endsInDigest (image : List Char) : Bool :=
  let mark := "@sha256:".toList
  let tail := (image.drop (image.length - (mark.length + 64))).map Char.toLower
  mark.isPrefixOf tail && hexDigits 64 true (tail.drop mark.length)

def expectedPrefix (toLowerCase : String → String) (expectedRepository : String)
    (c : KubernetesComponent) : String :=
  "ghcr.io/" ++ toLowerCase expectedRepository ++ "-" ++ imageName c ++ "@sha256:"

def manifestImage (toLowerCase : String → String) (images : Js) (expectedRepository : String)
    (c : KubernetesComponent) : Except String String :=
  match images.field (componentKey c) with
  | .string image =>
      if endsInDigest image.toList = false then
        .error ("release manifest " ++ componentKey c ++ " image must use an immutable digest")
      else if Text.startsWith (expectedPrefix toLowerCase expectedRepository c)
          (toLowerCase image) = false then
        .error ("release manifest " ++ componentKey c ++ " image is outside the trusted repository")
      else .ok image
  | _ => .error ("release manifest " ++ componentKey c ++ " image is missing")

def isText (value : Js) (text : String) : Bool :=
  match value with
  | .string value => value == text
  | _ => false

def validateKubernetesReleaseManifest (toLowerCase : String → String) (input : Js)
    (expectedVersion expectedRepository : String) : Except String Images :=
  match input with
  | .object manifest =>
      if isText ((Js.object manifest).field "version") expectedVersion = false then
        .error "release manifest version does not match the selected release"
      else if isText ((Js.object manifest).field "repository") expectedRepository = false then
        .error "release manifest repository does not match the configured repository"
      else match (Js.object manifest).field "images" with
        | .object images => do
            let image := manifestImage toLowerCase (.object images) expectedRepository
            let frontend ← image .frontend
            let controlApi ← image .controlApi
            let runtimeGateway ← image .runtimeGateway
            return fun
              | .frontend => frontend
              | .controlApi => controlApi
              | .runtimeGateway => runtimeGateway
        | _ => .error "release manifest images are missing"
  | _ => .error "release manifest must be an object"

theorem toLower_of_isLowerHex {c : Char} (h : Text.isLowerHex c = true) : c.toLower = c := by
  have hlt : c.toNat < 103 := by
    simp only [Text.isLowerHex, Text.isDigit, Bool.or_eq_true, Bool.and_eq_true,
      decide_eq_true_eq] at h
    rcases h with h | h
    · exact Nat.lt_of_le_of_lt h.2 (by decide)
    · exact Nat.lt_of_le_of_lt h.2 (by decide)
  have hall : ∀ n < 103, Text.isLowerHex (Char.ofNat n) = true →
      (Char.ofNat n).toLower = Char.ofNat n := by decide
  have hc := hall c.toNat hlt
  rw [Char.ofNat_toNat] at hc
  exact hc h

theorem toLower_of_isTrustedImage {c : KubernetesComponent} {image : List Char}
    (h : isTrustedImage (imageName c) image = true) : image.map Char.toLower = image := by
  have hname : ∀ c : KubernetesComponent,
      ("ghcr.io/feize666/kubenova-".toList ++ (imageName c).toList ++ "@sha256:".toList).map
        Char.toLower =
      "ghcr.io/feize666/kubenova-".toList ++ (imageName c).toList ++ "@sha256:".toList := by
    intro c
    cases c <;> decide
  simp only [isTrustedImage, hexDigits, Bool.and_eq_true, List.isPrefixOf_iff_prefix, if_true,
    List.all_eq_true] at h
  obtain ⟨⟨digest, rfl⟩, -, hdigest⟩ := h
  rw [List.drop_left] at hdigest
  have hlower : digest.map Char.toLower = digest.map id := by
    apply List.map_congr_left
    intro x hx
    exact toLower_of_isLowerHex (hdigest x hx)
  rw [List.map_append, hname c, hlower, List.map_id]

/-- **Where the patterns differ**: of the references the queue takes, the image update takes those
in lower case. -/
theorem isTrustedImage_iff {c : KubernetesComponent} {image : String}
    (h : isTrustedImage (imageName c) (image.toList.map Char.toLower) = true) :
    isTrustedImage (imageName c) image.toList = true ↔ Text.toLower image = image := by
  rw [Text.toLower, ← String.toList_inj, String.toList_ofList]
  constructor
  · exact toLower_of_isTrustedImage
  · intro hlower
    rw [← hlower]
    exact h

/-- The API server answers, the Deployments are ready, and they run images of the same
repositories. -/
structure IsReady (s : World) : Prop where
  answers : s.outside.failure = none
  ready : ∀ c, assertDeploymentReady (s.deployments c) c = .ok ()
  running : ∀ c, ∃ image, s.image c = some image ∧ isTrustedImage (imageName c) image.toList = true

theorem IsReady.see {s : World} (hs : IsReady s) (c : KubernetesComponent) (image : Option String) :
    IsReady (s.see c image) := ⟨hs.answers, hs.ready, hs.running⟩

theorem run_read {s : World} (hs : IsReady s) (c : KubernetesComponent) :
    (readNamespacedDeployment c).run s = (.ok (s.deployments c), s.see c (s.image c)) := by
  have hanswers := hs.answers
  rw [readNamespacedDeployment, Async.run_exec_bind]
  simp only [hanswers]
  rfl

theorem deploymentImage_ok {s : World} (hs : IsReady s) (c : KubernetesComponent) :
    ∃ image, deploymentImage (s.deployments c) c = .ok image := by
  obtain ⟨image, himage, htrusted⟩ := hs.running c
  have hne : image ≠ "" := by
    rintro rfl
    revert htrusted
    cases c <;> decide
  refine ⟨image, ?_⟩
  have hcurrent : currentImage c (s.deployments c) = some image := himage
  rw [deploymentImage, hcurrent, Option.filter_some, if_pos (by simpa using hne)]

theorem readPrevious_isOk_iff {u : ImageUpdate} (hread : u.readDeployment = readNamespacedDeployment)
    {s : World} (hs : IsReady s) (cs : List KubernetesComponent) (previous : Images) :
    ((u.readPrevious cs previous).run s).1.isOk = true ↔
      ∀ c ∈ cs, isTrustedImage (imageName c) (u.targetImages c).toList = true := by
  induction cs generalizing previous s with
  | nil => simp [ImageUpdate.readPrevious, Except.isOk, Except.toBool]
  | cons c cs ih =>
      rw [ImageUpdate.readPrevious, hread]
      by_cases htrusted : isTrustedImage (imageName c) (u.targetImages c).toList = true
      · obtain ⟨image, himage⟩ := deploymentImage_ok hs c
        rw [Async.ensure, if_pos htrusted, Async.done_bind, Async.run_bind, run_read hs c]
        dsimp only
        rw [hs.ready c, himage]
        have hrest := ih (hs.see c (s.image c)) (Function.update previous c image)
        rw [List.forall_mem_cons]
        constructor
        · intro hok
          exact ⟨htrusted, hrest.mp hok⟩
        · intro hall
          exact hrest.mpr hall.2
      · rw [Async.ensure, if_neg htrusted]
        constructor
        · intro hok
          cases hok
        · intro hall
          exact absurd (hall c List.mem_cons_self) htrusted

theorem trusted_of_validated {payload : TaskPayload} {now : Option Nat}
    (h : validateTaskPayload payload now = .ok ()) (c : KubernetesComponent) :
    isTrustedImage (imageName c) ((payload.images c).toList.map Char.toLower) = true := by
  unfold validateTaskPayload at h
  iterate 9 obtain ⟨_, -, h⟩ := exists_of_bind_eq_ok h
  obtain ⟨_, hloop, -⟩ := exists_of_bind_eq_ok h
  have hcheck := Results.forall_of_forIn hloop c (by cases c <;> simp)
  by_contra htrusted
  rw [check, if_neg htrusted] at hcheck
  cases hcheck

/-- **What reaches the image update**: of the images that the manifest and the task queue let
through, the start of the update takes those in lower case, and no others. -/
theorem accepted_images_apply_iff {toLowerCase : String → String} {input : Js}
    {expectedVersion expectedRepository : String} {payload : TaskPayload} {now : Nat}
    {u : ImageUpdate} {s : World} (previous : Images)
    (_hmanifest : validateKubernetesReleaseManifest toLowerCase input expectedVersion
      expectedRepository = .ok payload.images)
    (hsubmit : validateTaskPayload payload (some now) = .ok ())
    (hread : u.readDeployment = readNamespacedDeployment) (htarget : u.targetImages = payload.images)
    (hs : IsReady s) :
    ((u.readPrevious components previous).run s).1.isOk = true ↔
      ∀ c, Text.toLower (payload.images c) = payload.images c := by
  rw [readPrevious_isOk_iff hread hs, htarget]
  constructor
  · intro hall c
    exact (isTrustedImage_iff (trusted_of_validated hsubmit c)).mp
      (hall c (by cases c <;> simp [components]))
  · intro hall c _
    exact (isTrustedImage_iff (trusted_of_validated hsubmit c)).mpr (hall c)

/-! ## A release whose digests are written with one digit -/

def releaseChars (digit : Char) (c : KubernetesComponent) : List Char :=
  "ghcr.io/feize666/kubenova-".toList ++ (imageName c).toList ++ "@sha256:".toList ++
    List.replicate 64 digit

def releaseImages (digit : Char) : Images := fun c => String.ofList (releaseChars digit c)

theorem toList_releaseImages (digit : Char) (c : KubernetesComponent) :
    (releaseImages digit c).toList = releaseChars digit c := String.toList_ofList

def releaseManifest (digit : Char) : Js :=
  .object [("version", .string "v1.2"), ("repository", .string "feize666/kubenova"),
    ("images", .object (components.map fun c => (componentKey c, .string (releaseImages digit c))))]

theorem manifestImage_release {digit : Char} (h : digit = 'a' ∨ digit = 'A')
    (c : KubernetesComponent) :
    manifestImage Text.toLower
      (.object (components.map fun c => (componentKey c, .string (releaseImages digit c))))
      "feize666/kubenova" c = .ok (releaseImages digit c) := by
  have hfield : (Js.object (components.map fun c =>
      (componentKey c, .string (releaseImages digit c)))).field (componentKey c) =
      .string (releaseImages digit c) := by
    cases c <;> rfl
  have hdigest : endsInDigest (releaseImages digit c).toList = true := by
    have hchars : endsInDigest (releaseChars digit c) = true := by
      rcases h with rfl | rfl <;> cases c <;> decide +kernel
    exact (congrArg endsInDigest (toList_releaseImages digit c)).trans hchars
  have hlower : (Text.toLower (releaseImages digit c)).toList =
      (releaseChars digit c).map Char.toLower :=
    String.toList_ofList.trans (congrArg (List.map Char.toLower) (toList_releaseImages digit c))
  have hprefix : Text.startsWith (expectedPrefix Text.toLower "feize666/kubenova" c)
      (Text.toLower (releaseImages digit c)) = true := by
    have hchars : (expectedPrefix Text.toLower "feize666/kubenova" c).toList.isPrefixOf
        ((releaseChars digit c).map Char.toLower) = true := by
      rcases h with rfl | rfl <;> cases c <;> decide +kernel
    exact (congrArg (List.isPrefixOf _) hlower).trans hchars
  unfold manifestImage
  simp only [hfield, hdigest, hprefix, Bool.true_eq_false, if_false]

theorem validate_release {digit : Char} (h : digit = 'a' ∨ digit = 'A') :
    validateKubernetesReleaseManifest Text.toLower (releaseManifest digit) "v1.2"
      "feize666/kubenova" = .ok (releaseImages digit) := by
  have himage := manifestImage_release h
  show ((do
    let frontend ← manifestImage Text.toLower _ _ .frontend
    let controlApi ← manifestImage Text.toLower _ _ .controlApi
    let runtimeGateway ← manifestImage Text.toLower _ _ .runtimeGateway
    return fun
      | .frontend => frontend
      | .controlApi => controlApi
      | .runtimeGateway => runtimeGateway) : Except String Images) = _
  rw [himage, himage, himage]
  refine congrArg Except.ok (funext fun c => ?_)
  cases c <;> rfl

def releasePayload (digit : Char) : TaskPayload :=
  { samplePayload with images := releaseImages digit }

theorem images_chars {p : List Char → Prop} {digit : Char} {c : KubernetesComponent}
    (h : p (releaseChars digit c)) : p (releaseImages digit c).toList := by
  rw [toList_releaseImages]
  exact h

theorem trusted_release {digit : Char} (h : digit = 'a' ∨ digit = 'A') (c : KubernetesComponent) :
    isTrustedImage (imageName c) ((releaseImages digit c).toList.map Char.toLower) = true := by
  have hchars : isTrustedImage (imageName c) ((releaseChars digit c).map Char.toLower) = true := by
    rcases h with rfl | rfl <;> cases c <;> decide +kernel
  exact images_chars (p := fun cs => isTrustedImage (imageName c) (cs.map Char.toLower) = true) hchars

theorem submit_release {digit : Char} (h : digit = 'a' ∨ digit = 'A') :
    validateTaskPayload (releasePayload digit) (some 1769846000000) = .ok () := by
  have himage : ∀ c, isTrustedImage (imageName c)
      (((releasePayload digit).images c).toList.map Char.toLower) = true := trusted_release h
  unfold validateTaskPayload
  iterate 9
    refine (check_bind ?_).trans ?_
    · rcases h with rfl | rfl <;> decide +kernel
  have hoperator : isReference (releasePayload digit).operator = true := by
    rcases h with rfl | rfl <;> decide +kernel
  simp only [List.forIn_cons, List.forIn_nil, himage, hoperator, check, if_true]
  rfl

def releaseWorld : World :=
  { sampleWorld none with deployments := fun c => sampleDeployment c (releaseImages 'a' c) }

theorem isReady_release : IsReady releaseWorld := by
  refine ⟨rfl, fun c => ?_, fun c => ⟨releaseImages 'a' c, ?_, ?_⟩⟩
  · cases c <;> rfl
  · cases c <;> rfl
  · have hchars : isTrustedImage (imageName c) (releaseChars 'a' c) = true := by
      cases c <;> decide +kernel
    exact images_chars (p := fun cs => isTrustedImage (imageName c) cs = true) hchars

def releaseUpdate (digit : Char) : ImageUpdate := adapterUpdate (releaseImages digit) reportOnly

theorem accepted_images_apply_lower :
    (((releaseUpdate 'a').readPrevious components (releaseImages 'a')).run releaseWorld).1.isOk =
      true := by
  refine (accepted_images_apply_iff (releaseImages 'a') (validate_release (.inl rfl))
    (submit_release (.inl rfl)) rfl rfl isReady_release).mpr fun c => ?_
  have hchars : (releaseChars 'a' c).map Char.toLower = releaseChars 'a' c := by
    cases c <;> decide +kernel
  rw [← String.toList_inj, Text.toLower, String.toList_ofList]
  exact images_chars (p := fun cs => cs.map Char.toLower = cs) hchars

/-- A release with upper-case digests passes the manifest and the queue, and its update fails. -/
theorem upper_digest_refused :
    ¬∀ (toLowerCase : String → String) (input : Js) (expectedVersion expectedRepository : String)
      (payload : TaskPayload) (now : Nat) (u : ImageUpdate) (s : World) (previous : Images),
      validateKubernetesReleaseManifest toLowerCase input expectedVersion expectedRepository =
        .ok payload.images →
      validateTaskPayload payload (some now) = .ok () → u.readDeployment = readNamespacedDeployment →
      u.targetImages = payload.images → IsReady s →
        ((u.readPrevious components previous).run s).1.isOk = true := by
  intro h
  have hok := h Text.toLower (releaseManifest 'A') _ _ (releasePayload 'A') _ (releaseUpdate 'A')
    releaseWorld (releaseImages 'a') (validate_release (.inr rfl)) (submit_release (.inr rfl)) rfl rfl
    isReady_release
  have htrusted := (readPrevious_isOk_iff rfl isReady_release components _).mp hok .frontend
    (by simp [components])
  have hchars := toLower_of_isTrustedImage htrusted
  have hdiff : (releaseChars 'A' .frontend).map Char.toLower ≠ releaseChars 'A' .frontend := by
    decide +kernel
  exact images_chars (p := fun cs => cs.map Char.toLower ≠ cs) hdiff hchars

end KubeNova.Update
