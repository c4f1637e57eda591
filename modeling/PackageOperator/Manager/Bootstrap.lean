import PackageOperator.Manager.Revisions
import PackageOperator.Manager.Cleanup

/-! `bootstrapper.Bootstrap` of the manager binary: with the self-managed ClusterPackage
present it cleans up if the manager is gone, repairs revisions and patches the package to the
new image; without it, it self-bootstraps: loads the package bundle, installs its CRDs,
creates the ClusterPackage and runs the manager. The poller that cancels the manager once the
package is available runs beside it and is modelled on its own. -/

namespace PackageOperator.Manager
open Api Cluster Client MetaObject ClientM

/-- The fields of `bootstrapper` that the modelled methods read; its client is the world they
run against. `Files` and `Package` are what the loader reads and what it builds. -/
structure Bootstrapper (Files Package : Type) where
  loader : Files → Except Error Package
  selfBootstrapImage : String
  pkoNamespace : String
  runManager : ClientM Unit
  loadFiles : String → Except Error Files

/-- `getPKOConfigFromEnvironment`: the raw configuration, none when the variable is empty. -/
def getPKOConfigFromEnvironment : ClientM (Option String) := do
  let pkoConfig ← getenv pkoConfigEnvVar
  pure (if pkoConfig.length > 0 then some pkoConfig else none)

/-- How the client encodes the configuration into a request body: `RawExtension.MarshalJSON`
hands over the raw bytes, which encoding/json takes only as one JSON value, and a nil
configuration is left out. -/
def marshalConfig : Option String → Except Error (Option Json)
  | none => .ok none
  | some raw =>
    match parseJson raw with
    | some config => .ok (some config)
    | none => .error .marshal

/-- What a `client.Merge` patch does to the stored `spec.config`: a nil configuration is left
out of the body and keeps the stored one, null removes it, and any other value is merged into
it. -/
def mergeConfig : Option Json → Option Json → Option Json
  | none, stored => stored
  | some .null, _ => none
  | some patch, stored => some (Json.mergePatch (stored.getD .null) patch)

/-- What a `client.Merge` patch of the whole ClusterPackage leaves of the stored one. The body is
the object as read: it is accepted only at the stored resourceVersion, and then its metadata
and status are the stored ones, so only its spec changes anything. -/
def mergePackage (body stored : ClusterPackage) : ClusterPackage :=
  { stored with spec := { image := body.spec.image, config := mergeConfig body.spec.config stored.spec.config } }

/-- On the spec, the patch is RFC 7386's merge of the body's spec into the stored one. -/
theorem mergePackage_spec (body stored : ClusterPackage) :
    (mergePackage body stored).spec.toJson = Json.mergePatch stored.spec.toJson body.spec.toJson := by
  obtain ⟨_, ⟨bodyImage, bodyConfig⟩, _⟩ := body
  obtain ⟨_, ⟨image, config⟩, _⟩ := stored
  rcases bodyConfig with _ | ⟨_ | _ | _ | _ | _ | _⟩ <;> rcases config with _ | _ <;>
    simp [mergePackage, mergeConfig, PackageSpec.toJson, Json.mergePatch, Json.mergeMembers, Json.members, mapSet,
      List.lookup_cons]

/-- `crdGK`. -/
def crdGK : GroupKind := ⟨"apiextensions.k8s.io", "CustomResourceDefinition"⟩

def crdsFromTemplateSpec (templateSpec : ObjectSetTemplateSpec) : List Unstructured :=
  templateSpec.phases.flatMap fun phase =>
    phase.objects.filterMap fun obj => if obj.object.gvk.groupKind = crdGK then some obj.object else none

section Bootstrapper

variable {Files Package : Type} (b : Bootstrapper Files Package)

def updatePKOPackage (packageOperatorPackage : ClusterPackage) : ClientM Unit := do
  let config ← getPKOConfigFromEnvironment
  -- `Patch` encodes the object before it sends anything, and returns the encoder's error
  let config ← ofResult (marshalConfig config)
  let _ ← patch mergePackage
    { packageOperatorPackage with spec := { packageOperatorPackage.spec with
      image := b.selfBootstrapImage, config := config } }
  pure ()

def createPKOPackage : ClientM ClusterPackage := do
  let config ← getPKOConfigFromEnvironment
  -- `Create` encodes the object before it sends anything: the encoder's error is the Create's
  let config ← wrap "creating Package Operator ClusterPackage" (ofResult (marshalConfig config))
  let packageOperatorPackage : ClusterPackage :=
    { metadata := { name := packageOperatorClusterPackageName }
      spec := { image := b.selfBootstrapImage, config := config } }
  match ← attempt (create packageOperatorPackage) with
  | .error e =>
    if e.isAlreadyExists then pure packageOperatorPackage
    else throw (e.wrap "creating Package Operator ClusterPackage")
  | .ok created => pure created

/- `controllers.DynamicCacheLabel`, declared outside the modelled sources, and
`packagecontent.TemplateSpecFromPackage`. -/
variable (DynamicCacheLabel : String) (templateSpecFromPackage : Package → ObjectSetTemplateSpec)

def ensureCRDs (crds : List Unstructured) : ClientM Unit :=
  crds.forM fun crd => do
    let crd := { crd with metadata := { crd.metadata with
      labels := mapSet crd.metadata.labels DynamicCacheLabel "True" } }
    match ← attempt (create crd) with
    | .error e => if e.isAlreadyExists then pure () else throw e
    | .ok _ => pure ()

def selfBootstrap : ClientM Unit := do
  let files ← ofResult (b.loadFiles "/package")
  let packgeContent ← ofResult (b.loader files)
  let templateSpec := templateSpecFromPackage packgeContent
  let crds := crdsFromTemplateSpec templateSpec
  ensureCRDs DynamicCacheLabel crds
  let _ ← createPKOPackage b
  setenv "PKO_FORCE_ADOPTION" "1"
  b.runManager

def Bootstrap : ClientM Unit := do
  match ← attempt (get (α := ClusterPackage) ⟨"", packageOperatorClusterPackageName⟩) with
  | .ok packageOperatorPackage =>
    let packageOperatorPackage ← nukeIfNeeded b.pkoNamespace packageOperatorPackage
    wrap "fix missing revision numbers" fixMissingRevisionNumbers
    updatePKOPackage b packageOperatorPackage
  | .error e =>
    if !e.isNotFound && !e.isNoMatch then throw (e.wrap "error looking up Package Operator ClusterPackage")
    else selfBootstrap b DynamicCacheLabel templateSpecFromPackage

end Bootstrapper

/-! ## Self-bootstrap up to the manager -/

/-- Neither the ClusterObjectDeployments nor the ClusterObjectSets changed. -/
def keepObjects (s s' : Store) : Prop :=
  s'.clusterObjectDeployments = s.clusterObjectDeployments ∧ s'.clusterObjectSets = s.clusterObjectSets

def packageInstalled (s : Store) : Prop :=
  (s.clusterPackages.find? ⟨"", packageOperatorClusterPackageName⟩).isSome

theorem keepObjects_refl (s : Store) : keepObjects s s := ⟨rfl, rfl⟩

theorem keepObjects_trans (s₁ s₂ s₃ : Store) (first : keepObjects s₁ s₂) (second : keepObjects s₂ s₃) :
    keepObjects s₁ s₃ :=
  ⟨second.1.trans first.1, second.2.trans first.2⟩

/-- The CRD loop keeps what every Create of a CRD keeps. -/
theorem ensureCRDs_keeps_of_create {keep : Store → Store → Prop} (refl : ∀ s, keep s s)
    (trans : ∀ s₁ s₂ s₃, keep s₁ s₂ → keep s₂ s₃ → keep s₁ s₃)
    (created : ∀ crd : Unstructured, Keeps keep (create crd)) (DynamicCacheLabel : String)
    (crds : List Unstructured) : Keeps keep (ensureCRDs DynamicCacheLabel crds) := by
  induction crds with
  | nil => exact Keeps.pure refl _
  | cons crd crds ih =>
    refine Keeps.bind trans (Keeps.bind trans (Keeps.attempt (created _)) fun _ => ?_) fun _ => ih
    split
    · split
      · exact Keeps.pure refl _
      · exact Keeps.throw refl _
    · exact Keeps.pure refl _

theorem ensureCRDs_keeps (DynamicCacheLabel : String) (crds : List Unstructured) :
    Keeps keepObjects (ensureCRDs DynamicCacheLabel crds) :=
  ensureCRDs_keeps_of_create keepObjects_refl keepObjects_trans
    (fun _ => Keeps.write keepObjects_refl _ fun _ _ => ⟨rfl, rfl⟩) DynamicCacheLabel crds

section Bootstrapper

variable {Files Package : Type} (b : Bootstrapper Files Package)

/-- A PKO_CONFIG the client cannot encode fails `createPKOPackage` before anything is sent. -/
theorem createPKOPackage_unencodable {w : World} {config : Option String} {e : Error}
    (fetched : getPKOConfigFromEnvironment w = (.ok config, w)) (refused : marshalConfig config = .error e) :
    createPKOPackage b w = (.error (e.wrap "creating Package Operator ClusterPackage"), w) := by
  simp [createPKOPackage, fetched, refused, wrap]

/-- `createPKOPackage` fails with nothing written, or leaves the ClusterPackage stored, created
now or found taken, and no other object touched. -/
theorem createPKOPackage_outcome (w : World) :
    (∃ e, (createPKOPackage b w).1 = .error e ∧ (createPKOPackage b w).2.store = w.store) ∨
    ((createPKOPackage b w).1.isOk ∧ keepObjects w.store (createPKOPackage b w).2.store ∧
      packageInstalled (createPKOPackage b w).2.store) := by
  obtain ⟨config, fetched⟩ : ∃ config, getPKOConfigFromEnvironment w = (.ok config, w) := ⟨_, rfl⟩
  cases encodes : marshalConfig config with
  | error e => exact .inl ⟨_, by rw [createPKOPackage_unencodable b fetched encodes],
      by rw [createPKOPackage_unencodable b fetched encodes]⟩
  | ok config =>
  simp only [createPKOPackage, bind_apply, fetched, wrap, ofResult_apply, encodes, attempt_apply]
  rcases create_outcome
      (⟨{ name := packageOperatorClusterPackageName }, ⟨b.selfBootstrapImage, config⟩, {}⟩ : ClusterPackage) w with
    ⟨message, failed, same⟩ | ⟨refused, same, present⟩ | ⟨created, t, accepted, stored, present⟩
  · exact .inl ⟨(Error.transport message).wrap "creating Package Operator ClusterPackage",
      by simp [failed, Error.isAlreadyExists], by simp [failed, Error.isAlreadyExists, same]⟩
  · exact .inr ⟨by simp [refused, Error.isAlreadyExists, Except.isOk, Except.toBool],
      by simp [refused, Error.isAlreadyExists, same, keepObjects_refl],
      by simpa [refused, Error.isAlreadyExists, same] using present⟩
  · exact .inr ⟨by simp [accepted, Except.isOk, Except.toBool],
      by simp [accepted, stored, keepObjects_refl, keepObjects],
      by simpa [accepted, stored] using present⟩

/-- The update of the ClusterPackage keeps what every Patch of a ClusterPackage keeps. -/
theorem updatePKOPackage_keeps_of {keep : Store → Store → Prop} (refl : ∀ s, keep s s)
    (trans : ∀ s₁ s₂ s₃, keep s₁ s₂ → keep s₂ s₃ → keep s₁ s₃)
    (patched : ∀ o : ClusterPackage, Keeps keep (patch mergePackage o)) (packageOperatorPackage : ClusterPackage) :
    Keeps keep (updatePKOPackage b packageOperatorPackage) :=
  Keeps.bind trans (fun _ => refl _) fun _ => Keeps.bind trans (Keeps.ofResult refl _) fun _ =>
    Keeps.bind trans (patched _) fun _ => Keeps.pure refl _

variable (DynamicCacheLabel : String) (templateSpecFromPackage : Package → ObjectSetTemplateSpec)

/-- Self-bootstrap fails or hands over to the manager keeping what every Create of a CRD and the
creation of the ClusterPackage keep. -/
theorem selfBootstrap_hands_over_of {keep : Store → Store → Prop} (refl : ∀ s, keep s s)
    (trans : ∀ s₁ s₂ s₃, keep s₁ s₂ → keep s₂ s₃ → keep s₁ s₃)
    (crds : ∀ crd : Unstructured, Keeps keep (create crd)) (created : Keeps keep (createPKOPackage b)) :
    HandsOver keep (fun _ => True) b.runManager (selfBootstrap b DynamicCacheLabel templateSpecFromPackage) :=
  HandsOver.bind trans (fun _ => refl _) fun _ => HandsOver.bind trans (fun _ => refl _) fun _ =>
    HandsOver.bind trans (ensureCRDs_keeps_of_create refl trans crds _ _) fun _ =>
    HandsOver.bind trans created fun _ w =>
      .inr ⟨{ w with environment := mapSet w.environment "PKO_FORCE_ADOPTION" "1" }, refl _, trivial, rfl⟩

/-- Self-bootstrap writes no ClusterObjectDeployment or ClusterObjectSet before it hands over to
the manager, and hands over only once the ClusterPackage is stored. -/
theorem selfBootstrap_hands_over :
    HandsOver keepObjects packageInstalled b.runManager
      (selfBootstrap b DynamicCacheLabel templateSpecFromPackage) := by
  refine HandsOver.bind keepObjects_trans (fun w => keepObjects_refl _) fun files =>
    HandsOver.bind keepObjects_trans (fun w => keepObjects_refl _) fun packgeContent =>
    HandsOver.bind keepObjects_trans (ensureCRDs_keeps _ _) fun _ => ?_
  intro w
  have outcome := createPKOPackage_outcome b w
  rw [bind_apply]
  rcases ran : createPKOPackage b w with ⟨_ | p, w'⟩
  · rw [ran] at outcome
    rcases outcome with ⟨e, -, same⟩ | ⟨accepted, -⟩
    · exact .inl ⟨_, rfl, same ▸ keepObjects_refl _⟩
    · simp [Except.isOk, Except.toBool] at accepted
  · rw [ran] at outcome
    rcases outcome with ⟨e, failed, -⟩ | ⟨-, kept, installed⟩
    · cases failed
    · exact .inr ⟨{ w' with environment := mapSet w'.environment "PKO_FORCE_ADOPTION" "1" }, kept,
        installed, rfl⟩

/-- With no ClusterPackage stored, Bootstrap self-bootstraps or fails on the lookup, and in
neither case touches a ClusterObjectDeployment or ClusterObjectSet before the manager runs. -/
theorem Bootstrap_without_package {u : World}
    (absent : u.store.clusterPackages.find? ⟨"", packageOperatorClusterPackageName⟩ = none) :
    (∃ e, (Bootstrap b DynamicCacheLabel templateSpecFromPackage u).1 = .error e ∧
      keepObjects u.store (Bootstrap b DynamicCacheLabel templateSpecFromPackage u).2.store) ∨
    ∃ u', keepObjects u.store u'.store ∧ packageInstalled u'.store ∧
      Bootstrap b DynamicCacheLabel templateSpecFromPackage u = b.runManager u' := by
  simp only [Bootstrap, bind_apply, attempt_apply]
  rcases get_absent u absent with notFound | ⟨message, transport⟩
  · rw [notFound]
    simp only [Error.isNotFound, Error.isNoMatch, Bool.not_true, Bool.false_and, Bool.false_eq_true,
      if_false]
    rcases selfBootstrap_hands_over b DynamicCacheLabel templateSpecFromPackage
        (get (α := ClusterPackage) ⟨"", packageOperatorClusterPackageName⟩ u).2 with
      ⟨e, failed, kept⟩ | ⟨u', kept, installed, handed⟩
    · exact .inl ⟨e, failed, by simpa [get_store] using kept⟩
    · exact .inr ⟨u', by simpa [get_store] using kept, installed, handed⟩
  · rw [transport]
    exact .inl ⟨(Error.transport message).wrap "error looking up Package Operator ClusterPackage",
      by simp [Error.isNotFound, Error.isNoMatch],
      by simp [Error.isNotFound, Error.isNoMatch, get_store, keepObjects_refl]⟩

end Bootstrapper

/-! ## After a cleanup -/

/-- The self-managed ClusterPackage with nothing holding back its deletion. -/
def idlePackage : ClusterPackage where
  metadata := { name := packageOperatorClusterPackageName }
  spec := { image := "quay.io/package-operator/package-operator-package:v1.0.0" }

/-- The package is installed but the manager Deployment is gone. -/
def idlePackageStore : Store := { Store.empty with clusterPackages := Table.singleton idlePackage }

/-- Whatever the bootstrapper's image, namespace, loader and manager: with the manager
Deployment gone, Bootstrap deletes the ClusterPackage, lists what it owns, repairs revisions
and then patches the ClusterPackage it has just deleted. The call ends in NotFound without a
Create, and leaves no ClusterPackage. -/
theorem Bootstrap_patches_deleted_package {Files Package : Type} (b : Bootstrapper Files Package)
    (DynamicCacheLabel : String) (templateSpecFromPackage : Package → ObjectSetTemplateSpec) :
    (Bootstrap b DynamicCacheLabel templateSpecFromPackage (World.reliableOn idlePackageStore)).1 =
      .error .notFound ∧
    (Bootstrap b DynamicCacheLabel templateSpecFromPackage (World.reliableOn idlePackageStore)).2.requests = [
      .get (ClientObject.kind (α := ClusterPackage)) ⟨"", packageOperatorClusterPackageName⟩,
      .get (ClientObject.kind (α := Deployment)) ⟨b.pkoNamespace, "package-operator-manager"⟩,
      .delete (ClientObject.kind (α := ClusterPackage)) ⟨"", packageOperatorClusterPackageName⟩,
      .get (ClientObject.kind (α := ClusterPackage)) ⟨"", packageOperatorClusterPackageName⟩,
      .list (ClientObject.kind (α := ClusterObjectDeployment)) ownedSelector,
      .list (ClientObject.kind (α := ClusterObjectSet)) ownedSelector,
      listRequest,
      .patch (ClientObject.kind (α := ClusterPackage)) idlePackage.metadata] ∧
    (Bootstrap b DynamicCacheLabel templateSpecFromPackage
      (World.reliableOn idlePackageStore)).2.store.clusterPackages.find?
        ⟨"", packageOperatorClusterPackageName⟩ = none :=
  ⟨by rfl, by rfl, by rfl⟩

/-- A cascade that got past the ClusterPackage leaves none, whether it then failed or not, and
a restarted Bootstrap does not resume it: it goes straight to self-bootstrap, which re-creates
the ClusterPackage and starts the manager without deleting any ClusterObjectDeployment or
ClusterObjectSet the cascade left behind. -/
theorem Bootstrap_restarted_after_cleanup {Files Package : Type} (b : Bootstrapper Files Package)
    (DynamicCacheLabel : String) (templateSpecFromPackage : Package → ObjectSetTemplateSpec)
    {packageOperatorPackage removedCopy : ClusterPackage} {w : World}
    (named : key packageOperatorPackage = ⟨"", packageOperatorClusterPackageName⟩)
    (removed : (deleteStuck "ClusterPackage" packageOperatorPackage w).1 = .ok removedCopy)
    {u : World} (restarted : u.store = (forcedCleanup packageOperatorPackage w).2.store) :
    u.store.clusterPackages.find? ⟨"", packageOperatorClusterPackageName⟩ = none ∧
    ((∃ e, (Bootstrap b DynamicCacheLabel templateSpecFromPackage u).1 = .error e ∧
      keepObjects u.store (Bootstrap b DynamicCacheLabel templateSpecFromPackage u).2.store) ∨
    ∃ u', keepObjects u.store u'.store ∧ packageInstalled u'.store ∧
      Bootstrap b DynamicCacheLabel templateSpecFromPackage u = b.runManager u') := by
  have absent : u.store.clusterPackages.find? ⟨"", packageOperatorClusterPackageName⟩ = none := by
    rw [restarted, ← named]
    exact forcedCleanup_leaves_no_package removed
  exact ⟨absent, Bootstrap_without_package b DynamicCacheLabel templateSpecFromPackage absent⟩

/-- The package, and a ClusterObjectDeployment it owns. -/
def ownedDeployment : ClusterObjectDeployment where
  metadata := { name := packageOperatorClusterPackageName, labels := ownedSelector }

def ownedStore : Store := { idlePackageStore with clusterObjectDeployments := Table.singleton ownedDeployment }

/-- The transport fails the List of ClusterObjectDeployments, the cascade's third request. -/
def listFailsOnce : World :=
  { World.reliableOn ownedStore with fault := fun n => if n = 2 then some "connection reset by peer" else none }

def sampleBootstrapper : Bootstrapper Unit ObjectSetTemplateSpec where
  loader _ := .ok {}
  selfBootstrapImage := "quay.io/package-operator/package-operator-package:v1.1.0"
  pkoNamespace := "package-operator-system"
  runManager := pure ()
  loadFiles _ := .ok ()

theorem Bootstrap_restarted_after_list_failure :
    key idlePackage = ⟨"", packageOperatorClusterPackageName⟩ ∧
    (deleteStuck "ClusterPackage" idlePackage listFailsOnce).1 = .ok idlePackage ∧
    (World.reliableOn (forcedCleanup idlePackage listFailsOnce).2.store).store =
      (forcedCleanup idlePackage listFailsOnce).2.store ∧
    (World.reliableOn (forcedCleanup idlePackage listFailsOnce).2.store).store.clusterPackages.find?
      ⟨"", packageOperatorClusterPackageName⟩ = none ∧
    ((∃ e, (Bootstrap sampleBootstrapper "package-operator.run/cache" id
        (World.reliableOn (forcedCleanup idlePackage listFailsOnce).2.store)).1 = .error e ∧
      keepObjects (forcedCleanup idlePackage listFailsOnce).2.store (Bootstrap sampleBootstrapper
        "package-operator.run/cache" id (World.reliableOn (forcedCleanup idlePackage listFailsOnce).2.store)).2.store) ∨
    ∃ u', keepObjects (forcedCleanup idlePackage listFailsOnce).2.store u'.store ∧ packageInstalled u'.store ∧
      Bootstrap sampleBootstrapper "package-operator.run/cache" id
        (World.reliableOn (forcedCleanup idlePackage listFailsOnce).2.store) = sampleBootstrapper.runManager u') :=
  ⟨rfl, rfl, rfl, @Bootstrap_restarted_after_cleanup _ _ sampleBootstrapper "package-operator.run/cache" id
    idlePackage idlePackage listFailsOnce rfl rfl (World.reliableOn (forcedCleanup idlePackage listFailsOnce).2.store)
    rfl⟩

/-- The cascade fails on the List of ClusterObjectDeployments after removing the ClusterPackage.
The restarted Bootstrap re-creates the ClusterPackage and succeeds with the owned
ClusterObjectDeployment still stored, while the cascade run without the failure removes it. -/
theorem Bootstrap_restart_keeps_owned_deployment :
    (forcedCleanup idlePackage listFailsOnce).1 = .error ((Error.transport "connection reset by peer").wrap
      "listing stuck PackageOperator ClusterObjectDeployments") ∧
    (forcedCleanup idlePackage (World.reliableOn ownedStore)).1 = .ok idlePackage ∧
    (forcedCleanup idlePackage (World.reliableOn ownedStore)).2.store.clusterObjectDeployments.list ownedSelector = [] ∧
    (Bootstrap sampleBootstrapper "package-operator.run/cache" id
      (World.reliableOn (forcedCleanup idlePackage listFailsOnce).2.store)).1 = .ok () ∧
    packageInstalled (Bootstrap sampleBootstrapper "package-operator.run/cache" id
      (World.reliableOn (forcedCleanup idlePackage listFailsOnce).2.store)).2.store ∧
    (Bootstrap sampleBootstrapper "package-operator.run/cache" id
      (World.reliableOn (forcedCleanup idlePackage listFailsOnce).2.store)).2.store.clusterObjectDeployments.list
        ownedSelector = [ownedDeployment] :=
  ⟨rfl, rfl, rfl, rfl, rfl, rfl⟩

end PackageOperator.Manager
