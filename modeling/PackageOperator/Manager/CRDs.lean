import PackageOperator.Manager.Bootstrap

/-! Self-bootstrap installs the CustomResourceDefinitions of its own bundle first, or the
manager cannot start: `crdsFromTemplateSpec` picks them out of the template phase after phase,
and `ensureCRDs` creates each with the dynamic cache label set, passing over one that already
exists and stopping at any other error. -/

namespace PackageOperator.Manager
open Api Cluster Client MetaObject ClientM

/-- The template's objects, phase after phase, each phase's in order. -/
def templateObjects (templateSpec : ObjectSetTemplateSpec) : List Unstructured :=
  templateSpec.phases.flatMap fun phase => phase.objects.map (·.object)

/-- The CRDs are the template's objects of the CRD group and kind, of any version, in order. -/
theorem crdsFromTemplateSpec_eq (templateSpec : ObjectSetTemplateSpec) :
    crdsFromTemplateSpec templateSpec =
      (templateObjects templateSpec).filter fun o => o.gvk.groupKind = crdGK := by
  simp only [crdsFromTemplateSpec, templateObjects, List.filter_flatMap, ← List.filterMap_eq_filter,
    List.filterMap_map, Function.comp_def, Option.guard, decide_eq_true_eq]

section Loop

variable (DynamicCacheLabel : String)

/-- A CRD as the loop sends it: its labels, with `DynamicCacheLabel` set to "True". -/
def cacheLabelled (crd : Unstructured) : Unstructured :=
  { crd with metadata := { crd.metadata with labels := mapSet crd.metadata.labels DynamicCacheLabel "True" } }

/-- The sent CRD carries its own labels and the cache label. -/
theorem cacheLabelled_labels (crd : Unstructured) (k : String) :
    (cacheLabelled DynamicCacheLabel crd).metadata.labels.lookup k =
      if k = DynamicCacheLabel then some "True" else crd.metadata.labels.lookup k :=
  lookup_mapSet _ _ _ _

/-- The Create request the loop sends for a CRD. -/
def crdCreate (crd : Unstructured) : Request :=
  .create crd.gvk.groupKind (cacheLabelled DynamicCacheLabel crd).metadata

theorem create_cacheLabelled_requests (crd : Unstructured) (w : World) :
    (create (cacheLabelled DynamicCacheLabel crd) w).2.requests =
      w.requests ++ [crdCreate DynamicCacheLabel crd] :=
  send_requests _ _ _

/-- One step of the loop: the Create of the CRD ends it with an error other than
AlreadyExists, or the loop goes on from the world the Create left. -/
theorem ensureCRDs_cons (crd : Unstructured) (crds : List Unstructured) (w : World) :
    (∃ e, (create (cacheLabelled DynamicCacheLabel crd) w).1 = .error e ∧ e.isAlreadyExists = false ∧
      ensureCRDs DynamicCacheLabel (crd :: crds) w = (.error e, (create (cacheLabelled DynamicCacheLabel crd) w).2)) ∨
    ((∀ e, (create (cacheLabelled DynamicCacheLabel crd) w).1 = .error e → e.isAlreadyExists = true) ∧
      ensureCRDs DynamicCacheLabel (crd :: crds) w =
        ensureCRDs DynamicCacheLabel crds (create (cacheLabelled DynamicCacheLabel crd) w).2) := by
  rcases ran : create (cacheLabelled DynamicCacheLabel crd) w with ⟨_ | c, w'⟩
  all_goals simp only [cacheLabelled] at ran
  · next e =>
    cases other : e.isAlreadyExists
    · exact .inl ⟨e, rfl, other, by simp [ensureCRDs, List.forM_cons, ran, other]⟩
    · exact .inr ⟨fun _ failed => (by cases failed; exact other), by simp [ensureCRDs, List.forM_cons, ran, other]⟩
  · exact .inr ⟨fun _ failed => (by cases failed), by simp [ensureCRDs, List.forM_cons, ran]⟩

/-- A run of the loop over any transport: it sends one Create per CRD, in order, and passes
them all, or the first Create answered with an error other than AlreadyExists ends it with
that error, right after that Create. -/
theorem ensureCRDs_run (crds : List Unstructured) (w : World) :
    ((ensureCRDs DynamicCacheLabel crds w).1 = .ok () ∧
      (ensureCRDs DynamicCacheLabel crds w).2.requests = w.requests ++ crds.map (crdCreate DynamicCacheLabel)) ∨
    ∃ pre crd post u e, crds = pre ++ crd :: post ∧ u.requests = w.requests ++ pre.map (crdCreate DynamicCacheLabel) ∧
      (create (cacheLabelled DynamicCacheLabel crd) u).1 = .error e ∧ e.isAlreadyExists = false ∧
      ensureCRDs DynamicCacheLabel crds w = (.error e, (create (cacheLabelled DynamicCacheLabel crd) u).2) := by
  induction crds generalizing w with
  | nil => exact .inl ⟨rfl, by simp [ensureCRDs]⟩
  | cons crd crds ih =>
    rcases ensureCRDs_cons DynamicCacheLabel crd crds w with ⟨e, failed, other, stopped⟩ | ⟨-, continues⟩
    · exact .inr ⟨[], crd, crds, w, e, rfl, by simp, failed, other, stopped⟩
    rw [continues]
    rcases ih (create (cacheLabelled DynamicCacheLabel crd) w).2 with ⟨completes, requests⟩ |
      ⟨pre, failing, post, u, e, split, before, failed, other, stopped⟩
    · refine .inl ⟨completes, ?_⟩
      rw [requests, create_cacheLabelled_requests]
      simp
    · refine .inr ⟨crd :: pre, failing, post, u, e, by rw [split]; rfl, ?_, failed, other, stopped⟩
      rw [before, create_cacheLabelled_requests]
      simp

/-! ## What the loop installs -/

/-- Every CRD the first store holds, the second holds. -/
def crdsKept (s s' : Store) : Prop :=
  ∀ k, (s.customResourceDefinitions.find? k).isSome → (s'.customResourceDefinitions.find? k).isSome

theorem create_keeps_crds (crd : Unstructured) : Keeps crdsKept (create crd) :=
  Keeps.send (fun _ _ present => present) _ fun s _ _ answered k present => by
    simp only [write, table_unstructured] at answered
    cases created : s.customResourceDefinitions.create crd (s.revision + 1) with
    | error e => simp [created, Except.map] at answered
    | ok result =>
      simp only [created, Except.map, Except.ok.injEq, Prod.mk.injEq] at answered
      rw [← answered.2]
      exact Table.create_keeps created present

theorem ensureCRDs_keeps_crds (crds : List Unstructured) : Keeps crdsKept (ensureCRDs DynamicCacheLabel crds) :=
  ensureCRDs_keeps_of_create (fun _ _ present => present)
    (fun _ _ _ first second k present => second k (first k present)) create_keeps_crds DynamicCacheLabel crds

/-- A Create answered with success or AlreadyExists leaves the CRD installed. -/
theorem create_installs (crd : Unstructured) (w : World)
    (passed : ∀ e, (create crd w).1 = .error e → e.isAlreadyExists = true) :
    ((create crd w).2.store.customResourceDefinitions.find? (key crd)).isSome := by
  rcases create_outcome crd w with ⟨_, failed, -⟩ | ⟨-, same, present⟩ | ⟨_, _, -, stored, present⟩
  · cases passed _ failed
  · rw [same]
    exact present
  · rw [stored]
    exact present

/-- A run that passes leaves every CRD of the list installed, and every CRD installed before. -/
theorem ensureCRDs_installs (crds : List Unstructured) (w : World)
    (completes : (ensureCRDs DynamicCacheLabel crds w).1 = .ok ()) :
    ∀ crd ∈ crds, ((ensureCRDs DynamicCacheLabel crds w).2.store.customResourceDefinitions.find? (key crd)).isSome := by
  induction crds generalizing w with
  | nil => simp
  | cons crd crds ih =>
    rcases ensureCRDs_cons DynamicCacheLabel crd crds w with ⟨e, -, -, stopped⟩ | ⟨passed, continues⟩
    · rw [stopped] at completes
      cases completes
    rw [continues] at completes ⊢
    exact List.forall_mem_cons.mpr ⟨ensureCRDs_keeps_crds DynamicCacheLabel crds _ _
      (create_installs _ w passed), ih _ completes⟩

end Loop

/-! ## The CRDs of self-bootstrap -/

section Bootstrapper

variable {Files Package : Type} (b : Bootstrapper Files Package) (DynamicCacheLabel : String)
  (templateSpecFromPackage : Package → ObjectSetTemplateSpec)

/-- Once the bundle is loaded, self-bootstrap installs the template's CRDs and goes on. -/
theorem selfBootstrap_loaded {files : Files} {packgeContent : Package}
    (loaded : b.loadFiles "/package" = .ok files) (built : b.loader files = .ok packgeContent) (w : World) :
    selfBootstrap b DynamicCacheLabel templateSpecFromPackage w =
      (ensureCRDs DynamicCacheLabel (crdsFromTemplateSpec (templateSpecFromPackage packgeContent)) >>= fun _ => do
        let _ ← createPKOPackage b
        setenv "PKO_FORCE_ADOPTION" "1"
        b.runManager) w := by
  simp [selfBootstrap, loaded, built]

/-- For every template, self-bootstrap either gets past the CRDs having sent exactly one Create
per CRD object of the template, in phase-then-object order, each with the cache label, and
nothing else, then goes on; or the first Create answered with an error other than
AlreadyExists ends it with that error, no later Create sent. -/
theorem selfBootstrap_creates_template_crds {files : Files} {packgeContent : Package}
    (loaded : b.loadFiles "/package" = .ok files) (built : b.loader files = .ok packgeContent) (w : World) :
    (∃ w', w'.requests = w.requests ++
        ((templateObjects (templateSpecFromPackage packgeContent)).filter fun o => o.gvk.groupKind = crdGK).map
          (crdCreate DynamicCacheLabel) ∧
      selfBootstrap b DynamicCacheLabel templateSpecFromPackage w = (do
        let _ ← createPKOPackage b
        setenv "PKO_FORCE_ADOPTION" "1"
        b.runManager) w') ∨
    ∃ pre crd post u e, (templateObjects (templateSpecFromPackage packgeContent)).filter
        (fun o => o.gvk.groupKind = crdGK) = pre ++ crd :: post ∧
      u.requests = w.requests ++ pre.map (crdCreate DynamicCacheLabel) ∧
      (create (cacheLabelled DynamicCacheLabel crd) u).1 = .error e ∧ e.isAlreadyExists = false ∧
      selfBootstrap b DynamicCacheLabel templateSpecFromPackage w =
        (.error e, (create (cacheLabelled DynamicCacheLabel crd) u).2) := by
  rw [selfBootstrap_loaded b DynamicCacheLabel templateSpecFromPackage loaded built, ← crdsFromTemplateSpec_eq]
  rcases ensureCRDs_run DynamicCacheLabel (crdsFromTemplateSpec (templateSpecFromPackage packgeContent)) w with
    ⟨completes, requests⟩ | ⟨pre, crd, post, u, e, split, before, failed, other, stopped⟩
  · refine .inl ⟨_, requests, ?_⟩
    rw [bind_apply]
    rcases ran : ensureCRDs DynamicCacheLabel (crdsFromTemplateSpec (templateSpecFromPackage packgeContent)) w with
      ⟨_ | _, w'⟩
    · rw [ran] at completes
      cases completes
    · rfl
  · exact .inr ⟨pre, crd, post, u, e, split, before, failed, other, by rw [bind_apply, stopped]⟩

end Bootstrapper

/-- A CRD of the bundle, labelled by its owner. -/
def clusterPackageCRD : Unstructured where
  gvk := ⟨"apiextensions.k8s.io", "v1", "CustomResourceDefinition"⟩
  metadata := { name := "clusterpackages.package-operator.run",
                labels := [("app.kubernetes.io/name", "package-operator")] }

def managerNamespace : Unstructured where
  gvk := ⟨"", "v1", "Namespace"⟩
  metadata := { name := "package-operator-system" }

def managerDeployment : Unstructured where
  gvk := ⟨"apps", "v1", "Deployment"⟩
  metadata := { name := "package-operator-manager", «namespace» := "package-operator-system" }

/-- A CRD at an older version, carrying the cache label as "False". -/
def objectSetCRD : Unstructured where
  gvk := ⟨"apiextensions.k8s.io", "v1beta1", "CustomResourceDefinition"⟩
  metadata := { name := "clusterobjectsets.package-operator.run",
                labels := [("package-operator.run/cache", "False")] }

/-- Two phases, each with a CRD among objects of other kinds. -/
def crdBundle : ObjectSetTemplateSpec where
  phases := [{ name := "crds", objects := [⟨clusterPackageCRD⟩, ⟨managerNamespace⟩] },
    { name := "deploy", objects := [⟨managerDeployment⟩, ⟨objectSetCRD⟩] }]

example : crdsFromTemplateSpec crdBundle = [clusterPackageCRD, objectSetCRD] := by decide

def bundleBootstrapper : Bootstrapper Unit ObjectSetTemplateSpec where
  loader _ := .ok crdBundle
  selfBootstrapImage := "quay.io/package-operator/package-operator-package:v1.1.0"
  pkoNamespace := "package-operator-system"
  runManager := pure ()
  loadFiles _ := .ok ()

theorem selfBootstrap_creates_bundle_crds :
    bundleBootstrapper.loadFiles "/package" = .ok () ∧ bundleBootstrapper.loader () = .ok crdBundle ∧
    ((∃ w', w'.requests = (World.reliableOn Store.empty).requests ++
        ((templateObjects (id crdBundle)).filter fun o => o.gvk.groupKind = crdGK).map
          (crdCreate "package-operator.run/cache") ∧
      selfBootstrap bundleBootstrapper "package-operator.run/cache" id (World.reliableOn Store.empty) = (do
        let _ ← createPKOPackage bundleBootstrapper
        setenv "PKO_FORCE_ADOPTION" "1"
        bundleBootstrapper.runManager) w') ∨
    ∃ pre crd post u e, (templateObjects (id crdBundle)).filter
        (fun o => o.gvk.groupKind = crdGK) = pre ++ crd :: post ∧
      u.requests = (World.reliableOn Store.empty).requests ++ pre.map (crdCreate "package-operator.run/cache") ∧
      (create (cacheLabelled "package-operator.run/cache" crd) u).1 = .error e ∧ e.isAlreadyExists = false ∧
      selfBootstrap bundleBootstrapper "package-operator.run/cache" id (World.reliableOn Store.empty) =
        (.error e, (create (cacheLabelled "package-operator.run/cache" crd) u).2)) :=
  ⟨rfl, rfl, selfBootstrap_creates_template_crds bundleBootstrapper "package-operator.run/cache" id rfl rfl
    (World.reliableOn Store.empty)⟩

/-! ## Reruns of the loop

The bootstrapper runs again after any failure, so the loop must pick up where a run stopped. -/

section Rerun

variable (DynamicCacheLabel : String)

theorem ensureCRDs_replays {same : World → World → Prop} (sends : SendsAlike same) (crds : List Unstructured) :
    Replays same (ensureCRDs DynamicCacheLabel crds) :=
  Replays.forM fun _ => Replays.bind (Replays.attempt (Replays.send sends _ _)) fun _ => by
    split
    · split
      · exact Replays.pure _
      · exact Replays.throw _
    · exact Replays.pure _

theorem create_reliable (crd : Unstructured) {w : World} (reliable : w.Reliable) : (create crd w).2.Reliable :=
  fun n => by simp [create, reliable n]

/-- A Create that fails with anything but AlreadyExists was failed by the transport and wrote
nothing. -/
theorem create_fails_unwritten {crd : Unstructured} {w : World} {e : Error} (failed : (create crd w).1 = .error e)
    (other : e.isAlreadyExists = false) : (create crd w).2.store = w.store := by
  cases fault : w.fault w.requests.length with
  | some message => simp [create, send_faulty _ _ w message fault]
  | none =>
    rw [create_delivered fault failed] at other
    cases other

/-- A delivered Create never stops the loop. -/
theorem ensureCRDs_cons_delivered (crd : Unstructured) (crds : List Unstructured) {w : World}
    (delivered : w.fault w.requests.length = none) :
    ensureCRDs DynamicCacheLabel (crd :: crds) w =
      ensureCRDs DynamicCacheLabel crds (create (cacheLabelled DynamicCacheLabel crd) w).2 := by
  rcases ensureCRDs_cons DynamicCacheLabel crd crds w with ⟨e, failed, other, -⟩ | ⟨-, continues⟩
  · rw [create_delivered delivered failed] at other
    cases other
  · exact continues

theorem ensureCRDs_reliable (crds : List Unstructured) {w : World} (reliable : w.Reliable) :
    (ensureCRDs DynamicCacheLabel crds w).1 = .ok () := by
  induction crds generalizing w with
  | nil => rfl
  | cons crd crds ih =>
    rw [ensureCRDs_cons_delivered DynamicCacheLabel crd crds (reliable _)]
    exact ih (create_reliable _ reliable)

/-- With every CRD of the list stored, the loop writes nothing, whatever the transport does. -/
theorem ensureCRDs_installed (crds : List Unstructured) {w : World}
    (installed : ∀ crd ∈ crds, (w.store.customResourceDefinitions.find? (key crd)).isSome) :
    (ensureCRDs DynamicCacheLabel crds w).2.store = w.store := by
  induction crds generalizing w with
  | nil => rfl
  | cons crd crds ih =>
    have unchanged := create_taken (o := cacheLabelled DynamicCacheLabel crd) (w := w)
      (installed crd (List.mem_cons_self _ _))
    rcases ensureCRDs_cons DynamicCacheLabel crd crds w with ⟨e, -, -, stopped⟩ | ⟨-, continues⟩
    · rw [stopped]
      exact unchanged
    · rw [continues, ih fun c member => by rw [unchanged]; exact installed c (List.mem_cons_of_mem _ member)]
      exact unchanged

/-- Once a run has passed, the loop is idempotent: a rerun on the store it left writes nothing,
whatever its transport does, and passes when its transport delivers. -/
theorem ensureCRDs_idempotent (crds : List Unstructured) {w again : World}
    (completes : (ensureCRDs DynamicCacheLabel crds w).1 = .ok ())
    (restarted : again.store = (ensureCRDs DynamicCacheLabel crds w).2.store) :
    (ensureCRDs DynamicCacheLabel crds again).2.store = again.store ∧
      (again.Reliable → (ensureCRDs DynamicCacheLabel crds again).1 = .ok ()) :=
  ⟨ensureCRDs_installed DynamicCacheLabel crds fun crd member => by
      rw [restarted]
      exact ensureCRDs_installs DynamicCacheLabel crds w completes crd member,
    ensureCRDs_reliable DynamicCacheLabel crds⟩

theorem ensureCRDs_bundle_idempotent :
    (ensureCRDs "package-operator.run/cache" (crdsFromTemplateSpec crdBundle) (World.reliableOn Store.empty)).1 =
      .ok () ∧
    (World.reliableOn (ensureCRDs "package-operator.run/cache" (crdsFromTemplateSpec crdBundle)
      (World.reliableOn Store.empty)).2.store).store =
      (ensureCRDs "package-operator.run/cache" (crdsFromTemplateSpec crdBundle) (World.reliableOn Store.empty)).2.store ∧
    (ensureCRDs "package-operator.run/cache" (crdsFromTemplateSpec crdBundle)
      (World.reliableOn (ensureCRDs "package-operator.run/cache" (crdsFromTemplateSpec crdBundle)
        (World.reliableOn Store.empty)).2.store)).2.store =
      (World.reliableOn (ensureCRDs "package-operator.run/cache" (crdsFromTemplateSpec crdBundle)
        (World.reliableOn Store.empty)).2.store).store ∧
    ((World.reliableOn (ensureCRDs "package-operator.run/cache" (crdsFromTemplateSpec crdBundle)
        (World.reliableOn Store.empty)).2.store).Reliable →
      (ensureCRDs "package-operator.run/cache" (crdsFromTemplateSpec crdBundle)
        (World.reliableOn (ensureCRDs "package-operator.run/cache" (crdsFromTemplateSpec crdBundle)
          (World.reliableOn Store.empty)).2.store)).1 = .ok ()) :=
  ⟨rfl, rfl, ensureCRDs_idempotent "package-operator.run/cache" (crdsFromTemplateSpec crdBundle)
    (w := World.reliableOn Store.empty) rfl rfl⟩

/-- A run over any transport, wherever it stopped, followed by a reliable rerun on the store it
left, ends at the store one reliable run from the start ends at. -/
theorem ensureCRDs_resume (crds : List Unstructured) {interrupted restarted fresh : World}
    (reliable : restarted.Reliable) (reliable' : fresh.Reliable)
    (resumed : restarted.store = (ensureCRDs DynamicCacheLabel crds interrupted).2.store)
    (sameStart : fresh.store = interrupted.store) :
    (ensureCRDs DynamicCacheLabel crds restarted).2.store = (ensureCRDs DynamicCacheLabel crds fresh).2.store := by
  induction crds generalizing interrupted restarted fresh with
  | nil => exact resumed.trans sameStart.symm
  | cons crd crds ih =>
    rcases ensureCRDs_cons DynamicCacheLabel crd crds interrupted with ⟨e, failed, other, stopped⟩ |
      ⟨passed, continues⟩
    · -- the transport failed the Create, and the rerun starts from the store the run started from
      rw [stopped, create_fails_unwritten failed other] at resumed
      exact (ensureCRDs_replays DynamicCacheLabel sameStore_sendsAlike _ restarted fresh
        ⟨reliable, reliable', resumed.trans sameStart.symm⟩).2.2.2
    · have delivered : interrupted.fault interrupted.requests.length = none := by
        cases fault : interrupted.fault interrupted.requests.length with
        | none => rfl
        | some message =>
          have := passed (.transport message) (by simp [create, send_faulty _ _ interrupted message fault])
          cases this
      -- the rerun finds the CRD stored and passes over it; the fresh run creates it as the run did
      have present := create_installs _ interrupted passed
      rw [continues] at resumed
      have kept : ((create (cacheLabelled DynamicCacheLabel crd) restarted).2.store.customResourceDefinitions.find?
          (key crd)).isSome := by
        rw [create_taken (by rw [resumed]; exact ensureCRDs_keeps_crds DynamicCacheLabel crds _ _ present)]
        rw [resumed]
        exact ensureCRDs_keeps_crds DynamicCacheLabel crds _ _ present
      rw [ensureCRDs_cons_delivered DynamicCacheLabel crd crds (reliable _),
        ensureCRDs_cons_delivered DynamicCacheLabel crd crds (reliable' _)]
      exact @ih (create (cacheLabelled DynamicCacheLabel crd) interrupted).2 _ _
        (create_reliable _ reliable) (create_reliable _ reliable')
        ((create_taken (by rw [resumed]; exact ensureCRDs_keeps_crds DynamicCacheLabel crds _ _ present)).trans resumed)
        (send_congr _ _ (reliable' _) delivered sameStart).2

/-- The loop resumes: after a run over any transport, stopped anywhere, a reliable rerun on the
store it left passes and installs exactly what one reliable run from the start installs. -/
theorem ensureCRDs_resumable (crds : List Unstructured) {interrupted restarted fresh : World}
    (reliable : restarted.Reliable) (reliable' : fresh.Reliable)
    (resumed : restarted.store = (ensureCRDs DynamicCacheLabel crds interrupted).2.store)
    (sameStart : fresh.store = interrupted.store) :
    (ensureCRDs DynamicCacheLabel crds restarted).1 = .ok () ∧ (ensureCRDs DynamicCacheLabel crds fresh).1 = .ok () ∧
      (ensureCRDs DynamicCacheLabel crds restarted).2.store = (ensureCRDs DynamicCacheLabel crds fresh).2.store :=
  ⟨ensureCRDs_reliable DynamicCacheLabel crds reliable, ensureCRDs_reliable DynamicCacheLabel crds reliable',
    ensureCRDs_resume DynamicCacheLabel crds reliable reliable' resumed sameStart⟩

/-- A process whose transport fails its second request. -/
def secondRequestFails : World :=
  { World.reliableOn Store.empty with fault := fun n => if n = 1 then some "connection reset by peer" else none }

theorem ensureCRDs_bundle_resumes :
    (ensureCRDs "package-operator.run/cache" (crdsFromTemplateSpec crdBundle) secondRequestFails).1 =
      .error (.transport "connection reset by peer") ∧
    (World.reliableOn (ensureCRDs "package-operator.run/cache" (crdsFromTemplateSpec crdBundle)
      secondRequestFails).2.store).Reliable ∧ (World.reliableOn Store.empty).Reliable ∧
    (ensureCRDs "package-operator.run/cache" (crdsFromTemplateSpec crdBundle) (World.reliableOn
      (ensureCRDs "package-operator.run/cache" (crdsFromTemplateSpec crdBundle) secondRequestFails).2.store)).1 =
      .ok () ∧
    (ensureCRDs "package-operator.run/cache" (crdsFromTemplateSpec crdBundle) (World.reliableOn Store.empty)).1 =
      .ok () ∧
    (ensureCRDs "package-operator.run/cache" (crdsFromTemplateSpec crdBundle) (World.reliableOn
      (ensureCRDs "package-operator.run/cache" (crdsFromTemplateSpec crdBundle) secondRequestFails).2.store)).2.store =
      (ensureCRDs "package-operator.run/cache" (crdsFromTemplateSpec crdBundle) (World.reliableOn Store.empty)).2.store :=
  ⟨rfl, World.reliableOn_reliable _, World.reliableOn_reliable _,
    ensureCRDs_resumable "package-operator.run/cache" (crdsFromTemplateSpec crdBundle)
      (World.reliableOn_reliable _) (World.reliableOn_reliable _) rfl rfl⟩

end Rerun

end PackageOperator.Manager
