import PackageOperator.Client

/-! The forced cleanup of a self-managed instance whose manager is gone: the ClusterPackage,
then every ClusterObjectDeployment and every ClusterObjectSet it owns, each deleted, its
finalizers released by an update of the copy in hand, and its absence checked. -/

namespace PackageOperator.Manager
open Api Cluster Client MetaObject ClientM

/-- `needsForcedCleanup`: the manager Deployment is missing, or reports Available=False. -/
def needsForcedCleanup (pkoNamespace : String) : ClientM Bool := do
  match ← attempt (get (α := Deployment) ⟨pkoNamespace, "package-operator-manager"⟩) with
  | .error e => if e.isNotFound then pure true else throw e
  | .ok deploy => pure (deploy.status.conditions.any fun cond =>
      cond.type == DeploymentAvailable && cond.status == ConditionFalse)

section Cascade

variable {α : Type} [MetaObject α] [ClientObject α]

/-- One object of the cascade, as the code writes it out for each kind. The result is the
copy as the code's pointer holds it afterwards. -/
def deleteStuck (kind : String) (o : α) : ClientM α := do
  wrap ("deleting stuck PackageOperator " ++ kind) (delete o)
  let o ← (if (metadata o).finalizers.length > 0 then
      wrap ("releasing finalizers on stuck PackageOperator " ++ kind)
        (update (withMetadata o { metadata o with finalizers := [] }))
    else pure o)
  match ← attempt (get (α := α) (key o)) with
  | .error e => if e.isNotFound then pure o else throw (e.wrap ("ensuring " ++ kind ++ " is gone"))
  | .ok _ => throw (.wrapped ("ensuring " ++ kind ++ " is gone") none)

end Cascade

/-- `client.MatchingLabels` of what the self-managed instance owns. -/
def ownedSelector : List (String × String) :=
  [("package-operator.run/instance", packageOperatorClusterPackageName),
    ("package-operator.run/package", packageOperatorClusterPackageName)]

/-- The part of `forcedCleanup` after the ClusterPackage: every ClusterObjectDeployment, then
every ClusterObjectSet, that the instance owns. -/
def deleteOwned (packageOperatorPackage : ClusterPackage) : ClientM ClusterPackage := do
  let clusterObjectDeployments ← wrap "listing stuck PackageOperator ClusterObjectDeployments"
    (list (α := ClusterObjectDeployment) ownedSelector)
  clusterObjectDeployments.forM fun clusterObjectDeployment => do
    let _ ← deleteStuck "ClusterObjectDeployment" clusterObjectDeployment
    pure ()
  let clusterObjectSets ← wrap "listing stuck PackageOperator ClusterObjectSets"
    (list (α := ClusterObjectSet) ownedSelector)
  clusterObjectSets.forM fun clusterObjectSet => do
    let _ ← deleteStuck "ClusterObjectSet" clusterObjectSet
    pure ()
  pure packageOperatorPackage

def forcedCleanup (packageOperatorPackage : ClusterPackage) : ClientM ClusterPackage := do
  deleteOwned (← deleteStuck "ClusterPackage" packageOperatorPackage)

def nukeIfNeeded (pkoNamespace : String) (packageOperatorPackage : ClusterPackage) :
    ClientM ClusterPackage := do
  let needsNuke ← wrap "check for forced cleanup" (needsForcedCleanup pkoNamespace)
  if needsNuke then wrap "force cleanup" (forcedCleanup packageOperatorPackage)
  else pure packageOperatorPackage

/-- An object whose step of the cascade succeeded is gone: its absence check was answered
NotFound by the store. -/
theorem deleteStuck_gone {α : Type} [MetaObject α] [ClientObject α] {kind : String} {o o' : α}
    {w : World} (removed : (deleteStuck kind o w).1 = .ok o') :
    (ClientObject.table (α := α) (deleteStuck kind o w).2.store).find? (key o) = none := by
  unfold deleteStuck at removed ⊢
  obtain ⟨_, w₁, -, run⟩ := bind_ok removed
  rw [run] at removed ⊢
  obtain ⟨o₁, w₂, released, run⟩ := bind_ok removed
  rw [run] at removed ⊢
  have sameKey : key o₁ = key o := by
    split at released
    · have updated := wrap_ok (congrArg Prod.fst released)
      rw [released] at updated
      rw [update_returns_key (congrArg Prod.fst updated.symm)]
      simp [key, ObjectMeta.key]
    · cases released
      rfl
  obtain ⟨found, w₃, checked, run⟩ := bind_ok removed
  rw [run] at removed ⊢
  simp only [attempt_apply, Prod.mk.injEq, Except.ok.injEq] at checked
  obtain ⟨rfl, rfl⟩ := checked
  cases result : (Client.get (α := α) (key o₁) w₂).1 with
  | ok found => simp [result] at removed
  | error e =>
    by_cases notFound : e.isNotFound = true
    · simp only [result, notFound, if_true, pure_apply, get_store]
      rw [← sameKey]
      exact get_notFound result notFound
    · simp [result, notFound] at removed

/-! ## What the cascade writes -/

section Frame

variable {keep : Store → Store → Prop} (refl : ∀ s, keep s s)
  (trans : ∀ s₁ s₂ s₃, keep s₁ s₂ → keep s₂ s₃ → keep s₁ s₃)
include refl trans

theorem deleteStuck_keeps {α : Type} [MetaObject α] [ClientObject α]
    (written : ∀ s (t : Table α), keep s { ClientObject.setTable s t with revision := s.revision + 1 })
    (kind : String) (o : α) : Keeps keep (deleteStuck kind o) := by
  refine Keeps.bind trans (Keeps.wrap (Keeps.write refl _ written) _) fun _ =>
    Keeps.bind trans ?_ fun o' => Keeps.bind trans (Keeps.attempt (Keeps.get refl _)) fun found => ?_
  · split
    · exact Keeps.wrap (Keeps.write refl _ written) _
    · exact Keeps.pure refl _
  · split
    · split
      · exact Keeps.pure refl _
      · exact Keeps.throw refl _
    · exact Keeps.throw refl _

/-- The stages past the ClusterPackage keep what every step of their two loops keeps. -/
theorem deleteOwned_keeps_of
    (deployments : ∀ o : ClusterObjectDeployment, Keeps keep (deleteStuck "ClusterObjectDeployment" o))
    (sets : ∀ o : ClusterObjectSet, Keeps keep (deleteStuck "ClusterObjectSet" o))
    (packageOperatorPackage : ClusterPackage) : Keeps keep (deleteOwned packageOperatorPackage) :=
  Keeps.bind trans (Keeps.wrap (Keeps.list refl _) _) fun _ =>
    Keeps.bind trans (Keeps.forM refl trans fun o => Keeps.bind trans (deployments o) fun _ => Keeps.pure refl _)
      fun _ => Keeps.bind trans (Keeps.wrap (Keeps.list refl _) _) fun _ =>
    Keeps.bind trans (Keeps.forM refl trans fun o => Keeps.bind trans (sets o) fun _ => Keeps.pure refl _)
      fun _ => Keeps.pure refl _

/-- Past the ClusterPackage, the cascade writes only ClusterObjectDeployments and
ClusterObjectSets. -/
theorem deleteOwned_keeps
    (written : ∀ s, (∀ t : Table ClusterObjectDeployment,
        keep s { s with clusterObjectDeployments := t, revision := s.revision + 1 }) ∧
      ∀ t : Table ClusterObjectSet, keep s { s with clusterObjectSets := t, revision := s.revision + 1 })
    (packageOperatorPackage : ClusterPackage) : Keeps keep (deleteOwned packageOperatorPackage) :=
  deleteOwned_keeps_of refl trans (deleteStuck_keeps refl trans (fun s t => (written s).1 t) _)
    (deleteStuck_keeps refl trans (fun s t => (written s).2 t) _) packageOperatorPackage

/-- The check reads the manager Deployment and writes nothing. -/
theorem needsForcedCleanup_keeps (pkoNamespace : String) : Keeps keep (needsForcedCleanup pkoNamespace) :=
  Keeps.bind trans (Keeps.attempt (Keeps.get refl _)) fun _ => by
    split
    · split
      · exact Keeps.pure refl _
      · exact Keeps.throw refl _
    · exact Keeps.pure refl _

/-- The cleanup step keeps what the forced cleanup keeps. -/
theorem nukeIfNeeded_keeps_of {packageOperatorPackage : ClusterPackage}
    (cleaned : Keeps keep (forcedCleanup packageOperatorPackage)) (pkoNamespace : String) :
    Keeps keep (nukeIfNeeded pkoNamespace packageOperatorPackage) :=
  Keeps.bind trans (Keeps.wrap (needsForcedCleanup_keeps refl trans _) _) fun needsNuke => by
    cases needsNuke
    · exact Keeps.pure refl _
    · exact Keeps.wrap cleaned _

end Frame

/-- Once the cascade is past the ClusterPackage, the ClusterPackage stays gone, however the
rest of the cascade ends. -/
theorem forcedCleanup_leaves_no_package {packageOperatorPackage removedCopy : ClusterPackage} {w : World}
    (removed : (deleteStuck "ClusterPackage" packageOperatorPackage w).1 = .ok removedCopy) :
    (forcedCleanup packageOperatorPackage w).2.store.clusterPackages.find? (key packageOperatorPackage) =
      none := by
  have gone := deleteStuck_gone removed
  simp only [forcedCleanup, bind_apply]
  rcases ran : deleteStuck "ClusterPackage" packageOperatorPackage w with ⟨_ | p, w₁⟩
  · rw [ran] at removed
    cases removed
  · rw [ran] at gone
    rw [@deleteOwned_keeps (fun s s' => s'.clusterPackages = s.clusterPackages) (fun _ => rfl)
      (fun _ _ _ first second => second.trans first) (fun _ => ⟨fun _ => rfl, fun _ => rfl⟩) p w₁]
    exact gone

section Loop

variable {α : Type} [MetaObject α] [ClientObject α] {kind : String} {o : α} {l : List α} {w w' : World}

theorem forM_deleteStuck_cons_ok {o' : α} (step : deleteStuck kind o w = (.ok o', w')) :
    ((o :: l).forM (fun o => do let _ ← deleteStuck kind o; pure ()) : ClientM PUnit) w =
      (l.forM (fun o => do let _ ← deleteStuck kind o; pure ()) : ClientM PUnit) w' := by
  change (_ >>= fun _ => l.forM _ : ClientM PUnit) w = _
  simp [step]

theorem forM_deleteStuck_cons_error {e : Error} (step : deleteStuck kind o w = (.error e, w')) :
    ((o :: l).forM (fun o => do let _ ← deleteStuck kind o; pure ()) : ClientM PUnit) w = (.error e, w') := by
  change (_ >>= fun _ => l.forM _ : ClientM PUnit) w = _
  simp [step]

end Loop

section Removed

variable {α : Type} [MetaObject α] [ClientObject α]

/-- A step of the cascade keeps what its Delete and every Update keep. -/
theorem deleteStuck_keeps_of_verbs {keep : Store → Store → Prop} (refl : ∀ s, keep s s)
    (trans : ∀ s₁ s₂ s₃, keep s₁ s₂ → keep s₂ s₃ → keep s₁ s₃) {kind : String} {o : α}
    (deleted : Keeps keep (delete o)) (updated : ∀ o' : α, Keeps keep (update o')) :
    Keeps keep (deleteStuck kind o) := by
  refine Keeps.bind trans (Keeps.wrap deleted _) fun _ =>
    Keeps.bind trans ?_ fun o' => Keeps.bind trans (Keeps.attempt (Keeps.get refl _)) fun found => ?_
  · split
    · exact Keeps.wrap (updated _) _
    · exact Keeps.pure refl _
  · split
    · split
      · exact Keeps.pure refl _
      · exact Keeps.throw refl _
    · exact Keeps.throw refl _

variable (stamped : ∀ (s : Store) r, ClientObject.table (α := α) { s with revision := r } = ClientObject.table s)
include stamped

/-- No step of the cascade adds an object to the table it writes. -/
theorem deleteStuck_addsNone (kind : String) (o : α) :
    Keeps (fun s s' => (ClientObject.table (α := α) s).AddsNone (ClientObject.table s')) (deleteStuck kind o) :=
  deleteStuck_keeps_of_verbs (fun _ => Table.AddsNone.refl _) (fun _ _ _ first second => first.trans second)
    (Keeps.write_table Table.AddsNone.refl stamped _ fun _ _ _ _ deleted => Table.delete_map_addsNone deleted)
    fun _ => Keeps.write_table Table.AddsNone.refl stamped _ fun _ _ _ _ updated => Table.update_addsNone updated

/-- A loop of the cascade over one kind that returned nil leaves every object of its list gone:
each step checked its object's absence, and no later step adds one back. -/
theorem forM_deleteStuck_gone {kind : String} {l : List α} {w : World}
    (removed : (l.forM (fun o => do let _ ← deleteStuck kind o; pure ()) w).1 = .ok ()) :
    ∀ o ∈ l, (ClientObject.table (α := α)
      (l.forM (fun o => do let _ ← deleteStuck kind o; pure ()) w).2.store).find? (key o) = none := by
  induction l generalizing w with
  | nil => simp
  | cons o l ih =>
    rcases ran : deleteStuck kind o w with ⟨e | o', w'⟩
    · rw [forM_deleteStuck_cons_error ran] at removed
      cases removed
    rw [forM_deleteStuck_cons_ok ran] at removed ⊢
    have gone := deleteStuck_gone (w := w) (by rw [ran])
    rw [ran] at gone
    exact List.forall_mem_cons.mpr ⟨Keeps.forM (fun _ => Table.AddsNone.refl _)
      (fun _ _ _ first second => first.trans second) (fun o => Keeps.bind
        (fun _ _ _ first second => first.trans second) (deleteStuck_addsNone stamped kind o)
        fun _ => Keeps.pure (fun _ => Table.AddsNone.refl _) _) w' (key o) gone, ih removed⟩

end Removed

/-- The loop over one kind writes only that kind's table. -/
theorem forM_deleteStuck_keeps {keep : Store → Store → Prop} (refl : ∀ s, keep s s)
    (trans : ∀ s₁ s₂ s₃, keep s₁ s₂ → keep s₂ s₃ → keep s₁ s₃) {α : Type} [MetaObject α] [ClientObject α]
    (written : ∀ s (t : Table α), keep s { ClientObject.setTable s t with revision := s.revision + 1 })
    (kind : String) (l : List α) : Keeps keep (l.forM fun o => do let _ ← deleteStuck kind o; pure ()) :=
  Keeps.forM refl trans fun o =>
    Keeps.bind trans (deleteStuck_keeps refl trans written kind o) fun _ => Keeps.pure refl _

/-- The stages past the ClusterPackage, when they return nil, have removed every
ClusterObjectDeployment and ClusterObjectSet of the instance that the store held when they began. -/
theorem deleteOwned_removes {p p' : ClusterPackage} {w : World} (succeeded : (deleteOwned p w).1 = .ok p') :
    (∀ cod ∈ w.store.clusterObjectDeployments.list ownedSelector,
      (deleteOwned p w).2.store.clusterObjectDeployments.find? (key cod) = none) ∧
    ∀ cos ∈ w.store.clusterObjectSets.list ownedSelector,
      (deleteOwned p w).2.store.clusterObjectSets.find? (key cos) = none := by
  unfold deleteOwned at succeeded ⊢
  obtain ⟨cods, w₁, listedCods, run⟩ := bind_ok succeeded
  rw [run] at succeeded ⊢
  obtain ⟨_, w₂, codsRemoved, run⟩ := bind_ok succeeded
  rw [run] at succeeded ⊢
  obtain ⟨coss, w₃, listedCoss, run⟩ := bind_ok succeeded
  rw [run] at succeeded ⊢
  obtain ⟨_, w₄, cossRemoved, run⟩ := bind_ok succeeded
  rw [run, pure_apply]
  obtain ⟨listedCods, stored₁⟩ := list_eq_ok ((wrap_ok (congrArg Prod.fst listedCods)).symm.trans listedCods)
  obtain ⟨listedCoss, stored₃⟩ := list_eq_ok ((wrap_ok (congrArg Prod.fst listedCoss)).symm.trans listedCoss)
  have codsGone := forM_deleteStuck_gone (α := ClusterObjectDeployment) (fun _ _ => rfl)
    (congrArg Prod.fst codsRemoved)
  have cossGone := forM_deleteStuck_gone (α := ClusterObjectSet) (fun _ _ => rfl) (congrArg Prod.fst cossRemoved)
  have setsKept := @forM_deleteStuck_keeps (fun s s' => s'.clusterObjectSets = s.clusterObjectSets)
    (fun _ => rfl) (fun _ _ _ first second => second.trans first) _ _ _ (fun _ _ => rfl)
    "ClusterObjectDeployment" cods w₁
  have deploymentsKept := @forM_deleteStuck_keeps
    (fun s s' => s'.clusterObjectDeployments = s.clusterObjectDeployments)
    (fun _ => rfl) (fun _ _ _ first second => second.trans first) _ _ _ (fun _ _ => rfl)
    "ClusterObjectSet" coss w₃
  rw [codsRemoved] at codsGone setsKept
  rw [cossRemoved] at cossGone deploymentsKept
  dsimp only at setsKept deploymentsKept
  refine ⟨fun cod member => ?_, fun cos member => ?_⟩
  · have listed : cod ∈ cods := by rw [listedCods]; exact member
    rw [deploymentsKept, stored₃]
    exact codsGone cod listed
  · have listed : cos ∈ coss := by
      rw [listedCoss, table_clusterObjectSet, setsKept, stored₁]
      exact member
    exact cossGone cos listed

/-- A cascade that returns nil has removed the ClusterPackage and every ClusterObjectDeployment
and ClusterObjectSet the instance owned when it began: each was deleted and its absence checked,
and no later step of the cascade stores anything under a key it removed. -/
theorem forcedCleanup_removes_owned {packageOperatorPackage cleaned : ClusterPackage} {w : World}
    (succeeded : (forcedCleanup packageOperatorPackage w).1 = .ok cleaned) :
    (forcedCleanup packageOperatorPackage w).2.store.clusterPackages.find? (key packageOperatorPackage) = none ∧
    (∀ cod ∈ w.store.clusterObjectDeployments.list ownedSelector,
      (forcedCleanup packageOperatorPackage w).2.store.clusterObjectDeployments.find? (key cod) = none) ∧
    ∀ cos ∈ w.store.clusterObjectSets.list ownedSelector,
      (forcedCleanup packageOperatorPackage w).2.store.clusterObjectSets.find? (key cos) = none := by
  obtain ⟨p, w₁, removed, run⟩ := bind_ok succeeded
  have tables := @deleteStuck_keeps (fun s s' => s'.clusterObjectDeployments = s.clusterObjectDeployments ∧
      s'.clusterObjectSets = s.clusterObjectSets) (fun _ => ⟨rfl, rfl⟩)
    (fun _ _ _ first second => ⟨second.1.trans first.1, second.2.trans first.2⟩) _ _ _
    (fun _ _ => ⟨rfl, rfl⟩) "ClusterPackage" packageOperatorPackage w
  rw [removed] at tables
  refine ⟨forcedCleanup_leaves_no_package (by rw [removed]), ?_⟩
  unfold forcedCleanup at succeeded ⊢
  rw [run] at succeeded ⊢
  rw [← tables.1, ← tables.2]
  exact deleteOwned_removes succeeded

/-- An instance whose objects carry no finalizer: the ClusterPackage, and one
ClusterObjectDeployment and one ClusterObjectSet it owns. -/
def unfinalizedPackage : ClusterPackage where
  metadata := { name := packageOperatorClusterPackageName }
  spec := { image := "quay.io/package-operator/package-operator-package:v1.0.0" }

def leftoverDeployment : ClusterObjectDeployment where
  metadata := { name := "package-operator", labels := ownedSelector }

def leftoverObjectSet : ClusterObjectSet where
  metadata := { name := "package-operator-1", labels := ownedSelector }

def unfinalizedStore : Store :=
  { Store.empty with
    clusterPackages := Table.singleton unfinalizedPackage
    clusterObjectDeployments := Table.singleton leftoverDeployment
    clusterObjectSets := Table.singleton leftoverObjectSet }

theorem forcedCleanup_removes_unfinalized_instance :
    (forcedCleanup unfinalizedPackage (World.reliableOn unfinalizedStore)).1 = .ok unfinalizedPackage ∧
    (forcedCleanup unfinalizedPackage (World.reliableOn unfinalizedStore)).2.store.clusterPackages.find?
      (key unfinalizedPackage) = none ∧
    (∀ cod ∈ unfinalizedStore.clusterObjectDeployments.list ownedSelector,
      (forcedCleanup unfinalizedPackage (World.reliableOn unfinalizedStore)).2.store.clusterObjectDeployments.find?
        (key cod) = none) ∧
    ∀ cos ∈ unfinalizedStore.clusterObjectSets.list ownedSelector,
      (forcedCleanup unfinalizedPackage (World.reliableOn unfinalizedStore)).2.store.clusterObjectSets.find?
        (key cos) = none :=
  ⟨rfl, forcedCleanup_removes_owned rfl⟩

/-- The self-managed ClusterPackage as the bootstrapper reads it, held back by a finalizer. -/
def finalizedPackage : ClusterPackage where
  metadata := { name := packageOperatorClusterPackageName, finalizers := ["package-operator.run/cached"] }
  spec := { image := "quay.io/package-operator/package-operator-package:v1.0.0" }

def finalizedPackageStore : Store := { Store.empty with clusterPackages := Table.singleton finalizedPackage }

/-- Delete marks the finalized ClusterPackage and bumps its resourceVersion; the code then
updates the copy it read before the Delete, and the store refuses the stale resourceVersion.
The cascade stops there, the ClusterPackage still stored and marked as deleting. -/
theorem forcedCleanup_conflicts_on_finalized_package :
    (forcedCleanup finalizedPackage (World.reliableOn finalizedPackageStore)).1 =
      .error (.wrapped "releasing finalizers on stuck PackageOperator ClusterPackage" (some .conflict)) ∧
    ((forcedCleanup finalizedPackage (World.reliableOn finalizedPackageStore)).2.store.clusterPackages.find?
      (key finalizedPackage)).map (·.metadata.deletionTimestamp) = some true :=
  ⟨rfl, by decide⟩

/-! ## When the cascade completes

The Delete of an object that still holds a finalizer marks it and stamps a new resourceVersion;
the Update that follows carries the copy read before the Delete, and the store refuses it. -/

/-- An object whose step of the cascade goes through: it holds no finalizer, or its deletion is
already under way, so that the Delete leaves its resourceVersion as the Update carries it. -/
def releasable (m : ObjectMeta) : Prop := m.finalizers = [] ∨ m.deletionTimestamp = true

instance : DecidablePred releasable := fun m =>
  inferInstanceAs (Decidable (m.finalizers = [] ∨ m.deletionTimestamp = true))

/-- The objects of a listing that would stop the cascade. -/
def stuckIn {α : Type} [MetaObject α] (l : List α) : Nat := l.countP fun o => !decide (releasable (metadata o))

theorem deleteStuck_replays {α : Type} [MetaObject α] [ClientObject α] {same : World → World → Prop}
    (sends : SendsAlike same) (kind : String) (o : α) : Replays same (deleteStuck kind o) := by
  refine Replays.bind (Replays.wrap (Replays.send sends _ _) _) fun _ =>
    Replays.bind ?_ fun _ => Replays.bind (Replays.attempt (Replays.send sends _ _)) fun _ => ?_
  · split
    · exact Replays.wrap (Replays.send sends _ _) _
    · exact Replays.pure _
  · split
    · split
      · exact Replays.pure _
      · exact Replays.throw _
    · exact Replays.throw _

theorem forM_deleteStuck_replays {α : Type} [MetaObject α] [ClientObject α] {same : World → World → Prop}
    (sends : SendsAlike same) (kind : String) (l : List α) :
    Replays same (l.forM fun o => do let _ ← deleteStuck kind o; pure ()) :=
  Replays.forM fun o => Replays.bind (deleteStuck_replays sends kind o) fun _ => Replays.pure _

/-- The ClusterPackage's step writes neither of the owned kinds. -/
theorem deleteStuck_package_keeps (packageOperatorPackage : ClusterPackage) :
    Keeps (fun s s' => s'.clusterObjectDeployments = s.clusterObjectDeployments ∧
      s'.clusterObjectSets = s.clusterObjectSets ∧ s.revision ≤ s'.revision)
      (deleteStuck "ClusterPackage" packageOperatorPackage) :=
  deleteStuck_keeps (fun _ => ⟨rfl, rfl, le_refl _⟩)
    (fun _ _ _ first second => ⟨second.1.trans first.1, second.2.1.trans first.2.1, first.2.2.trans second.2.2⟩)
    (fun _ _ => ⟨rfl, rfl, Nat.le_succ _⟩) _ _

theorem forM_deleteStuck_deployments_keeps (l : List ClusterObjectDeployment) :
    Keeps (fun s s' => s'.clusterObjectSets = s.clusterObjectSets ∧ s.revision ≤ s'.revision)
      (l.forM fun o => do let _ ← deleteStuck "ClusterObjectDeployment" o; pure ()) :=
  forM_deleteStuck_keeps (fun _ => ⟨rfl, le_refl _⟩)
    (fun _ _ _ first second => ⟨second.1.trans first.1, first.2.trans second.2⟩) (fun _ _ => ⟨rfl, Nat.le_succ _⟩) _ _

theorem forM_deleteStuck_sets_keeps (l : List ClusterObjectSet) :
    Keeps (fun s s' => s'.clusterObjectDeployments = s.clusterObjectDeployments)
      (l.forM fun o => do let _ ← deleteStuck "ClusterObjectSet" o; pure ()) :=
  @forM_deleteStuck_keeps (fun s s' => s'.clusterObjectDeployments = s.clusterObjectDeployments) (fun _ => rfl)
    (fun _ _ _ first second => second.trans first) _ _ _ (fun _ _ => rfl) _ _

section Release

variable {α : Type} [MetaObject α] [ClientObject α]
  (stamped : ∀ (s : Store) r, ClientObject.table (α := α) { s with revision := r } = ClientObject.table s)
include stamped

theorem table_written (s : Store) (t : Table α) :
    ClientObject.table (α := α) { ClientObject.setTable s t with revision := s.revision + 1 } = t :=
  (stamped _ _).trans (ClientObject.table_setTable s t)

/-- A releasable object, stored as read, is removed by its step over a reliable transport:
erased by the Delete, or by the Update that empties its finalizers. -/
theorem deleteStuck_releasable (kind : String) {o : α} {w : World} (reliable : w.Reliable)
    (found : (ClientObject.table (α := α) w.store).find? (key o) = some o) (fine : releasable (metadata o)) :
    ∃ o' w', deleteStuck kind o w = (.ok o', w') ∧ w'.Reliable ∧ w.store.revision ≤ w'.store.revision ∧
      ClientObject.table (α := α) w'.store = (ClientObject.table w.store).erase (key o) := by
  have reliable' := Replays.reliable (deleteStuck_replays sameStore_sendsAlike kind o) reliable
  have grows := @deleteStuck_keeps (fun s s' => s.revision ≤ s'.revision) (fun _ => le_refl _)
    (fun _ _ _ first second => first.trans second) α _ _ (fun _ _ => Nat.le_succ _) kind o w
  suffices removed : (∃ o', (deleteStuck kind o w).1 = .ok o') ∧
      ClientObject.table (α := α) (deleteStuck kind o w).2.store = (ClientObject.table w.store).erase (key o) by
    obtain ⟨⟨o', ran⟩, table⟩ := removed
    exact ⟨o', _, Prod.ext ran rfl, reliable', grows, table⟩
  by_cases none : (metadata o).finalizers = []
  · let w₁ : World :=
      { w with
        requests := w.requests ++ [.delete (ClientObject.groupKind o) (key o)]
        store := { ClientObject.setTable w.store ((ClientObject.table (α := α) w.store).erase (key o)) with
          revision := w.store.revision + 1 } }
    have deleted : delete o w = (.ok (), w₁) := by
      simp [delete, send_reliable _ _ w reliable, write, Table.delete_of_find? found, none, Except.map, w₁]
    have table₁ : ClientObject.table (α := α) w₁.store = (ClientObject.table w.store).erase (key o) :=
      table_written stamped w.store _
    have gone := get_missing (α := α) (k := key o) (w := w₁) (reliable _) (by rw [table₁, Table.find?_erase_self])
    simp [deleteStuck, wrap, deleted, none, gone, Error.isNotFound, table₁]
  · have marked := fine.resolve_left none
    let w₁ : World :=
      { w with
        requests := w.requests ++ [.delete (ClientObject.groupKind o) (key o)]
        store := { ClientObject.setTable w.store (ClientObject.table (α := α) w.store) with
          revision := w.store.revision + 1 } }
    have deleted : delete o w = (.ok (), w₁) := by
      simp [delete, send_reliable _ _ w reliable, write, Table.delete_of_find? found, none, marked, Except.map, w₁]
    have found₁ : (ClientObject.table (α := α) w₁.store).find? (key o) = some o := by
      simp only [w₁, table_written stamped, found]
    obtain ⟨u, released⟩ := Table.update_releases found₁ marked (w₁.store.revision + 1)
    let w₂ : World :=
      { w₁ with
        requests := w₁.requests ++ [.update (ClientObject.groupKind (withMetadata o { metadata o with finalizers := [] }))
          (metadata (withMetadata o { metadata o with finalizers := [] }))]
        store := { ClientObject.setTable w₁.store ((ClientObject.table (α := α) w₁.store).erase (key o)) with
          revision := w₁.store.revision + 1 } }
    have updated : update (withMetadata o { metadata o with finalizers := [] }) w₁ = (.ok u, w₂) := by
      simp [update, send_reliable _ _ w₁ reliable, write, released, Except.map, w₂]
    have sameKey : key u = key o := (Table.update_key released).trans (by simp [key, ObjectMeta.key])
    have table₂ : ClientObject.table (α := α) w₂.store = (ClientObject.table w.store).erase (key o) :=
      (table_written stamped w₁.store _).trans (congrArg (Table.erase · (key o)) (table_written stamped w.store _))
    have gone := get_missing (α := α) (k := key u) (w := w₂) (reliable _)
      (by rw [table₂, sameKey, Table.find?_erase_self])
    have held : 0 < (metadata o).finalizers.length := List.length_pos.mpr none
    simp [deleteStuck, wrap, deleted, held, updated, gone, Error.isNotFound, table₂]

/-- Any other object, stored as read with a resourceVersion the store has issued, stops the
cascade: the Delete marks it under the next revision, and the Update of the copy read before is
refused as stale. The marked object stays stored. -/
theorem deleteStuck_conflicts (kind : String) {o : α} {w : World} (reliable : w.Reliable)
    (found : (ClientObject.table (α := α) w.store).find? (key o) = some o)
    (issued : (metadata o).resourceVersion ≤ w.store.revision) (held : ¬ releasable (metadata o)) :
    ∃ w', deleteStuck kind o w =
        (.error (.wrapped ("releasing finalizers on stuck PackageOperator " ++ kind) (some .conflict)), w') ∧
      ClientObject.table (α := α) w'.store = (ClientObject.table w.store).replace
        (withMetadata o { metadata o with deletionTimestamp := true, resourceVersion := w.store.revision + 1 }) := by
  obtain ⟨none, unmarked⟩ := not_or.mp held
  let marked := withMetadata o { metadata o with deletionTimestamp := true, resourceVersion := w.store.revision + 1 }
  let w₁ : World :=
    { w with
      requests := w.requests ++ [.delete (ClientObject.groupKind o) (key o)]
      store := { ClientObject.setTable w.store ((ClientObject.table (α := α) w.store).replace marked) with
        revision := w.store.revision + 1 } }
  have deleted : delete o w = (.ok (), w₁) := by
    simp [delete, send_reliable _ _ w reliable, write, Table.delete_of_find? found, none, unmarked, Except.map, w₁,
      marked]
  have table₁ : ClientObject.table (α := α) w₁.store = (ClientObject.table w.store).replace marked :=
    table_written stamped w.store _
  have found₁ : (ClientObject.table (α := α) w₁.store).find? (key o) = some marked := by
    rw [table₁, Table.find?_replace_of_find? found (by simp [marked, key, ObjectMeta.key])]
  have refused := Table.update_stale (t := ClientObject.table (α := α) w₁.store)
    (o := withMetadata o { metadata o with finalizers := [] })
    (by rw [← found₁]; simp [key, ObjectMeta.key]) (by simp [marked]; omega) (w₁.store.revision + 1)
  have held' : 0 < (metadata o).finalizers.length := List.length_pos.mpr none
  have ran : (deleteStuck kind o w).1 = .error (.wrapped ("releasing finalizers on stuck PackageOperator " ++ kind)
      (some .conflict)) ∧ (deleteStuck kind o w).2.store = w₁.store := by
    simp [deleteStuck, wrap, deleted, held', update, send_reliable _ _ w₁ reliable, write, refused, Except.map,
      Error.wrap]
  exact ⟨_, Prod.ext ran.1 rfl, ran.2 ▸ table₁⟩

/-- The loop over one kind, on objects listed by `selector` under distinct keys with issued
resourceVersions, returns nil exactly when every object is releasable, and then keeps the number
of stuck objects the listing holds. When it fails it lowers that number by one: it removed only
releasable objects, and marked the one it stopped at. -/
theorem forM_deleteStuck_run (kind : String) {selector : List (String × String)} {l : List α} {w : World}
    (reliable : w.Reliable) (listed : ∀ o ∈ l, o ∈ (ClientObject.table (α := α) w.store).list selector)
    (unique : (l.map key).Nodup) (issued : ∀ o ∈ l, (metadata o).resourceVersion ≤ w.store.revision) :
    let run := (l.forM (fun o => do let _ ← deleteStuck kind o; pure ()) : ClientM PUnit) w
    (run.1 = .ok () ↔ ∀ o ∈ l, releasable (metadata o)) ∧
    (run.1 = .ok () → stuckIn ((ClientObject.table (α := α) run.2.store).list selector) =
      stuckIn ((ClientObject.table (α := α) w.store).list selector)) ∧
    ∀ e, run.1 = .error e → stuckIn ((ClientObject.table (α := α) run.2.store).list selector) + 1 =
      stuckIn ((ClientObject.table (α := α) w.store).list selector) := by
  induction l generalizing w with
  | nil => exact ⟨by simp, fun _ => rfl, fun _ failed => nomatch failed⟩
  | cons o l ih =>
    obtain ⟨fresh, unique⟩ := List.nodup_cons.mp unique
    obtain ⟨pre, post, split⟩ := List.append_of_mem (listed o (.head _))
    rw [List.forall_mem_cons]
    by_cases fine : releasable (metadata o)
    · obtain ⟨_, w', step, reliable', grows, table⟩ :=
        deleteStuck_releasable stamped kind reliable (Table.find?_of_listed (listed o (.head _))) fine
      have other : ∀ x ∈ l, key x ≠ key o := fun x member same => fresh (same ▸ List.mem_map_of_mem key member)
      have same : stuckIn ((ClientObject.table (α := α) w'.store).list selector) =
          stuckIn ((ClientObject.table (α := α) w.store).list selector) := by
        rw [table, Table.list_erase_of_split split, split]
        simp [stuckIn, List.countP_append, fine]
      obtain ⟨passes, kept, dropped⟩ := @ih w' reliable' (fun x member => by
          rw [table, Table.list_erase, List.mem_filter]
          exact ⟨listed x (.tail _ member), by simpa using other x member⟩)
        unique (fun x member => (issued x (.tail _ member)).trans grows)
      simp only [forM_deleteStuck_cons_ok step, ← same]
      exact ⟨passes.trans ⟨fun rest => ⟨fine, rest⟩, And.right⟩, kept, dropped⟩
    · obtain ⟨w', step, table⟩ := deleteStuck_conflicts stamped kind reliable
        (Table.find?_of_listed (listed o (.head _))) (issued o (.head _)) fine
      simp only [forM_deleteStuck_cons_error step]
      refine ⟨⟨(nomatch ·), fun all => absurd all.1 fine⟩, (nomatch ·), fun _ _ => ?_⟩
      have marked : releasable { metadata o with deletionTimestamp := true, resourceVersion := w.store.revision + 1 } :=
        .inr rfl
      rw [table, Table.list_replace split (by simp [key, ObjectMeta.key]) (by simp), split]
      simp [stuckIn, List.countP_append, List.countP_cons, fine, marked]
      omega

end Release

/-- Over a reliable transport both Lists are answered by the store, and the stages past the
ClusterPackage are the two loops over what it lists. -/
theorem deleteOwned_reliable (p : ClusterPackage) {w : World} (reliable : w.Reliable) :
    deleteOwned p w =
      match ((w.store.clusterObjectDeployments.list ownedSelector).forM (fun o => do
          let _ ← deleteStuck "ClusterObjectDeployment" o; pure ()) : ClientM PUnit)
          { w with requests := w.requests ++ [.list (ClientObject.kind (α := ClusterObjectDeployment)) ownedSelector] } with
      | (.error e, w₂) => (.error e, w₂)
      | (.ok _, w₂) =>
        match ((w₂.store.clusterObjectSets.list ownedSelector).forM (fun o => do
            let _ ← deleteStuck "ClusterObjectSet" o; pure ()) : ClientM PUnit)
            { w₂ with requests := w₂.requests ++ [.list (ClientObject.kind (α := ClusterObjectSet)) ownedSelector] } with
        | (.error e, w₄) => (.error e, w₄)
        | (.ok _, w₄) => (.ok p, w₄) := by
  simp only [deleteOwned, bind_apply, wrap, list_delivered (reliable _)]
  rcases codRun : ((w.store.clusterObjectDeployments.list ownedSelector).forM (fun o => do
      let _ ← deleteStuck "ClusterObjectDeployment" o; pure ()) : ClientM PUnit)
      { w with requests := w.requests ++ [.list (ClientObject.kind (α := ClusterObjectDeployment)) ownedSelector] }
    with ⟨_ | _, w₂⟩
  · rfl
  · have reliable₂ := Replays.reliable (forM_deleteStuck_replays sameStore_sendsAlike "ClusterObjectDeployment"
      (w.store.clusterObjectDeployments.list ownedSelector)) (w := { w with requests := w.requests ++
        [.list (ClientObject.kind (α := ClusterObjectDeployment)) ownedSelector] }) reliable
    rw [codRun] at reliable₂
    simp only [list_delivered (reliable₂ _), table_clusterObjectSet]
    rcases ((w₂.store.clusterObjectSets.list ownedSelector).forM (fun o => do
        let _ ← deleteStuck "ClusterObjectSet" o; pure ()) : ClientM PUnit)
        { w₂ with requests := w₂.requests ++ [.list (ClientObject.kind (α := ClusterObjectSet)) ownedSelector] }
      with ⟨_ | _, w₄⟩ <;> rfl

/-- The stages past the ClusterPackage, over a reliable transport and on tables with issued
resourceVersions, return exactly when every owned object they list is releasable; a failed run
leaves one stuck owned object fewer. -/
theorem deleteOwned_run (p : ClusterPackage) {w : World} (reliable : w.Reliable)
    (deploymentsIssued : w.store.clusterObjectDeployments.Issued w.store.revision)
    (setsIssued : w.store.clusterObjectSets.Issued w.store.revision) :
    ((∃ p', (deleteOwned p w).1 = .ok p') ↔
      (∀ cod ∈ w.store.clusterObjectDeployments.list ownedSelector, releasable cod.metadata) ∧
      ∀ cos ∈ w.store.clusterObjectSets.list ownedSelector, releasable cos.metadata) ∧
    ∀ e, (deleteOwned p w).1 = .error e →
      stuckIn ((deleteOwned p w).2.store.clusterObjectDeployments.list ownedSelector) +
        stuckIn ((deleteOwned p w).2.store.clusterObjectSets.list ownedSelector) + 1 =
      stuckIn (w.store.clusterObjectDeployments.list ownedSelector) +
        stuckIn (w.store.clusterObjectSets.list ownedSelector) := by
  let w₁ : World :=
    { w with requests := w.requests ++ [.list (ClientObject.kind (α := ClusterObjectDeployment)) ownedSelector] }
  have cods := forM_deleteStuck_run (α := ClusterObjectDeployment) (fun _ _ => rfl) "ClusterObjectDeployment"
    (l := w.store.clusterObjectDeployments.list ownedSelector) (w := w₁) reliable (fun _ member => member)
    (Table.list_keys_nodup _ _) (fun o member => deploymentsIssued o ((Table.list_sublist _ _).subset member))
  have setsKept := forM_deleteStuck_deployments_keeps (w.store.clusterObjectDeployments.list ownedSelector) w₁
  have reliable₂ := Replays.reliable (forM_deleteStuck_replays sameStore_sendsAlike "ClusterObjectDeployment"
    (w.store.clusterObjectDeployments.list ownedSelector)) (w := w₁) reliable
  rw [deleteOwned_reliable p reliable]
  rcases codRun : ((w.store.clusterObjectDeployments.list ownedSelector).forM (fun o => do
      let _ ← deleteStuck "ClusterObjectDeployment" o; pure ()) : ClientM PUnit) w₁ with ⟨_ | _, w₂⟩
  · simp only [codRun, table_clusterObjectDeployment] at cods setsKept ⊢
    have dropped := cods.2.2 _ rfl
    refine ⟨⟨(fun ⟨_, h⟩ => nomatch h), fun h => nomatch cods.1.mpr h.1⟩, fun _ _ => ?_⟩
    rw [setsKept.1]
    omega
  simp only [codRun, table_clusterObjectDeployment] at cods setsKept reliable₂ ⊢
  let w₃ : World :=
    { w₂ with requests := w₂.requests ++ [.list (ClientObject.kind (α := ClusterObjectSet)) ownedSelector] }
  have sets := forM_deleteStuck_run (α := ClusterObjectSet) (fun _ _ => rfl) "ClusterObjectSet"
    (l := w₂.store.clusterObjectSets.list ownedSelector) (w := w₃) reliable₂ (fun _ member => member)
    (Table.list_keys_nodup _ _) (fun o member => (setsIssued o ((Table.list_sublist _ _).subset
      (setsKept.1 ▸ member))).trans setsKept.2)
  rw [setsKept.1] at sets ⊢
  have deploymentsKept := forM_deleteStuck_sets_keeps (w.store.clusterObjectSets.list ownedSelector) w₃
  rcases setsRun : ((w.store.clusterObjectSets.list ownedSelector).forM (fun o => do
      let _ ← deleteStuck "ClusterObjectSet" o; pure ()) : ClientM PUnit) w₃ with ⟨_ | _, w₄⟩
  · simp only [setsRun, table_clusterObjectSet] at sets deploymentsKept ⊢
    have dropped := sets.2.2 _ rfl
    refine ⟨⟨(fun ⟨_, h⟩ => nomatch h), fun h => nomatch sets.1.mpr h.2⟩, fun _ _ => ?_⟩
    rw [deploymentsKept, ← cods.2.1 trivial, ← setsKept.1]
    omega
  · simp only [setsRun] at sets ⊢
    exact ⟨⟨fun _ => ⟨cods.1.mp trivial, sets.1.mp trivial⟩, fun _ => ⟨p, rfl⟩⟩, fun _ failed => nomatch failed⟩

/-- Over a reliable transport, on a ClusterPackage read as stored and tables whose
resourceVersions the store has issued, the cascade returns exactly when the ClusterPackage and
every ClusterObjectDeployment and ClusterObjectSet it owns hold no finalizer or are already being
deleted. Any other object is marked by its Delete, and the Update of the copy read before is
refused, so the cascade cannot complete on a first run. -/
theorem forcedCleanup_completes_iff_releasable {packageOperatorPackage : ClusterPackage} {w : World}
    (reliable : w.Reliable)
    (stored : w.store.clusterPackages.find? (key packageOperatorPackage) = some packageOperatorPackage)
    (issued : packageOperatorPackage.metadata.resourceVersion ≤ w.store.revision)
    (deploymentsIssued : w.store.clusterObjectDeployments.Issued w.store.revision)
    (setsIssued : w.store.clusterObjectSets.Issued w.store.revision) :
    (∃ cleaned, (forcedCleanup packageOperatorPackage w).1 = .ok cleaned) ↔
      releasable packageOperatorPackage.metadata ∧
      (∀ cod ∈ w.store.clusterObjectDeployments.list ownedSelector, releasable cod.metadata) ∧
      ∀ cos ∈ w.store.clusterObjectSets.list ownedSelector, releasable cos.metadata := by
  unfold forcedCleanup
  simp only [bind_apply]
  by_cases fine : releasable packageOperatorPackage.metadata
  · obtain ⟨p, w₁, step, reliable₁, -⟩ := deleteStuck_releasable (α := ClusterPackage) (fun _ _ => rfl)
      "ClusterPackage" reliable stored fine
    have tables := deleteStuck_package_keeps packageOperatorPackage w
    rw [step] at tables
    obtain ⟨deployments, sets, grows⟩ := tables
    have passes := (deleteOwned_run p reliable₁
      (fun cod member => (deploymentsIssued cod (deployments ▸ member)).trans grows)
      (fun cos member => (setsIssued cos (sets ▸ member)).trans grows)).1
    rw [deployments, sets] at passes
    rw [step, passes]
    exact ⟨fun owned => ⟨fine, owned⟩, And.right⟩
  · obtain ⟨_, step, -⟩ := deleteStuck_conflicts (α := ClusterPackage) (fun _ _ => rfl) "ClusterPackage" reliable
      stored issued fine
    simp [step, fine]

/-- The instance above with its ClusterObjectDeployment still held by a finalizer. -/
def heldDeployment : ClusterObjectDeployment where
  metadata := { name := "package-operator", labels := ownedSelector, finalizers := ["package-operator.run/cached"] }

def heldDeploymentStore : Store := { unfinalizedStore with clusterObjectDeployments := Table.singleton heldDeployment }

theorem forcedCleanup_stops_at_held_deployment :
    (World.reliableOn heldDeploymentStore).Reliable ∧
    heldDeploymentStore.clusterPackages.find? (key unfinalizedPackage) = some unfinalizedPackage ∧
    unfinalizedPackage.metadata.resourceVersion ≤ heldDeploymentStore.revision ∧
    heldDeploymentStore.clusterObjectDeployments.Issued heldDeploymentStore.revision ∧
    heldDeploymentStore.clusterObjectSets.Issued heldDeploymentStore.revision ∧
    ¬ ∃ cleaned, (forcedCleanup unfinalizedPackage (World.reliableOn heldDeploymentStore)).1 = .ok cleaned :=
  ⟨World.reliableOn_reliable _, rfl, le_refl _, by decide, by decide, fun completed =>
    absurd ((@forcedCleanup_completes_iff_releasable unfinalizedPackage (World.reliableOn heldDeploymentStore)
      (World.reliableOn_reliable _) rfl (le_refl _) (by decide) (by decide)).mp completed).2.1 (by decide)⟩

/-! ## What a failed run leaves

Each failed run marks the object it stopped at, so the one after it passes that object. -/

/-- The objects in the cascade's scope that would stop it: the ClusterPackage under `k`, and the
ClusterObjectDeployments and ClusterObjectSets the instance owns, that hold a finalizer and are
not yet being deleted. -/
def stuckCount (s : Store) (k : ObjectKey) : Nat :=
  stuckIn (s.clusterPackages.find? k).toList + stuckIn (s.clusterObjectDeployments.list ownedSelector) +
    stuckIn (s.clusterObjectSets.list ownedSelector)

/-- Over a reliable transport, on a ClusterPackage read as stored and tables whose
resourceVersions the store has issued, a run of the cascade that fails leaves exactly one stuck
object fewer in its scope: it removed only objects that were releasable, and the Delete of the
object it stopped at marked that one as being deleted. -/
theorem forcedCleanup_failure_releases_one {packageOperatorPackage : ClusterPackage} {w : World}
    (reliable : w.Reliable)
    (stored : w.store.clusterPackages.find? (key packageOperatorPackage) = some packageOperatorPackage)
    (issued : packageOperatorPackage.metadata.resourceVersion ≤ w.store.revision)
    (deploymentsIssued : w.store.clusterObjectDeployments.Issued w.store.revision)
    (setsIssued : w.store.clusterObjectSets.Issued w.store.revision) {e : Error}
    (failed : (forcedCleanup packageOperatorPackage w).1 = .error e) :
    stuckCount (forcedCleanup packageOperatorPackage w).2.store (key packageOperatorPackage) + 1 =
      stuckCount w.store (key packageOperatorPackage) := by
  have tables := deleteStuck_package_keeps packageOperatorPackage w
  unfold forcedCleanup at failed ⊢
  simp only [bind_apply] at failed ⊢
  by_cases fine : releasable packageOperatorPackage.metadata
  · obtain ⟨p, w₁, step, reliable₁, grows, table⟩ := deleteStuck_releasable (α := ClusterPackage) (fun _ _ => rfl)
      "ClusterPackage" reliable stored fine
    rw [step] at tables failed ⊢
    obtain ⟨deployments, sets, -⟩ := tables
    have dropped := (deleteOwned_run p reliable₁
      (fun cod member => (deploymentsIssued cod (deployments ▸ member)).trans grows)
      (fun cos member => (setsIssued cos (sets ▸ member)).trans grows)).2 _ failed
    have packages := @deleteOwned_keeps (fun s s' => s'.clusterPackages = s.clusterPackages) (fun _ => rfl)
      (fun _ _ _ first second => second.trans first) (fun _ => ⟨fun _ => rfl, fun _ => rfl⟩) p w₁
    have before : stuckIn (w.store.clusterPackages.find? (key packageOperatorPackage)).toList = 0 := by
      simp [stuckIn, stored, fine]
    have after : stuckIn ((deleteOwned p w₁).2.store.clusterPackages.find? (key packageOperatorPackage)).toList = 0 := by
      simp only [table_clusterPackage] at table
      simp [packages, table, Table.find?_erase_self, stuckIn]
    simp only [stuckCount, before, after]
    rw [deployments, sets] at dropped
    omega
  · obtain ⟨w₁, step, table⟩ := deleteStuck_conflicts (α := ClusterPackage) (fun _ _ => rfl) "ClusterPackage"
      reliable stored issued fine
    rw [step] at tables ⊢
    obtain ⟨deployments, sets, -⟩ := tables
    dsimp only at deployments sets
    have before : stuckIn (w.store.clusterPackages.find? (key packageOperatorPackage)).toList = 1 := by
      simp [stuckIn, stored, fine]
    have after : stuckIn (w₁.store.clusterPackages.find? (key packageOperatorPackage)).toList = 0 := by
      simp only [table_clusterPackage] at table
      rw [table, Table.find?_replace_of_find? stored (by simp [key, ObjectMeta.key])]
      simp [stuckIn, releasable]
    simp only [stuckCount, before, after, deployments, sets]
    omega

/-- The instance with both its ClusterPackage and its ClusterObjectDeployment held by a
finalizer. -/
def twiceHeldStore : Store :=
  { heldDeploymentStore with clusterPackages := Table.singleton finalizedPackage }

theorem forcedCleanup_releases_finalized_package_first :
    (World.reliableOn twiceHeldStore).Reliable ∧
    twiceHeldStore.clusterPackages.find? (key finalizedPackage) = some finalizedPackage ∧
    finalizedPackage.metadata.resourceVersion ≤ twiceHeldStore.revision ∧
    twiceHeldStore.clusterObjectDeployments.Issued twiceHeldStore.revision ∧
    twiceHeldStore.clusterObjectSets.Issued twiceHeldStore.revision ∧
    (forcedCleanup finalizedPackage (World.reliableOn twiceHeldStore)).1 =
      .error (.wrapped "releasing finalizers on stuck PackageOperator ClusterPackage" (some .conflict)) ∧
    stuckCount (forcedCleanup finalizedPackage (World.reliableOn twiceHeldStore)).2.store (key finalizedPackage) + 1 =
      stuckCount twiceHeldStore (key finalizedPackage) :=
  ⟨World.reliableOn_reliable _, rfl, le_refl _, by decide, by decide, rfl,
    forcedCleanup_failure_releases_one (World.reliableOn_reliable _) rfl (le_refl _) (by decide) (by decide) rfl⟩

end PackageOperator.Manager
