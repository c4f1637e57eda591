import PackageOperator.Manager.Bootstrap

/-! What the older bootstrapper writes before the manager runs. On the upgrade path the forced
cleanup deletes and releases finalizers, the repair patches ObjectSets' status and the
ClusterPackage is patched: no object of the instance's kinds is added. Self-bootstrap creates
CRDs and the self-managed ClusterPackage and nothing else. So whatever the store holds and
whatever the transport drops, a Bootstrap run adds no ClusterObjectDeployment, no
ClusterObjectSet and no ClusterPackage but the self-managed one, up to the point where it
returns or hands over to the manager. -/

namespace PackageOperator.Manager

open Api Cluster Client MetaObject ClientM

/-- No ClusterObjectDeployment, ClusterObjectSet or ClusterPackage was added. -/
def addsNothing (s s' : Store) : Prop :=
  s.clusterObjectDeployments.AddsNone s'.clusterObjectDeployments ∧
    s.clusterObjectSets.AddsNone s'.clusterObjectSets ∧ s.clusterPackages.AddsNone s'.clusterPackages

/-- No ClusterObjectDeployment or ClusterObjectSet was added, and no ClusterPackage but the
self-managed one. -/
def addsOnlyPKOPackage (s s' : Store) : Prop :=
  s.clusterObjectDeployments.AddsNone s'.clusterObjectDeployments ∧
    s.clusterObjectSets.AddsNone s'.clusterObjectSets ∧
    ∀ k, k ≠ ⟨"", packageOperatorClusterPackageName⟩ → s.clusterPackages.find? k = none →
      s'.clusterPackages.find? k = none

theorem addsNothing_refl (s : Store) : addsNothing s s :=
  ⟨Table.AddsNone.refl _, Table.AddsNone.refl _, Table.AddsNone.refl _⟩

theorem addsNothing_trans (s₁ s₂ s₃ : Store) (first : addsNothing s₁ s₂) (second : addsNothing s₂ s₃) :
    addsNothing s₁ s₃ :=
  ⟨first.1.trans second.1, first.2.1.trans second.2.1, first.2.2.trans second.2.2⟩

theorem addsOnlyPKOPackage_refl (s : Store) : addsOnlyPKOPackage s s :=
  ⟨Table.AddsNone.refl _, Table.AddsNone.refl _, fun _ _ absent => absent⟩

theorem addsOnlyPKOPackage_trans (s₁ s₂ s₃ : Store) (first : addsOnlyPKOPackage s₁ s₂)
    (second : addsOnlyPKOPackage s₂ s₃) : addsOnlyPKOPackage s₁ s₃ :=
  ⟨first.1.trans second.1, first.2.1.trans second.2.1, fun k other absent =>
    second.2.2 k other (first.2.2 k other absent)⟩

theorem addsOnlyPKOPackage_of_addsNothing {s s' : Store} (kept : addsNothing s s') : addsOnlyPKOPackage s s' :=
  ⟨kept.1, kept.2.1, fun k _ => kept.2.2 k⟩

/-! ## The upgrade path adds nothing -/

section Cascade

variable {α : Type} [MetaObject α] [ClientObject α]
  (frame : ∀ s (t : Table α), (ClientObject.table s).AddsNone t →
    addsNothing s { ClientObject.setTable s t with revision := s.revision + 1 })
include frame

/-- For a kind whose table is one of the three, a verb whose table operation adds no object
adds nothing. -/
theorem Keeps.write_addsNothing {β : Type} (request : Request) {op : Table α → Nat → Except Error (β × Table α)}
    (adds : ∀ t rv b t', op t rv = .ok (b, t') → t.AddsNone t') :
    Keeps addsNothing (Client.send request (Client.write op)) :=
  Keeps.write_of addsNothing_refl request fun _ _ _ computed => frame _ _ (adds _ _ _ _ computed)

/-- One object of the cascade: its Delete and its Update add nothing. -/
theorem deleteStuck_addsNothing (kind : String) (o : α) : Keeps addsNothing (deleteStuck kind o) :=
  deleteStuck_keeps_of_verbs addsNothing_refl addsNothing_trans
    (Keeps.write_addsNothing frame _ fun _ _ _ _ deleted => Table.delete_map_addsNone deleted)
    fun _ => Keeps.write_addsNothing frame _ fun _ _ _ _ updated => Table.update_addsNone updated

end Cascade

theorem forcedCleanup_addsNothing (packageOperatorPackage : ClusterPackage) :
    Keeps addsNothing (forcedCleanup packageOperatorPackage) :=
  Keeps.bind addsNothing_trans
    (deleteStuck_addsNothing (fun _ _ adds => ⟨Table.AddsNone.refl _, Table.AddsNone.refl _, adds⟩) _ _) fun _ =>
  deleteOwned_keeps_of addsNothing_refl addsNothing_trans
    (deleteStuck_addsNothing (fun _ _ adds => ⟨adds, Table.AddsNone.refl _, Table.AddsNone.refl _⟩) _)
    (deleteStuck_addsNothing (fun _ _ adds => ⟨Table.AddsNone.refl _, adds, Table.AddsNone.refl _⟩) _) _

theorem fixMissingRevisionNumbers_addsNothing : Keeps addsNothing fixMissingRevisionNumbers :=
  fixMissingRevisionNumbers_keeps addsNothing_refl addsNothing_trans fun _ =>
    Keeps.write_addsNothing (fun _ _ adds => ⟨Table.AddsNone.refl _, adds, Table.AddsNone.refl _⟩) _
      fun _ _ _ _ patched => Table.patch_addsNone patched

section Bootstrapper

variable {Files Package : Type} (b : Bootstrapper Files Package)

/-- With the ClusterPackage found, the run adds nothing: cleanup, repair and patch alike. -/
theorem upgrade_addsNothing (packageOperatorPackage : ClusterPackage) :
    Keeps addsNothing (do
      let packageOperatorPackage ← nukeIfNeeded b.pkoNamespace packageOperatorPackage
      wrap "fix missing revision numbers" fixMissingRevisionNumbers
      updatePKOPackage b packageOperatorPackage) :=
  Keeps.bind addsNothing_trans
    (nukeIfNeeded_keeps_of addsNothing_refl addsNothing_trans (forcedCleanup_addsNothing _) _) fun _ =>
  Keeps.bind addsNothing_trans (Keeps.wrap fixMissingRevisionNumbers_addsNothing _) fun _ =>
  updatePKOPackage_keeps_of b addsNothing_refl addsNothing_trans (fun _ =>
    Keeps.write_addsNothing (fun _ _ adds => ⟨Table.AddsNone.refl _, Table.AddsNone.refl _, adds⟩) _
      fun _ _ _ _ patched => Table.patch_addsNone patched) _

/-- Creating the ClusterPackage adds the self-managed one only. -/
theorem createPKOPackage_addsOnlyPKOPackage : Keeps addsOnlyPKOPackage (createPKOPackage b) :=
  Keeps.bind addsOnlyPKOPackage_trans (fun _ => addsOnlyPKOPackage_refl _) fun _ =>
  Keeps.bind addsOnlyPKOPackage_trans (Keeps.wrap (Keeps.ofResult addsOnlyPKOPackage_refl _) _) fun _ =>
  Keeps.bind addsOnlyPKOPackage_trans (Keeps.attempt (Keeps.write_of addsOnlyPKOPackage_refl _
    fun _ _ _ created => ⟨Table.AddsNone.refl _, Table.AddsNone.refl _, fun _ other absent =>
      Table.create_adds_only_key created other absent⟩)) fun _ => by
    split
    · split
      · exact Keeps.pure addsOnlyPKOPackage_refl _
      · exact Keeps.throw addsOnlyPKOPackage_refl _
    · exact Keeps.pure addsOnlyPKOPackage_refl _

variable (DynamicCacheLabel : String) (templateSpecFromPackage : Package → ObjectSetTemplateSpec)

/-- Whatever the store holds and whatever the transport drops, Bootstrap adds no
ClusterObjectDeployment, no ClusterObjectSet and no ClusterPackage but the self-managed one:
by the time it returns, or by the time it hands over to the manager. -/
theorem Bootstrap_adds_only_pko_package (w : World) :
    addsOnlyPKOPackage w.store (Bootstrap b DynamicCacheLabel templateSpecFromPackage w).2.store ∨
      ∃ u, addsOnlyPKOPackage w.store u.store ∧
        Bootstrap b DynamicCacheLabel templateSpecFromPackage w = b.runManager u := by
  have looked := Keeps.get addsOnlyPKOPackage_refl (α := ClusterPackage) ⟨"", packageOperatorClusterPackageName⟩ w
  simp only [Bootstrap, bind_apply, attempt_apply]
  rcases ran : get (α := ClusterPackage) ⟨"", packageOperatorClusterPackageName⟩ w with ⟨_ | found, w₁⟩
  all_goals rw [ran] at looked; dsimp only at looked ⊢
  · split
    · exact .inl (addsOnlyPKOPackage_trans _ _ _ looked (addsOnlyPKOPackage_refl _))
    · rcases selfBootstrap_hands_over_of b DynamicCacheLabel templateSpecFromPackage addsOnlyPKOPackage_refl
          addsOnlyPKOPackage_trans
          (fun _ => Keeps.write addsOnlyPKOPackage_refl _ fun _ _ => addsOnlyPKOPackage_refl _)
          (createPKOPackage_addsOnlyPKOPackage b) w₁ with ⟨_, -, kept⟩ | ⟨u, kept, -, handed⟩
      · exact .inl (addsOnlyPKOPackage_trans _ _ _ looked kept)
      · exact .inr ⟨u, addsOnlyPKOPackage_trans _ _ _ looked kept, handed⟩
  · exact .inl (addsOnlyPKOPackage_trans _ _ _ looked
      (addsOnlyPKOPackage_of_addsNothing (upgrade_addsNothing b found w₁)))

end Bootstrapper

end PackageOperator.Manager
