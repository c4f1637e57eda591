import PackageOperator.Manager.Revisions

/-! The repair reads an ancestor's revision from the list as the loop has left it so far, so
what a stuck ObjectSet gets depends on where the list puts its ancestors. When no stuck
ObjectSet is listed before a stuck ObjectSet it names, each one reads its ancestors in their
final state: its new revision is one above the highest of them in the repaired list. That
fixed point is what both results below rest on. -/

namespace PackageOperator.Manager
open Api Cluster Client MetaObject

/-- Every stuck ObjectSet names only ObjectSets of the list. -/
def PreviousListed (l : List ClusterObjectSet) : Prop :=
  ∀ cos ∈ l, looksStuck cos → ∀ name ∈ previousNames cos, name ∈ l.map (·.metadata.name)

instance (l : List ClusterObjectSet) : Decidable (PreviousListed l) :=
  inferInstanceAs (Decidable (∀ _ ∈ l, _))

/-- No stuck ObjectSet names itself or a stuck ObjectSet listed after it. -/
def StuckPreviousFirst : List ClusterObjectSet → Prop
  | [] => True
  | cos :: rest => (looksStuck cos → ∀ later ∈ cos :: rest, looksStuck later →
      later.metadata.name ∉ previousNames cos) ∧ StuckPreviousFirst rest

instance decidableStuckPreviousFirst : ∀ l, Decidable (StuckPreviousFirst l)
  | [] => isTrue trivial
  | _ :: rest =>
    have := decidableStuckPreviousFirst rest
    inferInstanceAs (Decidable (_ ∧ _))

theorem StuckPreviousFirst.of_append {pre post : List ClusterObjectSet} {cos : ClusterObjectSet}
    (ordered : StuckPreviousFirst (pre ++ cos :: post)) (stuck : looksStuck cos) :
    ∀ later ∈ cos :: post, looksStuck later → later.metadata.name ∉ previousNames cos := by
  induction pre with
  | nil => exact ordered.1 stuck
  | cons _ pre ih => exact ih ordered.2

/-- The revision a list holds under a name, read from its first ObjectSet of that name. -/
def revisionOf (l : List ClusterObjectSet) (name : String) : Option Int64 :=
  (l.find? (·.metadata.name == name)).map (·.status.revision)

theorem revisionOf_of_mem {l : List ClusterObjectSet} (unique : (l.map (·.metadata.name)).Nodup)
    {cos : ClusterObjectSet} (member : cos ∈ l) : revisionOf l cos.metadata.name = some cos.status.revision := by
  cases found : l.find? (·.metadata.name == cos.metadata.name) with
  | none => exact absurd (List.find?_eq_none.mp found cos member) (by simp)
  | some other =>
    have named : other.metadata.name = cos.metadata.name := by simpa using List.find?_some found
    rw [revisionOf, found, List.inj_on_of_nodup_map unique (List.mem_of_find?_eq_some found) member named]
    rfl

theorem revisionOf_eq_none {l : List ClusterObjectSet} {name : String}
    (absent : name ∉ l.map (·.metadata.name)) : revisionOf l name = none := by
  simp only [revisionOf, Option.map_eq_none', List.find?_eq_none, beq_iff_eq]
  exact fun cos member named => absent (named ▸ List.mem_map_of_mem _ member)

/-- Through the code's map, a list with the snapshot's names gives the revision the list
holds under the name. -/
theorem resolve_revision {l items : List ClusterObjectSet}
    (sameNames : items.map (·.metadata.name) = l.map (·.metadata.name))
    (unique : (l.map (·.metadata.name)).Nodup) (name : String) :
    (resolve (cosByName l) items name).map (·.status.revision) = revisionOf items name := by
  by_cases present : name ∈ l.map (·.metadata.name)
  · obtain ⟨cos, member, rfl⟩ := List.mem_map.mp (sameNames ▸ present)
    rw [resolve_of_mem sameNames unique member, revisionOf_of_mem (sameNames ▸ unique) member]
    rfl
  · rw [(resolve_eq_none sameNames).mpr present, revisionOf_eq_none (sameNames ▸ present)]
    rfl

/-- A completed computation is at least every revision it read. -/
theorem highestRevisionNumber_ge {cosByName : String → Option ClusterObjectSet}
    {prevs : List PreviousRevisionReference} {highest : Int64}
    (computed : highestRevisionNumber cosByName prevs = .ok highest) {prev : PreviousRevisionReference}
    (member : prev ∈ prevs) {cos : ClusterObjectSet} (found : cosByName prev.name = some cos) :
    cos.status.revision ≤ highest := by
  have resolved : ∀ p ∈ prevs, (cosByName p.name).isSome := fun p inside => by
    by_contra absent
    rw [highestRevisionNumber_eq, highestRevisionNumber_go_missing _ _
      ⟨p, inside, Option.not_isSome_iff_eq_none.mp absent⟩] at computed
    cases computed
  obtain ⟨h, computed', -, bounds, -⟩ := highestRevisionNumber_go_ok cosByName 0 prevs resolved
  cases computed.symm.trans computed'
  exact bounds prev member cos found

/-! ## The fixed point of a run -/

/-- How the repair leaves an ObjectSet of its snapshot, against the list it ends with: one
that does not look stuck as it was, a stuck one at one above the highest revision its previous
ObjectSets hold in that list, that highest below a limit. -/
def Repaired (byName : String → Option Nat) (final : List ClusterObjectSet) (limit : Int)
    (before after : ClusterObjectSet) : Prop :=
  (¬ looksStuck before ∧ after = before) ∨
    (looksStuck before ∧ ∃ highest rv, highestRevisionNumber (resolve byName final) before.spec.previous =
      .ok highest ∧ highest.val < limit ∧ after = stamp (withRevision before (highest + 1)) rv)

theorem Repaired.eq_of_not_looksStuck {byName : String → Option Nat} {final : List ClusterObjectSet}
    {limit : Int} {before after : ClusterObjectSet} (repaired : Repaired byName final limit before after)
    (fine : ¬ looksStuck before) : after = before :=
  repaired.elim And.right fun ⟨stuck, _⟩ => absurd stuck fine

theorem Repaired.of_looksStuck {byName : String → Option Nat} {final : List ClusterObjectSet}
    {limit : Int} {before after : ClusterObjectSet} (repaired : Repaired byName final limit before after)
    (stuck : looksStuck before) :
    ∃ highest rv, highestRevisionNumber (resolve byName final) before.spec.previous = .ok highest ∧
      highest.val < limit ∧ after = stamp (withRevision before (highest + 1)) rv :=
  repaired.elim (fun ⟨fine, _⟩ => absurd stuck fine) And.right

theorem forall₂_exists_of_mem {α β : Type} {R : α → β → Prop} {l₁ : List α} {l₂ : List β}
    (related : List.Forall₂ R l₁ l₂) {a : α} (member : a ∈ l₁) : ∃ b ∈ l₂, R a b := by
  induction related with
  | nil => cases member
  | cons here _ ih =>
    rcases List.mem_cons.mp member with rfl | later
    · exact ⟨_, List.mem_cons_self _ _, here⟩
    · obtain ⟨b, inside, related⟩ := ih later
      exact ⟨b, List.mem_cons_of_mem _ inside, related⟩

/-- The repair renames nothing. -/
theorem Repaired.map_name {byName : String → Option Nat} {final : List ClusterObjectSet} {limit : Int}
    {before after : List ClusterObjectSet} (repaired : List.Forall₂ (Repaired byName final limit) before after) :
    after.map (·.metadata.name) = before.map (·.metadata.name) := by
  induction repaired with
  | nil => rfl
  | cons here _ ih =>
    rcases here with ⟨-, rfl⟩ | ⟨-, _, _, -, -, rfl⟩ <;> simp [ih]

/-- An ObjectSet the repair does not touch keeps its revision in the repaired list. -/
theorem revisionOf_of_not_looksStuck {byName : String → Option Nat} {limit : Int}
    {before after : List ClusterObjectSet} (repaired : List.Forall₂ (Repaired byName after limit) before after)
    (unique : (before.map (·.metadata.name)).Nodup) {cos : ClusterObjectSet} (member : cos ∈ before)
    (fine : ¬ looksStuck cos) : revisionOf after cos.metadata.name = some cos.status.revision := by
  obtain ⟨same, inside, related⟩ := forall₂_exists_of_mem repaired member
  rw [related.eq_of_not_looksStuck fine] at inside
  exact revisionOf_of_mem (Repaired.map_name repaired ▸ unique) inside

section Loop

variable {l : List ClusterObjectSet}

/-- A reliable run of the loop over a list that lists stuck ancestors first completes, and
leaves every entry from its current one on repaired against the list it ends with; every
revision stays below the snapshot's bound plus the entries visited so far. -/
theorem repairRevisions_fixpoint {visited rest : List ClusterObjectSet} {w : World}
    (reliable : w.Reliable) (listing : listed w.store = visited ++ rest)
    (sameNames : (visited ++ rest).map (·.metadata.name) = l.map (·.metadata.name))
    (unique : (l.map (·.metadata.name)).Nodup)
    (present : ∀ cos ∈ rest, looksStuck cos → ∀ name ∈ previousNames cos, name ∈ l.map (·.metadata.name))
    (ordered : StuckPreviousFirst rest) {bound : Nat}
    (below : ∀ cos ∈ visited ++ rest, cos.status.revision.val ≤ bound + visited.length) :
    (repairRevisions (cosByName l) visited rest w).1 = .ok () ∧
      ∃ revised, listed (repairRevisions (cosByName l) visited rest w).2.store = visited ++ revised ∧
        List.Forall₂ (Repaired (cosByName l) (visited ++ revised) (bound + l.length)) rest revised := by
  induction rest generalizing visited w with
  | nil => exact ⟨rfl, [], by simpa using listing, .nil⟩
  | cons cos rest ih =>
    have lengths : visited.length + rest.length + 1 = l.length := by
      simpa [Nat.add_assoc] using congrArg List.length sameNames
    have present' := fun c member => present c (List.mem_cons_of_mem _ member)
    by_cases stuck : looksStuck cos
    · have resolved : ∀ prev ∈ cos.spec.previous,
          (resolve (cosByName l) (visited ++ cos :: rest) prev.name).isSome := fun prev member =>
        Option.isSome_iff_ne_none.mpr ((resolve_eq_none sameNames).not.mpr (not_not.mpr
          (present cos (List.mem_cons_self _ _) stuck _ (List.mem_map_of_mem _ member))))
      obtain ⟨highest, computed, -, -, attained⟩ := highestRevisionNumber_go_ok _ 0 _ resolved
      have highestBelow : highest.val ≤ bound + visited.length := by
        rcases attained with rfl | ⟨_, _, c, found, rfl⟩
        · simp only [Int64.val_zero]
          omega
        · exact below c (resolve_some sameNames found).1
      have below' : ∀ c ∈ visited ++ [stamp (withRevision cos (highest + 1)) (w.store.revision + 1)] ++ rest,
          c.status.revision.val ≤ bound + (visited ++ [stamp (withRevision cos (highest + 1))
            (w.store.revision + 1)]).length := by
        intro c member
        simp only [List.mem_append, List.mem_singleton, List.length_append, List.length_singleton] at member ⊢
        rcases member with (old | rfl) | old
        · have := below c (by simp [old]); omega
        · have := Int64.val_add_one_le highest; simp only [stamp_withRevision_revision]; omega
        · have := below c (by simp [old]); omega
      rw [repairRevisions_patch _ _ _ stuck computed (reliable _) listing]
      obtain ⟨completes, revised, listing', repaired⟩ := ih (afterPatch_reliable reliable _ _)
        (listed_afterPatch listing highest) (by simpa using sameNames) present' ordered.2 below'
      rw [List.append_assoc, List.singleton_append] at listing' repaired
      have finalNames : (visited ++ stamp (withRevision cos (highest + 1)) (w.store.revision + 1) :: revised).map
          (·.metadata.name) = l.map (·.metadata.name) := by
        simpa [Repaired.map_name repaired] using sameNames
      -- every ancestor is read as the run leaves it: visited ones are final, later ones untouched
      have settled : ∀ prev ∈ cos.spec.previous,
          (resolve (cosByName l) (visited ++ stamp (withRevision cos (highest + 1)) (w.store.revision + 1) :: revised)
            prev.name).map (·.status.revision) =
          (resolve (cosByName l) (visited ++ cos :: rest) prev.name).map (·.status.revision) := by
        intro prev member
        obtain ⟨c, found⟩ := Option.isSome_iff_exists.mp (resolved prev member)
        obtain ⟨inside, named⟩ := resolve_some sameNames found
        have previous : c.metadata.name ∈ previousNames cos := named ▸ List.mem_map_of_mem _ member
        have final : c ∈ visited ++ stamp (withRevision cos (highest + 1)) (w.store.revision + 1) :: revised := by
          rcases List.mem_append.mp inside with old | here
          · exact List.mem_append_left _ old
          have fine : ¬ looksStuck c := fun stuckToo => ordered.1 stuck c here stuckToo previous
          obtain ⟨_, kept, related⟩ :=
            forall₂_exists_of_mem repaired (List.mem_of_ne_of_mem (by rintro rfl; exact fine stuck) here)
          rw [related.eq_of_not_looksStuck fine] at kept
          exact List.mem_append_right _ (List.mem_cons_of_mem _ kept)
        rw [found, ← named, resolve_of_mem finalNames unique final]
      exact ⟨completes, _ :: revised, listing', .cons (.inr ⟨stuck, highest, _,
        (highestRevisionNumber_go_congr _ _ 0 settled).trans computed, by omega, rfl⟩) repaired⟩
    · rw [repairRevisions_skip _ _ _ stuck]
      obtain ⟨completes, revised, listing', repaired⟩ := @ih (visited ++ [cos]) w reliable
        (by simpa using listing) (by simpa using sameNames) present' ordered.2
        (fun c member => by have := below c (by simpa using member); simp; omega)
      rw [List.append_assoc, List.singleton_append] at listing' repaired
      exact ⟨completes, cos :: revised, listing', .cons (.inl ⟨stuck, rfl⟩) repaired⟩

end Loop

/-- A reliable run on a snapshot with unique names, every named ObjectSet listed and stuck
ancestors listed first completes, and leaves each listed ObjectSet repaired against the list
it ends with, every highest revision read below the bound plus the snapshot's length. -/
theorem fixMissingRevisionNumbers_fixpoint {w : World} (reliable : w.Reliable)
    (unique : ((listed w.store).map (·.metadata.name)).Nodup) (present : PreviousListed (listed w.store))
    (ordered : StuckPreviousFirst (listed w.store)) {bound : Nat}
    (below : ∀ cos ∈ listed w.store, cos.status.revision.val ≤ bound) :
    (fixMissingRevisionNumbers w).1 = .ok () ∧
      List.Forall₂ (Repaired (cosByName (listed w.store)) (listed (fixMissingRevisionNumbers w).2.store)
        (bound + (listed w.store).length)) (listed w.store) (listed (fixMissingRevisionNumbers w).2.store) := by
  rw [fixMissingRevisionNumbers_reliable reliable]
  obtain ⟨completes, revised, listing, repaired⟩ :=
    repairRevisions_fixpoint (w := { w with requests := w.requests ++ [listRequest] }) (fun n => reliable n)
      (List.nil_append _).symm rfl unique present ordered (by simpa using below)
  rw [List.nil_append] at listing repaired
  exact ⟨completes, listing ▸ repaired⟩

/-! ## Which runs complete -/

theorem fixMissingRevisionNumbers_completes {w : World} (reliable : w.Reliable)
    (present : PreviousListed (listed w.store)) : (fixMissingRevisionNumbers w).1 = .ok () := by
  rw [fixMissingRevisionNumbers_reliable reliable]
  exact repairRevisions_completes (fun n => reliable n) (by simp) (by simp) present

theorem fixMissingRevisionNumbers_panics {w : World} (reliable : w.Reliable)
    (missing : ¬ PreviousListed (listed w.store)) :
    (fixMissingRevisionNumbers w).1 = .error nilPointerDereference := by
  unfold PreviousListed at missing
  push_neg at missing
  exact fixMissingRevisionNumbers_panics_of_missing reliable missing

/-- A reliable run's result is decided by the references alone: nil when every stuck ObjectSet
names only listed ObjectSets, the nil-pointer panic otherwise. The order of the list, duplicate
names and the revisions play no part. -/
theorem fixMissingRevisionNumbers_result {w : World} (reliable : w.Reliable) :
    (fixMissingRevisionNumbers w).1 =
      if PreviousListed (listed w.store) then .ok () else .error nilPointerDereference := by
  split
  · next present => exact fixMissingRevisionNumbers_completes reliable present
  · next missing => exact fixMissingRevisionNumbers_panics reliable missing

theorem fixMissingRevisionNumbers_result_on_chain :
    (World.reliableOn chainInOrder).Reliable ∧
      (fixMissingRevisionNumbers (World.reliableOn chainInOrder)).1 =
        if PreviousListed (listed chainInOrder) then .ok () else .error nilPointerDereference :=
  ⟨World.reliableOn_reliable _, fixMissingRevisionNumbers_result (World.reliableOn_reliable _)⟩

/-! ## Revisions along the previous references -/

/-- When the snapshot lists every stuck ObjectSet after the stuck ones it names, names only
ObjectSets it holds, and leaves room below the `int64` maximum, every repaired ObjectSet ends
above every ObjectSet it names, as the repaired list holds them. -/
theorem fixMissingRevisionNumbers_revision_above_previous {w : World} (reliable : w.Reliable)
    (unique : ((listed w.store).map (·.metadata.name)).Nodup) (present : PreviousListed (listed w.store))
    (ordered : StuckPreviousFirst (listed w.store)) (bound : Nat)
    (below : ∀ cos ∈ listed w.store, cos.status.revision.val ≤ bound)
    (headroom : bound + (listed w.store).length < 9223372036854775808) :
    (fixMissingRevisionNumbers w).1 = .ok () ∧
      ∀ cos ∈ listed w.store, looksStuck cos → ∀ name ∈ previousNames cos,
        ∃ previous repaired, revisionOf (listed (fixMissingRevisionNumbers w).2.store) name = some previous ∧
          revisionOf (listed (fixMissingRevisionNumbers w).2.store) cos.metadata.name = some repaired ∧
          previous < repaired := by
  obtain ⟨completes, repaired⟩ := fixMissingRevisionNumbers_fixpoint reliable unique present ordered below
  refine ⟨completes, fun cos member stuck name named => ?_⟩
  have finalNames := Repaired.map_name repaired
  obtain ⟨after, inside, related⟩ := forall₂_exists_of_mem repaired member
  obtain ⟨highest, rv, computed, limited, rfl⟩ := related.of_looksStuck stuck
  obtain ⟨prev, prevMember, rfl⟩ := List.mem_map.mp named
  obtain ⟨ancestor, ancestorInside, ancestorNamed⟩ :=
    List.mem_map.mp (finalNames ▸ present cos member stuck _ named)
  have resolved := resolve_of_mem finalNames unique ancestorInside
  rw [ancestorNamed] at resolved
  have read := highestRevisionNumber_ge computed prevMember resolved
  rw [Int64.le_iff] at read
  refine ⟨ancestor.status.revision, highest + 1,
    ancestorNamed ▸ revisionOf_of_mem (finalNames ▸ unique) ancestorInside,
    by simpa using revisionOf_of_mem (finalNames ▸ unique) inside, ?_⟩
  rw [Int64.lt_iff, Int64.val_add_one_of_lt (by omega)]
  omega

/-- The same chain, listed with the grandchild before the child it names. -/
def chainOutOfOrder : Store :=
  { Store.empty with clusterObjectSets := ⟨[availableRevision, stuckGrandchild, stuckChild], by decide⟩ }

/-- Out of order, the grandchild reads its parent at revision 0 and ends at 1, below the 6
its parent gets next. -/
theorem fixMissingRevisionNumbers_grandchild_below_child :
    ((listed chainOutOfOrder).map (·.metadata.name)).Nodup ∧ PreviousListed (listed chainOutOfOrder) ∧
      (fixMissingRevisionNumbers (World.reliableOn chainOutOfOrder)).1 = .ok () ∧
      revisionOf (listed (fixMissingRevisionNumbers (World.reliableOn chainOutOfOrder)).2.store)
        "package-operator-2" = some 6 ∧
      revisionOf (listed (fixMissingRevisionNumbers (World.reliableOn chainOutOfOrder)).2.store)
        "package-operator-3" = some 1 :=
  ⟨by decide, by decide, rfl, rfl, rfl⟩

theorem fixMissingRevisionNumbers_chain_revisions_increase :
    (World.reliableOn chainInOrder).Reliable ∧ ((listed chainInOrder).map (·.metadata.name)).Nodup ∧
      PreviousListed (listed chainInOrder) ∧ StuckPreviousFirst (listed chainInOrder) ∧
      (∀ cos ∈ listed chainInOrder, cos.status.revision.val ≤ (5 : Nat)) ∧
      5 + (listed chainInOrder).length < 9223372036854775808 ∧
      (fixMissingRevisionNumbers (World.reliableOn chainInOrder)).1 = .ok () ∧
      ∀ cos ∈ listed chainInOrder, looksStuck cos → ∀ name ∈ previousNames cos,
        ∃ previous repaired,
          revisionOf (listed (fixMissingRevisionNumbers (World.reliableOn chainInOrder)).2.store) name =
            some previous ∧
          revisionOf (listed (fixMissingRevisionNumbers (World.reliableOn chainInOrder)).2.store)
            cos.metadata.name = some repaired ∧
          previous < repaired :=
  ⟨World.reliableOn_reliable _, by decide, by decide, by decide, by decide, by decide,
    fixMissingRevisionNumbers_revision_above_previous (World.reliableOn_reliable _) (by decide) (by decide)
      (by decide) 5 (by decide) (by decide)⟩

/-! ## Independence from the list's order -/

section Reordered

variable {before₁ before₂ after₁ after₂ : List ClusterObjectSet}
  (reordered : before₁.Perm before₂) (unique : (before₁.map (·.metadata.name)).Nodup)
  {limit₁ limit₂ : Int}
  (repaired₁ : List.Forall₂ (Repaired (cosByName before₁) after₁ limit₁) before₁ after₁)
  (repaired₂ : List.Forall₂ (Repaired (cosByName before₂) after₂ limit₂) before₂ after₂)

include reordered unique repaired₁ repaired₂

/-- A name neither repair holds, or an ObjectSet neither touches, reads the same in both. -/
theorem revisionOf_agree_of_settled (name : String)
    (settled : ∀ cos ∈ before₁, cos.metadata.name = name → ¬ looksStuck cos) :
    revisionOf after₁ name = revisionOf after₂ name := by
  have unique₂ := (reordered.map (·.metadata.name)).nodup_iff.mp unique
  by_cases listedName : name ∈ before₁.map (·.metadata.name)
  · obtain ⟨cos, member, rfl⟩ := List.mem_map.mp listedName
    rw [revisionOf_of_not_looksStuck repaired₁ unique member (settled cos member rfl),
      revisionOf_of_not_looksStuck repaired₂ unique₂ (reordered.subset member) (settled cos member rfl)]
  · rw [revisionOf_eq_none ((Repaired.map_name repaired₁) ▸ listedName), revisionOf_eq_none ((Repaired.map_name repaired₂) ▸
      fun inside => listedName ((reordered.map _).mem_iff.mpr inside))]

/-- Two repairs of one snapshot that both list stuck ancestors first agree on the revision of
an ObjectSet once they agree on everything listed before it in the first order. -/
theorem revisionOf_agree_step (ordered : StuckPreviousFirst before₁) {pre post : List ClusterObjectSet}
    {cos : ClusterObjectSet} (split : before₁ = pre ++ cos :: post)
    (agreed : ∀ earlier ∈ pre, revisionOf after₁ earlier.metadata.name = revisionOf after₂ earlier.metadata.name) :
    revisionOf after₁ cos.metadata.name = revisionOf after₂ cos.metadata.name := by
  have unique₂ := (reordered.map (·.metadata.name)).nodup_iff.mp unique
  have member : cos ∈ before₁ := split ▸ List.mem_append_right _ (List.mem_cons_self _ _)
  by_cases stuck : looksStuck cos
  · obtain ⟨_, inside₁, related₁⟩ := forall₂_exists_of_mem repaired₁ member
    obtain ⟨_, inside₂, related₂⟩ := forall₂_exists_of_mem repaired₂ (reordered.subset member)
    obtain ⟨highest₁, rv₁, computed₁, -, rfl⟩ := related₁.of_looksStuck stuck
    obtain ⟨highest₂, rv₂, computed₂, -, rfl⟩ := related₂.of_looksStuck stuck
    -- each ancestor reads alike: an earlier one by assumption, a later one is not stuck
    have ancestors : ∀ prev ∈ cos.spec.previous,
        revisionOf after₁ prev.name = revisionOf after₂ prev.name := by
      intro prev named
      by_cases early : ∃ earlier ∈ pre, earlier.metadata.name = prev.name
      · obtain ⟨earlier, inPre, same⟩ := early
        exact same ▸ agreed earlier inPre
      · refine revisionOf_agree_of_settled reordered unique repaired₁ repaired₂ _ fun c inside same stuckToo => ?_
        rcases List.mem_append.mp (split ▸ inside) with inPre | later
        · exact early ⟨c, inPre, same⟩
        · exact (split ▸ ordered).of_append stuck c later stuckToo
            (by rw [same]; exact List.mem_map_of_mem _ named)
    have same : highestRevisionNumber (resolve (cosByName before₁) after₁) cos.spec.previous =
        highestRevisionNumber (resolve (cosByName before₂) after₂) cos.spec.previous :=
      highestRevisionNumber_go_congr _ _ 0 fun prev named => by
        rw [resolve_revision (Repaired.map_name repaired₁) unique, resolve_revision (Repaired.map_name repaired₂) unique₂]
        exact ancestors prev named
    cases computed₁.symm.trans (same.trans computed₂)
    have read₁ := revisionOf_of_mem ((Repaired.map_name repaired₁) ▸ unique) inside₁
    have read₂ := revisionOf_of_mem ((Repaired.map_name repaired₂) ▸ unique₂) inside₂
    simp only [stamp_withRevision_name, stamp_withRevision_revision] at read₁ read₂
    rw [read₁, read₂]
  · exact revisionOf_agree_of_settled reordered unique repaired₁ repaired₂ _ fun c inside same =>
      (List.inj_on_of_nodup_map unique inside member same) ▸ stuck

/-- Two repairs of one snapshot that both list stuck ancestors first agree on every revision. -/
theorem revisionOf_agree (ordered : StuckPreviousFirst before₁) (name : String) :
    revisionOf after₁ name = revisionOf after₂ name := by
  have walk : ∀ post pre, before₁ = pre ++ post →
      (∀ earlier ∈ pre, revisionOf after₁ earlier.metadata.name = revisionOf after₂ earlier.metadata.name) →
      ∀ cos ∈ before₁, revisionOf after₁ cos.metadata.name = revisionOf after₂ cos.metadata.name := by
    intro post
    induction post with
    | nil =>
      intro pre split agreed cos member
      rw [split, List.append_nil] at member
      exact agreed cos member
    | cons cos post ih =>
      intro pre split agreed
      have here := revisionOf_agree_step reordered unique repaired₁ repaired₂ ordered split agreed
      refine ih (pre ++ [cos]) (by simp [split]) fun earlier inside => ?_
      rcases List.mem_append.mp inside with old | new
      · exact agreed earlier old
      · rw [List.mem_singleton.mp new]
        exact here
  by_cases listedName : ∃ cos ∈ before₁, cos.metadata.name = name
  · obtain ⟨cos, member, rfl⟩ := listedName
    exact walk before₁ [] rfl (by simp) cos member
  · exact revisionOf_agree_of_settled reordered unique repaired₁ repaired₂ name
      fun c inside same => absurd ⟨c, inside, same⟩ listedName

end Reordered

/-- Two reliable runs on two orders of one snapshot, with unique names, every named ObjectSet
listed and, in both orders, stuck ancestors listed first, both complete, send the same
requests up to their order, and leave every name at the same revision. -/
theorem fixMissingRevisionNumbers_independent_of_order {w₁ w₂ : World} (reliable₁ : w₁.Reliable)
    (reliable₂ : w₂.Reliable) (reordered : (listed w₁.store).Perm (listed w₂.store))
    (unique : ((listed w₁.store).map (·.metadata.name)).Nodup) (present : PreviousListed (listed w₁.store))
    (ordered₁ : StuckPreviousFirst (listed w₁.store)) (ordered₂ : StuckPreviousFirst (listed w₂.store)) :
    (fixMissingRevisionNumbers w₁).1 = .ok () ∧ (fixMissingRevisionNumbers w₂).1 = .ok () ∧
      (∃ sent₁ sent₂, (fixMissingRevisionNumbers w₁).2.requests = w₁.requests ++ sent₁ ∧
        (fixMissingRevisionNumbers w₂).2.requests = w₂.requests ++ sent₂ ∧ sent₁.Perm sent₂) ∧
      ∀ name, revisionOf (listed (fixMissingRevisionNumbers w₁).2.store) name =
        revisionOf (listed (fixMissingRevisionNumbers w₂).2.store) name := by
  have unique₂ := (reordered.map (·.metadata.name)).nodup_iff.mp unique
  have present₂ : PreviousListed (listed w₂.store) := fun cos member stuck name named =>
    (reordered.map _).subset (present cos (reordered.mem_iff.mpr member) stuck name named)
  have within : ∀ w : World, ∀ cos ∈ listed w.store,
      cos.status.revision.val ≤ (9223372036854775808 : Nat) := fun _ cos _ => by
    have := cos.status.revision.upper
    omega
  obtain ⟨completes₁, repaired₁⟩ := fixMissingRevisionNumbers_fixpoint reliable₁ unique present ordered₁ (within w₁)
  obtain ⟨completes₂, repaired₂⟩ := fixMissingRevisionNumbers_fixpoint reliable₂ unique₂ present₂ ordered₂ (within w₂)
  obtain ⟨-, -, -, requests₁, -⟩ := fixMissingRevisionNumbers_completed reliable₁ completes₁
  obtain ⟨-, -, -, requests₂, -⟩ := fixMissingRevisionNumbers_completed reliable₂ completes₂
  exact ⟨completes₁, completes₂, ⟨_, _, requests₁, requests₂, ((reordered.filter _).map _).cons _⟩,
    revisionOf_agree reordered unique repaired₁ repaired₂ ordered₁⟩

/-- The chain with the stuck child listed before the revision it names, which is not stuck. -/
def chainChildFirst : Store :=
  { Store.empty with clusterObjectSets := ⟨[stuckChild, availableRevision, stuckGrandchild], by decide⟩ }

theorem fixMissingRevisionNumbers_child_listed_first :
    (World.reliableOn chainInOrder).Reliable ∧ (World.reliableOn chainChildFirst).Reliable ∧
      (listed chainInOrder).Perm (listed chainChildFirst) ∧
      ((listed chainInOrder).map (·.metadata.name)).Nodup ∧ PreviousListed (listed chainInOrder) ∧
      StuckPreviousFirst (listed chainInOrder) ∧ StuckPreviousFirst (listed chainChildFirst) ∧
      (fixMissingRevisionNumbers (World.reliableOn chainInOrder)).1 = .ok () ∧
      (fixMissingRevisionNumbers (World.reliableOn chainChildFirst)).1 = .ok () ∧
      (∃ sent₁ sent₂, (fixMissingRevisionNumbers (World.reliableOn chainInOrder)).2.requests =
          (World.reliableOn chainInOrder).requests ++ sent₁ ∧
        (fixMissingRevisionNumbers (World.reliableOn chainChildFirst)).2.requests =
          (World.reliableOn chainChildFirst).requests ++ sent₂ ∧ sent₁.Perm sent₂) ∧
      ∀ name, revisionOf (listed (fixMissingRevisionNumbers (World.reliableOn chainInOrder)).2.store) name =
        revisionOf (listed (fixMissingRevisionNumbers (World.reliableOn chainChildFirst)).2.store) name :=
  ⟨World.reliableOn_reliable _, World.reliableOn_reliable _, .swap _ _ _, by decide, by decide, by decide,
    by decide, fixMissingRevisionNumbers_independent_of_order (World.reliableOn_reliable _)
      (World.reliableOn_reliable _) (.swap _ _ _) (by decide) (by decide) (by decide) (by decide)⟩

/-- Listed in the two orders, the grandchild ends at 7 or at 1. -/
theorem fixMissingRevisionNumbers_depends_on_list_order :
    (listed chainInOrder).Perm (listed chainOutOfOrder) ∧
      (fixMissingRevisionNumbers (World.reliableOn chainInOrder)).1 = .ok () ∧
      (fixMissingRevisionNumbers (World.reliableOn chainOutOfOrder)).1 = .ok () ∧
      revisionOf (listed (fixMissingRevisionNumbers (World.reliableOn chainInOrder)).2.store)
        "package-operator-3" = some 7 ∧
      revisionOf (listed (fixMissingRevisionNumbers (World.reliableOn chainOutOfOrder)).2.store)
        "package-operator-3" = some 1 :=
  ⟨.cons _ (.swap _ _ _), rfl, rfl, rfl, rfl⟩

end PackageOperator.Manager
