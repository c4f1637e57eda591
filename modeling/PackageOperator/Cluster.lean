import PackageOperator.Api
import Mathlib.Data.List.Nodup

/-! The cluster's object store, at its interface: one table per kind with unique keys,
resourceVersions stamped from one revision counter, optimistic concurrency on writes that
carry a resourceVersion, and finalizers that hold back the removal of a deleted object. -/

namespace PackageOperator.Cluster
open Api

/-- The errors the code tells apart, `fmt.Errorf("...: %w", err)` wrapping (of a possibly nil
error), and a runtime panic, which no wrapping touches. -/
inductive Error where
  | notFound
  | alreadyExists
  | conflict
  | noMatch
  | transport (message : String)
  /-- `errors.New(text)`. -/
  | errorString (text : String)
  /-- `*json.MarshalerError`: the client could not encode the body of a request, which is not
  sent. Its text, encoding/json's, is not modelled. -/
  | marshal
  | wrapped (message : String) (cause : Option Error)
  | panic (message : String)
deriving Repr

namespace Error

/-- `errors.IsNotFound`, which looks through `%w` wrapping. -/
def isNotFound : Error → Bool
  | notFound => true
  | wrapped _ (some cause) => cause.isNotFound
  | _ => false

/-- `errors.IsAlreadyExists`. -/
def isAlreadyExists : Error → Bool
  | alreadyExists => true
  | wrapped _ (some cause) => cause.isAlreadyExists
  | _ => false

/-- `meta.IsNoMatchError`. -/
def isNoMatch : Error → Bool
  | noMatch => true
  | wrapped _ (some cause) => cause.isNoMatch
  | _ => false

def isPanic : Error → Bool
  | panic _ => true
  | _ => false

/-- `fmt.Errorf(message + ": %w", e)`; a panic unwinds past it. -/
def wrap (message : String) : Error → Error
  | panic text => panic text
  | e => wrapped message (some e)

@[simp] theorem isPanic_wrap (message : String) (e : Error) : (e.wrap message).isPanic = e.isPanic := by
  cases e <;> rfl

end Error

/-- Read and write access to an object's metadata (`metav1.Object`), and the split between
the main resource and its status subresource. -/
class MetaObject (α : Type) where
  metadata : α → ObjectMeta
  withMetadata : α → ObjectMeta → α
  /-- `withStatusOf o s` is `o` with the status subresource of `s`. -/
  withStatusOf : α → α → α
  metadata_withMetadata (o : α) (m : ObjectMeta) : metadata (withMetadata o m) = m
  metadata_withStatusOf (o s : α) : metadata (withStatusOf o s) = metadata o

open MetaObject

attribute [simp] MetaObject.metadata_withMetadata MetaObject.metadata_withStatusOf

variable {α : Type} [MetaObject α]

def key (o : α) : ObjectKey := (metadata o).key

/-- The object with its resourceVersion replaced. -/
def stamp (o : α) (rv : Nat) : α := withMetadata o { metadata o with resourceVersion := rv }

@[simp] theorem key_withMetadata (o : α) (m : ObjectMeta) : key (withMetadata o m) = m.key := by
  simp [key]

@[simp] theorem key_withStatusOf (o s : α) : key (withStatusOf o s) = key o := by
  simp [key]

@[simp] theorem metadata_stamp (o : α) (rv : Nat) :
    metadata (stamp o rv) = { metadata o with resourceVersion := rv } := by
  simp [stamp]

@[simp] theorem key_stamp (o : α) (rv : Nat) : key (stamp o rv) = key o := by
  simp [stamp, key, ObjectMeta.key]

/-- The objects of one kind, at most one per key. -/
structure Table (α : Type) [MetaObject α] where
  objects : List α
  keys_nodup : (objects.map key).Nodup

namespace Table

def find? (t : Table α) (k : ObjectKey) : Option α := t.objects.find? (key · == k)

def empty : Table α := ⟨[], List.nodup_nil⟩

def singleton (o : α) : Table α := ⟨[o], List.nodup_singleton _⟩

/-- `List` with a label selector, in the store's order. -/
def list (t : Table α) (selector : List (String × String)) : List α :=
  t.objects.filter fun o => matchingLabels selector (metadata o).labels

private theorem map_key_replace (objects : List α) (o : α) :
    (objects.map fun s => if key s = key o then o else s).map key = objects.map key := by
  induction objects with
  | nil => rfl
  | cons s rest ih =>
    simp only [List.map_cons, ih, List.cons.injEq, and_true]
    split <;> simp_all

/-- The stored object under `o`'s key becomes `o`. -/
def replace (t : Table α) (o : α) : Table α :=
  ⟨t.objects.map fun s => if key s = key o then o else s, by
    rw [map_key_replace]; exact t.keys_nodup⟩

def erase (t : Table α) (k : ObjectKey) : Table α :=
  ⟨t.objects.filter (key · ≠ k), t.keys_nodup.sublist (List.Sublist.map _ (List.filter_sublist _))⟩

theorem find?_eq_none {t : Table α} {k : ObjectKey} : t.find? k = none ↔ k ∉ t.objects.map key := by
  simp [find?, List.find?_eq_none]

def insert (t : Table α) (o : α) (fresh : t.find? (key o) = none) : Table α :=
  ⟨t.objects ++ [o], by
    rw [List.map_append, List.nodup_append]
    exact ⟨t.keys_nodup, List.nodup_singleton _, by simpa using find?_eq_none.mp fresh⟩⟩

/-- `Create`: refused when the key is taken; the store stamps a fresh resourceVersion. -/
def create (t : Table α) (o : α) (rv : Nat) : Except Error (α × Table α) :=
  let created := withMetadata o { metadata o with resourceVersion := rv, deletionTimestamp := false }
  match fresh : t.find? (key created) with
  | none => .ok (created, t.insert created fresh)
  | some _ => .error .alreadyExists

/-- `Delete` without preconditions: an object without finalizers is removed at once; one with
finalizers is marked as deleting, and marking it again writes nothing. -/
def delete (t : Table α) (k : ObjectKey) (rv : Nat) : Except Error (Table α) :=
  match t.find? k with
  | none => .error .notFound
  | some stored =>
    if (metadata stored).finalizers = [] then .ok (t.erase k)
    else if (metadata stored).deletionTimestamp then .ok t
    else .ok (t.replace (withMetadata stored
      { metadata stored with deletionTimestamp := true, resourceVersion := rv }))

/-- `Update`: the body must carry the stored resourceVersion; the deletion mark and the status
subresource stay as stored; an update that empties the finalizers of an object marked as
deleting completes its removal. -/
def update (t : Table α) (o : α) (rv : Nat) : Except Error (α × Table α) :=
  match t.find? (key o) with
  | none => .error .notFound
  | some stored =>
    if (metadata o).resourceVersion ≠ (metadata stored).resourceVersion then .error .conflict
    else
      let updated := withStatusOf (withMetadata o { metadata o with
        deletionTimestamp := (metadata stored).deletionTimestamp, resourceVersion := rv }) stored
      if (metadata stored).deletionTimestamp ∧ (metadata o).finalizers = [] then
        .ok (updated, t.erase (key o))
      else .ok (updated, t.replace updated)

/-- A merge patch of the whole object (`client.Merge`): its body carries the resourceVersion
it was read at, and `merge body stored` is what applying it to the stored object leaves. -/
def patch (t : Table α) (merge : α → α → α) (o : α) (rv : Nat) : Except Error (α × Table α) :=
  match t.find? (key o) with
  | none => .error .notFound
  | some stored =>
    if (metadata o).resourceVersion ≠ (metadata stored).resourceVersion then .error .conflict
    else
      let patched := stamp (merge o stored) rv
      .ok (patched, t.replace patched)

/-- `Status().Patch` with `client.Merge`: as `patch`, but only the status subresource is
written. -/
def patchStatus (t : Table α) (o : α) (rv : Nat) : Except Error (α × Table α) :=
  t.patch (fun body stored => withStatusOf stored body) o rv


theorem find?_some {t : Table α} {k : ObjectKey} {o : α} (found : t.find? k = some o) :
    key o = k ∧ o ∈ t.objects :=
  ⟨by simpa using List.find?_some found, List.mem_of_find?_eq_some found⟩

theorem find?_of_mem {t : Table α} {o : α} (stored : o ∈ t.objects) : t.find? (key o) = some o := by
  have present : (t.find? (key o)).isSome := List.find?_isSome.mpr ⟨o, stored, by simp⟩
  obtain ⟨found, hfound⟩ := Option.isSome_iff_exists.mp present
  obtain ⟨sameKey, member⟩ := find?_some hfound
  rw [hfound, List.inj_on_of_nodup_map t.keys_nodup member stored sameKey]

theorem list_sublist (t : Table α) (selector : List (String × String)) :
    (t.list selector).Sublist t.objects :=
  List.filter_sublist _

theorem list_keys_nodup (t : Table α) (selector : List (String × String)) :
    ((t.list selector).map key).Nodup :=
  t.keys_nodup.sublist ((t.list_sublist selector).map _)

theorem find?_of_listed {t : Table α} {selector : List (String × String)} {o : α}
    (listed : o ∈ t.list selector) : t.find? (key o) = some o :=
  find?_of_mem ((t.list_sublist selector).subset listed)

/-- Writing an object back with its labels kept leaves the listing as it was, that object
replaced in place. -/
theorem list_replace {t : Table α} {selector : List (String × String)} {pre post : List α}
    {s o : α} (listed : t.list selector = pre ++ s :: post) (sameKey : key o = key s)
    (sameLabels : (metadata o).labels = (metadata s).labels) :
    (t.replace o).list selector = pre ++ o :: post := by
  have stored : s ∈ t.objects := (t.list_sublist selector).subset (by rw [listed]; simp)
  have nodup := t.list_keys_nodup selector
  rw [listed, List.map_append, List.map_cons, List.nodup_append, List.nodup_cons] at nodup
  have keep : ∀ x ∈ t.objects, matchingLabels selector
      (metadata (if key x = key o then o else x)).labels = matchingLabels selector (metadata x).labels := by
    intro x member
    split
    · next same =>
      rw [List.inj_on_of_nodup_map t.keys_nodup member stored (same.trans sameKey), sameLabels]
    · rfl
  have untouched : ∀ l : List α, key s ∉ l.map key → l.map (fun x => if key x = key o then o else x) = l := by
    intro l absent
    refine (List.map_congr_left fun x member => if_neg fun same => absent ?_).trans (List.map_id _)
    exact List.mem_map.mpr ⟨x, member, same.trans sameKey⟩
  have filtered : t.objects.filter ((fun x => matchingLabels selector (metadata x).labels) ∘
      fun x => if key x = key o then o else x) = t.list selector := List.filter_congr keep
  simp only [list, replace, List.filter_map]
  rw [filtered, listed, List.map_append, List.map_cons, if_pos sameKey.symm, untouched pre, untouched post nodup.2.1.1]
  exact fun inPre => nodup.2.2 inPre (List.mem_cons_self _ _)

/-- A relation to the objects survives writing back an object, when it survives at the one
stored object the write replaces. -/
theorem forall₂_replace {β : Type} {R : β → α → Prop} {l : List β} {t : Table α} {o : α}
    (related : List.Forall₂ R l t.objects)
    (step : ∀ x y, y ∈ t.objects → key y = key o → R x y → R x o) :
    List.Forall₂ R l (t.replace o).objects := by
  have general : ∀ {l : List β} {objects : List α}, objects ⊆ t.objects →
      List.Forall₂ R l objects → List.Forall₂ R l (objects.map fun s => if key s = key o then o else s) := by
    intro l objects inside related
    induction related with
    | nil => exact .nil
    | cons here _ ih =>
      refine .cons ?_ (ih fun _ member => inside (List.mem_cons_of_mem _ member))
      dsimp only
      split
      · next same => exact step _ _ (inside (List.mem_cons_self _ _)) same here
      · exact here
  exact general (fun _ member => member) related

theorem patch_of_find? {t : Table α} {merge : α → α → α} {o stored : α} {rv : Nat}
    (found : t.find? (key o) = some stored)
    (current : (metadata o).resourceVersion = (metadata stored).resourceVersion) :
    t.patch merge o rv = .ok (stamp (merge o stored) rv, t.replace (stamp (merge o stored) rv)) := by
  simp [patch, found, current]

/-- After a Create, accepted or refused, an object is stored under the key. -/
theorem create_stored (t : Table α) (o : α) (rv : Nat) :
    (∃ c t', t.create o rv = .ok (c, t') ∧ (t'.find? (key o)).isSome) ∨
      (t.create o rv = .error .alreadyExists ∧ (t.find? (key o)).isSome) := by
  have sameKey : key (withMetadata o { metadata o with resourceVersion := rv, deletionTimestamp := false }) =
      key o := by simp [key, ObjectMeta.key]
  unfold create
  dsimp only at sameKey ⊢
  split
  · next fresh =>
    refine .inl ⟨_, _, rfl, ?_⟩
    rw [← sameKey, find?_of_mem (by simp [insert])]
    rfl
  · next stored present =>
    rw [sameKey] at present
    exact .inr ⟨rfl, by rw [present]; rfl⟩

/-- A Create under a key already taken is refused. -/
theorem create_of_present {t : Table α} {o : α} (rv : Nat) (present : (t.find? (key o)).isSome) :
    t.create o rv = .error .alreadyExists := by
  have sameKey : key (withMetadata o { metadata o with resourceVersion := rv, deletionTimestamp := false }) =
      key o := by simp [key, ObjectMeta.key]
  unfold create
  dsimp only at sameKey ⊢
  split
  · next fresh =>
    rw [sameKey, ← Option.not_isSome_iff_eq_none] at fresh
    exact absurd present fresh
  · rfl

/-- An accepted Create keeps every object the table held. -/
theorem create_keeps {t t' : Table α} {o c : α} {rv : Nat} (created : t.create o rv = .ok (c, t'))
    {k : ObjectKey} (present : (t.find? k).isSome) : (t'.find? k).isSome := by
  unfold create at created
  dsimp only at created
  split at created
  · cases created
    simp only [find?, insert, List.find?_append, Option.isSome_or] at present ⊢
    simp [present]
  · cases created

/-- An accepted Create adds its object's key and no other. -/
theorem create_adds_only_key {t t' : Table α} {o c : α} {rv : Nat} (created : t.create o rv = .ok (c, t'))
    {k : ObjectKey} (other : k ≠ key o) (absent : t.find? k = none) : t'.find? k = none := by
  unfold create at created
  dsimp only at created
  split at created
  · cases created
    rw [find?_eq_none] at absent ⊢
    simpa [insert, absent, ObjectMeta.key, key] using other
  · cases created

/-- Writing back an object whose key is stored leaves it found under that key. -/
theorem find?_replace_self {t : Table α} {o : α} (present : (t.find? (key o)).isSome) :
    (t.replace o).find? (key o) = some o := by
  obtain ⟨s, found⟩ := Option.isSome_iff_exists.mp present
  obtain ⟨sameKey, member⟩ := find?_some found
  apply find?_of_mem
  simp only [replace, List.mem_map]
  exact ⟨s, member, if_pos sameKey⟩

theorem find?_erase_self (t : Table α) (k : ObjectKey) : (t.erase k).find? k = none := by
  rw [find?_eq_none]
  simp [erase]

private theorem find?_filter_of_imp {β : Type} {l : List β} {p q : β → Bool} (imp : ∀ x, p x = true → q x = true) :
    (l.filter q).find? p = l.find? p := by
  induction l with
  | nil => rfl
  | cons x l ih =>
    rw [List.filter_cons]
    cases hp : p x
    · split <;> simp [List.find?_cons, hp, ih]
    · simp [imp x hp, List.find?_cons, hp]

private theorem find?_map_of_fixed {β : Type} {l : List β} {f : β → β} {p : β → Bool} (samePred : ∀ x, p (f x) = p x)
    (fixed : ∀ x, p x = true → f x = x) : (l.map f).find? p = l.find? p := by
  induction l with
  | nil => rfl
  | cons x l ih =>
    rw [List.map_cons, List.find?_cons, List.find?_cons, samePred x]
    cases hp : p x
    · exact ih
    · rw [fixed x hp]

theorem find?_erase_ne (t : Table α) {k k' : ObjectKey} (other : k' ≠ k) : (t.erase k).find? k' = t.find? k' :=
  find?_filter_of_imp fun x named => by
    rw [beq_iff_eq] at named
    simpa [named] using other

theorem find?_replace_ne (t : Table α) {o : α} {k : ObjectKey} (other : k ≠ key o) :
    (t.replace o).find? k = t.find? k := by
  refine find?_map_of_fixed (fun x => ?_) fun x named => if_neg fun same => other ?_
  · split
    · next same => simp [same, Ne.symm other]
    · rfl
  · rw [beq_iff_eq] at named
    rw [← named, same]

/-- Writing back an object under the key of a stored one leaves it found there. -/
theorem find?_replace_of_find? {t : Table α} {o o' : α} (found : t.find? (key o) = some o)
    (sameKey : key o' = key o) : (t.replace o').find? (key o) = some o' := by
  rw [← sameKey]
  exact find?_replace_self (by rw [sameKey, found]; rfl)

theorem list_erase (t : Table α) (selector : List (String × String)) (k : ObjectKey) :
    (t.erase k).list selector = (t.list selector).filter (key · ≠ k) := by
  simp only [list, erase, List.filter_filter, Bool.and_comm]

/-- Removing a listed object drops it from the listing, the rest in place. -/
theorem list_erase_of_split {t : Table α} {selector : List (String × String)} {pre post : List α} {o : α}
    (listed : t.list selector = pre ++ o :: post) : (t.erase (key o)).list selector = pre ++ post := by
  have nodup := t.list_keys_nodup selector
  rw [listed, List.map_append, List.map_cons, List.nodup_append, List.nodup_cons] at nodup
  have before : ∀ x ∈ pre, key x ≠ key o := fun x member same =>
    nodup.2.2 (List.mem_map_of_mem key member) (by rw [same]; exact List.mem_cons_self _ _)
  have after : ∀ x ∈ post, key x ≠ key o := fun x member same => nodup.2.1.1 (same ▸ List.mem_map_of_mem key member)
  rw [list_erase, listed, List.filter_append, List.filter_cons_of_neg (by simp),
    List.filter_eq_self.mpr (by simpa using before), List.filter_eq_self.mpr (by simpa using after)]

/-- The Delete of a stored object: removed at once without finalizers, untouched when already
marked, marked as deleting otherwise. -/
theorem delete_of_find? {t : Table α} {o : α} (found : t.find? (key o) = some o) (rv : Nat) :
    t.delete (key o) rv = if (metadata o).finalizers = [] then .ok (t.erase (key o))
      else if (metadata o).deletionTimestamp then .ok t
      else .ok (t.replace (withMetadata o { metadata o with deletionTimestamp := true, resourceVersion := rv })) := by
  simp [delete, found]

/-- An Update at a resourceVersion other than the stored one is refused. -/
theorem update_stale {t : Table α} {o stored : α} (found : t.find? (key o) = some stored)
    (stale : (metadata o).resourceVersion ≠ (metadata stored).resourceVersion) (rv : Nat) :
    t.update o rv = .error .conflict := by
  simp [update, found, stale]

/-- Emptying the finalizers of a stored object marked as deleting, at the resourceVersion it
was read at, completes its removal. -/
theorem update_releases {t : Table α} {o : α} (found : t.find? (key o) = some o)
    (marked : (metadata o).deletionTimestamp = true) (rv : Nat) :
    ∃ u, t.update (withMetadata o { metadata o with finalizers := [] }) rv = .ok (u, t.erase (key o)) := by
  have sameKey : key (withMetadata o { metadata o with finalizers := [] }) = key o := by simp [key, ObjectMeta.key]
  unfold update
  rw [sameKey, found]
  simp [marked]

/-- Every key absent from `t` is absent from `t'`: nothing was added. -/
def AddsNone (t t' : Table α) : Prop := ∀ k, t.find? k = none → t'.find? k = none

theorem AddsNone.refl (t : Table α) : AddsNone t t := fun _ absent => absent

theorem AddsNone.trans {t₁ t₂ t₃ : Table α} (first : AddsNone t₁ t₂) (second : AddsNone t₂ t₃) :
    AddsNone t₁ t₃ := fun k absent => second k (first k absent)

theorem replace_addsNone (t : Table α) (o : α) : AddsNone t (t.replace o) := fun k absent => by
  rw [find?_eq_none] at absent ⊢
  simpa only [replace, map_key_replace] using absent

theorem erase_addsNone (t : Table α) (k' : ObjectKey) : AddsNone t (t.erase k') := fun k absent => by
  rw [find?_eq_none] at absent ⊢
  exact fun member => absent (((List.filter_sublist _).map key).subset member)

/-- A Delete removes or marks; it never adds. -/
theorem delete_addsNone {t t' : Table α} {k : ObjectKey} {rv : Nat} (deleted : t.delete k rv = .ok t') :
    AddsNone t t' := by
  unfold delete at deleted
  split at deleted
  · cases deleted
  · split at deleted
    · cases deleted
      exact erase_addsNone _ _
    · split at deleted <;> cases deleted
      · exact AddsNone.refl _
      · exact replace_addsNone _ _

/-- The Delete as the client sends it, its table paired with nothing. -/
theorem delete_map_addsNone {t t' : Table α} {k : ObjectKey} {rv : Nat} {b : Unit}
    (deleted : (t.delete k rv).map ((), ·) = .ok (b, t')) : AddsNone t t' := by
  cases removed : t.delete k rv with
  | error e => simp [removed, Except.map] at deleted
  | ok t'' =>
    simp only [removed, Except.map, Except.ok.injEq, Prod.mk.injEq] at deleted
    exact deleted.2 ▸ delete_addsNone removed

/-- An Update writes the stored object under its key, or completes its removal. -/
theorem update_addsNone {t t' : Table α} {o u : α} {rv : Nat} (updated : t.update o rv = .ok (u, t')) :
    AddsNone t t' := by
  unfold update at updated
  split at updated
  · cases updated
  · split at updated
    · cases updated
    · split at updated <;> cases updated
      · exact erase_addsNone _ _
      · exact replace_addsNone _ _

/-- A Patch writes the stored object under its key; it never adds one. -/
theorem patch_addsNone {t t' : Table α} {merge : α → α → α} {o u : α} {rv : Nat}
    (patched : t.patch merge o rv = .ok (u, t')) : AddsNone t t' := by
  unfold patch at patched
  split at patched
  · cases patched
  · split at patched
    · cases patched
    · cases patched
      exact replace_addsNone _ _

/-- Every stored object carries a resourceVersion the store has issued by `revision`. -/
def Issued (t : Table α) (revision : Nat) : Prop := ∀ o ∈ t.objects, (metadata o).resourceVersion ≤ revision

instance (t : Table α) (revision : Nat) : Decidable (t.Issued revision) :=
  inferInstanceAs (Decidable (∀ o ∈ t.objects, _))

theorem update_key {t t' : Table α} {o u : α} {rv : Nat} (updated : t.update o rv = .ok (u, t')) :
    key u = key o := by
  unfold update at updated
  split at updated
  · cases updated
  · split at updated
    · cases updated
    · split at updated <;>
      · simp only [Except.ok.injEq, Prod.mk.injEq] at updated
        rw [← updated.1]
        simp [key, ObjectMeta.key]

end Table

instance : MetaObject ClusterPackage where
  metadata o := o.metadata
  withMetadata o m := { o with metadata := m }
  withStatusOf o s := { o with status := s.status }
  metadata_withMetadata _ _ := rfl
  metadata_withStatusOf _ _ := rfl

/-- No status field of a ClusterObjectDeployment is modelled. -/
instance : MetaObject ClusterObjectDeployment where
  metadata o := o.metadata
  withMetadata _ m := { metadata := m }
  withStatusOf o _ := o
  metadata_withMetadata _ _ := rfl
  metadata_withStatusOf _ _ := rfl

instance : MetaObject ClusterObjectSet where
  metadata o := o.metadata
  withMetadata o m := { o with metadata := m }
  withStatusOf o s := { o with status := s.status }
  metadata_withMetadata _ _ := rfl
  metadata_withStatusOf _ _ := rfl

instance : MetaObject Deployment where
  metadata o := o.metadata
  withMetadata o m := { o with metadata := m }
  withStatusOf o s := { o with status := s.status }
  metadata_withMetadata _ _ := rfl
  metadata_withStatusOf _ _ := rfl

/-- The status of an unstructured object is part of its content, which is not modelled. -/
instance : MetaObject Unstructured where
  metadata o := o.metadata
  withMetadata o m := { o with metadata := m }
  withStatusOf o _ := o
  metadata_withMetadata _ _ := rfl
  metadata_withStatusOf _ _ := rfl

/-- The cluster: a revision counter, the source of every resourceVersion, and a table per kind
the code touches. -/
structure Store where
  revision : Nat
  clusterPackages : Table ClusterPackage
  clusterObjectDeployments : Table ClusterObjectDeployment
  clusterObjectSets : Table ClusterObjectSet
  deployments : Table Deployment
  customResourceDefinitions : Table Unstructured

def Store.empty : Store := ⟨0, .empty, .empty, .empty, .empty, .empty⟩

/-- The scheme's map from a Go type to its kind and to the table of the store that holds it. -/
class ClientObject (α : Type) [MetaObject α] where
  kind : GroupKind
  /-- The kind an object of this type is sent as. -/
  groupKind : α → GroupKind
  table : Store → Table α
  setTable : Store → Table α → Store
  table_setTable (s : Store) (t : Table α) : table (setTable s t) = t
  revision_setTable (s : Store) (t : Table α) : (setTable s t).revision = s.revision

attribute [simp] ClientObject.table_setTable ClientObject.revision_setTable

def packageOperatorGroup : String := "package-operator.run"

instance : ClientObject ClusterPackage where
  kind := ⟨packageOperatorGroup, "ClusterPackage"⟩
  groupKind _ := ⟨packageOperatorGroup, "ClusterPackage"⟩
  table s := s.clusterPackages
  setTable s t := { s with clusterPackages := t }
  table_setTable _ _ := rfl
  revision_setTable _ _ := rfl

instance : ClientObject ClusterObjectDeployment where
  kind := ⟨packageOperatorGroup, "ClusterObjectDeployment"⟩
  groupKind _ := ⟨packageOperatorGroup, "ClusterObjectDeployment"⟩
  table s := s.clusterObjectDeployments
  setTable s t := { s with clusterObjectDeployments := t }
  table_setTable _ _ := rfl
  revision_setTable _ _ := rfl

instance : ClientObject ClusterObjectSet where
  kind := ⟨packageOperatorGroup, "ClusterObjectSet"⟩
  groupKind _ := ⟨packageOperatorGroup, "ClusterObjectSet"⟩
  table s := s.clusterObjectSets
  setTable s t := { s with clusterObjectSets := t }
  table_setTable _ _ := rfl
  revision_setTable _ _ := rfl

instance : ClientObject Deployment where
  kind := ⟨"apps", "Deployment"⟩
  groupKind _ := ⟨"apps", "Deployment"⟩
  table s := s.deployments
  setTable s t := { s with deployments := t }
  table_setTable _ _ := rfl
  revision_setTable _ _ := rfl

/-- The only unstructured objects the code writes are CustomResourceDefinitions. -/
instance : ClientObject Unstructured where
  kind := ⟨"apiextensions.k8s.io", "CustomResourceDefinition"⟩
  groupKind o := o.gvk.groupKind
  table s := s.customResourceDefinitions
  setTable s t := { s with customResourceDefinitions := t }
  table_setTable _ _ := rfl
  revision_setTable _ _ := rfl

section Unfold

variable (s : Store)

@[simp] theorem metadata_clusterPackage (o : ClusterPackage) : metadata o = o.metadata := rfl
@[simp] theorem withMetadata_clusterPackage (o : ClusterPackage) (m : ObjectMeta) :
    withMetadata o m = { o with metadata := m } := rfl
@[simp] theorem withStatusOf_clusterPackage (o p : ClusterPackage) :
    withStatusOf o p = { o with status := p.status } := rfl
@[simp] theorem table_clusterPackage : ClientObject.table (α := ClusterPackage) s = s.clusterPackages := rfl
@[simp] theorem setTable_clusterPackage (t : Table ClusterPackage) :
    ClientObject.setTable s t = { s with clusterPackages := t } := rfl

@[simp] theorem metadata_clusterObjectDeployment (o : ClusterObjectDeployment) :
    metadata o = o.metadata := rfl
@[simp] theorem withMetadata_clusterObjectDeployment (o : ClusterObjectDeployment) (m : ObjectMeta) :
    withMetadata o m = { metadata := m } := rfl
@[simp] theorem withStatusOf_clusterObjectDeployment (o p : ClusterObjectDeployment) :
    withStatusOf o p = o := rfl
@[simp] theorem table_clusterObjectDeployment :
    ClientObject.table (α := ClusterObjectDeployment) s = s.clusterObjectDeployments := rfl
@[simp] theorem setTable_clusterObjectDeployment (t : Table ClusterObjectDeployment) :
    ClientObject.setTable s t = { s with clusterObjectDeployments := t } := rfl

@[simp] theorem metadata_clusterObjectSet (o : ClusterObjectSet) : metadata o = o.metadata := rfl
@[simp] theorem withMetadata_clusterObjectSet (o : ClusterObjectSet) (m : ObjectMeta) :
    withMetadata o m = { o with metadata := m } := rfl
@[simp] theorem withStatusOf_clusterObjectSet (o p : ClusterObjectSet) :
    withStatusOf o p = { o with status := p.status } := rfl
@[simp] theorem table_clusterObjectSet :
    ClientObject.table (α := ClusterObjectSet) s = s.clusterObjectSets := rfl
@[simp] theorem setTable_clusterObjectSet (t : Table ClusterObjectSet) :
    ClientObject.setTable s t = { s with clusterObjectSets := t } := rfl

@[simp] theorem metadata_deployment (o : Deployment) : metadata o = o.metadata := rfl
@[simp] theorem table_deployment : ClientObject.table (α := Deployment) s = s.deployments := rfl

@[simp] theorem metadata_unstructured (o : Unstructured) : metadata o = o.metadata := rfl
@[simp] theorem withMetadata_unstructured (o : Unstructured) (m : ObjectMeta) :
    withMetadata o m = { o with metadata := m } := rfl
@[simp] theorem table_unstructured :
    ClientObject.table (α := Unstructured) s = s.customResourceDefinitions := rfl
@[simp] theorem setTable_unstructured (t : Table Unstructured) :
    ClientObject.setTable s t = { s with customResourceDefinitions := t } := rfl

end Unfold

end PackageOperator.Cluster
