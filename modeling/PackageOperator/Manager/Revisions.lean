import PackageOperator.Client

/-! `fixMissingRevisionNumbers` repairs the ClusterObjectSets of the self-managed instance
that a crash left at revision 0. It lists them once and walks the list in order; the
`cosByName` map points into that list, so a revision assigned to an earlier entry is what a
later entry's lookup reads. -/

namespace PackageOperator.Manager
open Api Cluster Client MetaObject ClientM

/-- `client.MatchingLabels{"package-operator.run/instance": "package-operator"}`. -/
def instanceSelector : List (String × String) :=
  [("package-operator.run/instance", "package-operator")]

/-- The repair's guess that an ObjectSet is stuck: revision 0, some previous revision, and
phase `Pending`. -/
def looksStuck (cos : ClusterObjectSet) : Prop :=
  cos.status.revision = 0 ∧ cos.spec.previous ≠ [] ∧ cos.status.phase = ObjectSetStatusPhasePending

instance : DecidablePred looksStuck := fun _ => inferInstanceAs (Decidable (_ ∧ _ ∧ _))

def withRevision (cos : ClusterObjectSet) (revision : Int64) : ClusterObjectSet :=
  { cos with status := { cos.status with revision := revision } }

/-- The `cosByName` map: a name points at the position of the last listed ObjectSet of that
name, in the list that the loop then mutates in place. -/
def cosByName : List ClusterObjectSet → String → Option Nat
  | [] => fun _ => none
  | cos :: rest => fun name =>
    match cosByName rest name with
    | some i => some (i + 1)
    | none => if name = cos.metadata.name then some 0 else none

/-- Following a pointer of the map into the list as it stands. -/
def resolve (byName : String → Option Nat) (items : List ClusterObjectSet) (name : String) :
    Option ClusterObjectSet :=
  (byName name).bind (items[·]?)

def nilPointerDereference : Error :=
  .panic "runtime error: invalid memory address or nil pointer dereference"

/-- `highestRevisionNumber`: the highest revision among the previous ObjectSets, or 0 when
none is positive. A name the map lacks is a nil pointer, and reading its status panics. -/
def highestRevisionNumber (cosByName : String → Option ClusterObjectSet) :
    List PreviousRevisionReference → Except Error Int64 :=
  go 0
where
  go (maxRevision : Int64) : List PreviousRevisionReference → Except Error Int64
    | [] => .ok maxRevision
    | prev :: prevs =>
      match cosByName prev.name with
      | none => .error nilPointerDereference
      | some cos =>
        go (if cos.status.revision > maxRevision then cos.status.revision else maxRevision) prevs

/-- The loop of `fixMissingRevisionNumbers` from its current entry on. `visited` holds the
earlier entries as the loop left them, the patched ones as the server returned them. -/
def repairRevisions (byName : String → Option Nat) (visited : List ClusterObjectSet) :
    List ClusterObjectSet → ClientM Unit
  | [] => pure ()
  | cos :: rest =>
    if looksStuck cos then do
      let highest ← ofResult
        (highestRevisionNumber (resolve byName (visited ++ cos :: rest)) cos.spec.previous)
      let patched ← wrap "patch for missing revision number"
        (patchStatus (withRevision cos (highest + 1)))
      repairRevisions byName (visited ++ [patched]) rest
    else repairRevisions byName (visited ++ [cos]) rest

def fixMissingRevisionNumbers : ClientM Unit := do
  let items ← wrap "list PKO ClusterObjectSet" (list (α := ClusterObjectSet) instanceSelector)
  repairRevisions (cosByName items) [] items

/-! ## One step of the loop -/

/-- What the loop sees: the instance's ObjectSets, in the store's order. -/
def listed (s : Store) : List ClusterObjectSet := s.clusterObjectSets.list instanceSelector

theorem repairRevisions_skip (byName : String → Option Nat) (visited : List ClusterObjectSet)
    {cos : ClusterObjectSet} (rest : List ClusterObjectSet) (fine : ¬ looksStuck cos) :
    repairRevisions byName visited (cos :: rest) = repairRevisions byName (visited ++ [cos]) rest := by
  simp [repairRevisions, fine]

theorem repairRevisions_panic (byName : String → Option Nat) (visited : List ClusterObjectSet)
    {cos : ClusterObjectSet} (rest : List ClusterObjectSet) (stuck : looksStuck cos) {e : Error}
    (panics : highestRevisionNumber (resolve byName (visited ++ cos :: rest)) cos.spec.previous = .error e)
    (w : World) : repairRevisions byName visited (cos :: rest) w = (.error e, w) := by
  simp [repairRevisions, stuck, panics]

/-- The world after the patch of a listed ObjectSet succeeded. -/
def afterPatch (w : World) (patched : ClusterObjectSet) (sent : ObjectMeta) : World :=
  { w with
    requests := w.requests ++ [.patchStatus (ClientObject.kind (α := ClusterObjectSet)) sent]
    store := { w.store with
      revision := w.store.revision + 1
      clusterObjectSets := w.store.clusterObjectSets.replace patched } }

/-- A stuck entry in a reliable world whose listing is the loop's list: the patch is accepted,
and the loop goes on with the ObjectSet the server returned. -/
theorem repairRevisions_patch (byName : String → Option Nat) (visited : List ClusterObjectSet)
    {cos : ClusterObjectSet} (rest : List ClusterObjectSet) (stuck : looksStuck cos) {highest : Int64}
    (computed : highestRevisionNumber (resolve byName (visited ++ cos :: rest)) cos.spec.previous =
      .ok highest)
    {w : World} (delivered : w.fault w.requests.length = none)
    (listing : listed w.store = visited ++ cos :: rest) :
    repairRevisions byName visited (cos :: rest) w =
      repairRevisions byName (visited ++ [stamp (withRevision cos (highest + 1)) (w.store.revision + 1)])
        rest (afterPatch w (stamp (withRevision cos (highest + 1)) (w.store.revision + 1))
          (withRevision cos (highest + 1)).metadata) := by
  have member : cos ∈ w.store.clusterObjectSets.list instanceSelector := by
    rw [← listed, listing]; simp
  have found : w.store.clusterObjectSets.find? (key (withRevision cos (highest + 1))) = some cos :=
    Table.find?_of_listed member
  have accepted := @Table.patch_of_find? _ _ _ (fun body stored => withStatusOf stored body) _ _
    (w.store.revision + 1) found rfl
  simp only [repairRevisions, stuck, if_true, bind_apply, ofResult_apply, computed, wrap,
    patchStatus, send_delivered _ _ w delivered, write, Table.patchStatus, table_clusterObjectSet,
    accepted]
  rfl

/-- A stuck entry whose patch the transport fails: the loop stops, the store as it was. -/
theorem repairRevisions_patch_fails (byName : String → Option Nat) (visited : List ClusterObjectSet)
    {cos : ClusterObjectSet} (rest : List ClusterObjectSet) (stuck : looksStuck cos) {highest : Int64}
    (computed : highestRevisionNumber (resolve byName (visited ++ cos :: rest)) cos.spec.previous =
      .ok highest)
    {w : World} {message : String} (fails : w.fault w.requests.length = some message) :
    repairRevisions byName visited (cos :: rest) w =
      (.error ((Error.transport message).wrap "patch for missing revision number"), { w with requests := w.requests ++
        [.patchStatus (ClientObject.kind (α := ClusterObjectSet)) (withRevision cos (highest + 1)).metadata] }) := by
  simp only [repairRevisions, stuck, if_true, bind_apply, ofResult_apply, computed, wrap,
    patchStatus, send_faulty _ _ w message fails]
  rfl

theorem listed_afterPatch {w : World} {visited rest : List ClusterObjectSet} {cos : ClusterObjectSet}
    (listing : listed w.store = visited ++ cos :: rest) (highest : Int64) :
    listed (afterPatch w (stamp (withRevision cos (highest + 1)) (w.store.revision + 1))
      (withRevision cos (highest + 1)).metadata).store =
      visited ++ [stamp (withRevision cos (highest + 1)) (w.store.revision + 1)] ++ rest := by
  simpa using Table.list_replace listing (by simp [key, withRevision, ObjectMeta.key]) (by simp [withRevision])


/-! ## `highestRevisionNumber` and the map -/

def previousNames (cos : ClusterObjectSet) : List String := cos.spec.previous.map (·.name)

section Highest

variable (cosByName : String → Option ClusterObjectSet)

/-- When every previous name resolves, the result is at least the start and every resolved
revision, and is the start or one of them. -/
theorem highestRevisionNumber_go_ok (maxRevision : Int64) (prevs : List PreviousRevisionReference)
    (resolved : ∀ prev ∈ prevs, (cosByName prev.name).isSome) :
    ∃ highest, highestRevisionNumber.go cosByName maxRevision prevs = .ok highest ∧
      maxRevision ≤ highest ∧
      (∀ prev ∈ prevs, ∀ cos, cosByName prev.name = some cos → cos.status.revision ≤ highest) ∧
      (highest = maxRevision ∨ ∃ prev ∈ prevs, ∃ cos, cosByName prev.name = some cos ∧
        highest = cos.status.revision) := by
  induction prevs generalizing maxRevision with
  | nil => exact ⟨maxRevision, rfl, Int.le_refl _, by simp, .inl rfl⟩
  | cons prev prevs ih =>
    obtain ⟨cos, found⟩ := Option.isSome_iff_exists.mp (resolved prev (List.mem_cons_self _ _))
    obtain ⟨highest, computed, above, bounds, attained⟩ :=
      ih (if cos.status.revision > maxRevision then cos.status.revision else maxRevision)
        fun p member => resolved p (List.mem_cons_of_mem _ member)
    have step : maxRevision ≤ (if cos.status.revision > maxRevision then cos.status.revision
        else maxRevision) ∧ cos.status.revision ≤ (if cos.status.revision > maxRevision then
        cos.status.revision else maxRevision) := by
      simp only [Int64.le_iff, gt_iff_lt, Int64.lt_iff]
      split <;> omega
    refine ⟨highest, by simp [highestRevisionNumber.go, found, computed],
      Int.le_trans step.1 above, ?_, ?_⟩
    · intro p member c resolvedTo
      rcases List.mem_cons.mp member with rfl | later
      · rw [found, Option.some.injEq] at resolvedTo
        exact resolvedTo ▸ Int.le_trans step.2 above
      · exact bounds p later c resolvedTo
    · rcases attained with same | ⟨p, member, c, resolvedTo, same⟩
      · by_cases larger : cos.status.revision > maxRevision
        · exact .inr ⟨prev, List.mem_cons_self _ _, cos, found, by rw [same, if_pos larger]⟩
        · exact .inl (by rw [same, if_neg larger])
      · exact .inr ⟨p, List.mem_cons_of_mem _ member, c, resolvedTo, same⟩

/-- The only error it returns is the panic on a missing name. -/
theorem highestRevisionNumber_go_error {maxRevision : Int64} {prevs : List PreviousRevisionReference}
    {e : Error} (failed : highestRevisionNumber.go cosByName maxRevision prevs = .error e) :
    e = nilPointerDereference := by
  induction prevs generalizing maxRevision with
  | nil => cases failed
  | cons prev prevs ih =>
    simp only [highestRevisionNumber.go] at failed
    split at failed
    · cases failed; rfl
    · exact ih failed

theorem highestRevisionNumber_go_missing (maxRevision : Int64) {prevs : List PreviousRevisionReference}
    (missing : ∃ prev ∈ prevs, cosByName prev.name = none) :
    highestRevisionNumber.go cosByName maxRevision prevs = .error nilPointerDereference := by
  induction prevs generalizing maxRevision with
  | nil => simp at missing
  | cons prev prevs ih =>
    simp only [highestRevisionNumber.go]
    split
    · rfl
    · next cos found =>
      obtain ⟨p, member, absent⟩ := missing
      rcases List.mem_cons.mp member with rfl | later
      · simp [found] at absent
      · exact ih _ ⟨p, later, absent⟩

/-- Only the revisions the names resolve to matter. -/
theorem highestRevisionNumber_go_congr (other : String → Option ClusterObjectSet)
    (maxRevision : Int64) {prevs : List PreviousRevisionReference}
    (same : ∀ prev ∈ prevs, (cosByName prev.name).map (·.status.revision) =
      (other prev.name).map (·.status.revision)) :
    highestRevisionNumber.go cosByName maxRevision prevs =
      highestRevisionNumber.go other maxRevision prevs := by
  induction prevs generalizing maxRevision with
  | nil => rfl
  | cons prev prevs ih =>
    have rest := fun m => ih m fun p member => same p (List.mem_cons_of_mem _ member)
    have here := same prev (List.mem_cons_self _ _)
    simp only [highestRevisionNumber.go]
    cases found : cosByName prev.name <;> cases found' : other prev.name <;>
      simp_all

theorem highestRevisionNumber_go_le {maxRevision highest : Int64}
    {prevs : List PreviousRevisionReference}
    (computed : highestRevisionNumber.go cosByName maxRevision prevs = .ok highest) :
    maxRevision ≤ highest := by
  induction prevs generalizing maxRevision with
  | nil => cases computed; exact Int.le_refl _
  | cons prev prevs ih =>
    simp only [highestRevisionNumber.go] at computed
    split at computed
    · cases computed
    · next cos _ =>
      refine Int.le_trans ?_ (ih computed)
      simp only [gt_iff_lt, Int64.lt_iff]
      split <;> omega

end Highest

theorem highestRevisionNumber_eq (cosByName : String → Option ClusterObjectSet)
    (prevs : List PreviousRevisionReference) :
    highestRevisionNumber cosByName prevs = highestRevisionNumber.go cosByName 0 prevs := rfl

theorem cosByName_eq_none {l : List ClusterObjectSet} {name : String} :
    cosByName l name = none ↔ name ∉ l.map (·.metadata.name) := by
  induction l with
  | nil => simp [cosByName]
  | cons cos rest ih =>
    simp only [cosByName, List.map_cons, List.mem_cons, not_or]
    rcases found : cosByName rest name with _ | i
    · have absent := ih.mp found
      by_cases named : name = cos.metadata.name <;> simp [named, absent]
    · have present : name ∈ rest.map (·.metadata.name) := by
        by_contra absent
        rw [ih.mpr absent] at found
        cases found
      simp_all

theorem cosByName_eq_some {l : List ClusterObjectSet} {name : String} {i : Nat}
    (points : cosByName l name = some i) : ∃ inside : i < l.length, l[i].metadata.name = name := by
  induction l generalizing i with
  | nil => cases points
  | cons cos rest ih =>
    simp only [cosByName] at points
    split at points
    · next j found =>
      cases points
      obtain ⟨inside, named⟩ := ih found
      exact ⟨by simp; omega, by simpa using named⟩
    · split at points
      · next named => cases points; exact ⟨by simp, named.symm⟩
      · cases points

section Resolve

variable {l items : List ClusterObjectSet}
  (sameNames : items.map (·.metadata.name) = l.map (·.metadata.name))

include sameNames

theorem length_eq_of_sameNames : items.length = l.length := by
  simpa using congrArg List.length sameNames

theorem resolve_eq_none {name : String} :
    resolve (cosByName l) items name = none ↔ name ∉ l.map (·.metadata.name) := by
  rw [← cosByName_eq_none, resolve]
  cases points : cosByName l name with
  | none => simp
  | some i =>
    obtain ⟨inside, -⟩ := cosByName_eq_some points
    simp [List.getElem?_eq_getElem ((length_eq_of_sameNames sameNames).symm ▸ inside)]

theorem resolve_some {name : String} {cos : ClusterObjectSet}
    (resolved : resolve (cosByName l) items name = some cos) :
    cos ∈ items ∧ cos.metadata.name = name := by
  rw [resolve] at resolved
  cases points : cosByName l name with
  | none => simp [points] at resolved
  | some i =>
    obtain ⟨inside, named⟩ := cosByName_eq_some points
    have insideItems : i < items.length := (length_eq_of_sameNames sameNames).symm ▸ inside
    simp only [points, Option.some_bind, List.getElem?_eq_getElem insideItems,
      Option.some.injEq] at resolved
    subst resolved
    have same := congrArg (fun xs => xs[i]?) sameNames
    simp only [List.getElem?_map, List.getElem?_eq_getElem insideItems,
      List.getElem?_eq_getElem inside, Option.map_some', Option.some.injEq] at same
    exact ⟨List.getElem_mem _, same.trans named⟩

theorem resolve_of_mem (unique : (l.map (·.metadata.name)).Nodup) {cos : ClusterObjectSet}
    (member : cos ∈ items) : resolve (cosByName l) items cos.metadata.name = some cos := by
  have present : cos.metadata.name ∈ l.map (·.metadata.name) :=
    sameNames ▸ List.mem_map_of_mem _ member
  obtain ⟨found, resolved⟩ := Option.ne_none_iff_exists'.mp
    ((resolve_eq_none sameNames).not.mpr (not_not.mpr present))
  obtain ⟨inItems, named⟩ := resolve_some sameNames resolved
  rw [resolved, List.inj_on_of_nodup_map (sameNames ▸ unique) inItems member named]

end Resolve

/-! ## Runs of the repair -/

def listRequest : Request := .list (ClientObject.kind (α := ClusterObjectSet)) instanceSelector

theorem fixMissingRevisionNumbers_delivered {w : World} (delivered : w.fault w.requests.length = none) :
    fixMissingRevisionNumbers w = repairRevisions (cosByName (listed w.store)) [] (listed w.store)
      { w with requests := w.requests ++ [listRequest] } := by
  simp [fixMissingRevisionNumbers, list, send_delivered _ _ w delivered, wrap, listed, listRequest]

theorem fixMissingRevisionNumbers_reliable {w : World} (reliable : w.Reliable) :
    fixMissingRevisionNumbers w = repairRevisions (cosByName (listed w.store)) [] (listed w.store)
      { w with requests := w.requests ++ [listRequest] } :=
  fixMissingRevisionNumbers_delivered (reliable _)

/-- A failed List ends the call before anything is written. -/
theorem fixMissingRevisionNumbers_list_fails {w : World} {message : String}
    (fails : w.fault w.requests.length = some message) :
    fixMissingRevisionNumbers w = (.error ((Error.transport message).wrap "list PKO ClusterObjectSet"),
      { w with requests := w.requests ++ [listRequest] }) := by
  simp [fixMissingRevisionNumbers, list, send_faulty _ _ w message fails, wrap, listRequest]

/-- The repair lists, and writes only by status patches of ClusterObjectSets: what every such
patch keeps holds across the whole call. -/
theorem fixMissingRevisionNumbers_keeps {keep : Store → Store → Prop} (refl : ∀ s, keep s s)
    (trans : ∀ s₁ s₂ s₃, keep s₁ s₂ → keep s₂ s₃ → keep s₁ s₃)
    (patched : ∀ cos : ClusterObjectSet, Keeps keep (patchStatus cos)) :
    Keeps keep fixMissingRevisionNumbers := by
  have loop : ∀ byName visited rest, Keeps keep (repairRevisions byName visited rest) := by
    intro byName visited rest
    induction rest generalizing visited with
    | nil => exact Keeps.pure refl _
    | cons cos rest ih =>
      unfold repairRevisions
      split
      · exact Keeps.bind trans (fun _ => refl _) fun _ =>
          Keeps.bind trans (Keeps.wrap (patched _) _) fun _ => ih _
      · exact ih _
  exact Keeps.bind trans (Keeps.wrap (Keeps.list refl _) _) fun _ => loop _ _ _

/-- The map reads nothing of the list but its names. -/
theorem cosByName_congr {l l' : List ClusterObjectSet}
    (sameNames : l.map (·.metadata.name) = l'.map (·.metadata.name)) : cosByName l = cosByName l' := by
  induction l generalizing l' with
  | nil => cases l' with
    | nil => rfl
    | cons _ _ => cases sameNames
  | cons cos rest ih => cases l' with
    | nil => cases sameNames
    | cons cos' rest' =>
      simp only [List.map_cons, List.cons.injEq] at sameNames
      funext name
      simp only [cosByName, ih sameNames.2, sameNames.1]

theorem afterPatch_reliable {w : World} (reliable : w.Reliable) (patched : ClusterObjectSet)
    (sent : ObjectMeta) : (afterPatch w patched sent).Reliable := reliable

@[simp] theorem stamp_withRevision_name (cos : ClusterObjectSet) (revision : Int64) (rv : Nat) :
    (stamp (withRevision cos revision) rv).metadata.name = cos.metadata.name := rfl

@[simp] theorem stamp_withRevision_revision (cos : ClusterObjectSet) (revision : Int64) (rv : Nat) :
    (stamp (withRevision cos revision) rv).status.revision = revision := rfl

section Loop

variable {l : List ClusterObjectSet}

/-- A stuck ObjectSet that names an ObjectSet the list lacks makes the repair panic: the
missing name is a nil pointer. -/
theorem repairRevisions_panics_of_missing {visited rest : List ClusterObjectSet} {w : World}
    (reliable : w.Reliable) (listing : listed w.store = visited ++ rest)
    (sameNames : (visited ++ rest).map (·.metadata.name) = l.map (·.metadata.name))
    (missing : ∃ stuckSet ∈ rest, looksStuck stuckSet ∧
      ∃ name ∈ previousNames stuckSet, name ∉ l.map (·.metadata.name)) :
    (repairRevisions (cosByName l) visited rest w).1 = .error nilPointerDereference := by
  induction rest generalizing visited w with
  | nil => simp at missing
  | cons cos rest ih =>
    obtain ⟨stuckSet, member, stuckThere, name, named, absent⟩ := missing
    have later : stuckSet ≠ cos → ∃ stuckSet ∈ rest, looksStuck stuckSet ∧
        ∃ name ∈ previousNames stuckSet, name ∉ l.map (·.metadata.name) := fun other =>
      ⟨stuckSet, (List.mem_cons.mp member).resolve_left other, stuckThere, name, named, absent⟩
    by_cases stuck : looksStuck cos
    · cases computed : highestRevisionNumber (resolve (cosByName l) (visited ++ cos :: rest))
          cos.spec.previous with
      | error e =>
        rw [repairRevisions_panic _ _ _ stuck computed]
        exact congrArg Except.error (highestRevisionNumber_go_error _ computed)
      | ok highest =>
        have other : stuckSet ≠ cos := by
          rintro rfl
          obtain ⟨prev, prevMember, rfl⟩ := List.mem_map.mp named
          have unresolved := (resolve_eq_none sameNames).mpr absent
          rw [highestRevisionNumber_eq, highestRevisionNumber_go_missing _ _
            ⟨prev, prevMember, unresolved⟩] at computed
          cases computed
        rw [repairRevisions_patch _ _ _ stuck computed (reliable _) listing]
        exact ih (afterPatch_reliable reliable _ _) (listed_afterPatch listing highest)
          (by simpa using sameNames) (later other)
    · rw [repairRevisions_skip _ _ _ stuck]
      exact ih reliable (by simpa using listing) (by simpa using sameNames)
        (later fun same => stuck (same ▸ stuckThere))

/-- When every stuck ObjectSet from the current entry on names only ObjectSets of the list, a
reliable run of the loop completes: each name resolves, so each highest revision is computed and
each patch accepted. -/
theorem repairRevisions_completes {visited rest : List ClusterObjectSet} {w : World}
    (reliable : w.Reliable) (listing : listed w.store = visited ++ rest)
    (sameNames : (visited ++ rest).map (·.metadata.name) = l.map (·.metadata.name))
    (present : ∀ cos ∈ rest, looksStuck cos → ∀ name ∈ previousNames cos, name ∈ l.map (·.metadata.name)) :
    (repairRevisions (cosByName l) visited rest w).1 = .ok () := by
  induction rest generalizing visited w with
  | nil => rfl
  | cons cos rest ih =>
    have present' := fun c member => present c (List.mem_cons_of_mem _ member)
    by_cases stuck : looksStuck cos
    · have resolved : ∀ prev ∈ cos.spec.previous,
          (resolve (cosByName l) (visited ++ cos :: rest) prev.name).isSome := fun prev member =>
        Option.isSome_iff_ne_none.mpr ((resolve_eq_none sameNames).not.mpr (not_not.mpr
          (present cos (List.mem_cons_self _ _) stuck _ (List.mem_map_of_mem _ member))))
      obtain ⟨highest, computed, -⟩ := highestRevisionNumber_go_ok _ 0 _ resolved
      rw [repairRevisions_patch _ _ _ stuck computed (reliable _) listing]
      exact ih (afterPatch_reliable reliable _ _) (listed_afterPatch listing highest)
        (by simpa using sameNames) present'
    · rw [repairRevisions_skip _ _ _ stuck]
      exact ih reliable (by simpa using listing) (by simpa using sameNames) present'

/-- How a listed ObjectSet ends a completed run: as it was, or patched to one above a
non-negative highest revision. -/
def Revised (before after : ClusterObjectSet) : Prop :=
  (¬ looksStuck before ∧ after = before) ∨
    (looksStuck before ∧ ∃ highest rv, 0 ≤ highest ∧ after = stamp (withRevision before (highest + 1)) rv)

/-- An ObjectSet with its revision and resourceVersion forgotten. -/
def forgetRevision (cos : ClusterObjectSet) : ClusterObjectSet := stamp (withRevision cos 0) 0

/-- How an object of the table ends a run: as it was, or a stuck one with nothing changed but
its revision and resourceVersion. -/
def Changed (before after : ClusterObjectSet) : Prop :=
  after = before ∨ (looksStuck before ∧ forgetRevision after = forgetRevision before)

/-- A stuck object stays related when its revision and resourceVersion are written again. -/
theorem Changed.revise {before cos : ClusterObjectSet} (changed : Changed before cos)
    (stuck : looksStuck cos) (revision : Int64) (rv : Nat) :
    Changed before (stamp (withRevision cos revision) rv) := by
  rcases changed with rfl | ⟨stuckBefore, forgotten⟩
  · exact .inr ⟨stuck, rfl⟩
  · exact .inr ⟨stuckBefore, forgotten⟩

def patchRequest (cos : ClusterObjectSet) : Request :=
  .patchStatus (ClientObject.kind (α := ClusterObjectSet)) cos.metadata

/-- What a completed reliable run of the loop did: it patched exactly the stuck entries, in
order, each to one above a non-negative highest revision, and wrote nothing else. -/
theorem repairRevisions_completed {visited rest : List ClusterObjectSet} {w : World}
    (reliable : w.Reliable) (listing : listed w.store = visited ++ rest)
    {before : List ClusterObjectSet} (related : List.Forall₂ Changed before w.store.clusterObjectSets.objects)
    (completes : (repairRevisions (cosByName l) visited rest w).1 = .ok ()) :
    ∃ revised, List.Forall₂ Revised rest revised ∧
      listed (repairRevisions (cosByName l) visited rest w).2.store = visited ++ revised ∧
      (repairRevisions (cosByName l) visited rest w).2.requests =
        w.requests ++ (rest.filter fun cos => decide (looksStuck cos)).map patchRequest ∧
      List.Forall₂ Changed before (repairRevisions (cosByName l) visited rest w).2.store.clusterObjectSets.objects ∧
      ∃ revision objectSets, (repairRevisions (cosByName l) visited rest w).2.store =
        { w.store with revision := revision, clusterObjectSets := objectSets } := by
  induction rest generalizing visited w with
  | nil => exact ⟨[], .nil, by simpa using listing, by simp [repairRevisions], related, _, _, rfl⟩
  | cons cos rest ih =>
    by_cases stuck : looksStuck cos
    · cases computed : highestRevisionNumber (resolve (cosByName l) (visited ++ cos :: rest))
          cos.spec.previous with
      | error e => rw [repairRevisions_panic _ _ _ stuck computed] at completes; cases completes
      | ok highest =>
        have member : cos ∈ w.store.clusterObjectSets.objects :=
          (Table.list_sublist _ instanceSelector).subset (by rw [← listed, listing]; simp)
        rw [repairRevisions_patch _ _ _ stuck computed (reliable _) listing] at completes ⊢
        obtain ⟨revised, revisedRest, listing', requests, related', revision, objectSets, frame⟩ :=
          ih (afterPatch_reliable reliable _ _) (listed_afterPatch listing highest)
            (Table.forall₂_replace related fun _ y stored sameKey changed =>
              (List.inj_on_of_nodup_map w.store.clusterObjectSets.keys_nodup stored member sameKey ▸
                changed).revise stuck _ _) completes
        exact ⟨_ :: revised, .cons (.inr ⟨stuck, highest, _, highestRevisionNumber_go_le _ computed,
          rfl⟩) revisedRest, by simpa using listing', by rw [requests]; simp [afterPatch, stuck,
          patchRequest, withRevision], related', revision, objectSets, by rw [frame]; rfl⟩
    · rw [repairRevisions_skip _ _ _ stuck] at completes ⊢
      obtain ⟨revised, revisedRest, listing', requests, related', frame⟩ :=
        ih reliable (by simpa using listing) related completes
      exact ⟨cos :: revised, .cons (.inl ⟨stuck, rfl⟩) revisedRest, by simpa using listing',
        by simp [requests, stuck], related', frame⟩

/-- A repaired revision is one above a non-negative one: 1 or more, or the wrap to the
minimum, never 0 again. -/
theorem add_one_ne_zero_of_nonneg {highest : Int64} (nonneg : 0 ≤ highest) : highest + 1 ≠ 0 := by
  intro zero
  have value := congrArg Int64.val zero
  rw [Int64.val_add_one, Int64.val_zero] at value
  rw [Int64.le_iff, Int64.val_zero] at nonneg
  split at value <;> omega

theorem Revised.not_looksStuck {before after : ClusterObjectSet} (revised : Revised before after) :
    ¬ looksStuck after := by
  rcases revised with ⟨fine, rfl⟩ | ⟨-, highest, rv, nonneg, rfl⟩
  · exact fine
  · exact fun stuck => add_one_ne_zero_of_nonneg nonneg stuck.1

/-- Entries that do not look stuck are passed over without a request. -/
theorem repairRevisions_settled {byName : String → Option Nat} {visited : List ClusterObjectSet}
    {rest : List ClusterObjectSet} (settled : ∀ cos ∈ rest, ¬ looksStuck cos) (w : World) :
    repairRevisions byName visited rest w = (.ok (), w) := by
  induction rest generalizing visited with
  | nil => rfl
  | cons cos rest ih =>
    rw [repairRevisions_skip _ _ _ (settled cos (List.mem_cons_self _ _))]
    exact ih fun c member => settled c (List.mem_cons_of_mem _ member)

theorem repairRevisions_append_settled {byName : String → Option Nat}
    {visited pre : List ClusterObjectSet} (rest : List ClusterObjectSet)
    (settled : ∀ cos ∈ pre, ¬ looksStuck cos) :
    repairRevisions byName visited (pre ++ rest) = repairRevisions byName (visited ++ pre) rest := by
  induction pre generalizing visited with
  | nil => simp
  | cons cos pre ih =>
    rw [List.cons_append, repairRevisions_skip _ _ _ (settled cos (List.mem_cons_self _ _)),
      ih fun c member => settled c (List.mem_cons_of_mem _ member), List.append_assoc,
      List.singleton_append]

/-- Reliable runs from the same store end alike: the loop reads nothing of the world but the
store. -/
theorem repairRevisions_congr {byName : String → Option Nat} {visited rest : List ClusterObjectSet}
    {u u' : World} (reliable : u.Reliable) (reliable' : u'.Reliable) (sameStore : u.store = u'.store)
    (listing : listed u.store = visited ++ rest) :
    (repairRevisions byName visited rest u).1 = (repairRevisions byName visited rest u').1 ∧
      (repairRevisions byName visited rest u).2.store = (repairRevisions byName visited rest u').2.store := by
  induction rest generalizing visited u u' with
  | nil => exact ⟨rfl, sameStore⟩
  | cons cos rest ih =>
    by_cases stuck : looksStuck cos
    · cases computed : highestRevisionNumber (resolve byName (visited ++ cos :: rest))
          cos.spec.previous with
      | error e =>
        rw [repairRevisions_panic _ _ _ stuck computed u, repairRevisions_panic _ _ _ stuck computed u']
        exact ⟨rfl, sameStore⟩
      | ok highest =>
        rw [repairRevisions_patch _ _ _ stuck computed (reliable _) listing,
          repairRevisions_patch _ _ _ stuck computed (reliable' _) (sameStore ▸ listing), ← sameStore]
        exact ih (afterPatch_reliable reliable _ _) (afterPatch_reliable reliable' _ _)
          (by simp [afterPatch, sameStore]) (listed_afterPatch listing highest)
    · rw [repairRevisions_skip _ _ _ stuck]
      exact ih reliable reliable' sameStore (by simpa using listing)

/-- Wherever a run over any transport stops, its store is the store a reliable run reaches
at some entry, with every entry before it settled and the names in place: a reliable run
from the start goes through that point. -/
theorem repairRevisions_interrupted {byName : String → Option Nat}
    {visited rest : List ClusterObjectSet} {w : World} (listing : listed w.store = visited ++ rest)
    (settled : ∀ cos ∈ visited, ¬ looksStuck cos) :
    ∃ done todo, listed (repairRevisions byName visited rest w).2.store = done ++ todo ∧
      (∀ cos ∈ done, ¬ looksStuck cos) ∧
      (done ++ todo).map (·.metadata.name) = (visited ++ rest).map (·.metadata.name) ∧
      ∀ u : World, u.Reliable → u.store = w.store → ∃ u' : World, u'.Reliable ∧
        u'.store = (repairRevisions byName visited rest w).2.store ∧
        repairRevisions byName visited rest u = repairRevisions byName done todo u' := by
  induction rest generalizing visited w with
  | nil => exact ⟨visited, [], listing, settled, rfl, fun u reliable same => ⟨u, reliable, same, rfl⟩⟩
  | cons cos rest ih =>
    have stopped : ∀ w' : World, w'.store = w.store → ∃ done todo,
        listed w'.store = done ++ todo ∧ (∀ cos ∈ done, ¬ looksStuck cos) ∧
        (done ++ todo).map (·.metadata.name) = (visited ++ cos :: rest).map (·.metadata.name) ∧
        ∀ u : World, u.Reliable → u.store = w.store → ∃ u' : World, u'.Reliable ∧
          u'.store = w'.store ∧
          repairRevisions byName visited (cos :: rest) u = repairRevisions byName done todo u' :=
      fun w' same => ⟨visited, cos :: rest, same ▸ listing, settled, rfl,
        fun u reliable sameStore => ⟨u, reliable, sameStore.trans same.symm, rfl⟩⟩
    by_cases stuck : looksStuck cos
    · cases computed : highestRevisionNumber (resolve byName (visited ++ cos :: rest))
          cos.spec.previous with
      | error e =>
        rw [repairRevisions_panic _ _ _ stuck computed]
        exact stopped w rfl
      | ok highest =>
        cases fault : w.fault w.requests.length with
        | some e =>
          rw [repairRevisions_patch_fails _ _ _ stuck computed fault]
          exact stopped _ rfl
        | none =>
          have revised : ¬ looksStuck (stamp (withRevision cos (highest + 1)) (w.store.revision + 1)) :=
            Revised.not_looksStuck (.inr ⟨stuck, highest, _, highestRevisionNumber_go_le _ computed, rfl⟩)
          rw [repairRevisions_patch _ _ _ stuck computed fault listing]
          obtain ⟨done, todo, listing', settled', names, reached⟩ :=
            ih (listed_afterPatch listing highest)
              (List.forall_mem_append.mpr ⟨settled, List.forall_mem_singleton.mpr revised⟩)
          refine ⟨done, todo, listing', settled', by simpa using names, fun u reliable same => ?_⟩
          obtain ⟨u', reliable', store', run⟩ := reached (afterPatch u
            (stamp (withRevision cos (highest + 1)) (w.store.revision + 1)) (withRevision cos (highest + 1)).metadata)
            (afterPatch_reliable reliable _ _) (by simp [afterPatch, same])
          refine ⟨u', reliable', store', ?_⟩
          rw [repairRevisions_patch _ _ _ stuck computed (reliable _) (same ▸ listing), same, run]
    · rw [repairRevisions_skip _ _ _ stuck]
      rw [List.append_cons] at listing
      obtain ⟨done, todo, listing', settled', names, reached⟩ :=
        ih listing (List.forall_mem_append.mpr ⟨settled, List.forall_mem_singleton.mpr stuck⟩)
      exact ⟨done, todo, listing', settled', by simpa using names, reached⟩

end Loop

theorem settled_of_revised {before after : List ClusterObjectSet}
    (revised : List.Forall₂ Revised before after) : ∀ cos ∈ after, ¬ looksStuck cos := by
  induction revised with
  | nil => simp
  | cons here _ ih => exact List.forall_mem_cons.mpr ⟨here.not_looksStuck, ih⟩

/-- A completed reliable run patched the stuck ObjectSets of its snapshot, in list order and
each once, and changed nothing else. -/
theorem fixMissingRevisionNumbers_completed {w : World} (reliable : w.Reliable)
    (completes : (fixMissingRevisionNumbers w).1 = .ok ()) :
    ∃ revised, List.Forall₂ Revised (listed w.store) revised ∧
      listed (fixMissingRevisionNumbers w).2.store = revised ∧
      (fixMissingRevisionNumbers w).2.requests = w.requests ++
        listRequest :: ((listed w.store).filter fun cos => decide (looksStuck cos)).map patchRequest ∧
      List.Forall₂ Changed w.store.clusterObjectSets.objects
        (fixMissingRevisionNumbers w).2.store.clusterObjectSets.objects ∧
      ∃ revision objectSets, (fixMissingRevisionNumbers w).2.store =
        { w.store with revision := revision, clusterObjectSets := objectSets } := by
  rw [fixMissingRevisionNumbers_reliable reliable] at completes ⊢
  obtain ⟨revised, revisedAll, listing, requests, related, frame⟩ :=
    repairRevisions_completed (w := { w with requests := w.requests ++ [listRequest] })
      (fun n => reliable n) (List.nil_append _).symm
      (List.forall₂_same.mpr fun _ _ => .inl rfl) completes
  exact ⟨revised, revisedAll, by simpa using listing, by simpa using requests, related, frame⟩

theorem fixMissingRevisionNumbers_congr {u u' : World} (reliable : u.Reliable) (reliable' : u'.Reliable)
    (sameStore : u.store = u'.store) :
    (fixMissingRevisionNumbers u).1 = (fixMissingRevisionNumbers u').1 ∧
      (fixMissingRevisionNumbers u).2.store = (fixMissingRevisionNumbers u').2.store := by
  rw [fixMissingRevisionNumbers_reliable reliable, fixMissingRevisionNumbers_reliable reliable',
    ← sameStore]
  exact repairRevisions_congr (fun n => reliable n) (fun n => reliable' n) rfl rfl

/-- After a completed run nothing looks stuck: another run, over any transport, lists and
writes nothing. -/
theorem fixMissingRevisionNumbers_again {w : World} (reliable : w.Reliable)
    (completes : (fixMissingRevisionNumbers w).1 = .ok ()) {again : World}
    (restarted : again.store = (fixMissingRevisionNumbers w).2.store) :
    (fixMissingRevisionNumbers again).2 = { again with requests := again.requests ++ [listRequest] } := by
  obtain ⟨revised, revisedAll, listing, -⟩ := fixMissingRevisionNumbers_completed reliable completes
  cases fault : again.fault again.requests.length with
  | some e => rw [fixMissingRevisionNumbers_list_fails fault]
  | none =>
    have settled : ∀ cos ∈ listed again.store, ¬ looksStuck cos := by
      rw [restarted, listing]
      exact settled_of_revised revisedAll
    rw [fixMissingRevisionNumbers_delivered fault, repairRevisions_settled settled]

/-- A run over any transport, wherever it stopped, followed by a reliable rerun on the store
it left, ends as one reliable run from the start. -/
theorem fixMissingRevisionNumbers_rerun {interrupted restarted fresh : World}
    (reliable : restarted.Reliable) (reliable' : fresh.Reliable)
    (resumed : restarted.store = (fixMissingRevisionNumbers interrupted).2.store)
    (sameStart : fresh.store = interrupted.store) :
    (fixMissingRevisionNumbers restarted).1 = (fixMissingRevisionNumbers fresh).1 ∧
      (fixMissingRevisionNumbers restarted).2.store = (fixMissingRevisionNumbers fresh).2.store := by
  cases fault : interrupted.fault interrupted.requests.length with
  | some e =>
    rw [fixMissingRevisionNumbers_list_fails fault] at resumed
    exact fixMissingRevisionNumbers_congr reliable reliable' (resumed.trans sameStart.symm)
  | none =>
    rw [fixMissingRevisionNumbers_delivered fault] at resumed
    obtain ⟨done, todo, listing, settled, names, reached⟩ :=
      @repairRevisions_interrupted (cosByName (listed interrupted.store)) [] (listed interrupted.store)
        { interrupted with requests := interrupted.requests ++ [listRequest] } rfl (by simp)
    obtain ⟨u, reliableU, storeU, run⟩ :=
      reached { fresh with requests := fresh.requests ++ [listRequest] } (fun n => reliable' n) sameStart
    rw [sameStart] at run
    rw [fixMissingRevisionNumbers_reliable reliable, fixMissingRevisionNumbers_reliable reliable',
      sameStart, run, resumed, listing, cosByName_congr names, repairRevisions_append_settled _ settled]
    exact repairRevisions_congr (fun n => reliable n) reliableU storeU.symm listing

/-- The repair touches the stuck ObjectSets of its snapshot only, each once, and nothing of
them but the revision; a run cut short anywhere and rerun on what it left ends where the
uninterrupted run ends; and a second run patches nothing. -/
theorem fixMissingRevisionNumbers_repairs_each_stuck_once {w : World} (reliable : w.Reliable)
    (completes : (fixMissingRevisionNumbers w).1 = .ok ()) :
    (fixMissingRevisionNumbers w).2.requests = w.requests ++
        listRequest :: ((listed w.store).filter fun cos => decide (looksStuck cos)).map patchRequest ∧
      List.Forall₂ Changed w.store.clusterObjectSets.objects
        (fixMissingRevisionNumbers w).2.store.clusterObjectSets.objects ∧
      (∃ revision objectSets, (fixMissingRevisionNumbers w).2.store =
        { w.store with revision := revision, clusterObjectSets := objectSets }) ∧
      (∀ interrupted restarted : World, interrupted.store = w.store → restarted.Reliable →
        restarted.store = (fixMissingRevisionNumbers interrupted).2.store →
        (fixMissingRevisionNumbers restarted).1 = .ok () ∧
          (fixMissingRevisionNumbers restarted).2.store = (fixMissingRevisionNumbers w).2.store) ∧
      ∀ again : World, again.store = (fixMissingRevisionNumbers w).2.store →
        (fixMissingRevisionNumbers again).2 = { again with requests := again.requests ++ [listRequest] } := by
  obtain ⟨-, -, -, requests, related, frame⟩ := fixMissingRevisionNumbers_completed reliable completes
  refine ⟨requests, related, frame, fun interrupted restarted sameStart reliable' resumed => ?_,
    fun again restarted => fixMissingRevisionNumbers_again reliable completes restarted⟩
  obtain ⟨result, store⟩ := fixMissingRevisionNumbers_rerun reliable' reliable resumed sameStart.symm
  exact ⟨result.trans completes, store⟩

/-- An available revision 5 and the two revisions after it, both left stuck. -/
def availableRevision : ClusterObjectSet where
  metadata := { name := "package-operator-1", labels := instanceSelector }
  status := { phase := "Available", revision := 5 }

def stuckChild : ClusterObjectSet where
  metadata := { name := "package-operator-2", labels := instanceSelector }
  spec := { previous := [⟨"package-operator-1"⟩] }
  status := { phase := ObjectSetStatusPhasePending }

def stuckGrandchild : ClusterObjectSet where
  metadata := { name := "package-operator-3", labels := instanceSelector }
  spec := { previous := [⟨"package-operator-2"⟩] }
  status := { phase := ObjectSetStatusPhasePending }

/-- A store holding the chain in list order, ancestors first. -/
def chainInOrder : Store :=
  { Store.empty with clusterObjectSets := ⟨[availableRevision, stuckChild, stuckGrandchild], by decide⟩ }

theorem fixMissingRevisionNumbers_repairs_chain :
    (World.reliableOn chainInOrder).Reliable ∧
      (fixMissingRevisionNumbers (World.reliableOn chainInOrder)).1 = .ok () ∧
      (fixMissingRevisionNumbers (World.reliableOn chainInOrder)).2.requests = [] ++
        listRequest :: ((listed chainInOrder).filter fun cos => decide (looksStuck cos)).map patchRequest ∧
      List.Forall₂ Changed chainInOrder.clusterObjectSets.objects
        (fixMissingRevisionNumbers (World.reliableOn chainInOrder)).2.store.clusterObjectSets.objects ∧
      (∃ revision objectSets, (fixMissingRevisionNumbers (World.reliableOn chainInOrder)).2.store =
        { chainInOrder with revision := revision, clusterObjectSets := objectSets }) ∧
      (∀ interrupted restarted : World, interrupted.store = chainInOrder → restarted.Reliable →
        restarted.store = (fixMissingRevisionNumbers interrupted).2.store →
        (fixMissingRevisionNumbers restarted).1 = .ok () ∧ (fixMissingRevisionNumbers restarted).2.store =
          (fixMissingRevisionNumbers (World.reliableOn chainInOrder)).2.store) ∧
      ∀ again : World, again.store = (fixMissingRevisionNumbers (World.reliableOn chainInOrder)).2.store →
        (fixMissingRevisionNumbers again).2 = { again with requests := again.requests ++ [listRequest] } :=
  ⟨World.reliableOn_reliable _, rfl,
    fixMissingRevisionNumbers_repairs_each_stuck_once (World.reliableOn_reliable _) rfl⟩

theorem fixMissingRevisionNumbers_panics_of_missing {w : World} (reliable : w.Reliable)
    (missing : ∃ stuckSet ∈ listed w.store, looksStuck stuckSet ∧
      ∃ name ∈ previousNames stuckSet, name ∉ (listed w.store).map (·.metadata.name)) :
    (fixMissingRevisionNumbers w).1 = .error nilPointerDereference := by
  rw [fixMissingRevisionNumbers_reliable reliable]
  exact repairRevisions_panics_of_missing (fun n => reliable n) (by simp) (by simp) missing

/-- A stuck revision whose previous revision was pruned from the instance's list. -/
def orphanedRevision : ClusterObjectSet where
  metadata := { name := "package-operator-2", labels := instanceSelector }
  spec := { previous := [⟨"package-operator-1"⟩] }
  status := { phase := ObjectSetStatusPhasePending }

theorem fixMissingRevisionNumbers_panics_on_orphaned_revision :
    (fixMissingRevisionNumbers (World.reliableOn
      { Store.empty with clusterObjectSets := Table.singleton orphanedRevision })).1 =
      .error nilPointerDereference :=
  fixMissingRevisionNumbers_panics_of_missing (World.reliableOn_reliable _) (by decide)

end PackageOperator.Manager
