import PackageOperator.Cluster

/-! `GenericPackageController.Reconcile`, the controller of Packages and ClusterPackages: fetch
the object; if it is being deleted, drop the legacy loader-job finalizer and update it;
otherwise run the chain of sub-reconcilers, stopping at the first error or non-zero Result,
and project and persist the status. A deferred hook records metrics when the call ends
without an error. The model returns the call's results with the calls it made, in order. -/

namespace PackageOperator.Controllers.Packages
open Api Cluster

/-- `ctrl.Result`. -/
structure Result where
  requeue : Bool := false
  requeueAfter : Nat := 0
deriving DecidableEq, Repr

def Result.IsZero (res : Result) : Bool := res == {}

/-- A call of Reconcile to its client, its sub-reconcilers, the adapters or the recorder. -/
inductive Call where
  | get
  | reconcile (index : Nat)
  | removeFinalizer (finalizer : String)
  | update
  | updatePhase
  | statusUpdate
  | recordPackageMetrics
deriving DecidableEq, Repr

def Call.isReconcile : Call → Bool
  | .reconcile _ => true
  | _ => false

@[simp] theorem count_recordPackageMetrics_reconciles (indices : List Nat) :
    (indices.map Call.reconcile).count .recordPackageMetrics = 0 :=
  List.count_eq_zero.mpr (by simp)

/-- `client.IgnoreNotFound`. -/
def ignoreNotFound (err : Error) : Option Error := if err.isNotFound then none else some err

/-- What the client answers: the object under a key, and the error of an Update and of a
status Update of a given object. -/
structure PackageClient (π : Type) where
  get : ObjectKey → Except Error π
  update : π → Option Error
  statusUpdate : π → Option Error

/-- A sub-reconciler: its outcome, and the package as it leaves it. -/
def Reconciler (π : Type) : Type := π → (Result × Option Error) × π

structure GenericPackageController (π : Type) where
  /-- Whether `recorder` is non-nil; the metrics themselves are not modelled. -/
  recorder : Bool
  client : PackageClient π
  reconciler : List (Reconciler π)

def loaderJobFinalizer : String := "package-operator.run/loader-job"

section Controller

/- `controllers.RemoveFinalizer`, `UpdatePhase` and the deletion timestamp of the package
adapter, declared outside the modelled sources. -/
variable {π : Type} (removeFinalizer : π → String → Except Error π) (updatePhase : π → π)
  (deletionTimestampIsZero : π → Bool) (c : GenericPackageController π)

def handleDeletion (pkg : π) : Option Error × List Call :=
  match removeFinalizer pkg loaderJobFinalizer with
  | .error err => (some err, [.removeFinalizer loaderJobFinalizer])
  | .ok pkg => (c.client.update pkg, [.removeFinalizer loaderJobFinalizer, .update])

def updateStatus (pkg : π) : Option Error × List Call :=
  ((c.client.statusUpdate (updatePhase pkg)).map (Error.wrap "updating Package status"),
    [.updatePhase, .statusUpdate])

/-- Whether an outcome stops the chain: `err != nil || !res.IsZero()`. -/
def stops (outcome : Result × Option Error) : Bool := outcome.2.isSome || !outcome.1.IsZero

/-- The chain loop from the sub-reconciler at `index` on, with the named results `res, err`
as they stand: each call overwrites them, and the loop breaks at an outcome that stops. -/
def runReconcilers : List (Reconciler π) → Nat → π → Result × Option Error →
    (Result × Option Error) × π × List Call
  | [], _, pkg, outcome => (outcome, pkg, [])
  | r :: rest, index, pkg, _ =>
    let next := if stops (r pkg).1 then ((r pkg).1, (r pkg).2, [])
      else runReconcilers rest (index + 1) (r pkg).2 (r pkg).1
    (next.1, next.2.1, .reconcile index :: next.2.2)

def Reconcile (req : ObjectKey) : (Result × Option Error) × List Call :=
  match c.client.get req with
  | .error err => (({}, ignoreNotFound err), [.get])
  | .ok pkg =>
    let run : (Result × Option Error) × List Call :=
      if !deletionTimestampIsZero pkg then
        (({}, (handleDeletion removeFinalizer c pkg).1), (handleDeletion removeFinalizer c pkg).2)
      else
        let chain := runReconcilers c.reconciler 0 pkg ({}, none)
        if chain.1.2.isSome then (chain.1, chain.2.2)
        else ((chain.1.1, (updateStatus updatePhase c chain.2.1).1),
          chain.2.2 ++ (updateStatus updatePhase c chain.2.1).2)
    (run.1, .get :: run.2 ++ if run.1.2.isNone && c.recorder then [.recordPackageMetrics] else [])

/-! ## The chain, as a list of outcomes -/

/-- What each sub-reconciler of a chain returns when it is handed the package as the one
before it left it. -/
def chainOutcomes : List (Reconciler π) → π → List ((Result × Option Error) × π)
  | [], _ => []
  | r :: rest, pkg => r pkg :: chainOutcomes rest (r pkg).2

/-- How many sub-reconcilers run: up to the first whose outcome stops the chain, all of them
when none does. -/
def invokedCount (rs : List (Reconciler π)) (pkg : π) : Nat :=
  min ((chainOutcomes rs pkg).findIdx (fun outcome => stops outcome.1) + 1) (chainOutcomes rs pkg).length

/-- The outcome of the last sub-reconciler that ran and the package it left, or the starting
ones when none ran. -/
def lastInvoked (rs : List (Reconciler π)) (pkg : π) (init : Result × Option Error) :
    (Result × Option Error) × π :=
  ((chainOutcomes rs pkg).take (invokedCount rs pkg)).getLastD (init, pkg)

theorem invokedCount_cons (r : Reconciler π) (rest : List (Reconciler π)) (pkg : π) :
    invokedCount (r :: rest) pkg = if stops (r pkg).1 then 1 else invokedCount rest (r pkg).2 + 1 := by
  unfold invokedCount
  split <;> simp_all [chainOutcomes, List.findIdx_cons]
  omega

theorem lastInvoked_cons (r : Reconciler π) (rest : List (Reconciler π)) (pkg : π)
    (init : Result × Option Error) :
    lastInvoked (r :: rest) pkg init = if stops (r pkg).1 then r pkg else lastInvoked rest (r pkg).2 (r pkg).1 := by
  unfold lastInvoked
  rw [invokedCount_cons]
  split
  · simp [chainOutcomes]
  · simp only [chainOutcomes, List.take_succ_cons, List.getLastD_cons, Prod.mk.eta]

/-- The loop runs the sub-reconcilers up to the first that stops the chain, each once and in
order, and ends with the outcome and package of the last one it ran. -/
theorem runReconcilers_eq (rs : List (Reconciler π)) (index : Nat) (pkg : π) (init : Result × Option Error) :
    runReconcilers rs index pkg init = ((lastInvoked rs pkg init).1, (lastInvoked rs pkg init).2,
      (List.range' index (invokedCount rs pkg)).map .reconcile) := by
  induction rs generalizing index pkg init with
  | nil => simp [runReconcilers, lastInvoked, invokedCount, chainOutcomes]
  | cons r rest ih =>
    rw [lastInvoked_cons, invokedCount_cons]
    by_cases stop : stops (r pkg).1
    · simp [runReconcilers, stop]
    · simp [runReconcilers, stop, ih, List.range'_succ]

/-- No sub-reconciler that ran returned an error exactly when the last one did not: the ones
before it did not stop the chain. -/
theorem invoked_no_error_iff (rs : List (Reconciler π)) (pkg : π) {init : Result × Option Error}
    (clean : init.2 = none) :
    (∀ outcome ∈ (chainOutcomes rs pkg).take (invokedCount rs pkg), outcome.1.2 = none) ↔
      (lastInvoked rs pkg init).1.2 = none := by
  induction rs generalizing pkg init with
  | nil => simpa [chainOutcomes, lastInvoked] using clean
  | cons r rest ih =>
    rw [invokedCount_cons, lastInvoked_cons]
    by_cases stop : stops (r pkg).1
    · simp [stop, chainOutcomes]
    · have fine : (r pkg).1.2 = none := by
        simpa [stops] using (Bool.or_eq_false_iff.mp (Bool.eq_false_iff.mpr stop)).1
      simp only [stop, Bool.false_eq_true, if_false, chainOutcomes, List.take_succ_cons, List.forall_mem_cons,
        fine, true_and]
      exact ih (r pkg).2 fine

/-! ## Reconcile, path by path -/

theorem Reconcile_of_get_error {req : ObjectKey} {err : Error} (failed : c.client.get req = .error err) :
    Reconcile removeFinalizer updatePhase deletionTimestampIsZero c req = (({}, ignoreNotFound err), [.get]) := by
  simp [Reconcile, failed]

theorem Reconcile_of_deleting {req : ObjectKey} {pkg : π} (fetched : c.client.get req = .ok pkg)
    (deleting : deletionTimestampIsZero pkg = false) :
    Reconcile removeFinalizer updatePhase deletionTimestampIsZero c req =
      (({}, (handleDeletion removeFinalizer c pkg).1), .get :: (handleDeletion removeFinalizer c pkg).2 ++
        if (handleDeletion removeFinalizer c pkg).1.isNone && c.recorder then [.recordPackageMetrics] else []) := by
  simp only [Reconcile, fetched, deleting, Bool.not_false, if_true]

theorem Reconcile_of_chain {req : ObjectKey} {pkg : π} (fetched : c.client.get req = .ok pkg)
    (live : deletionTimestampIsZero pkg = true) :
    Reconcile removeFinalizer updatePhase deletionTimestampIsZero c req =
      let last := lastInvoked c.reconciler pkg ({}, none)
      let err := if last.1.2.isSome then last.1.2 else (updateStatus updatePhase c last.2).1
      ((last.1.1, err), .get :: (List.range (invokedCount c.reconciler pkg)).map .reconcile ++
        (if last.1.2.isSome then [] else [.updatePhase, .statusUpdate]) ++
        if err.isNone && c.recorder then [.recordPackageMetrics] else []) := by
  simp only [Reconcile, fetched, live, Bool.not_true, Bool.false_eq_true, if_false, runReconcilers_eq,
    List.range_eq_range']
  split <;> simp_all [updateStatus]

/-- The chain as the code runs it: no sub-reconciler when the Get fails (nil exactly for
NotFound) or the object is being deleted (then only the finalizer removal and the Update);
otherwise the sub-reconcilers up to the first that stops the chain, each once and in order,
ending with that one's Result and its error, or else the status update's. Once the Get has
succeeded, metrics are recorded once if the call ends without an error and a recorder is
set, and never otherwise. -/
theorem Reconcile_runs_chain (req : ObjectKey) :
    (∀ err, c.client.get req = .error err →
      (Reconcile removeFinalizer updatePhase deletionTimestampIsZero c req).2 = [.get] ∧
      ((Reconcile removeFinalizer updatePhase deletionTimestampIsZero c req).1.2 = none ↔
        err.isNotFound = true)) ∧
    (∀ pkg, c.client.get req = .ok pkg → deletionTimestampIsZero pkg = false →
      (Reconcile removeFinalizer updatePhase deletionTimestampIsZero c req).1 =
        ({}, (handleDeletion removeFinalizer c pkg).1) ∧
      (Reconcile removeFinalizer updatePhase deletionTimestampIsZero c req).2.filter
        (· != .recordPackageMetrics) = .get :: (handleDeletion removeFinalizer c pkg).2) ∧
    (∀ pkg, c.client.get req = .ok pkg → deletionTimestampIsZero pkg = true →
      (Reconcile removeFinalizer updatePhase deletionTimestampIsZero c req).2.filter Call.isReconcile =
        (List.range (invokedCount c.reconciler pkg)).map .reconcile ∧
      (Reconcile removeFinalizer updatePhase deletionTimestampIsZero c req).1.1 =
        (lastInvoked c.reconciler pkg ({}, none)).1.1 ∧
      (Reconcile removeFinalizer updatePhase deletionTimestampIsZero c req).1.2 =
        if (lastInvoked c.reconciler pkg ({}, none)).1.2.isSome then (lastInvoked c.reconciler pkg ({}, none)).1.2
        else (updateStatus updatePhase c (lastInvoked c.reconciler pkg ({}, none)).2).1) ∧
    (∀ pkg, c.client.get req = .ok pkg →
      (Reconcile removeFinalizer updatePhase deletionTimestampIsZero c req).2.count .recordPackageMetrics =
        if (Reconcile removeFinalizer updatePhase deletionTimestampIsZero c req).1.2.isNone && c.recorder
        then 1 else 0) := by
  have deletionCalls : ∀ pkg, (handleDeletion removeFinalizer c pkg).2.count .recordPackageMetrics = 0 ∧
      (handleDeletion removeFinalizer c pkg).2.filter (· != .recordPackageMetrics) =
        (handleDeletion removeFinalizer c pkg).2 := by
    intro pkg
    unfold handleDeletion
    split <;> exact ⟨rfl, rfl⟩
  refine ⟨fun err failed => ?_, fun pkg fetched deleting => ?_, fun pkg fetched live => ?_,
    fun pkg fetched => ?_⟩
  · rw [Reconcile_of_get_error removeFinalizer updatePhase deletionTimestampIsZero c failed]
    unfold ignoreNotFound
    split <;> simp_all
  · rw [Reconcile_of_deleting removeFinalizer updatePhase deletionTimestampIsZero c fetched deleting]
    refine ⟨rfl, ?_⟩
    split <;> simp [(deletionCalls pkg).2]
  · rw [Reconcile_of_chain removeFinalizer updatePhase deletionTimestampIsZero c fetched live]
    dsimp only
    refine ⟨?_, rfl, rfl⟩
    split <;> split <;> simp [List.filter_append, Call.isReconcile, List.filter_map, Function.comp_def]
  · cases live : deletionTimestampIsZero pkg
    · rw [Reconcile_of_deleting removeFinalizer updatePhase deletionTimestampIsZero c fetched live]
      split <;> simp_all
    · rw [Reconcile_of_chain removeFinalizer updatePhase deletionTimestampIsZero c fetched live]
      dsimp only
      split <;> split <;> simp_all [List.count_cons]

/-- A controller built without a metrics recorder, with no sub-reconcilers. -/
def unrecordedController : GenericPackageController Unit where
  recorder := false
  client := { get := fun _ => .ok (), update := fun _ => none, statusUpdate := fun _ => none }
  reconciler := []

/-- The Get succeeds and the call returns no error, yet metrics are never recorded: the
deferred hook checks `c.recorder != nil`. -/
theorem Reconcile_records_nothing_without_recorder :
    Reconcile (fun pkg _ => .ok pkg) id (fun _ => true) unrecordedController
      ⟨"", packageOperatorClusterPackageName⟩ = (({}, none), [.get, .updatePhase, .statusUpdate]) :=
  rfl

/-- Status is projected and persisted, UpdatePhase then the status Update, exactly when the
object was fetched, is not being deleted and no sub-reconciler that ran returned an error,
whatever Results they returned. -/
theorem Reconcile_updates_status_iff (req : ObjectKey) :
    [.updatePhase, .statusUpdate] <:+: (Reconcile removeFinalizer updatePhase deletionTimestampIsZero c req).2 ↔
      ∃ pkg, c.client.get req = .ok pkg ∧ deletionTimestampIsZero pkg = true ∧
        ∀ outcome ∈ (chainOutcomes c.reconciler pkg).take (invokedCount c.reconciler pkg), outcome.1.2 = none := by
  have absent : ∀ calls : List Call, .updatePhase ∉ calls → ¬ [.updatePhase, .statusUpdate] <:+: calls :=
    fun calls missing contained => missing (contained.subset (List.mem_cons_self _ _))
  cases fetched : c.client.get req with
  | error err =>
    rw [Reconcile_of_get_error removeFinalizer updatePhase deletionTimestampIsZero c fetched]
    exact ⟨fun contained => absent _ (by simp) contained |>.elim, fun ⟨_, found, _⟩ => by cases found⟩
  | ok pkg =>
    cases live : deletionTimestampIsZero pkg
    · rw [Reconcile_of_deleting removeFinalizer updatePhase deletionTimestampIsZero c fetched live]
      refine ⟨fun contained => absent _ ?_ contained |>.elim, fun ⟨_, same, stillLive, _⟩ => ?_⟩
      · unfold handleDeletion
        split <;> split <;> simp
      · cases same
        simp [live] at stillLive
    · rw [Reconcile_of_chain removeFinalizer updatePhase deletionTimestampIsZero c fetched live]
      simp only [Except.ok.injEq, exists_eq_left', live, true_and,
        @invoked_no_error_iff _ c.reconciler pkg ({}, none) rfl]
      constructor
      · intro contained
        by_contra failed
        refine absent _ ?_ contained
        simp only [Option.isSome_iff_ne_none.mpr failed, if_true, List.append_nil]
        split <;> simp
      · intro clean
        simp only [clean, Option.isSome_none, Bool.false_eq_true, if_false]
        exact List.infix_append _ _ _

/-- A controller whose only sub-reconciler asks for a requeue and returns no error. -/
def requeueingController : GenericPackageController Unit where
  recorder := true
  client := { get := fun _ => .ok (), update := fun _ => none, statusUpdate := fun _ => none }
  reconciler := [fun pkg => (({ requeue := true }, none), pkg)]

/-- The sub-reconciler's non-zero Result stops the chain, and the status is still projected
and persisted. -/
theorem Reconcile_updates_status_after_requeue :
    ({ requeue := true } : Result).IsZero = false ∧
    Reconcile (fun pkg _ => .ok pkg) id (fun _ => true) requeueingController
      ⟨"", packageOperatorClusterPackageName⟩ =
      (({ requeue := true }, none), [.get, .reconcile 0, .updatePhase, .statusUpdate, .recordPackageMetrics]) :=
  ⟨rfl, rfl⟩

end Controller

end PackageOperator.Controllers.Packages
