import PackageOperator.Client

/-! The poller that both bootstrappers start beside the manager: it polls the self-managed
ClusterPackage until it reports `Available`, then cancels the manager's context. It runs
concurrently with the manager, so it is modelled over an explicit schedule: the world each
tick's Get reads, and the points at which the context's Done channel is the one the poller's
`select` takes. -/

namespace PackageOperator.Manager
open Api Cluster Client MetaObject ClientM

def isPackageAvailable : ClientM Bool := do
  let packageOperatorPackage ← get (α := ClusterPackage) ⟨"", packageOperatorClusterPackageName⟩
  pure (isStatusConditionTrue packageOperatorPackage.status.conditions PackageAvailable)

/-- `wait.ErrWaitTimeout`, which the poll returns when it sees its context done. -/
def ErrWaitTimeout : Error := .errorString "timed out waiting for the condition"

/-- A wake-up of the poll's `select`: a tick of the interval, whose condition reads the world as
it then is, or the context's Done channel. -/
inductive Wake where
  | tick (w : World)
  | done

/-- The condition's verdict at a world: `isPackageAvailable`'s result. -/
def condition (w : World) : Except Error Bool := (isPackageAvailable w).1

/-- `WaitForWithContext` over the wake-ups: each tick runs the condition, and Done ends the poll
with `ErrWaitTimeout`. `none` while it still waits when the schedule runs out. -/
def waitFor : List Wake → Option (Option Error)
  | [] => none
  | .done :: _ => some (some ErrWaitTimeout)
  | .tick w :: rest =>
    match condition w with
    | .error err => some (some err)
    | .ok true => some none
    | .ok false => waitFor rest

/-- `wait.PollImmediateUntilWithContext`: the condition runs at once; a context already done then
ends the poll with `ErrWaitTimeout`, else the ticks take over. -/
def pollImmediateUntilWithContext (first : World) (doneAtStart : Bool) (wakes : List Wake) :
    Option (Option Error) :=
  match condition first with
  | .error err => some (some err)
  | .ok true => some none
  | .ok false => if doneAtStart then some (some ErrWaitTimeout) else waitFor wakes

/-- How the poller goroutine ends: it called `cancel`, it panicked with the poll's error, or it
is still polling. -/
inductive PollerOutcome where
  | cancelled
  | panicked (err : Error)
  | polling

/-- `cancelWhenPackageAvailable`: `if err != nil { panic(err) }`, then `cancel()`. -/
def cancelWhenPackageAvailable (first : World) (doneAtStart : Bool) (wakes : List Wake) : PollerOutcome :=
  match pollImmediateUntilWithContext first doneAtStart wakes with
  | none => .polling
  | some (some err) => .panicked err
  | some none => .cancelled

theorem condition_of_get {w : World} {pkg : ClusterPackage}
    (got : (get (α := ClusterPackage) ⟨"", packageOperatorClusterPackageName⟩ w).1 = .ok pkg) :
    condition w = .ok (isStatusConditionTrue pkg.status.conditions PackageAvailable) := by
  unfold condition isPackageAvailable
  rw [bind_apply]
  rcases ran : get (α := ClusterPackage) ⟨"", packageOperatorClusterPackageName⟩ w with ⟨_ | p, w'⟩ <;>
    rw [ran] at got <;> cases got
  rfl

/-! ## What decides the poll -/

/-- A tick whose condition saw the ClusterPackage not yet available: the poll goes on. -/
def Wake.pending : Wake → Bool
  | .tick w => match condition w with
    | .ok false => true
    | _ => false
  | .done => false

/-- The poll waits through the pending ticks, and the first wake-up after them decides it. -/
theorem waitFor_eq (wakes : List Wake) :
    waitFor wakes = match wakes.dropWhile Wake.pending with
      | [] => none
      | .done :: _ => some (some ErrWaitTimeout)
      | .tick w :: _ => match condition w with
        | .error err => some (some err)
        | .ok true => some none
        | .ok false => none := by
  induction wakes with
  | nil => rfl
  | cons wake rest ih =>
    cases wake with
    | done => rfl
    | tick w =>
      simp only [waitFor, List.dropWhile_cons, Wake.pending]
      split <;> simp_all

/-- When every Get of the poll succeeds, the poller cancels exactly when a poll saw the
ClusterPackage available before the poller took the context's Done; when it takes Done first
it panics with `ErrWaitTimeout`; and otherwise it is still polling. -/
theorem cancelWhenPackageAvailable_outcome (first : World) (doneAtStart : Bool) (wakes : List Wake)
    (fetched : ∀ w, (w = first ∨ Wake.tick w ∈ wakes) →
      ∃ pkg, (get (α := ClusterPackage) ⟨"", packageOperatorClusterPackageName⟩ w).1 = .ok pkg) :
    (cancelWhenPackageAvailable first doneAtStart wakes = .cancelled ↔
      condition first = .ok true ∨ (doneAtStart = false ∧
        ∃ w rest, wakes.dropWhile Wake.pending = .tick w :: rest ∧ condition w = .ok true)) ∧
    (cancelWhenPackageAvailable first doneAtStart wakes = .panicked ErrWaitTimeout ↔
      condition first = .ok false ∧
        (doneAtStart = true ∨ ∃ rest, wakes.dropWhile Wake.pending = .done :: rest)) ∧
    (cancelWhenPackageAvailable first doneAtStart wakes = .polling ↔
      condition first = .ok false ∧ doneAtStart = false ∧ wakes.dropWhile Wake.pending = []) := by
  have answered : ∀ w, (w = first ∨ Wake.tick w ∈ wakes) → ∃ available, condition w = .ok available :=
    fun w seen => ⟨_, condition_of_get (fetched w seen).choose_spec⟩
  obtain ⟨availableNow, atFirst⟩ := answered first (.inl rfl)
  simp only [cancelWhenPackageAvailable, pollImmediateUntilWithContext, atFirst]
  cases availableNow
  · cases doneAtStart
    · simp only [Bool.false_eq_true, if_false, waitFor_eq]
      rcases decided : wakes.dropWhile Wake.pending with _ | ⟨w | _, rest⟩
      · simp
      · have seen : Wake.tick w ∈ wakes :=
          (List.dropWhile_suffix Wake.pending).subset (by rw [decided]; exact List.mem_cons_self _ _)
        have decisive := List.head_dropWhile_not Wake.pending wakes (by simp [decided])
        simp only [decided, List.head_cons, Wake.pending] at decisive
        obtain ⟨available, atTick⟩ := answered w (.inr seen)
        cases available
        · simp [atTick] at decisive
        · simp [atTick]
      · simp
    · simp
  · simp

end PackageOperator.Manager
