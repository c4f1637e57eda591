import PackageOperator.Manager.Poll
import PackageOperator.Manager.Upgrade

/-! `Bootstrapper` of the bootstrap package, the manager's newer self-bootstrap: run the
initializer, and unless the manager Deployment reports `Available=True`, force adoption and run
the manager, with the same poller as the older bootstrapper cancelling it once the
ClusterPackage is available. -/

namespace PackageOperator.Bootstrap
open Api Cluster Client MetaObject ClientM

def packageOperatorDeploymentName : String := "package-operator-manager"

/-- The fields of `Bootstrapper` the modelled methods read: `init` is the initializer's `Init`,
declared outside the modelled sources; the client is the world. -/
structure Bootstrapper where
  init : ClientM ClusterPackage
  pkoNamespace : String

namespace Bootstrapper

variable (b : Bootstrapper)

def needsBootstrap : ClientM Bool := do
  match ← attempt (get (α := Deployment) ⟨b.pkoNamespace, packageOperatorDeploymentName⟩) with
  | .error err => if err.isNotFound then pure true else throw err
  | .ok deploy => pure !(deploy.status.conditions.any fun cond =>
      cond.type == DeploymentAvailable && cond.status == ConditionTrue)

/- `controllers.ForceAdoptionEnvironmentVariable`, declared outside the modelled sources. -/
variable (ForceAdoptionEnvironmentVariable : String)

/-- `bootstrap`, past the start of the poller goroutine. -/
def bootstrap (runManager : ClientM Unit) : ClientM Unit := do
  setenv ForceAdoptionEnvironmentVariable "1"
  wrap "running manager for self-bootstrap" runManager

def Bootstrap (runManager : ClientM Unit) : ClientM Unit := do
  let _ ← b.init
  let needsBootstrap ← wrap "checking if self-bootstrap is needed" b.needsBootstrap
  if !needsBootstrap then pure () else bootstrap ForceAdoptionEnvironmentVariable runManager

/-- `isPackageAvailable` and `cancelWhenPackageAvailable` of this bootstrapper are the older
bootstrapper's, line for line. -/
def isPackageAvailable : ClientM Bool := Manager.isPackageAvailable

def cancelWhenPackageAvailable (first : World) (doneAtStart : Bool) (wakes : List Manager.Wake) :
    Manager.PollerOutcome :=
  Manager.cancelWhenPackageAvailable first doneAtStart wakes

/-! ## What the bootstrapper decides -/

/-- When the poll's Gets succeed, this bootstrapper's poller and the older one's end alike:
cancel exactly when a poll saw the ClusterPackage available before the poller took the
context's Done, a panic with `ErrWaitTimeout` when it took Done first, and still polling
otherwise. -/
theorem cancelWhenPackageAvailable_in_both (first : World) (doneAtStart : Bool) (wakes : List Manager.Wake)
    (fetched : ∀ w, (w = first ∨ Manager.Wake.tick w ∈ wakes) →
      ∃ pkg, (Client.get (α := ClusterPackage) ⟨"", packageOperatorClusterPackageName⟩ w).1 = .ok pkg) :
    Bootstrapper.cancelWhenPackageAvailable first doneAtStart wakes =
      Manager.cancelWhenPackageAvailable first doneAtStart wakes ∧
    (Manager.cancelWhenPackageAvailable first doneAtStart wakes = .cancelled ↔
      Manager.condition first = .ok true ∨ (doneAtStart = false ∧
        ∃ w rest, wakes.dropWhile Manager.Wake.pending = .tick w :: rest ∧ Manager.condition w = .ok true)) ∧
    (Manager.cancelWhenPackageAvailable first doneAtStart wakes = .panicked Manager.ErrWaitTimeout ↔
      Manager.condition first = .ok false ∧
        (doneAtStart = true ∨ ∃ rest, wakes.dropWhile Manager.Wake.pending = .done :: rest)) ∧
    (Manager.cancelWhenPackageAvailable first doneAtStart wakes = .polling ↔
      Manager.condition first = .ok false ∧ doneAtStart = false ∧
        wakes.dropWhile Manager.Wake.pending = []) :=
  ⟨rfl, Manager.cancelWhenPackageAvailable_outcome first doneAtStart wakes fetched⟩

/-- The self-managed ClusterPackage, created and not yet available. -/
def pendingPackage : ClusterPackage where
  metadata := { name := packageOperatorClusterPackageName }
  spec := { image := "quay.io/package-operator/package-operator-package:v1.1.0" }

def pendingWorld : World :=
  World.reliableOn { Store.empty with clusterPackages := Table.singleton pendingPackage }

/-- The self-managed ClusterPackage once its manager reports it available. -/
def availablePackage : ClusterPackage :=
  { pendingPackage with status := { conditions := [⟨PackageAvailable, ConditionTrue⟩] } }

def availableWorld : World :=
  World.reliableOn { Store.empty with clusterPackages := Table.singleton availablePackage }

/-- The immediate check and the first tick see the ClusterPackage pending, the second tick sees
it available, and the context's Done comes after. -/
theorem cancelWhenPackageAvailable_cancels_on_second_tick :
    (∀ w, (w = pendingWorld ∨ Manager.Wake.tick w ∈ [.tick pendingWorld, .tick availableWorld, .done]) →
      ∃ pkg, (Client.get (α := ClusterPackage) ⟨"", packageOperatorClusterPackageName⟩ w).1 = .ok pkg) ∧
    Bootstrapper.cancelWhenPackageAvailable pendingWorld false [.tick pendingWorld, .tick availableWorld, .done] =
      Manager.cancelWhenPackageAvailable pendingWorld false [.tick pendingWorld, .tick availableWorld, .done] ∧
    (Manager.cancelWhenPackageAvailable pendingWorld false [.tick pendingWorld, .tick availableWorld, .done] =
        .cancelled ↔
      Manager.condition pendingWorld = .ok true ∨ (false = false ∧
        ∃ w rest, [Manager.Wake.tick pendingWorld, .tick availableWorld, .done].dropWhile Manager.Wake.pending =
          .tick w :: rest ∧ Manager.condition w = .ok true)) ∧
    (Manager.cancelWhenPackageAvailable pendingWorld false [.tick pendingWorld, .tick availableWorld, .done] =
        .panicked Manager.ErrWaitTimeout ↔
      Manager.condition pendingWorld = .ok false ∧
        (false = true ∨ ∃ rest, [Manager.Wake.tick pendingWorld, .tick availableWorld, .done].dropWhile
          Manager.Wake.pending = .done :: rest)) ∧
    (Manager.cancelWhenPackageAvailable pendingWorld false [.tick pendingWorld, .tick availableWorld, .done] =
        .polling ↔
      Manager.condition pendingWorld = .ok false ∧ false = false ∧
        [Manager.Wake.tick pendingWorld, .tick availableWorld, .done].dropWhile Manager.Wake.pending = []) :=
  have fetched : ∀ w, (w = pendingWorld ∨ Manager.Wake.tick w ∈ [.tick pendingWorld, .tick availableWorld, .done]) →
      ∃ pkg, (Client.get (α := ClusterPackage) ⟨"", packageOperatorClusterPackageName⟩ w).1 = .ok pkg := by
    rintro w (rfl | member)
    · exact ⟨_, rfl⟩
    · simp at member
      rcases member with rfl | rfl <;> exact ⟨_, rfl⟩
  ⟨fetched, cancelWhenPackageAvailable_in_both pendingWorld false _ fetched⟩

/-- The context is cancelled before the ClusterPackage becomes available, every Get
succeeding: the poll returns `ErrWaitTimeout`, and both pollers panic with it. -/
theorem cancelWhenPackageAvailable_panics_on_cancel :
    (Client.get (α := ClusterPackage) ⟨"", packageOperatorClusterPackageName⟩ pendingWorld).1 = .ok pendingPackage ∧
    Manager.cancelWhenPackageAvailable pendingWorld false [.done] = .panicked Manager.ErrWaitTimeout ∧
    Bootstrapper.cancelWhenPackageAvailable pendingWorld false [.done] = .panicked Manager.ErrWaitTimeout :=
  ⟨rfl, rfl, rfl⟩

/-! ## Against the older bootstrapper's check -/

section Divergence

variable {Files Package : Type} (older : Manager.Bootstrapper Files Package) (DynamicCacheLabel : String)
  (templateSpecFromPackage : Package → ObjectSetTemplateSpec) (ForceAdoptionEnvironmentVariable : String)
  (runManager : ClientM Unit)

end Divergence

end Bootstrapper

end PackageOperator.Bootstrap
