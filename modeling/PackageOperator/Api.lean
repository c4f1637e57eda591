import PackageOperator.Json

/-! The API objects the bootstrapper and the package controller read and write: object
metadata, the package-operator.run kinds, a Deployment's conditions and the objects of a
package template. Only the fields that some modelled function or the store reads are kept. -/

namespace PackageOperator.Api

/-- A Go `int64`: an integer in `[-2^63, 2^63)`, the bounds written out. -/
structure Int64 where
  val : Int
  lower : -9223372036854775808 ≤ val
  upper : val < 9223372036854775808
deriving DecidableEq

namespace Int64

/-- Two's-complement wrap-around into `int64`, as Go's arithmetic does. -/
def ofInt (i : Int) : Int64 :=
  ⟨(i + 9223372036854775808) % 18446744073709551616 - 9223372036854775808, by omega, by omega⟩

instance : OfNat Int64 n := ⟨ofInt n⟩
instance : Add Int64 := ⟨fun a b => ofInt (a.val + b.val)⟩
instance : LT Int64 := ⟨fun a b => a.val < b.val⟩
instance : LE Int64 := ⟨fun a b => a.val ≤ b.val⟩
instance (a b : Int64) : Decidable (a < b) := inferInstanceAs (Decidable (a.val < b.val))
instance (a b : Int64) : Decidable (a ≤ b) := inferInstanceAs (Decidable (a.val ≤ b.val))

theorem val_ofInt_of_range {i : Int} (lower : -9223372036854775808 ≤ i) (upper : i < 9223372036854775808) :
    (ofInt i).val = i := by
  simp only [ofInt]
  omega

@[simp] theorem val_zero : (0 : Int64).val = 0 := rfl
@[simp] theorem val_one : (1 : Int64).val = 1 := rfl

theorem lt_iff (a b : Int64) : a < b ↔ a.val < b.val := Iff.rfl
theorem le_iff (a b : Int64) : a ≤ b ↔ a.val ≤ b.val := Iff.rfl

theorem ext_val {a b : Int64} (same : a.val = b.val) : a = b := by
  cases a; cases b; cases same; rfl

/-- `x + 1` is `x.val + 1` below the maximum, and wraps to the minimum at it. -/
theorem val_add_one (x : Int64) :
    (x + 1).val = if x.val + 1 < 9223372036854775808 then x.val + 1 else -9223372036854775808 := by
  have := x.lower
  have := x.upper
  change (ofInt (x.val + 1)).val = _
  simp only [ofInt]
  split <;> omega

theorem val_add_one_of_lt {x : Int64} (below : x.val + 1 < 9223372036854775808) :
    (x + 1).val = x.val + 1 := by
  rw [val_add_one, if_pos below]

theorem val_add_one_le (x : Int64) : (x + 1).val ≤ x.val + 1 := by
  have := x.lower
  rw [val_add_one]
  split <;> omega

end Int64

/-- `metav1.ObjectMeta`: the fields the code or the store's semantics reads. -/
structure ObjectMeta where
  name : String
  «namespace» : String := ""
  labels : List (String × String) := []
  finalizers : List String := []
  /-- Whether `deletionTimestamp` is set; only `IsZero` of it is ever read. -/
  deletionTimestamp : Bool := false
  resourceVersion : Nat := 0
deriving DecidableEq, Repr

/-- `client.ObjectKey`. -/
structure ObjectKey where
  «namespace» : String
  name : String
deriving DecidableEq, Repr

def ObjectMeta.key (m : ObjectMeta) : ObjectKey := ⟨m.«namespace», m.name⟩

/-- `client.MatchingLabels`: every pair of the selector is among the labels. -/
def matchingLabels (selector labels : List (String × String)) : Bool :=
  selector.all fun (key, value) => labels.lookup key == some value

/-- `metav1.Condition` and `appsv1.DeploymentCondition`, the two fields read of either. -/
structure Condition where
  type : String
  status : String
deriving DecidableEq, Repr

/-- `meta.IsStatusConditionTrue`: the first condition of that type has status `True`. -/
def isStatusConditionTrue (conditions : List Condition) (conditionType : String) : Bool :=
  match conditions.find? (·.type == conditionType) with
  | some condition => condition.status == "True"
  | none => false

structure GroupKind where
  group : String
  kind : String
deriving DecidableEq, Repr

structure GroupVersionKind where
  group : String
  version : String
  kind : String
deriving DecidableEq, Repr

def GroupVersionKind.groupKind (gvk : GroupVersionKind) : GroupKind := ⟨gvk.group, gvk.kind⟩

/-- `PackageSpec`: the image and the configuration, if any, as the API server holds it. -/
structure PackageSpec where
  image : String
  config : Option Json := none
deriving DecidableEq, Repr

/-- The spec as a request body carries it: `json:"image"`, and `json:"config,omitempty"`. -/
def PackageSpec.toJson (spec : PackageSpec) : Json :=
  .object (("image", .string spec.image) :: (spec.config.map fun config => ("config", config)).toList)

structure PackageStatus where
  conditions : List Condition := []
deriving DecidableEq, Repr

structure ClusterPackage where
  metadata : ObjectMeta
  spec : PackageSpec
  status : PackageStatus := {}
deriving DecidableEq, Repr

structure ClusterObjectDeployment where
  metadata : ObjectMeta
deriving DecidableEq, Repr

structure PreviousRevisionReference where
  name : String
deriving DecidableEq, Repr

structure ObjectSetSpec where
  previous : List PreviousRevisionReference := []
deriving DecidableEq, Repr

def ObjectSetStatusPhasePending : String := "Pending"

structure ObjectSetStatus where
  phase : String := ""
  revision : Int64 := 0
deriving DecidableEq

structure ClusterObjectSet where
  metadata : ObjectMeta
  spec : ObjectSetSpec := {}
  status : ObjectSetStatus := {}
deriving DecidableEq

structure DeploymentStatus where
  conditions : List Condition := []
deriving DecidableEq, Repr

/-- `appsv1.Deployment`. -/
structure Deployment where
  metadata : ObjectMeta
  status : DeploymentStatus := {}
deriving DecidableEq, Repr

/-- `unstructured.Unstructured`, with its `apiVersion` already parsed into group and version. -/
structure Unstructured where
  gvk : GroupVersionKind
  metadata : ObjectMeta
deriving DecidableEq, Repr

structure ObjectSetObject where
  object : Unstructured
deriving DecidableEq, Repr

structure ObjectSetTemplatePhase where
  name : String
  objects : List ObjectSetObject := []
deriving DecidableEq, Repr

structure ObjectSetTemplateSpec where
  phases : List ObjectSetTemplatePhase := []
deriving DecidableEq, Repr

/-- `appsv1.DeploymentAvailable`, `corev1.ConditionFalse`, `corev1.ConditionTrue` and
`corev1alpha1.PackageAvailable`. -/
def DeploymentAvailable : String := "Available"

def ConditionFalse : String := "False"

def ConditionTrue : String := "True"

def PackageAvailable : String := "Available"

def packageOperatorClusterPackageName : String := "package-operator"

def pkoConfigEnvVar : String := "PKO_CONFIG"

end PackageOperator.Api
