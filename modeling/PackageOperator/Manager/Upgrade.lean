import PackageOperator.Manager.Bootstrap
import PackageOperator.Manager.RevisionOrder

/-! `Bootstrap` on a cluster where the self-managed ClusterPackage is installed and its manager
is running: no cleanup is needed, so the call repairs the ObjectSets' revisions and patches the
ClusterPackage to the bootstrapper's image. This is the upgrade path of every restart. -/

namespace PackageOperator.Manager
open Api Cluster Client MetaObject ClientM

section Installed

variable {Files Package : Type} (b : Bootstrapper Files Package) (DynamicCacheLabel : String)
  (templateSpecFromPackage : Package → ObjectSetTemplateSpec)

end Installed

end PackageOperator.Manager
