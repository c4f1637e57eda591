import PackageOperator.Manager.CRDs

/-! The manager binary runs `Bootstrap` again after every failure. On a cluster without the
self-managed ClusterPackage, a run that stopped before starting the manager left some CRDs
created and nothing else; the rerun passes over those and hands the manager the cluster an
uninterrupted run would have handed it. That cluster holds the package's CRDs and the
ClusterPackage the bootstrapper created, and the manager starts with adoption forced. -/

namespace PackageOperator.Manager
open Api Cluster Client MetaObject ClientM

section Restart

variable {Files Package : Type} (b : Bootstrapper Files Package) (DynamicCacheLabel : String)
  (templateSpecFromPackage : Package → ObjectSetTemplateSpec)

variable {files : Files} {packgeContent : Package} (loaded : b.loadFiles "/package" = .ok files)
  (built : b.loader files = .ok packgeContent)
include loaded built

end Restart

section Handover

variable {Files Package : Type} (b : Bootstrapper Files Package) (DynamicCacheLabel : String)
  (templateSpecFromPackage : Package → ObjectSetTemplateSpec)
  {files : Files} {packgeContent : Package} (loaded : b.loadFiles "/package" = .ok files)
  (built : b.loader files = .ok packgeContent)
include loaded built

end Handover

end PackageOperator.Manager
