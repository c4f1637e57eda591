import PackageOperator.Json
import PackageOperator.Api
import PackageOperator.Cluster
import PackageOperator.Client
import PackageOperator.Manager.Revisions
import PackageOperator.Manager.RevisionOrder
import PackageOperator.Manager.Cleanup
import PackageOperator.Manager.Bootstrap
import PackageOperator.Manager.Footprint
import PackageOperator.Manager.CRDs
import PackageOperator.Manager.Poll
import PackageOperator.Manager.Upgrade
import PackageOperator.Manager.Restart
import PackageOperator.Manager.Recovery
import PackageOperator.Bootstrap.Bootstrapper
import PackageOperator.Bootstrap.Window
import PackageOperator.Controllers.Packages
