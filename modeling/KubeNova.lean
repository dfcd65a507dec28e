import KubeNova.Workloads.WorkspaceAgreement
import KubeNova.Workloads.WorkspaceSpec
import KubeNova.Workloads.WorkspaceValidation
import KubeNova.Workloads.WorkspaceRequest
import KubeNova.Clusters.RegistryListing
import KubeNova.Clusters.ClusterRegistry
import KubeNova.Workloads.SpecFidelity
import KubeNova.Workloads.WorkloadCreation
import KubeNova.Foundation.JsContainment
import KubeNova.Update.BackupContainment
import KubeNova.Update.BackupLocations
import KubeNova.Foundation.PosixPath
import KubeNova.Topology.LayoutCache
import KubeNova.Topology.DrawnOnce
import KubeNova.Topology.ContainerRelations
import KubeNova.Editor.UploadSafety
import KubeNova.Editor.SecretFiles
import KubeNova.Editor.DraftSafety
import KubeNova.Clusters.QuantityReading
import KubeNova.Workloads.ConvergenceTruth
import KubeNova.Navigation.ReturnTargets
import KubeNova.Assistant.ApprovalSafety
import KubeNova.Auth.RotationSafety
import KubeNova.Auth.SecondFactor
import KubeNova.Auth.SecretCoding
import KubeNova.Auth.SessionAssurance
import KubeNova.Update.ImageUpdate
import KubeNova.Update.TaskQueueSafety
import KubeNova.Update.WorkerSafety
import KubeNova.Users.Administrators
import KubeNova.Users.LoginNames
import KubeNova.Monitoring.IngestionSafety
import KubeNova.Monitoring.NotificationPayload
import KubeNova.Monitoring.NotificationScheduler
import KubeNova.Topology.NewestReplicaSet
import KubeNova.Clusters.HealthPages
import KubeNova.Update.DatabaseConnection
import KubeNova.Editor.ResourceChanges
import KubeNova.Editor.RebaseMerge
import KubeNova.Topology.ServiceRoutes
import KubeNova.Runtime.LogStreamExact
import KubeNova.Native.ReconcileOrder
import KubeNova.Native.SettingsSafety
import KubeNova.Native.Transport
import KubeNova.Clusters.SyncExact
import KubeNova.Clusters.SyncFreshness
import KubeNova.Helm.StoreSafety
import KubeNova.Update.PreflightSettings
import KubeNova.Update.Executors
import KubeNova.Users.AuthzVersions
import KubeNova.Configs.RevisionHistory
import KubeNova.Configs.MutationSafety
import KubeNova.Inventory.DisabledState
import KubeNova.Access.DecisionValidity
import KubeNova.Access.Discovery
import KubeNova.Access.ClusterRoles
import KubeNova.Autoscaling.ScopeSafety
import KubeNova.Update.RetentionSafety
import KubeNova.Update.RetentionRule
import KubeNova.Update.InstallTargets
import KubeNova.Update.ReleaseManifest
import KubeNova.Update.SettingsRoundTrip
import KubeNova.Update.SignedTasks
import KubeNova.Runtime.TerminalDelivery
import KubeNova.Runtime.TerminalOutput
import KubeNova.Runtime.TokenAgreement
import KubeNova.Runtime.LogsSocketSafety
import KubeNova.Resources.DocumentSplitting
import KubeNova.Resources.WriteTargets
import KubeNova.Resources.EditorBatch
import KubeNova.Auth.LoginLimits
import KubeNova.Runtime.LeaseSafety
import KubeNova.Auth.OidcLogin
