import RoofTrace.Effects.Logic
import RoofTrace.Deliveries.TerminalStatus
import RoofTrace.Deliveries.RetryProtocol
import RoofTrace.Capture.Gravity
import RoofTrace.Capture.CameraPose
import RoofTrace.Deliveries.ArtifactKeys
import RoofTrace.Boundary.Responses
import RoofTrace.Boundary.Crs
import RoofTrace.Deliveries.MeasurementFacets
import RoofTrace.Deliveries.OverlayTransforms
import RoofTrace.Deliveries.SessionSettlement
import RoofTrace.Deliveries.ProjectionReruns
import RoofTrace.Rails.PipelineRun
import RoofTrace.Deliveries.StageWarnings
import RoofTrace.Deliveries.TransportFailures
import RoofTrace.Deliveries.DetectionCache
import RoofTrace.Deliveries.ManifestSoundness
import RoofTrace.Deliveries.MeasurementReuse
import RoofTrace.Deliveries.Progress
import RoofTrace.Viewer.PitchColours
import RoofTrace.Sidecar.LidarCandidates
import RoofTrace.Deliveries.WarningUpdates
import RoofTrace.Capture.DepthMapEncoder
import RoofTrace.Capture.UploadRecovery
import RoofTrace.Capture.OriginFix
import RoofTrace.Sidecar.ParcelDegradation
import RoofTrace.Sidecar.CoplanarMerge
import RoofTrace.Sidecar.FacetAreas
import RoofTrace.Sidecar.OverlayPrimitives
import RoofTrace.Sidecar.Quadkeys
import RoofTrace.Sidecar.MaskStrips
import RoofTrace.Capture.DepthRange
import RoofTrace.Capture.MultipartUploader
import RoofTrace.Sidecar.SupportClusters
import RoofTrace.Rails.SpacesUploader
import RoofTrace.Deliveries.PoseConfidenceGate
import RoofTrace.Sidecar.SeamCuts
import RoofTrace.Sidecar.PartitionSymmetry
import RoofTrace.Sidecar.FacetOverlaps
import RoofTrace.Sidecar.MsFootprints
import RoofTrace.Sidecar.ResolveRuns
import RoofTrace.Sidecar.PlaneExtraction
import RoofTrace.Rails.ShareLinks
import RoofTrace.Deliveries.FusedRows
import RoofTrace.Deliveries.StoredRows
import RoofTrace.Sidecar.PhotoVisibility
import RoofTrace.Rails.ReportPdf
import RoofTrace.Phone.AppRouter
import RoofTrace.Phone.AddressEntry
import RoofTrace.Phone.SignIn
import RoofTrace.Viewer.Elevation
import RoofTrace.Export.RoofProjection
import RoofTrace.Deliveries.ViewerHeights
