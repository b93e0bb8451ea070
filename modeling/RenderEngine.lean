import RenderEngine.Ports.ApiKeys
import RenderEngine.Ports.AttestationRelay
import RenderEngine.Ports.AuditHtml
import RenderEngine.Ports.AuditPanel
import RenderEngine.Ports.AuditPipeline
import RenderEngine.Ports.AuditTemplate
import RenderEngine.Ports.Auth
import RenderEngine.Ports.Base64url
import RenderEngine.Ports.BaseCell
import RenderEngine.Ports.CanonicalJson
import RenderEngine.Ports.CanonicalTime
import RenderEngine.Ports.CellLayer
import RenderEngine.Ports.ConcurrentReads
import RenderEngine.Ports.CoreTypes
import RenderEngine.Ports.DemoLimit
import RenderEngine.Ports.EpochChain
import RenderEngine.Ports.EscapeHtml
import RenderEngine.Ports.H3Text
import RenderEngine.Ports.HexDecode
import RenderEngine.Ports.HttpServer
import RenderEngine.Ports.JavaScript
import RenderEngine.Ports.JavaScriptJson
import RenderEngine.Ports.LabAcceptance
import RenderEngine.Ports.LabAnchor
import RenderEngine.Ports.LabClient
import RenderEngine.Ports.LabDelegation
import RenderEngine.Ports.LabListing
import RenderEngine.Ports.LabPipeline
import RenderEngine.Ports.LabVerdict
import RenderEngine.Ports.LabVerify
import RenderEngine.Ports.LimiterBounds
import RenderEngine.Ports.Mcp
import RenderEngine.Ports.McpDispatch
import RenderEngine.Ports.McpHandler
import RenderEngine.Ports.MerkleProof
import RenderEngine.Ports.NumberText
import RenderEngine.Ports.OauthTokens
import RenderEngine.Ports.OfflineVerify
import RenderEngine.Ports.OperatorNames
import RenderEngine.Ports.PostgresClient
import RenderEngine.Ports.ProofVerifiers
import RenderEngine.Ports.QueryArguments
import RenderEngine.Ports.QueryPredictions
import RenderEngine.Ports.RateLimit
import RenderEngine.Ports.RegionQuery
import RenderEngine.Ports.RegistryBuild
import RenderEngine.Ports.RenderTools
import RenderEngine.Ports.RequestText
import RenderEngine.Ports.RingCount
import RenderEngine.Ports.RpcClient
import RenderEngine.Ports.RustStd
import RenderEngine.Ports.Schema
import RenderEngine.Ports.SealedEpochs
import RenderEngine.Ports.SeedOps
import RenderEngine.Ports.SeedResume
import RenderEngine.Ports.SeedSubstations
import RenderEngine.Ports.SeedWriter
import RenderEngine.Ports.Serde
import RenderEngine.Ports.SerdeNumber
import RenderEngine.Ports.SerdeValue
import RenderEngine.Ports.ServerConfig
import RenderEngine.Ports.SignedPreimage
import RenderEngine.Ports.TenantIsolation
import RenderEngine.Ports.TenantSessions
import RenderEngine.Ports.TextEncoding
import RenderEngine.Ports.ToolInputs
import RenderEngine.Ports.TwinOverlay
import RenderEngine.Ports.TwinSection
import RenderEngine.Ports.TwinSeverity
import RenderEngine.Ports.TypedClient
import RenderEngine.Ports.VerifyAttestation
import RenderEngine.Ports.ViewportCells
import RenderEngine.Ports.ViewportLabel
import RenderEngine.Ports.WireText
import RenderEngine.Ports.WireTypes
import RenderEngine.Verified.BoundSelect
import RenderEngine.Verified.Calendar
import RenderEngine.Verified.DiffBits
import RenderEngine.Verified.Doubles
import RenderEngine.Verified.Fallible
import RenderEngine.Verified.FirstPerKey
import RenderEngine.Verified.FixedWindow
import RenderEngine.Verified.FullTree
import RenderEngine.Verified.HtmlTokens
import RenderEngine.Verified.JsonGrammar
import RenderEngine.Verified.JsonSpelling
import RenderEngine.Verified.JsonTranslate
import RenderEngine.Verified.KeyedRows
import RenderEngine.Verified.Numerals
import RenderEngine.Verified.PairTree
import RenderEngine.Verified.RowQueries
import RenderEngine.Verified.RunCost
import RenderEngine.Verified.SortedMap
import RenderEngine.Verified.StepRun
