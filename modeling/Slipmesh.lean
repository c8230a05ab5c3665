import Slipmesh.Library.Dyadic
import Slipmesh.Library.Numeral
import Slipmesh.Net
import Slipmesh.Proofs.NetText
import Slipmesh.Common.Cidr
import Slipmesh.Library.Ordered
import Slipmesh.Router.Cidr
import Slipmesh.Common.Config
import Slipmesh.Router.Config
import Slipmesh.Router.Resolver
import Slipmesh.Proofs.CidrBlocks
import Slipmesh.Proofs.Exclusion
import Slipmesh.Proofs.Collapse
import Slipmesh.Proofs.NormalForm
import Slipmesh.Proofs.CidrText
import Slipmesh.Proofs.Aggregation
import Slipmesh.Proofs.Bypass
import Slipmesh.Library.Runs
import Slipmesh.Library.Guard
import Slipmesh.Awg.Config
import Slipmesh.Awg.Handshake
import Slipmesh.Proofs.AwgConfig
import Slipmesh.Proofs.Reconcile
import Slipmesh.Proofs.Routes
import Slipmesh.Library.Lines
import Slipmesh.Text
import Slipmesh.Router.Bird
import Slipmesh.Proofs.BirdReload
import Slipmesh.Library.Base64
import Slipmesh.Common.Keys
import Slipmesh.Taloscfg.MeshConfig
import Slipmesh.Taloscfg.Addressing
import Slipmesh.Taloscfg.Keys
import Slipmesh.Taloscfg.ObfuscationGen
import Slipmesh.Taloscfg.Secrets
import Slipmesh.Taloscfg.Render
import Slipmesh.Proofs.Topology
import Slipmesh.Awg.Interface
import Slipmesh.Proofs.Loopbacks
import Slipmesh.Proofs.Peers
import Slipmesh.Library.Positions
import Slipmesh.Taloscfg.Edit
import Slipmesh.Proofs.Secrets
import Slipmesh.Proofs.Links
import Slipmesh.Library.IndexMap
import Slipmesh.Taloscfg.Merge
import Slipmesh.Taloscfg.SlipmeshFile
import Slipmesh.Proofs.Merge
import Slipmesh.Taloscfg.Defaults
import Slipmesh.Proofs.Defaults
import Slipmesh.Taloscfg.PatchFile
import Slipmesh.Proofs.Generate
import Slipmesh.Proofs.Ports
import Slipmesh.Proofs.Connected
import Slipmesh.Proofs.Overlays
import Slipmesh.Proofs.Settlements
import Slipmesh.Taloscfg.Roadwarrior
import Slipmesh.Proofs.Endpoints
import Slipmesh.Proofs.Roadwarriors
import Slipmesh.Proofs.ClientFields
import Slipmesh.Proofs.TunnelAddresses
import Slipmesh.Router.BirdConf
import Slipmesh.Proofs.BirdConf
import Slipmesh.Proofs.Sessions
import Slipmesh.Proofs.Prefixes
import Slipmesh.Proofs.Lexical
import Slipmesh.Proofs.BirdFile
import Slipmesh.Proofs.Resolution
import Slipmesh.Proofs.PatchFile
import Slipmesh.Common.Netlink
import Slipmesh.Awg.Identity
import Slipmesh.Proofs.Identity
import Slipmesh.Proofs.DecodableKeys
import Slipmesh.Awg.Daemon
import Slipmesh.Proofs.HeaderProtection
import Slipmesh.Proofs.Templates
import Slipmesh.Nftables.Ruleset
import Slipmesh.Nftables.Grammar
import Slipmesh.Proofs.RulesetScan
import Slipmesh.Proofs.Reapply
import Slipmesh.Router.CidrPair
import Slipmesh.Proofs.Carving
import Slipmesh.Awg.Wire
import Slipmesh.Proofs.PeerDiff
import Slipmesh.Proofs.Dumps
import Slipmesh.Proofs.Isolation
import Slipmesh.Proofs.Obfuscations
import Slipmesh.Library.MergePatch
import Slipmesh.Proofs.MergePatch
import Slipmesh.Library.Utf8
import Slipmesh.Router.Birdc
import Slipmesh.Proofs.Birdc
import Slipmesh.Proofs.Labels
import Slipmesh.Proofs.HostBits
import Slipmesh.Router.Refresh
import Slipmesh.Proofs.Refresh
import Slipmesh.Common.Rt
import Slipmesh.Proofs.ReadBack
import Slipmesh.Awg.Metrics
import Slipmesh.Proofs.Metrics
import Slipmesh.Proofs.AddedClient
import Slipmesh.Proofs.Lookups
import Slipmesh.Library.Program
import Slipmesh.Host
import Slipmesh.Common.Links
import Slipmesh.Awg.Startup
import Slipmesh.Router.Loopback
import Slipmesh.Proofs.NodeLinks
import Slipmesh.Proofs.Startup
import Slipmesh.Proofs.Starts
import Slipmesh.Proofs.StartRuns
import Slipmesh.Proofs.SideBySide
import Slipmesh.Proofs.DeployedLinks
import Slipmesh.Library.Tasks
import Slipmesh.Router.Tasks
import Slipmesh.Proofs.RouterTasks
import Slipmesh.Taloscfg.Overlay
import Slipmesh.Taloscfg.Commands
import Slipmesh.Proofs.Edits
import Slipmesh.Proofs.Registry
import Slipmesh.Proofs.Commands
import Slipmesh.Proofs.CommandRuns
import Slipmesh.Router.Startup
import Slipmesh.Proofs.RouterStart
