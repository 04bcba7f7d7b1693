import SiteRouting.Admin.Route
import SiteRouting.Admin.Service
import SiteRouting.Admin.View
import SiteRouting.Build
import SiteRouting.CommandLine
import SiteRouting.CommandLine.Arguments
import SiteRouting.Config
import SiteRouting.Config.Loading
import SiteRouting.Config.Reading
import SiteRouting.Config.Validation
import SiteRouting.Config.Writing
import SiteRouting.Content
import SiteRouting.Data.Decimal
import SiteRouting.Data.Json.Record
import SiteRouting.Data.Json.Scan
import SiteRouting.Data.Json.Writer
import SiteRouting.Data.Reading
import SiteRouting.Data.Toml.Definition
import SiteRouting.Data.Toml.Document
import SiteRouting.Data.Toml.QuotedText
import SiteRouting.Data.Toml.Scalar
import SiteRouting.Data.Value
import SiteRouting.Digest.Sha1
import SiteRouting.Digest.Uuid
import SiteRouting.HostName
import SiteRouting.Http.MediaType
import SiteRouting.Http.Message
import SiteRouting.Http.Request
import SiteRouting.Issue
import SiteRouting.Locks
import SiteRouting.Main
import SiteRouting.Manager
import SiteRouting.MatchError
import SiteRouting.Metrics
import SiteRouting.MountIndex
import SiteRouting.Properties
import SiteRouting.Registry
import SiteRouting.Service
import SiteRouting.Shutdown
import SiteRouting.Text.Blank
import SiteRouting.Text.CaseTable
import SiteRouting.Text.Digit
import SiteRouting.Text.Lowercase
import SiteRouting.Text.Numeral
import SiteRouting.Text.Ordered
import SiteRouting.Text.PercentEncoding
import SiteRouting.Text.Segments
import SiteRouting.Text.Utf8
import SiteRouting.Tree
import SiteRouting.Tree.Growth
import SiteRouting.Tree.Walk
import SiteRouting.Url
import SiteRouting.Url.Address
import SiteRouting.Url.Domain
import SiteRouting.Url.DomainTable
import SiteRouting.Url.Punycode
import SiteRouting.Watch
import SiteRouting.Proofs.HostName
import SiteRouting.Proofs.Lookup.Memory
import SiteRouting.Proofs.Build.Outcome
import SiteRouting.Proofs.Lookup.Transparency
import SiteRouting.Proofs.Lookup.Refusal
import SiteRouting.Proofs.Manager.Operation
import SiteRouting.Proofs.Manager.Publication
import SiteRouting.Proofs.Tree.Skeleton
import SiteRouting.Proofs.Tree.Shape
import SiteRouting.Proofs.Tree.Links
import SiteRouting.Proofs.Tree.Ports
import SiteRouting.Proofs.Build.Run
import SiteRouting.Proofs.MountIndex
import SiteRouting.Proofs.Build.WellFormed
import SiteRouting.Proofs.Text.Trimming
import SiteRouting.Proofs.Lookup.AnyPort
import SiteRouting.Proofs.Build.Lineage
import SiteRouting.Proofs.Build.Pruning
import SiteRouting.Proofs.Build.Faults
import SiteRouting.Proofs.Build.Attachment
import SiteRouting.Proofs.Build.TwinBuild
import SiteRouting.Proofs.Build.TwinMounts
import SiteRouting.Proofs.Build.TwinHosts
import SiteRouting.Proofs.Build.Correspondence
import SiteRouting.Proofs.Build.FailSoft
import SiteRouting.Proofs.Build.Inheritance
import SiteRouting.Proofs.Lookup.AliasIndex
import SiteRouting.Proofs.Lookup.Aliases
import SiteRouting.Proofs.Manager.Locking
import SiteRouting.Proofs.Manager.Staleness
import SiteRouting.Proofs.Manager.Coherence
import SiteRouting.Proofs.Service.Reload
import SiteRouting.Proofs.Service.Shutdown
import SiteRouting.Proofs.Admin.History
import SiteRouting.Proofs.Admin.Authorization
import SiteRouting.Proofs.Text.Utf8
import SiteRouting.Proofs.Text.FormEncoding
import SiteRouting.Proofs.Admin.ResolveQuery
import SiteRouting.Proofs.Admin.Resolution
import SiteRouting.Proofs.Build.Reports
import SiteRouting.Proofs.Tree.Names
import SiteRouting.Proofs.Build.Rejection
import SiteRouting.Proofs.Tree.Append
import SiteRouting.Proofs.Build.Appended
import SiteRouting.Proofs.Lookup.Identifiers
import SiteRouting.Proofs.Lookup.Choice
import SiteRouting.Proofs.Lookup.Isolation
import SiteRouting.Proofs.Tree.Labels
import SiteRouting.Proofs.Lookup.LongestSuffix
import SiteRouting.Proofs.Lookup.Metering
import SiteRouting.Proofs.Manager.Metering
import SiteRouting.Proofs.Admin.Metering
import SiteRouting.Proofs.Text.Casing
import SiteRouting.Proofs.Config.Names
import SiteRouting.Proofs.Build.NodeNames
import SiteRouting.Proofs.Lookup.Addressing
import SiteRouting.Proofs.Tree.Paths
import SiteRouting.Proofs.Lookup.IdentifierConflicts
import SiteRouting.Proofs.Lookup.DerivedIdentifiers
import SiteRouting.Proofs.Text.PathText
import SiteRouting.Proofs.Tree.MountWalk
import SiteRouting.Proofs.Lookup.MountMatching
import SiteRouting.Proofs.Lookup.DeclaredOrder
import SiteRouting.Proofs.Lookup.Absorption
import SiteRouting.Proofs.Lookup.MountPaths
import SiteRouting.Proofs.HostGrammar
import SiteRouting.Proofs.Lookup.Capacity
import SiteRouting.Proofs.Lookup.MountTables
import SiteRouting.Proofs.Build.IgnoredValues
import SiteRouting.Proofs.Tree.Restrictions
import SiteRouting.Proofs.Build.CleanedBuild
import SiteRouting.Proofs.Build.CleanedPruning
import SiteRouting.Proofs.Build.LostRestrictions
import SiteRouting.Proofs.Config.Places
import SiteRouting.Proofs.Config.NamePlaces
import SiteRouting.Proofs.Config.Findings
import SiteRouting.Proofs.Build.PropertyRanges
import SiteRouting.Proofs.Admin.OwnKey
import SiteRouting.Proofs.Build.ContentRules
import SiteRouting.Proofs.Build.MountVisits
import SiteRouting.Proofs.Build.PreviewSites
import SiteRouting.Proofs.Tree.Places
import SiteRouting.Proofs.Tree.InPlace
import SiteRouting.Proofs.Tree.AtomicGrowth
import SiteRouting.Proofs.Tree.StoppedWalks
import SiteRouting.Proofs.Lookup.GrowingWalks
