import CatalogTypes.Generate
import CatalogTypes.Service.CommandLine
import CatalogTypes.Service.Exchange
import CatalogTypes.Main
import CatalogTypes.Proofs.Inventory
import CatalogTypes.Proofs.FieldTypes
import CatalogTypes.Proofs.FreshNames
import CatalogTypes.Proofs.Blocks
import CatalogTypes.Proofs.DistinctNames
import CatalogTypes.Proofs.Nullability
import CatalogTypes.Proofs.Fields
import CatalogTypes.Proofs.Findings
import CatalogTypes.Proofs.Fallbacks
import CatalogTypes.Proofs.Accounting
import CatalogTypes.Proofs.InputOrder
import CatalogTypes.Proofs.OtherSchemas
import CatalogTypes.Proofs.Agreement
import CatalogTypes.Proofs.GivenNames
import CatalogTypes.Proofs.Literals
import CatalogTypes.Proofs.LineFeeds
import CatalogTypes.Proofs.Lines
import CatalogTypes.Proofs.Outline
import CatalogTypes.Proofs.PlainTexts
import CatalogTypes.Proofs.LiteralLines
import CatalogTypes.Proofs.WireValues
import CatalogTypes.Proofs.References
import CatalogTypes.Proofs.Cycles
import CatalogTypes.Proofs.ValueTypes
import CatalogTypes.Proofs.Captures
import CatalogTypes.Proofs.Readings
import CatalogTypes.Proofs.Recasts
import CatalogTypes.Proofs.RoundTrips
import CatalogTypes.Proofs.Tags
import CatalogTypes.Proofs.Routes
import CatalogTypes.Proofs.Replies
import CatalogTypes.Proofs.Outcomes
import CatalogTypes.Proofs.Exclusions
import CatalogTypes.Proofs.ArrayMarkers
import CatalogTypes.Proofs.NamedTypes
import CatalogTypes.Proofs.Scans
import CatalogTypes.Proofs.RawKeys
import CatalogTypes.Proofs.FirstFree
import CatalogTypes.Proofs.FirstCharacters
import CatalogTypes.Proofs.Identifiers
import CatalogTypes.Proofs.Numerals
import CatalogTypes.Proofs.Exported
import CatalogTypes.Proofs.Settings
import CatalogTypes.Proofs.Unambiguous
import CatalogTypes.Proofs.Narrowing
import CatalogTypes.Proofs.Alignment
import CatalogTypes.Proofs.Breakdowns
import CatalogTypes.Proofs.Collecting
import CatalogTypes.Proofs.Indentation
import CatalogTypes.Proofs.Recursion
