import SchemaBindings.Main
import SchemaBindings.Json.Reader
import SchemaBindings.Proofs.Script.Zones
import SchemaBindings.Proofs.Script.RowValues
import SchemaBindings.Proofs.Reference.Resolving
import SchemaBindings.Proofs.Schema.BlockLines
import SchemaBindings.Proofs.Schema.ColumnLayout
import SchemaBindings.Proofs.Schema.ColumnRoundTrip
import SchemaBindings.Proofs.Schema.KeyRoundTrip
import SchemaBindings.Proofs.Schema.MergeText
import SchemaBindings.Proofs.Schema.SeedRoundTrip
import SchemaBindings.Proofs.Schema.TableRoundTrip
import SchemaBindings.Proofs.Schema.TruncatedSeed
import SchemaBindings.Proofs.Schema.TruncatedTable
import SchemaBindings.Proofs.Code.EnumMembers
import SchemaBindings.Proofs.Batch.AddedTable
import SchemaBindings.Proofs.Batch.CachedReading
import SchemaBindings.Proofs.Batch.ManifestReading
import SchemaBindings.Proofs.Batch.NavigationTargets
import SchemaBindings.Proofs.Batch.ReadAccount
import SchemaBindings.Proofs.Batch.SafeFileNames
import SchemaBindings.Proofs.Batch.SecondRun
import SchemaBindings.Proofs.Batch.SourceOrder
import SchemaBindings.Proofs.Schema.FollowingText
import SchemaBindings.Proofs.Batch.Stopping
import SchemaBindings.Proofs.Files.ExactDiscovery
import SchemaBindings.Proofs.Files.NulCharacters
import SchemaBindings.Proofs.Batch.PartialOutput
import SchemaBindings.Proofs.Reference.IgnoringCase
import SchemaBindings.Proofs.Schema.LiteralText
import SchemaBindings.Proofs.Script.RowWidth
import SchemaBindings.Proofs.Code.LookupKey
import SchemaBindings.Proofs.Code.DisplayNames
import SchemaBindings.Proofs.Code.NullCells
import SchemaBindings.Proofs.Files.Rewriting
import SchemaBindings.Proofs.Code.DistinctMembers
import SchemaBindings.Proofs.Code.ConstructorBody
import SchemaBindings.Proofs.Settings.Revalidation
import SchemaBindings.Proofs.Schema.WellFormedTables
import SchemaBindings.Proofs.Code.EnumEntries
import SchemaBindings.Proofs.Script.Lexemes
import SchemaBindings.Proofs.Script.MaskedParentheses
import SchemaBindings.Proofs.Script.QuotedSpans
import SchemaBindings.Proofs.Script.SeedSearches
