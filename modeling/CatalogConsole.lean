import CatalogConsole.Main
import CatalogConsole.Service.Desk
import CatalogConsole.Proofs.ClientLink
import CatalogConsole.Proofs.ClientConstruction
import CatalogConsole.Proofs.CommandStages
import CatalogConsole.Proofs.FailureReports
import CatalogConsole.Proofs.RunClassification
import CatalogConsole.Proofs.ListingStream
import CatalogConsole.Proofs.ListingTurns
import CatalogConsole.Proofs.OneCall
import CatalogConsole.Proofs.Gates
import CatalogConsole.Proofs.FailurePoints
import CatalogConsole.Proofs.LazyConnection
import CatalogConsole.Proofs.FailedOutput
import CatalogConsole.Proofs.PlainTimes
import CatalogConsole.Proofs.Diagnostics
import CatalogConsole.Proofs.EffectiveSettings
import CatalogConsole.Proofs.NormalizedFailures
import CatalogConsole.Proofs.PathIdentity
import CatalogConsole.Proofs.TimeRepresentations
import CatalogConsole.Proofs.RegistryHistory
import CatalogConsole.Proofs.CommandReach
import CatalogConsole.Proofs.ArgumentResolution
import CatalogConsole.Proofs.DividedText
import CatalogConsole.Proofs.Spellings
import CatalogConsole.Proofs.ListingText
import CatalogConsole.Proofs.LeadingFlags
import CatalogConsole.Proofs.LastSegment
import CatalogConsole.Proofs.LogHistory
import CatalogConsole.Proofs.Numerals
import CatalogConsole.Proofs.IntegerValues
