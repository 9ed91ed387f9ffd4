import BuildLedger.Main
import BuildLedger.Proofs.AlignedTables
import BuildLedger.Proofs.AtomicWrite
import BuildLedger.Proofs.CalendarReach
import BuildLedger.Proofs.CarriedTrees
import BuildLedger.Proofs.CivilDates
import BuildLedger.Proofs.Conversation
import BuildLedger.Proofs.Deeds
import BuildLedger.Proofs.DistinctUploads
import BuildLedger.Proofs.ExactCollection
import BuildLedger.Proofs.Exchanges
import BuildLedger.Proofs.FileEffects
import BuildLedger.Proofs.FileUpdates
import BuildLedger.Proofs.FilteredUnion
import BuildLedger.Proofs.GlobLanguage
import BuildLedger.Proofs.GrowingPaths
import BuildLedger.Proofs.HashedReads
import BuildLedger.Proofs.JsonGrammar
import BuildLedger.Proofs.JsonPrinting
import BuildLedger.Proofs.JsonRoundTrip
import BuildLedger.Proofs.JsonTokens
import BuildLedger.Proofs.JsonVariants
import BuildLedger.Proofs.LawfulCodecs
import BuildLedger.Proofs.ListedUploads
import BuildLedger.Proofs.LocalOverrides
import BuildLedger.Proofs.ManifestCoverage
import BuildLedger.Proofs.ManifestRoundTrip
import BuildLedger.Proofs.MatchingDisks
import BuildLedger.Proofs.MatrixParameters
import BuildLedger.Proofs.PatternGrouping
import BuildLedger.Proofs.PercentCodec
import BuildLedger.Proofs.PlannedHost
import BuildLedger.Proofs.PlannedProducts
import BuildLedger.Proofs.PlannedRun
import BuildLedger.Proofs.RecordProperties
import BuildLedger.Proofs.RecordRoundTrip
import BuildLedger.Proofs.RecordVariants
import BuildLedger.Proofs.RefusedSettings
import BuildLedger.Proofs.RegisteredUnits
import BuildLedger.Proofs.RegistrationOrder
import BuildLedger.Proofs.RepeatedAttempts
import BuildLedger.Proofs.RequestOutcomes
import BuildLedger.Proofs.RetentionDates
import BuildLedger.Proofs.SavedFiles
import BuildLedger.Proofs.SettingsRoundTrip
import BuildLedger.Proofs.SettledPaths
import BuildLedger.Proofs.SharedNames
import BuildLedger.Proofs.SingleLastUnit
import BuildLedger.Proofs.SinglePublication
import BuildLedger.Proofs.Splitting
import BuildLedger.Proofs.StartedText
import BuildLedger.Proofs.TableLookup
import BuildLedger.Proofs.TolerantCodecs
import BuildLedger.Proofs.TrackerHistory
import BuildLedger.Proofs.UntimedWorlds
import BuildLedger.Proofs.UntouchedFiles
import BuildLedger.Proofs.UploadLocations
import BuildLedger.Proofs.UploadTargets
import BuildLedger.Proofs.UploadedBatch
import BuildLedger.Proofs.WiderStars
