import BenchDepot.Compaction
import BenchDepot.Http.Router
import BenchDepot.Main
import BenchDepot.Proofs.AdHocText
import BenchDepot.Proofs.Admission
import BenchDepot.Proofs.Cooldown
import BenchDepot.Proofs.Delivery
import BenchDepot.Proofs.Records
import BenchDepot.Proofs.Surface
import BenchDepot.Proofs.StoredTexts
import BenchDepot.Proofs.Conservation
import BenchDepot.Proofs.Rebuilds
import BenchDepot.Proofs.Published
import BenchDepot.Proofs.Confinement
import BenchDepot.Proofs.WireFormats
import BenchDepot.Proofs.PartialSettings
import BenchDepot.Proofs.AdHocSpellings
import BenchDepot.Proofs.Rereading
import BenchDepot.Proofs.LabelOrder
import BenchDepot.Proofs.Validation
import BenchDepot.Proofs.KeyGrammar
import BenchDepot.Proofs.Staleness
import BenchDepot.Proofs.Prewarming
import BenchDepot.Proofs.Schedule
import BenchDepot.Proofs.LiveKeys
import BenchDepot.Proofs.Requirements
import BenchDepot.Proofs.Descriptions
import BenchDepot.Proofs.Calendar
import BenchDepot.Proofs.HttpDates
