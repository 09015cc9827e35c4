import CodeAssistant.Command.Surroundings
import CodeAssistant.Main
import CodeAssistant.Proofs.Generation.Padding
import CodeAssistant.Proofs.Quality.Renderings
import CodeAssistant.Proofs.Quality.LetterCase
import CodeAssistant.Proofs.Quality.Growth
import CodeAssistant.Proofs.Quality.Insertion
import CodeAssistant.Proofs.Service.Backends
import CodeAssistant.Service.Deployment
import CodeAssistant.Proofs.Service.Routes
import CodeAssistant.Proofs.Json.Reading
import CodeAssistant.Proofs.Wire.Generation
import CodeAssistant.Proofs.Service.Offline
import CodeAssistant.Proofs.Service.Omission
import CodeAssistant.Proofs.Command.Agreement
import CodeAssistant.Proofs.Command.Documents
import CodeAssistant.Proofs.Wire.RoundTrip
import CodeAssistant.Proofs.Text.Rejoining
import CodeAssistant.Proofs.Generation.CodeStubs
import CodeAssistant.Proofs.Generation.ReferenceCode
import CodeAssistant.Proofs.Calendar.Succession
import CodeAssistant.Proofs.Text.Precedence
import CodeAssistant.Proofs.Text.SmallLetters
import CodeAssistant.Proofs.Calendar.Stamps
import CodeAssistant.Proofs.Generation.NameBases
import CodeAssistant.Proofs.Quality.MetricTable
import CodeAssistant.Proofs.Command.ServerAddress
import CodeAssistant.Proofs.Service.OriginLists
import CodeAssistant.Proofs.Service.Settings
import CodeAssistant.Proofs.Quality.BranchingBound
import CodeAssistant.Proofs.Quality.Alignment
import CodeAssistant.Proofs.Quality.SizeBands
