import Scoreboard.Binary64.Bits
import Scoreboard.Html.Report
import Scoreboard.Logger
import Scoreboard.Proofs.Fractions
import Scoreboard.Proofs.ShownProgress
import Scoreboard.Proofs.MergedTallies
import Scoreboard.Proofs.HelperOrder
import Scoreboard.Proofs.FixedTexts
import Scoreboard.Proofs.ArrivalOrder
import Scoreboard.Proofs.PlainTexts
import Scoreboard.Proofs.Refusals
import Scoreboard.Proofs.MissingCells
import Scoreboard.Proofs.Agreement
import Scoreboard.Proofs.Rereading
import Scoreboard.Proofs.SolvedFigures
import Scoreboard.Proofs.ShownOrder
import Scoreboard.Proofs.HelperPlaces
import Scoreboard.Proofs.ShownTexts
import Scoreboard.Proofs.TableCells
import Scoreboard.Proofs.HalfEven
import Scoreboard.Proofs.TextNumbers
import Scoreboard.Proofs.LoneItems
import Scoreboard.Proofs.RefusedTallies
import Scoreboard.Proofs.ShownWholeNumbers
import Scoreboard.Proofs.VanishingNumbers
import Scoreboard.Proofs.PrecisionLimit
import Scoreboard.Proofs.LocaleExchange
import Scoreboard.Proofs.ReadTables
import Scoreboard.Proofs.Maxima
import Scoreboard.Proofs.BarScales
import Scoreboard.Proofs.IncompleteCounts
import Scoreboard.Proofs.TileFractions
import Scoreboard.Proofs.FailureReports
import Scoreboard.Proofs.LoggerSetup
import Scoreboard.Proofs.SortedHelpers
