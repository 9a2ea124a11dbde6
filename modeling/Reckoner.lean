import Reckoner.Token.Rendering
import Reckoner.Main
import Reckoner.Proofs.SessionHistory
import Reckoner.Proofs.CarriedResult
import Reckoner.Proofs.SessionExpression
import Reckoner.Proofs.EqualParts
import Reckoner.Proofs.Clash
import Reckoner.Proofs.TypedLine
import Reckoner.Proofs.RenderedTokens
import Reckoner.Proofs.StrandedNumber
import Reckoner.Proofs.WritableSession
import Reckoner.Proofs.NestingLimit
import Reckoner.Proofs.HistoryIndependence
import Reckoner.Proofs.SplitLine
import Reckoner.Proofs.EnvironmentLimits
import Reckoner.Proofs.Completion
import Reckoner.Proofs.OptionLimits
import Reckoner.Proofs.FirstFlaw
import Reckoner.Proofs.JoinedTexts
import Reckoner.Proofs.SharedAlphabet
import Reckoner.Proofs.Conversation
import Reckoner.Proofs.LongestPart
import Reckoner.Proofs.DisplayedText
import Reckoner.Proofs.Lookahead
import Reckoner.Proofs.DescentAgreement
import Reckoner.Proofs.DescentRun
