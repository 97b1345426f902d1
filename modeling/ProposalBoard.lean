import ProposalBoard.Board
import ProposalBoard.Board.Row
import ProposalBoard.CommandLine
import ProposalBoard.Config
import ProposalBoard.Correlation
import ProposalBoard.Countdown
import ProposalBoard.Decimal.Layout
import ProposalBoard.Decimal.Shortest
import ProposalBoard.Disk
import ProposalBoard.Disk.Device
import ProposalBoard.DisplayStatus
import ProposalBoard.DisplayStatus.Resolution
import ProposalBoard.Error
import ProposalBoard.Json.Basic
import ProposalBoard.Json.Number
import ProposalBoard.Json.Printer
import ProposalBoard.Json.Reader
import ProposalBoard.Json.Record
import ProposalBoard.Main
import ProposalBoard.Motion
import ProposalBoard.Motion.Indexed
import ProposalBoard.Motion.Window
import ProposalBoard.Names
import ProposalBoard.NextAction
import ProposalBoard.Poll
import ProposalBoard.Proofs.BoardOrder
import ProposalBoard.Proofs.Defaults
import ProposalBoard.Proofs.Lifecycle
import ProposalBoard.Proofs.Motion
import ProposalBoard.Proofs.Resolution
import ProposalBoard.Proofs.StatusCountdown
import ProposalBoard.Proofs.StatusMeaning
import ProposalBoard.Proposal
import ProposalBoard.Session
import ProposalBoard.Storage
import ProposalBoard.Table
import ProposalBoard.Text.Blank
import ProposalBoard.Text.Casing
import ProposalBoard.Text.Casing.Cased
import ProposalBoard.Text.Casing.Ignorable
import ProposalBoard.Text.Casing.Lowercase
import ProposalBoard.Text.Numeral
import ProposalBoard.Text.Search
import ProposalBoard.Time.Calendar
import ProposalBoard.Time.ChainClock
import ProposalBoard.Time.Instant
import ProposalBoard.Time.Relative
import ProposalBoard.Time.Timestamp
import ProposalBoard.TimeLine
import ProposalBoard.Vote
import ProposalBoard.Vote.Attribution
import ProposalBoard.Vote.Breakdown
import ProposalBoard.Proofs.Correlation
import ProposalBoard.Proofs.RowRecords
import ProposalBoard.Proofs.FetchOrder
import ProposalBoard.Proofs.Action
import ProposalBoard.Proofs.BlockTime
import ProposalBoard.Proofs.CountdownAhead
import ProposalBoard.Proofs.Breakdown
import ProposalBoard.Proofs.PollVoters
import ProposalBoard.Proofs.FurtherMotion
import ProposalBoard.Proofs.UnreadPoll
import ProposalBoard.Proofs.RowCoherence
import ProposalBoard.Proofs.MotionTimeLine
import ProposalBoard.Proofs.CountdownTimeLine
import ProposalBoard.Proofs.Calendar
import ProposalBoard.Proofs.Digits
import ProposalBoard.Proofs.TimestampText
import ProposalBoard.Proofs.WrittenForms
import ProposalBoard.Proofs.Table
import ProposalBoard.Proofs.WrittenRecords
import ProposalBoard.Proofs.JsonText
import ProposalBoard.Proofs.NumberLiteral
import ProposalBoard.Proofs.StringLiteral
import ProposalBoard.Proofs.ConfigFile
import ProposalBoard.Proofs.MotionStart
import ProposalBoard.Proofs.TimeLinePairs
import ProposalBoard.Proofs.Magnitude
import ProposalBoard.Proofs.RelativeTime
import ProposalBoard.Proofs.UnreadChain
import ProposalBoard.Proofs.BlockPlacement
import ProposalBoard.Proofs.FiledTokens
import ProposalBoard.Proofs.FirstBallots
import ProposalBoard.Proofs.DelegateTokens
import ProposalBoard.Proofs.Accuracy
import ProposalBoard.Proofs.Numeral
import ProposalBoard.Proofs.IndexedMotion
import ProposalBoard.Proofs.CheckedBoard
import ProposalBoard.Proofs.CommandOutcome
import ProposalBoard.Proofs.PhaseBlocks
