import TacacsRs.Messages.BodyLengths
import TacacsRs.Messages.ConversionInverse
import TacacsRs.Messages.PadBlocks
import TacacsRs.Messages.LengthWrap
import TacacsRs.Networking.Transport
import TacacsRs.Networking.Isolation
import TacacsRs.Networking.LiveSession
import TacacsRs.Networking.PadReuse
import TacacsRs.Networking.ReplyPairing
import TacacsRs.Networking.SessionView
import TacacsRs.Messages.ConversionAgreement
import TacacsRs.Networking.Closing
import TacacsRs.Networking.SingleUse
import TacacsRs.Networking.Completion
import TacacsRs.Networking.SendOrder
import TacacsRs.Networking.HandleConnection
import TacacsRs.Networking.RegistryGrowth
import TacacsRs.Networking.Quiescence
import TacacsRs.Networking.DeadConnection
import TacacsRs.Networking.WaitingCalls
import TacacsRs.Messages.SizeCheck
import TacacsRs.Networking.ScriptedReplies
import TacacsRs.Networking.ReplyNumbers
import TacacsRs.Networking.Authorship
import TacacsRs.Networking.Inbound
import TacacsRs.Networking.ReplyOrigin
import TacacsRs.Networking.Progress
import TacacsRs.Networking.Transactions
import TacacsRs.Networking.MockFlow
import TacacsRs.Networking.MockTransactions
import TacacsRs.Networking.MockProgress
import TacacsRs.Networking.KeyMismatch
import TacacsRs.Networking.Exchange
import TacacsRs.Networking.AnsweredCalls
import TacacsRs.Networking.Helpers
import TacacsRs.Tacon.Run
import TacacsRs.Networking.TurnOrder
import TacacsRs.Networking.HeardRequests
import TacacsRs.Networking.DeadEnds
import TacacsRs.Tacon.Exchange
