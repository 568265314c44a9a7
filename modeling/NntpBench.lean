import NntpBench.Lib.Calendar
import NntpBench.Lib.Except
import NntpBench.Lib.Filled
import NntpBench.Lib.Records
import NntpBench.Lib.Search
import NntpBench.Lib.BlockSearch
import NntpBench.Lib.Slices
import NntpBench.Lib.Transitions
import NntpBench.Lib.Utf8
import NntpBench.Lib.Writer
import NntpBench.Lib.Strides
import NntpBench.Bytes
import NntpBench.Terminator
import NntpBench.VectorScanner
import NntpBench.Framing
import NntpBench.Text
import NntpBench.RequestKind
import NntpBench.Validators
import NntpBench.ResponseLine
import NntpBench.Lines
import NntpBench.ResponseContent
import NntpBench.Capabilities
import NntpBench.Article
import NntpBench.ResponseFrame
import NntpBench.Receiver
import NntpBench.InitialLine
import NntpBench.OneShot
import NntpBench.ContentChecks
import NntpBench.Decoding
import NntpBench.Receive
import NntpBench.ReceiveAll
import NntpBench.ArticleParse
import NntpBench.Transfer
import NntpBench.ContentLines
import NntpBench.CapabilityLists
import NntpBench.HeaderLines
import NntpBench.ArticleSections
import NntpBench.StuffedHeaders
import NntpBench.ReplyFrames
import NntpBench.NumberedReplies
import NntpBench.Arguments
import NntpBench.Request
import NntpBench.CommandLine
import NntpBench.RequestWire
import NntpBench.Vectored
import NntpBench.CommandWire
import NntpBench.CommandRoundTrip
import NntpBench.Load.ResponseReader
import NntpBench.Load.Workload
import NntpBench.Load.Numbering
import NntpBench.Load.Session
import NntpBench.Load.Schedule
import NntpBench.Load.Pacing
import NntpBench.Load.Config
import NntpBench.Load.Identity
import NntpBench.Server.ParsedCommand
import NntpBench.Server.CommandReader
import NntpBench.Server.BodyGrammar
import NntpBench.Server.BatchReaders
import NntpBench.Server.LineBoundaries
import NntpBench.Server.Fragmentation
import NntpBench.Server.Replies
import NntpBench.Server.Dates
import NntpBench.Server.DateReply
import NntpBench.Server.ArticleDates
import NntpBench.Server.Selectors
import NntpBench.Server.ArticleStore
import NntpBench.Server.IndexBuild
import NntpBench.Server.StoredArticles
import NntpBench.Server.IndexReplies
import NntpBench.Server.Config
import NntpBench.Server.Commands
import NntpBench.Server.PendingWrites
import NntpBench.Server.FixedReplies
import NntpBench.Server.GeneratedArticles
import NntpBench.Server.KeptCommands
import NntpBench.Server.Outcomes
import NntpBench.Server.Sessions
import NntpBench.Server.AcceptedReplies
import NntpBench.Server.Leftovers
import NntpBench.Server.CommandBatches
import NntpBench.Server.BatchRuns
import NntpBench.Server.GroupCommands
import NntpBench.Server.GroupWalks
import NntpBench.Server.Failures
import NntpBench.Server.LineArguments
import NntpBench.Server.SelectedRows
import NntpBench.Server.MessageIdRows
import NntpBench.Server.PaddedLines
import NntpBench.Server.PaddedGroups
import NntpBench.Server.PaddedRows
import NntpBench.Server.Wildmats
import NntpBench.Client.Connection
import NntpBench.Client.Step
import NntpBench.Client.Flow
import NntpBench.Client.Barrier
import NntpBench.Client.Progress
import NntpBench.Client.Order
import NntpBench.Client.Gate
import NntpBench.Client.Delivery
import NntpBench.Client.Pipelining
import NntpBench.Client.Negotiation
import NntpBench.Client.Frames
import NntpBench.Client.Matching
import NntpBench.Client.Continuation
