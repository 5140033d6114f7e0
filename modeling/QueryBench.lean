import QueryBench.Latency.Collection
import QueryBench.Main
import QueryBench.Proofs.Codec
import QueryBench.Proofs.Source
import QueryBench.Proofs.Stream
import QueryBench.Proofs.LimitedRoom
import QueryBench.Proofs.Drawing
import QueryBench.Proofs.FrameSize
import QueryBench.Proofs.Interleave
import QueryBench.Proofs.Lockstep
import QueryBench.Proofs.Feasible
import QueryBench.Proofs.Account
import QueryBench.Proofs.Conservation
import QueryBench.Proofs.Arrivals
import QueryBench.Proofs.Grouping
import QueryBench.Proofs.BurnIn
import QueryBench.Proofs.Journal
import QueryBench.Proofs.Reports
import QueryBench.Proofs.Grammar
import QueryBench.Proofs.Directory
import QueryBench.Proofs.Lifecycle
import QueryBench.Proofs.Failure
import QueryBench.Proofs.FinalReport
import QueryBench.Proofs.Queries
import QueryBench.Proofs.Assignment
import QueryBench.Proofs.Burst
import QueryBench.Proofs.Reordering
import QueryBench.Proofs.Requests
import QueryBench.Proofs.Population
import QueryBench.Proofs.Limit
import QueryBench.Proofs.CutReports
import QueryBench.Proofs.Replay
import QueryBench.Proofs.Labels
import QueryBench.Proofs.WindowWords
import QueryBench.Proofs.EvenWindows
import QueryBench.Proofs.Refill
import QueryBench.Proofs.Percentiles
import QueryBench.Proofs.ExactMoments
import QueryBench.Proofs.Spelling
import QueryBench.Proofs.Wording
import QueryBench.Proofs.Rounding
import QueryBench.Proofs.FloatUnits
import QueryBench.Proofs.Saturation
import QueryBench.Proofs.Calendar
import QueryBench.Proofs.Delimited
import QueryBench.Proofs.TimeText
import QueryBench.Proofs.Statements
import QueryBench.Proofs.FrameNumbers
import QueryBench.Proofs.Thousandths
import QueryBench.Proofs.Rungs
