import SesSender.Lib.Exec
import SesSender.Lib.Table
import SesSender.Lib.Ledger
import SesSender.Lib.Chunks
import SesSender.Lib.Lists
import SesSender.Lib.Transaction
import SesSender.Lib.Calendar
import SesSender.Lib.Stamp
import SesSender.Lib.Grouping
import SesSender.Lib.Sql
import SesSender.Lib.SqlQuery
import SesSender.Lib.Progress
import SesSender.Spec.System
import SesSender.Spec.Inserts
import SesSender.Spec.TokenBucket
import SesSender.Spec.Statistics
import SesSender.Spec.BulkText
import SesSender.Spec.Drain
import SesSender.Spec.Sender
import SesSender.Spec.Http
import SesSender.Spec.Polling
import SesSender.Proofs.Statements
import SesSender.Proofs.Bulk
import SesSender.Proofs.Steps
import SesSender.Proofs.Growth
import SesSender.Proofs.Carried
import SesSender.Proofs.Ownership
import SesSender.Proofs.Rows
import SesSender.Proofs.Refinement
import SesSender.Proofs.LifeCycle
import SesSender.Proofs.Pickup
import SesSender.Proofs.Saving
import SesSender.Proofs.Responses
import SesSender.Proofs.Agreement
import SesSender.Proofs.Narrowing
import SesSender.Proofs.Rate
import SesSender.Proofs.Restart
import SesSender.Proofs.Attribution
import SesSender.Proofs.Due
import SesSender.Proofs.Copies
import SesSender.Proofs.HandOver
import SesSender.Proofs.Stranding
import SesSender.Proofs.Flush
import SesSender.Proofs.Batching
import SesSender.Proofs.Inserts
import SesSender.Proofs.Backlog
import SesSender.Proofs.Leftovers
import SesSender.Proofs.Conversion
import SesSender.Proofs.StatusCounts
import SesSender.Proofs.ResultCounts
import SesSender.Proofs.SentCount
import SesSender.Proofs.BulkText
import SesSender.Proofs.Binding
import SesSender.Proofs.Weights
import SesSender.Proofs.Drain
import SesSender.Proofs.Pacing
import SesSender.Proofs.Acquire
import SesSender.Proofs.PacedDrain
import SesSender.Proofs.Overtaking
import SesSender.Proofs.Gate
import SesSender.Proofs.History
import SesSender.Proofs.Topics
import SesSender.Proofs.Waiting
import SesSender.Proofs.Latency
import SesSender.Proofs.InsertText
import SesSender.Proofs.Asked
import SesSender.Proofs.QueryText
import SesSender.Proofs.Queries
import SesSender.Proofs.Reports
