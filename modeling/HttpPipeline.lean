import HttpPipeline.Response.Scripted
import HttpPipeline.Response.Traced
import HttpPipeline.Serving.Service
import HttpPipeline.Settings.Documents
import HttpPipeline.Gzip.Lending
import HttpPipeline.Response.Either
import HttpPipeline.Response.Tower
import HttpPipeline.Proofs.Snowflake.Order
import HttpPipeline.Proofs.Snowflake.Sharing
import HttpPipeline.Proofs.Gzip.Member
import HttpPipeline.Proofs.Response.Calls
import HttpPipeline.Proofs.Response.GzipLayer
import HttpPipeline.Proofs.Response.Layers
import HttpPipeline.Proofs.Response.Polled
import HttpPipeline.Proofs.Response.Reliable
import HttpPipeline.Proofs.Serving.Course
import HttpPipeline.Proofs.Serving.Delivery
import HttpPipeline.Proofs.Serving.Recovered
import HttpPipeline.Proofs.Response.Unreliable
import HttpPipeline.Proofs.Response.Statuses
import HttpPipeline.Proofs.Response.Batches
import HttpPipeline.Proofs.Response.Exchange
import HttpPipeline.Proofs.Serving.Exchanged
import HttpPipeline.Serving.Traffic
import HttpPipeline.Proofs.Serving.Traffic
import HttpPipeline.Proofs.Response.Decision
import HttpPipeline.Proofs.Response.Flushing
import HttpPipeline.Proofs.Serving.Origins
import HttpPipeline.Proofs.RateLimit.Bounds
import HttpPipeline.Proofs.RateLimit.Spending
import HttpPipeline.Proofs.RateLimit.Promise
import HttpPipeline.Proofs.RateLimit.Waiting
import HttpPipeline.Proofs.Snowflake.Waits
import HttpPipeline.Proofs.Snowflake.Lead
import HttpPipeline.Proofs.Response.Untouched
import HttpPipeline.Proofs.Response.TakeOver
import HttpPipeline.Proofs.Response.Reply
import HttpPipeline.Proofs.Serving.Apology
import HttpPipeline.Proofs.Response.Transcript
import HttpPipeline.Proofs.Response.Detached
import HttpPipeline.Proofs.Serving.Handing
import HttpPipeline.Proofs.Serving.Upgrades
import HttpPipeline.Proofs.Serving.Moment
import HttpPipeline.Proofs.Serving.HeaderPath
import HttpPipeline.Proofs.Serving.Varies
import HttpPipeline.Proofs.Serving.Identified
import HttpPipeline.Proofs.Serving.CrossOrigin
import HttpPipeline.Proofs.Number.Numerals
import HttpPipeline.Proofs.Text.Pieces
import HttpPipeline.Proofs.Http.CodingLists
import HttpPipeline.Proofs.Serving.Negotiation
import HttpPipeline.Proofs.Origin.Names
import HttpPipeline.Proofs.Serving.Silence
import HttpPipeline.Proofs.Response.Falling
import HttpPipeline.Proofs.Response.HeadSent
import HttpPipeline.Proofs.Response.Splitting
import HttpPipeline.Proofs.Response.CallByCall
import HttpPipeline.Proofs.Response.Nesting
import HttpPipeline.Proofs.Snowflake.Writing
import HttpPipeline.Proofs.Serving.Assigned
import HttpPipeline.Proofs.Gzip.Chunked
import HttpPipeline.Proofs.Response.Refused
import HttpPipeline.Proofs.Http.Essences
import HttpPipeline.Proofs.RateLimit.Settings
import HttpPipeline.Proofs.Response.Repeated
import HttpPipeline.Proofs.Serving.Traces
