import Handoff.Buffer.Session
import Handoff.Charset.Json
import Handoff.Config.Json
import Handoff.Error.Description
import Handoff.Script.Timeline
import Handoff.Proofs.Streams.History
import Handoff.Proofs.Streams.Strand
import Handoff.Proofs.Moves
import Handoff.Proofs.Streams.Steps
import Handoff.Proofs.Streams.Custody
import Handoff.Proofs.Streams.Order
import Handoff.Proofs.Streams.Ending
import Handoff.Proofs.Courses
import Handoff.Proofs.Promises.Cord
import Handoff.Proofs.Promises.Steps
import Handoff.Proofs.Promises.Laws
import Handoff.Proofs.Promises.Dispatch
import Handoff.Proofs.Promises.Breaking
import Handoff.Proofs.Zones.Steps
import Handoff.Proofs.Zones.Moves
import Handoff.Proofs.Zones.Scope
import Handoff.Proofs.Buffers.Growth
import Handoff.Proofs.Buffers.Steps
import Handoff.Proofs.Buffers.Operations
import Handoff.Proofs.Buffers.Tape
import Handoff.Proofs.Buffers.HighWater
import Handoff.Proofs.Buffers.Draining
import Handoff.Proofs.Bodies.Collector
import Handoff.Proofs.Bodies.Site
import Handoff.Proofs.Bodies.Yields
import Handoff.Proofs.Bodies.Collecting
import Handoff.Proofs.Bodies.Settling
import Handoff.Proofs.Bodies.Calls
import Handoff.Proofs.Bodies.Use
import Handoff.Proofs.Bodies.Handing
import Handoff.Proofs.Bodies.Making
import Handoff.Proofs.Bodies.Text
import Handoff.Proofs.Bodies.Shutting
import Handoff.Proofs.Bodies.Guards
import Handoff.Proofs.Bodies.Births
import Handoff.Proofs.Bodies.Refusals
import Handoff.Proofs.Sinks.Tally
import Handoff.Proofs.Sinks.Stakes
import Handoff.Proofs.Sinks.Steps
import Handoff.Proofs.Sinks.Derived
import Handoff.Proofs.Sinks.Shares
import Handoff.Proofs.Channels.Solo
import Handoff.Proofs.Channels.Shelter
import Handoff.Proofs.Channels.Current
import Handoff.Proofs.Channels.Serving
import Handoff.Proofs.Channels.Closing
import Handoff.Proofs.Channels.Streams
import Handoff.Proofs.Channels.Turns
import Handoff.Proofs.Channels.Calls
import Handoff.Proofs.Channels.Opening
import Handoff.Proofs.Channels.Reading
import Handoff.Proofs.Notes
import Handoff.Proofs.Channels.Delivery
import Handoff.Proofs.Channels.Truncation
import Handoff.Proofs.Sessions.Exchanges
import Handoff.Proofs.Sessions.Gist
import Handoff.Proofs.Sessions.Likeness
import Handoff.Proofs.Sessions.Rejections
import Handoff.Proofs.Sessions.Grants
import Handoff.Proofs.Sessions.Collapse
import Handoff.Proofs.Sessions.Conclusions
import Handoff.Proofs.Sessions.Completion
import Handoff.Proofs.Sessions.Pairs
import Handoff.Proofs.Sessions.Invisible
import Handoff.Proofs.Mappings.Attempts
import Handoff.Proofs.Mappings.Dues
import Handoff.Proofs.Mappings.Holding
import Handoff.Proofs.Mappings.Stages
import Handoff.Proofs.Mappings.Tree
import Handoff.Proofs.Mappings.Cancelling
import Handoff.Proofs.Mappings.Law
import Handoff.Proofs.Mappings.Interrupted
import Handoff.Proofs.Streams.Ceiling
import Handoff.Proofs.Texts.Lexemes
import Handoff.Proofs.Texts.Objects
import Handoff.Proofs.Texts.Capacities
import Handoff.Proofs.Texts.Configs
import Handoff.Proofs.Charsets.Sequences
import Handoff.Proofs.Charsets.Decoding
import Handoff.Proofs.Errors.Sources
