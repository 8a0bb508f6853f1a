import FeatureFlags.Assignment
import FeatureFlags.Attribute
import FeatureFlags.Bucketing
import FeatureFlags.Condition
import FeatureFlags.Condition.Evaluation
import FeatureFlags.Condition.Observation
import FeatureFlags.Condition.Order
import FeatureFlags.Condition.Warning
import FeatureFlags.Context
import FeatureFlags.ContextStore
import FeatureFlags.Dictionary
import FeatureFlags.Error
import FeatureFlags.Evaluation
import FeatureFlags.Experiment
import FeatureFlags.Exposure
import FeatureFlags.Feature
import FeatureFlags.Fetch.Features
import FeatureFlags.Fetch.TagCache
import FeatureFlags.Json
import FeatureFlags.Json.Draft
import FeatureFlags.Json.Numeral
import FeatureFlags.Json.Reader
import FeatureFlags.Json.Record
import FeatureFlags.Json.Token
import FeatureFlags.Json.Writer
import FeatureFlags.Number
import FeatureFlags.Number.Arithmetic
import FeatureFlags.Number.Format
import FeatureFlags.Number.Numeral
import FeatureFlags.Number.Shortest
import FeatureFlags.Pattern
import FeatureFlags.Pattern.Class
import FeatureFlags.Pattern.Escape
import FeatureFlags.Pattern.Expression
import FeatureFlags.Pattern.Flags
import FeatureFlags.Pattern.Matching
import FeatureFlags.Pattern.NamedClass
import FeatureFlags.Pattern.Reader
import FeatureFlags.Pattern.Size
import FeatureFlags.Payload
import FeatureFlags.Persistence
import FeatureFlags.Proofs.Assignment.Coherence
import FeatureFlags.Proofs.Assignment.Exclusion
import FeatureFlags.Proofs.Assignment.Gates
import FeatureFlags.Proofs.Assignment.RampUp
import FeatureFlags.Proofs.Attribute.Lookup
import FeatureFlags.Proofs.Bucketing.Coverage
import FeatureFlags.Proofs.Bucketing.Layout
import FeatureFlags.Proofs.Bucketing.Ranges
import FeatureFlags.Proofs.Condition.Clauses
import FeatureFlags.Proofs.Condition.Membership
import FeatureFlags.Proofs.Condition.Names
import FeatureFlags.Proofs.Condition.Observation
import FeatureFlags.Proofs.Condition.Ordering
import FeatureFlags.Proofs.Condition.Polarity
import FeatureFlags.Proofs.Condition.Reading
import FeatureFlags.Proofs.Condition.Watched
import FeatureFlags.Proofs.Dictionary.Pointwise
import FeatureFlags.Proofs.Dictionary.Sorted
import FeatureFlags.Proofs.Dictionary.Traversal
import FeatureFlags.Proofs.Evaluation.Composition
import FeatureFlags.Proofs.Evaluation.Explanation
import FeatureFlags.Proofs.Evaluation.Relevance
import FeatureFlags.Proofs.Evaluation.Rollout
import FeatureFlags.Proofs.Evaluation.Rules
import FeatureFlags.Proofs.Evaluation.Standalone
import FeatureFlags.Proofs.Experiment.VariationKeys
import FeatureFlags.Proofs.Exposure.Tracking
import FeatureFlags.Proofs.Fetch.Recency
import FeatureFlags.Proofs.Fetch.Remembering
import FeatureFlags.Proofs.Json.Decoding
import FeatureFlags.Proofs.Json.Nesting
import FeatureFlags.Proofs.Number.Exact
import FeatureFlags.Proofs.Number.Order
import FeatureFlags.Proofs.Payload.Encryption
import FeatureFlags.Proofs.Payload.Isolation
import FeatureFlags.Proofs.Payload.Order
import FeatureFlags.Proofs.Payload.Rereading
import FeatureFlags.Proofs.Refresher.Atomicity
import FeatureFlags.Proofs.Refresher.Frame
import FeatureFlags.Proofs.Refresher.Freshness
import FeatureFlags.Proofs.Refresher.Moves
import FeatureFlags.Proofs.Refresher.Numbering
import FeatureFlags.Proofs.Refresher.Retries
import FeatureFlags.Proofs.Refresher.Snapshot
import FeatureFlags.Proofs.Refresher.Stopping
import FeatureFlags.Proofs.Refresher.Succession
import FeatureFlags.Proofs.Refresher.Validators
import FeatureFlags.Proofs.Sticky.Breakage
import FeatureFlags.Proofs.Sticky.Consistency
import FeatureFlags.Proofs.Sticky.Devices
import FeatureFlags.Proofs.Sticky.Document
import FeatureFlags.Proofs.Sticky.Identities
import FeatureFlags.Proofs.Sticky.Memory
import FeatureFlags.Proofs.Sticky.Merging
import FeatureFlags.Proofs.Sticky.Run
import FeatureFlags.Proofs.Sticky.Separation
import FeatureFlags.Proofs.Sticky.Store
import FeatureFlags.Proofs.Sticky.Writing
import FeatureFlags.Proofs.Stream.Backoff
import FeatureFlags.Proofs.Stream.Chunks
import FeatureFlags.Proofs.Stream.Closing
import FeatureFlags.Proofs.Stream.Counting
import FeatureFlags.Proofs.Stream.Folding
import FeatureFlags.Proofs.Stream.Framing
import FeatureFlags.Proofs.Stream.Retrying
import FeatureFlags.Proofs.Text.Digits
import FeatureFlags.Proofs.Text.Order
import FeatureFlags.Proofs.Text.Split
import FeatureFlags.Proofs.Text.Trim
import FeatureFlags.Proofs.Text.Utf8
import FeatureFlags.Proofs.Value.Hashing
import FeatureFlags.Proofs.Value.Integers
import FeatureFlags.Proofs.Value.Tolerance
import FeatureFlags.Proofs.Version.Precedence
import FeatureFlags.Proofs.Version.Semantic
import FeatureFlags.Refresher
import FeatureFlags.Refresher.Client
import FeatureFlags.Refresher.Session
import FeatureFlags.Refresher.Supervisor
import FeatureFlags.Refresher.Task
import FeatureFlags.Sticky
import FeatureFlags.Stream.Backoff
import FeatureFlags.Stream.Connection
import FeatureFlags.Stream.Event
import FeatureFlags.Targeting
import FeatureFlags.Text.Blank
import FeatureFlags.Text.Digits
import FeatureFlags.Text.Split
import FeatureFlags.Text.Utf16
import FeatureFlags.Text.Utf8
import FeatureFlags.Timestamp
import FeatureFlags.Unicode.Age
import FeatureFlags.Unicode.CaseFolding
import FeatureFlags.Unicode.Category
import FeatureFlags.Unicode.CodePointRange
import FeatureFlags.Unicode.CodePointSet
import FeatureFlags.Unicode.Coding
import FeatureFlags.Unicode.Direction
import FeatureFlags.Unicode.Joining
import FeatureFlags.Unicode.Normalization
import FeatureFlags.Unicode.Property
import FeatureFlags.Unicode.Script
import FeatureFlags.Unicode.Word
import FeatureFlags.Url
import FeatureFlags.Url.Address
import FeatureFlags.Url.DomainMapping
import FeatureFlags.Url.DomainName
import FeatureFlags.Url.Failure
import FeatureFlags.Url.Host
import FeatureFlags.Url.Path
import FeatureFlags.Url.Percent
import FeatureFlags.Url.Punycode
import FeatureFlags.Value
import FeatureFlags.Value.Group
import FeatureFlags.Version
