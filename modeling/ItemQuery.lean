import ItemQuery.Attribute.Described
import ItemQuery.Attribute.Matching
import ItemQuery.Attribute.Membership
import ItemQuery.Attribute.Tooltip
import ItemQuery.Catalog.Basic
import ItemQuery.Catalog.Entry
import ItemQuery.Catalog.Lookup
import ItemQuery.Engine
import ItemQuery.Fault
import ItemQuery.Item.Link
import ItemQuery.Item.Profile
import ItemQuery.Item.Slot
import ItemQuery.Json.Basic
import ItemQuery.Json.Key
import ItemQuery.Json.Reader
import ItemQuery.Listing
import ItemQuery.Memory
import ItemQuery.Number.Basic
import ItemQuery.Number.Double
import ItemQuery.Number.Integer
import ItemQuery.Number.Literal
import ItemQuery.Number.Plain
import ItemQuery.Number.Shortest
import ItemQuery.Query.Atom
import ItemQuery.Query.Evaluate
import ItemQuery.Query.Operator
import ItemQuery.Query.Predicate
import ItemQuery.Query.Registry
import ItemQuery.Scripted.Journal
import ItemQuery.Scripted.Predicate
import ItemQuery.Scripted.World
import ItemQuery.Service
import ItemQuery.Session
import ItemQuery.Sets.Backend
import ItemQuery.Sets.Basic
import ItemQuery.Settings.Basic
import ItemQuery.Settings.Path
import ItemQuery.Source
import ItemQuery.Text.Alphanumeric
import ItemQuery.Text.Basic
import ItemQuery.Text.Blocks
import ItemQuery.Text.Digit
import ItemQuery.Text.Lower
import ItemQuery.Text.Printable
import ItemQuery.Text.Quoted
import ItemQuery.Text.Upper
import ItemQuery.Validation.IntegerText
import ItemQuery.Validation.Issue
import ItemQuery.Validation.Schema
import ItemQuery.Validation.Validated
import ItemQuery.Proofs.Attribute.Alike
import ItemQuery.Proofs.Attribute.Bind
import ItemQuery.Proofs.Attribute.Compared
import ItemQuery.Proofs.Attribute.Containment
import ItemQuery.Proofs.Catalog.Lookup
import ItemQuery.Proofs.Catalog.Precedence
import ItemQuery.Proofs.Catalog.Reference
import ItemQuery.Proofs.Catalog.Valid
import ItemQuery.Proofs.Engine.Alike
import ItemQuery.Proofs.Engine.Compared
import ItemQuery.Proofs.Engine.Faults
import ItemQuery.Proofs.Engine.Keyword
import ItemQuery.Proofs.Engine.Untagged
import ItemQuery.Proofs.Item.Leftmost
import ItemQuery.Proofs.Item.Link
import ItemQuery.Proofs.Item.Mention
import ItemQuery.Proofs.Item.Ref
import ItemQuery.Proofs.Json.Readable
import ItemQuery.Proofs.Listing.Alone
import ItemQuery.Proofs.Listing.Membership
import ItemQuery.Proofs.Listing.Parts
import ItemQuery.Proofs.Listing.Search
import ItemQuery.Proofs.Listing.Shown
import ItemQuery.Proofs.Memory
import ItemQuery.Proofs.Number.Integer
import ItemQuery.Proofs.Number.Literal
import ItemQuery.Proofs.Number.Order
import ItemQuery.Proofs.Query.Alike
import ItemQuery.Proofs.Query.Atoms
import ItemQuery.Proofs.Query.Case
import ItemQuery.Proofs.Query.Comparison
import ItemQuery.Proofs.Query.Composition
import ItemQuery.Proofs.Query.Evaluate
import ItemQuery.Proofs.Query.Extension
import ItemQuery.Proofs.Query.Faults
import ItemQuery.Proofs.Query.Grammar
import ItemQuery.Proofs.Query.History
import ItemQuery.Proofs.Query.Judgement
import ItemQuery.Proofs.Query.Negation
import ItemQuery.Proofs.Query.Order
import ItemQuery.Proofs.Query.Outline
import ItemQuery.Proofs.Query.Parse
import ItemQuery.Proofs.Query.Probing
import ItemQuery.Proofs.Query.Registration
import ItemQuery.Proofs.Query.Registry
import ItemQuery.Proofs.Query.Render
import ItemQuery.Proofs.Query.Spacing
import ItemQuery.Proofs.Query.Spelling
import ItemQuery.Proofs.Query.Tags
import ItemQuery.Proofs.Query.Trace
import ItemQuery.Proofs.Search
import ItemQuery.Proofs.Service
import ItemQuery.Proofs.Session.Actions
import ItemQuery.Proofs.Session.Alike
import ItemQuery.Proofs.Session.Caches
import ItemQuery.Proofs.Session.Tooltip
import ItemQuery.Proofs.Sets.Backend
import ItemQuery.Proofs.Sets.Basic
import ItemQuery.Proofs.Sets.Malformed
import ItemQuery.Proofs.Sets.Reach
import ItemQuery.Proofs.Text.Lower
import ItemQuery.Proofs.Text.Pieces
import ItemQuery.Proofs.Validation.Form
