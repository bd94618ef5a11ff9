import LinkFacts.Address.Basic
import LinkFacts.Address.Parser
import LinkFacts.Address.Path
import LinkFacts.Cache.Store
import LinkFacts.Command.Arguments
import LinkFacts.Command.Run
import LinkFacts.Component.Anchor
import LinkFacts.Component.Dispatch
import LinkFacts.Component.Page
import LinkFacts.Decimal.Binary64
import LinkFacts.Decimal.Layout
import LinkFacts.Decimal.Reading
import LinkFacts.Decimal.Shortest
import LinkFacts.Facts.Basic
import LinkFacts.Facts.Document
import LinkFacts.Facts.Problem
import LinkFacts.Fetch.Fixture
import LinkFacts.Fetch.Provider
import LinkFacts.Files.Tree
import LinkFacts.Host.Basic
import LinkFacts.Host.Domain
import LinkFacts.Host.Ipv4
import LinkFacts.Host.Ipv6
import LinkFacts.Host.Punycode
import LinkFacts.Json.Basic
import LinkFacts.Json.Cursor
import LinkFacts.Json.Document
import LinkFacts.Json.Numeral
import LinkFacts.Json.Quoted
import LinkFacts.Link
import LinkFacts.Main
import LinkFacts.Naming
import LinkFacts.Proofs.Address.Spelling
import LinkFacts.Proofs.Cache.Apart
import LinkFacts.Proofs.Cache.Clock
import LinkFacts.Proofs.Cache.Ending
import LinkFacts.Proofs.Cache.Filing
import LinkFacts.Proofs.Cache.Gated
import LinkFacts.Proofs.Cache.Ledger
import LinkFacts.Proofs.Cache.Operations
import LinkFacts.Proofs.Cache.Step
import LinkFacts.Proofs.Cache.Watching
import LinkFacts.Proofs.Command.Listing
import LinkFacts.Proofs.Component.Firing
import LinkFacts.Proofs.Component.Mounting
import LinkFacts.Proofs.Component.Writing
import LinkFacts.Proofs.Decimal.Rounding
import LinkFacts.Proofs.Facts.Document
import LinkFacts.Proofs.Facts.Flat
import LinkFacts.Proofs.Facts.Mapping
import LinkFacts.Proofs.Facts.Scalars
import LinkFacts.Proofs.Fetch.Fixture
import LinkFacts.Proofs.Fetch.Gates
import LinkFacts.Proofs.Fetch.Serving
import LinkFacts.Proofs.Host.Plain
import LinkFacts.Proofs.Json.Numbers
import LinkFacts.Proofs.Json.Objects
import LinkFacts.Proofs.Json.Quoted
import LinkFacts.Proofs.Json.Spelling
import LinkFacts.Proofs.Json.Trees
import LinkFacts.Proofs.Link.Spelling
import LinkFacts.Proofs.Naming
import LinkFacts.Proofs.Render.Compact
import LinkFacts.Proofs.Render.Display
import LinkFacts.Proofs.Render.Entities
import LinkFacts.Proofs.Render.Escape
import LinkFacts.Proofs.Render.Standard
import LinkFacts.Proofs.Render.View
import LinkFacts.Proofs.Replay.Agreement
import LinkFacts.Proofs.Replay.Effect
import LinkFacts.Proofs.Replay.Execution
import LinkFacts.Proofs.Replay.Interchange
import LinkFacts.Proofs.Replay.Interest
import LinkFacts.Proofs.Replay.Panic
import LinkFacts.Proofs.Replay.Poll
import LinkFacts.Proofs.Replay.Protocol
import LinkFacts.Proofs.Replay.Registry
import LinkFacts.Proofs.Replay.Shift
import LinkFacts.Proofs.Replay.SingleRun
import LinkFacts.Proofs.Replay.Soundness
import LinkFacts.Proofs.Replay.View
import LinkFacts.Proofs.Replay.Waiting
import LinkFacts.Proofs.Session.Apart
import LinkFacts.Proofs.Session.Classifying
import LinkFacts.Proofs.Session.Deadlines
import LinkFacts.Proofs.Session.Fetching
import LinkFacts.Proofs.Session.Mounts
import LinkFacts.Proofs.Session.Moves
import LinkFacts.Proofs.Session.Sharing
import LinkFacts.Proofs.Session.Steps
import LinkFacts.Proofs.Session.Turns
import LinkFacts.Proofs.Settings.Guessing
import LinkFacts.Proofs.Settings.Layering
import LinkFacts.Proofs.Settings.Texts
import LinkFacts.Proofs.Text.Blank
import LinkFacts.Proofs.Text.Digits
import LinkFacts.Proofs.Text.Utf8
import LinkFacts.Render.Compact
import LinkFacts.Render.Escape
import LinkFacts.Render.Order
import LinkFacts.Render.Renderer
import LinkFacts.Replay.Cell
import LinkFacts.Replay.Machine
import LinkFacts.Replay.Report
import LinkFacts.Replay.Run
import LinkFacts.Replay.Script
import LinkFacts.Session.Basic
import LinkFacts.Session.Describe
import LinkFacts.Session.Run
import LinkFacts.Settings.Configuration
import LinkFacts.Settings.Document
import LinkFacts.Settings.Environment
import LinkFacts.Settings.Load
import LinkFacts.Settings.Value
import LinkFacts.Template.Evaluate
import LinkFacts.Template.Expr
import LinkFacts.Template.Parser
import LinkFacts.Template.Token
import LinkFacts.Template.Value
import LinkFacts.Text.Blank
import LinkFacts.Text.Digits
import LinkFacts.Text.Escape
import LinkFacts.Text.Percent
import LinkFacts.Text.Utf8
import LinkFacts.Toml.Document
import LinkFacts.Toml.Quoted
import LinkFacts.Toml.Scalar
import LinkFacts.Toml.Table
import LinkFacts.Unicode.CombiningClass
import LinkFacts.Unicode.Composition
import LinkFacts.Unicode.Decomposition
import LinkFacts.Unicode.Direction
import LinkFacts.Unicode.HostMapping
import LinkFacts.Unicode.Identifier
import LinkFacts.Unicode.Joining
import LinkFacts.Unicode.Mark
import LinkFacts.Unicode.Normal
import LinkFacts.Unicode.Table
import LinkFacts.Yaml.Cursor
import LinkFacts.Yaml.Node
import LinkFacts.Yaml.Scalar
import LinkFacts.Yaml.Tag
import LinkFacts.Yaml.Token
import LinkFacts.Yaml.Value
