import TilePanel.Catalog
import TilePanel.Config.Basic
import TilePanel.Config.File
import TilePanel.Disk.Basic
import TilePanel.Disk.Database
import TilePanel.Disk.DatabaseName
import TilePanel.Disk.Image
import TilePanel.Error
import TilePanel.Event
import TilePanel.Hub.Basic
import TilePanel.Hub.Notify
import TilePanel.Hub.Reaction
import TilePanel.Hub.Watch
import TilePanel.Journal
import TilePanel.Main
import TilePanel.Notice
import TilePanel.Panel.Basic
import TilePanel.Panel.Events
import TilePanel.Panel.Operation
import TilePanel.Settings.Memory
import TilePanel.Settings.Registry
import TilePanel.Settings.Store
import TilePanel.Settings.Table
import TilePanel.Settings.User
import TilePanel.Shell.Backspace
import TilePanel.Shell.Command
import TilePanel.Shell.Completion
import TilePanel.Shell.Failure
import TilePanel.Shell.Grammar
import TilePanel.Shell.History
import TilePanel.Shell.Invocation
import TilePanel.Shell.Request
import TilePanel.Shell.Session
import TilePanel.Shell.Snapshot
import TilePanel.Shell.Verbosity
import TilePanel.Shell.Words
import TilePanel.Text.Blank
import TilePanel.Text.ByteOrder
import TilePanel.Text.Cluster
import TilePanel.Text.Combining
import TilePanel.Text.Decimal
import TilePanel.Text.Hexadecimal
import TilePanel.Text.Hidden
import TilePanel.Text.Json
import TilePanel.Text.Pieces
import TilePanel.Text.Quoted
import TilePanel.Text.Table
import TilePanel.Text.Utf8
import TilePanel.Tile.Kind
import TilePanel.Tile.Record
import TilePanel.Tile.Written
import TilePanel.Toml.Document
import TilePanel.Toml.Scalar
import TilePanel.Toml.Text
import TilePanel.Toml.Tree
import TilePanel.Toml.Value
import TilePanel.Toml.Writer
import TilePanel.View.Binder
import TilePanel.View.TextView
import TilePanel.World.Basic
import TilePanel.World.Step
import TilePanel.Proofs.Hub.Notification
import TilePanel.Proofs.Settings.Storage
import TilePanel.Proofs.Hub.Watching
import TilePanel.Proofs.Panel.Pushes
import TilePanel.Proofs.Panel.Recomputation
import TilePanel.Proofs.Panel.Draining
import TilePanel.Proofs.World.Pushes
import TilePanel.Proofs.Panel.Background
import TilePanel.Proofs.Panel.Congruence
import TilePanel.Proofs.Panel.Deliveries
import TilePanel.Proofs.Panel.Tracking
import TilePanel.Proofs.World.Effects
import TilePanel.Proofs.World.Freshness
import TilePanel.Proofs.Panel.UpToDate
import TilePanel.Proofs.Shell.Painting
import TilePanel.Proofs.Shell.Upkeep
import TilePanel.Proofs.Shell.Agreement
import TilePanel.Proofs.Toml.Runs
import TilePanel.Proofs.Toml.Quoting
import TilePanel.Proofs.Text.Decimal
import TilePanel.Proofs.Toml.Words
import TilePanel.Proofs.Toml.Keys
import TilePanel.Proofs.Toml.Sections
import TilePanel.Proofs.Disk.Rereading
import TilePanel.Proofs.Config.RoundTrip
import TilePanel.Proofs.Toml.Lookup
import TilePanel.Proofs.Toml.Tables
import TilePanel.Proofs.Config.Fields
import TilePanel.Proofs.Hub.Snapshot
import TilePanel.Proofs.Hub.Telling
import TilePanel.Proofs.Hub.Books
import TilePanel.Proofs.World.Registrations
import TilePanel.Proofs.Settings.Listing
import TilePanel.Proofs.Hub.Interchange
import TilePanel.Proofs.Panel.Succession
import TilePanel.Proofs.Shell.Commands
import TilePanel.Proofs.Shell.Appearance
import TilePanel.Proofs.Panel.Bindings
import TilePanel.Proofs.Panel.Commuting
import TilePanel.Proofs.Settings.Hiding
import TilePanel.Proofs.Panel.Hiding
import TilePanel.Proofs.World.Isolation
import TilePanel.Proofs.Hub.Posting
import TilePanel.Proofs.Hub.Demands
import TilePanel.Proofs.World.Ownership
import TilePanel.Proofs.World.Delivery
import TilePanel.Proofs.World.Switching
import TilePanel.Proofs.Shell.Localization
import TilePanel.Proofs.Shell.Refusal
import TilePanel.Proofs.World.Numbering
import TilePanel.Proofs.World.Hints
import TilePanel.Proofs.Panel.Forms
import TilePanel.Proofs.Shell.Quoting
import TilePanel.Proofs.Text.Cutting
import TilePanel.Proofs.Shell.Completion
import TilePanel.Proofs.Text.Numerals
import TilePanel.Proofs.Settings.Integers
import TilePanel.Proofs.Settings.Writes
import TilePanel.Proofs.World.Counting
import TilePanel.Proofs.Hub.Storing
import TilePanel.Proofs.View.Overwriting
import TilePanel.Proofs.View.History
import TilePanel.Proofs.Panel.Repetition
import TilePanel.Proofs.Text.Json
import TilePanel.Proofs.Tile.Written
import TilePanel.Proofs.Shell.Layout
import TilePanel.Proofs.Disk.Additions
import TilePanel.Proofs.Shell.Initialization
