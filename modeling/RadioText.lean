import RadioText.CommandLine.Run
import RadioText.Main
import RadioText.Style.Cache
import RadioText.Style.TreeView
import RadioText.Style.Writer
import RadioText.Proofs.Style.Walk
import RadioText.Proofs.Style.Omission
import RadioText.Proofs.Style.NormalForm
import RadioText.Proofs.Style.Lines
import RadioText.Proofs.Style.Matching
import RadioText.Proofs.Style.Grammar
import RadioText.Proofs.Style.Tokens
import RadioText.Proofs.Style.Spelling
import RadioText.Proofs.Style.Backslash
import RadioText.Proofs.Style.RoundTrip
import RadioText.Proofs.Engine.Run
import RadioText.Proofs.Engine.Display
import RadioText.Proofs.Engine.Snapshot
import RadioText.Proofs.Engine.Calls
import RadioText.Proofs.Engine.Turns
import RadioText.Proofs.Engine.OnAir
import RadioText.Proofs.Text.Decimal
import RadioText.Proofs.Command
import RadioText.Proofs.Event
import RadioText.Proofs.Engine.Track
import RadioText.Proofs.Engine.Feed
import RadioText.Proofs.Style.Roles
import RadioText.Proofs.Style.Reading
import RadioText.Proofs.Style.Normalize
import RadioText.Proofs.Engine.Coherence
import RadioText.Proofs.Engine.Schedule
import RadioText.Proofs.Engine.Timers
import RadioText.Proofs.Engine.Receiving
import RadioText.Proofs.Engine.Punctual
import RadioText.Proofs.Engine.History
import RadioText.Proofs.Engine.Disabled
import RadioText.Proofs.Engine.Listening
import RadioText.Proofs.Engine.Undisturbed
import RadioText.Proofs.Style.Canonical
import RadioText.Proofs.Style.Monotone
import RadioText.Proofs.Style.Spans
import RadioText.Proofs.Style.Joining
import RadioText.Proofs.Style.Mentions
import RadioText.Proofs.Style.Handles
import RadioText.Proofs.Engine.Ending
import RadioText.Proofs.Framing
import RadioText.Proofs.Config.Loader
import RadioText.Proofs.Engine.Bounds
import RadioText.Proofs.Command.NormalForm
import RadioText.Proofs.Engine.Exchange
import RadioText.Proofs.Engine.Tandem
import RadioText.Proofs.Config.PluginSettings
import RadioText.Proofs.Config.Assignment
import RadioText.Proofs.Config.Layers
import RadioText.Proofs.Command.Grammar
import RadioText.Proofs.Engine.Adoption
import RadioText.Proofs.Engine.Reset
import RadioText.Proofs.Framing.Reception
import RadioText.Proofs.Style.Shape
import RadioText.Proofs.Style.Bookkeeping
import RadioText.Proofs.Style.Identity
import RadioText.Proofs.Style.Outline
import RadioText.Proofs.Style.LineCount
import RadioText.Proofs.CommandLine.Printed
import RadioText.Proofs.Style.Partners
import RadioText.Proofs.Metadata
