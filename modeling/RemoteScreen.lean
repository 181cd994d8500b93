import RemoteScreen.Action.Sink
import RemoteScreen.Compression.Checksum
import RemoteScreen.Compression.Code
import RemoteScreen.Compression.Container
import RemoteScreen.Compression.Inflate
import RemoteScreen.Descriptor.Basic
import RemoteScreen.Descriptor.Response
import RemoteScreen.Document.Descriptor
import RemoteScreen.Document.Failure
import RemoteScreen.Document.Log
import RemoteScreen.Document.Renderable
import RemoteScreen.Document.Telemetry
import RemoteScreen.Document.Value
import RemoteScreen.Document.View
import RemoteScreen.Exports
import RemoteScreen.Failure
import RemoteScreen.Failure.Lineage
import RemoteScreen.Fetch.Fetcher
import RemoteScreen.Fetch.Images
import RemoteScreen.Fetch.Network
import RemoteScreen.Fetch.Redirect
import RemoteScreen.Fetch.Reference
import RemoteScreen.Fetch.Url
import RemoteScreen.Host.Address
import RemoteScreen.Host.Context
import RemoteScreen.Host.Direction
import RemoteScreen.Host.Label
import RemoteScreen.Host.Letter
import RemoteScreen.Host.Name
import RemoteScreen.Host.Punycode
import RemoteScreen.Image.Bmp
import RemoteScreen.Image.Gif
import RemoteScreen.Image.Jpeg
import RemoteScreen.Image.Loader
import RemoteScreen.Image.Netpbm
import RemoteScreen.Image.Picture
import RemoteScreen.Image.Png
import RemoteScreen.Image.Region
import RemoteScreen.Image.Source
import RemoteScreen.Image.Thumbnail
import RemoteScreen.Image.Watch
import RemoteScreen.Journal
import RemoteScreen.Json.Basic
import RemoteScreen.Json.Fault
import RemoteScreen.Json.Printer
import RemoteScreen.Json.Reader
import RemoteScreen.Log.Level
import RemoteScreen.Log.Setup
import RemoteScreen.Log.Style
import RemoteScreen.Main
import RemoteScreen.Number.Binary
import RemoteScreen.Number.Numeral
import RemoteScreen.Number.Places
import RemoteScreen.Number.Shortest
import RemoteScreen.Pass
import RemoteScreen.Payload.Decode
import RemoteScreen.Payload.Fallback
import RemoteScreen.Payload.Schema
import RemoteScreen.Payload.Violation
import RemoteScreen.Proofs.Fetch.Outcome
import RemoteScreen.Proofs.Image.Asking
import RemoteScreen.Proofs.Image.Orderly
import RemoteScreen.Proofs.Image.Pool
import RemoteScreen.Proofs.Image.Retrieval
import RemoteScreen.Proofs.Image.Staleness
import RemoteScreen.Proofs.Image.StepEffect
import RemoteScreen.Proofs.Image.Tended
import RemoteScreen.Proofs.Image.Waiting
import RemoteScreen.Proofs.Image.Work
import RemoteScreen.Proofs.Json.Continued
import RemoteScreen.Proofs.Json.Entries
import RemoteScreen.Proofs.Json.Merged
import RemoteScreen.Proofs.Json.Nesting
import RemoteScreen.Proofs.Json.Printed
import RemoteScreen.Proofs.Json.Reader
import RemoteScreen.Proofs.Json.Spelling
import RemoteScreen.Proofs.Number.Finite
import RemoteScreen.Proofs.Payload.Agreement
import RemoteScreen.Proofs.Payload.Decode
import RemoteScreen.Proofs.Payload.RoundTrip
import RemoteScreen.Proofs.Payload.Schema
import RemoteScreen.Proofs.Payload.Truncation
import RemoteScreen.Proofs.Payload.Violation
import RemoteScreen.Proofs.Render.Beside
import RemoteScreen.Proofs.Render.Damage
import RemoteScreen.Proofs.Render.Dispatch
import RemoteScreen.Proofs.Render.Drawing
import RemoteScreen.Proofs.Render.Mirror
import RemoteScreen.Proofs.Render.Pictures
import RemoteScreen.Proofs.Render.ReadPart
import RemoteScreen.Proofs.Render.Reading
import RemoteScreen.Proofs.Render.Renderer
import RemoteScreen.Proofs.Render.Requests
import RemoteScreen.Proofs.Session.Effect
import RemoteScreen.Proofs.Session.Images
import RemoteScreen.Proofs.Session.Reports
import RemoteScreen.Proofs.Text.Utf8
import RemoteScreen.Proofs.View.Delivery
import RemoteScreen.Proofs.View.Kept
import RemoteScreen.Proofs.View.Lifecycle
import RemoteScreen.Proofs.View.Screen
import RemoteScreen.Render.Context
import RemoteScreen.Render.Dispatch
import RemoteScreen.Render.Registry
import RemoteScreen.Render.Renderer
import RemoteScreen.Render.Strategy
import RemoteScreen.Renderable.Basic
import RemoteScreen.Session.Activation
import RemoteScreen.Session.Basic
import RemoteScreen.Session.Images
import RemoteScreen.Session.Region
import RemoteScreen.Session.Telemetry
import RemoteScreen.Settings
import RemoteScreen.Telemetry.Basic
import RemoteScreen.Telemetry.Setup
import RemoteScreen.Text.Blank
import RemoteScreen.Text.Case
import RemoteScreen.Text.Composed
import RemoteScreen.Text.Digit
import RemoteScreen.Text.Line
import RemoteScreen.Text.Mark
import RemoteScreen.Text.Plain
import RemoteScreen.Text.Printable
import RemoteScreen.Text.Quoted
import RemoteScreen.Text.Ranges
import RemoteScreen.Text.Utf8
import RemoteScreen.Text.Word
import RemoteScreen.Toolkit.Basic
import RemoteScreen.Toolkit.Style
import RemoteScreen.Toolkit.Widget
import RemoteScreen.Value
import RemoteScreen.View.Basic
import RemoteScreen.View.Image
import RemoteScreen.View.Lifecycle
import RemoteScreen.View.Mounting
import RemoteScreen.View.Screen
import RemoteScreen.View.Widgets
import RemoteScreen.Window.Application
import RemoteScreen.Window.Program
import RemoteScreen.Window.Theme
import RemoteScreen.Proofs.View.Changes
import RemoteScreen.Proofs.Window.Tidy
import RemoteScreen.Proofs.Window.Opening
import RemoteScreen.Proofs.Window.Reloading
import RemoteScreen.Proofs.Log.Force
import RemoteScreen.Proofs.Toolkit.Tree
import RemoteScreen.Proofs.Session.Outcome
import RemoteScreen.Proofs.View.Building
import RemoteScreen.Proofs.View.Housing
import RemoteScreen.Proofs.View.Listening
import RemoteScreen.Proofs.View.Mounted
import RemoteScreen.Proofs.View.Teardown
import RemoteScreen.Proofs.View.Adoption
import RemoteScreen.Proofs.View.Standing
import RemoteScreen.Proofs.View.Turning
import RemoteScreen.Proofs.Render.Sprouting
import RemoteScreen.Proofs.View.Replacement
import RemoteScreen.Proofs.View.Display
import RemoteScreen.Proofs.View.Picture
import RemoteScreen.Proofs.View.Subscription
import RemoteScreen.Proofs.View.Succession
import RemoteScreen.Proofs.Render.Repeated
import RemoteScreen.Proofs.View.Seclusion
import RemoteScreen.Proofs.View.Paging
import RemoteScreen.Proofs.View.Bough
import RemoteScreen.Proofs.View.Composite
import RemoteScreen.Proofs.View.Grove
import RemoteScreen.Proofs.View.Ledger
import RemoteScreen.Proofs.Image.Account
import RemoteScreen.Proofs.Render.Unknowns
import RemoteScreen.Proofs.View.Making
import RemoteScreen.Proofs.View.Visible
import RemoteScreen.Proofs.View.Names
import RemoteScreen.Proofs.Payload.Demand
import RemoteScreen.Proofs.Payload.Report
import RemoteScreen.Proofs.Image.Talk
import RemoteScreen.Proofs.Image.Watching
import RemoteScreen.Proofs.Image.Draining
import RemoteScreen.Proofs.View.Timer
import RemoteScreen.Proofs.View.Polling
import RemoteScreen.Proofs.Text.Trim
import RemoteScreen.Proofs.Number.Digits
import RemoteScreen.Proofs.Log.Handlers
import RemoteScreen.Proofs.Log.Level
import RemoteScreen.Proofs.Settings
import RemoteScreen.Proofs.Render.Row
import RemoteScreen.Proofs.View.Row
import RemoteScreen.Proofs.View.Layout
import RemoteScreen.Proofs.Window.Rows
import RemoteScreen.Proofs.Text.Line
import RemoteScreen.Proofs.Render.Made
import RemoteScreen.Proofs.Render.Activation
import RemoteScreen.Proofs.Render.Registration
import RemoteScreen.Proofs.Session.Blocks
