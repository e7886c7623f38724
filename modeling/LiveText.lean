import LiveText.Notation.Reader
import LiveText.Notation.Printer
import LiveText.Text.Key
import LiveText.Text.Preview
import LiveText.Text.Markup
import LiveText.Validation.Record
import LiveText.Validation.Content
import LiveText.Registry.Basic
import LiveText.Registry.Query
import LiveText.Resolution
import LiveText.Forms
import LiveText.Document.Content
import LiveText.Document.Resolution
import LiveText.Sync.Channel
import LiveText.Sync.Timeline
import LiveText.Registry.Timeline
import LiveText.Session.Timeline
import LiveText.Settings
import LiveText.Catalog.Remote
import LiveText.Service.Basic
import LiveText.Proofs.Document.Paragraph
import LiveText.Proofs.Forms.RoundTrip
import LiveText.Proofs.Forms.Storing
import LiveText.Proofs.Identifier.Boundary
import LiveText.Proofs.Identifier.Repeats
import LiveText.Proofs.Identifier.Separation
import LiveText.Proofs.Identifier.Shape
import LiveText.Proofs.Identifier.Tokens
import LiveText.Proofs.Markup.Assembly
import LiveText.Proofs.Markup.Fragment
import LiveText.Proofs.Markup.Line
import LiveText.Proofs.Markup.Paragraph
import LiveText.Proofs.Markup.Tag
import LiveText.Proofs.Record.Merge
import LiveText.Proofs.Registry.Coherence
import LiveText.Proofs.Registry.History
import LiveText.Proofs.Registry.Lookup
import LiveText.Proofs.Text.Fold
import LiveText.Proofs.Text.Letters
import LiveText.Proofs.Registry.Recall
import LiveText.Proofs.Registry.Fallback
import LiveText.Proofs.Identifier.Pieces
import LiveText.Proofs.Document.Plain
import LiveText.Proofs.Document.Resolution
import LiveText.Proofs.Registry.Flight
import LiveText.Proofs.Identifier.Grammar
import LiveText.Proofs.Identifier.Occurrences
import LiveText.Proofs.Identifier.Replacing
import LiveText.Proofs.Identifier.RunningOn
import LiveText.Proofs.Forms.Stored
import LiveText.Proofs.Registry.Timeline
import LiveText.Proofs.Forms.Refreshing
import LiveText.Proofs.Identifier.Unchanged
import LiveText.Proofs.Forms.Settled
import LiveText.Proofs.Document.Rereading
import LiveText.Proofs.Document.Visible
import LiveText.Proofs.Markup.Writable
import LiveText.Proofs.Markup.Bare
import LiveText.Proofs.Markup.Written
import LiveText.Proofs.Markup.Guarded
import LiveText.Proofs.Markup.Preparing
import LiveText.Proofs.Sync.History
import LiveText.Proofs.Sync.Timeline
import LiveText.Proofs.Session.History
import LiveText.Proofs.Session.Timeline
import LiveText.Proofs.Session.Objects
import LiveText.Proofs.Document.Settling
import LiveText.Proofs.Session.Insertion
import LiveText.Proofs.Identifier.Copies
import LiveText.Proofs.Forms.Lines
import LiveText.Proofs.Identifier.Passes
import LiveText.Proofs.Identifier.Gaps
import LiveText.Proofs.Identifier.Glued
import LiveText.Proofs.Identifier.Parsing
import LiveText.Proofs.Document.Outline
import LiveText.Proofs.Document.Tagging
import LiveText.Proofs.Identifier.Seams
import LiveText.Proofs.Document.Layout
import LiveText.Proofs.Document.InPlace
import LiveText.Proofs.Identifier.Spelling
import LiveText.Proofs.Registry.Scanning
import LiveText.Proofs.Registry.Batches
import LiveText.Proofs.Document.Values
import LiveText.Proofs.Catalog.Fetching
import LiveText.Proofs.Sync.Subscriptions
import LiveText.Proofs.Sync.Delivery
import LiveText.Proofs.Identifier.Tight
import LiveText.Proofs.Document.Rerendering
