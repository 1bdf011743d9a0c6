import Stencil.Service
import Stencil.Proofs.Render.Relation
import Stencil.Proofs.Render.Scope
import Stencil.Proofs.Render.Depth
import Stencil.Proofs.Fields
import Stencil.Proofs.Text.Splitting
import Stencil.Proofs.Scope.Flattening
import Stencil.Proofs.Value.Paths
import Stencil.Proofs.Component.Naming
import Stencil.Proofs.Filter.Matching
import Stencil.Proofs.Filter.Position
import Stencil.Proofs.Filter.Capture
import Stencil.Proofs.Filter.Restriction
import Stencil.Proofs.Filter.Meaning
import Stencil.Proofs.Template.Markless
import Stencil.Proofs.Template.Seams
import Stencil.Proofs.Template.Quotation
import Stencil.Proofs.Template.Balance
import Stencil.Proofs.Template.Printing
import Stencil.Proofs.Template.Roundtrip
import Stencil.Proofs.Engine.Concealment
import Stencil.Proofs.Filter.Repetition
import Stencil.Proofs.Render.Logic
import Stencil.Proofs.Render.Includes
import Stencil.Proofs.Engine.Session
import Stencil.Proofs.Template.Places
import Stencil.Proofs.Template.Tiling
import Stencil.Proofs.Template.Grammar
import Stencil.Proofs.Template.Conservation
import Stencil.Proofs.Template.Nested
import Stencil.Proofs.Template.Placement
import Stencil.Proofs.Engine.Evaluation
import Stencil.Proofs.Render.Moments
import Stencil.Proofs.Render.Chain
import Stencil.Proofs.Render.Namespace
import Stencil.Proofs.Render.Coherence
import Stencil.Proofs.Service.Coherence
import Stencil.Proofs.Render.Report
import Stencil.Proofs.Calendar.DayNumber
import Stencil.Proofs.Calendar.Months
import Stencil.Proofs.Files.Confinement
import Stencil.Proofs.Number.Double
import Stencil.Proofs.Calendar.Reading
import Stencil.Proofs.Helper.Months
import Stencil.Proofs.Engine.Verbatim
import Stencil.Proofs.Files.Spelling
import Stencil.Proofs.Number.Order
import Stencil.Proofs.Value.Order
import Stencil.Proofs.Value.Equality
import Stencil.Proofs.Helper.Sorting
import Stencil.Proofs.Filter.Outline
import Stencil.Proofs.Engine.Literal
import Stencil.Proofs.Calendar.Span
import Stencil.Proofs.Number.Digits
import Stencil.Proofs.Number.Whole
import Stencil.Proofs.Calendar.Writing
import Stencil.Proofs.Helper.Difference
import Stencil.Proofs.Filter.Globs
import Stencil.Proofs.Value.Overlay
import Stencil.Proofs.Calendar.Exchange
import Stencil.Proofs.Helper.Exchange
import Stencil.Proofs.Json.Tokens
import Stencil.Proofs.Json.Nesting
import Stencil.Proofs.Json.Layout
import Stencil.Proofs.Json.Roundtrip
import Stencil.Proofs.Helper.Json
import Stencil.Proofs.Render.Naming
import Stencil.Proofs.Render.Body
import Stencil.Proofs.Text.Entity
import Stencil.Proofs.Text.Markup
import Stencil.Proofs.Text.Percent
import Stencil.Proofs.Helper.Text
import Stencil.Proofs.Helper.Registry
import Stencil.Proofs.Render.Words
import Stencil.Service.Shared
import Stencil.Proofs.Http.Language
import Stencil.Proofs.Request.Settings
import Stencil.Proofs.Files.Listing
import Stencil.Proofs.Service.Renewal
import Stencil.Proofs.Text.Ascii
import Stencil.Proofs.Text.Ends
import Stencil.Proofs.Number.Grammar
import Stencil.Proofs.Text.Slug
import Stencil.Proofs.Calendar.Pattern
import Stencil.Proofs.Render.Dates
