import Stencil.Main
import Stencil.Value.Input
import Stencil.Sink.Operation
import Stencil.Render.Tree
import Stencil.Template.Printer
import Stencil.Proofs.Template.Outline
import Stencil.Proofs.Render.Meaning
import Stencil.Proofs.Template.Grammar
import Stencil.Proofs.Template.RoundTrip
import Stencil.Proofs.Template.Spans
import Stencil.Proofs.Render.Related
import Stencil.Proofs.Sink.Prefix
import Stencil.Proofs.Number.Plain
import Stencil.Proofs.Render.Escaping
import Stencil.Proofs.Record.Table
import Stencil.Proofs.Render.Maps
import Stencil.Proofs.Render.Replace
import Stencil.Proofs.Render.Absence
import Stencil.Proofs.Render.Wrapping
import Stencil.Proofs.Render.Unnamed
import Stencil.Proofs.Render.Faults
import Stencil.Proofs.Render.Adapters
import Stencil.Proofs.Sink.Agreement
import Stencil.Proofs.Render.Markdown
import Stencil.Cli.Sequence
import Stencil.Proofs.Cli.Isolation
import Stencil.Proofs.Template.Literal
import Stencil.Proofs.Render.Branches
import Stencil.Proofs.Render.Slices
import Stencil.Proofs.Cli.Reports
import Stencil.Proofs.Template.Comments
import Stencil.Proofs.Template.Braces
import Stencil.Proofs.Template.Surrogates
import Stencil.Proofs.Sink.Entities
import Stencil.Proofs.Config.Expansion
import Stencil.Proofs.Record.Resolution
import Stencil.Proofs.Config.Stages
import Stencil.Proofs.Config.Extensions
import Stencil.Proofs.Sink.Accounting
import Stencil.Proofs.Render.ToFile
import Stencil.Proofs.Config.Default
import Stencil.Proofs.Cli.Init
import Stencil.Proofs.Cli.Confinement
import Stencil.Proofs.Config.Nearest
import Stencil.Proofs.Log.Delivery
import Stencil.Proofs.Log.Lines
import Stencil.Proofs.Record.Buckets
import Stencil.Proofs.Render.Capacity
