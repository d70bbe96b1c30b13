import CallExcerpt.Graph.Loading
import CallExcerpt.Main
import CallExcerpt.Proofs.Channel.Inbox
import CallExcerpt.Proofs.Channel.Turns
import CallExcerpt.Proofs.Command.Sending
import CallExcerpt.Proofs.Dot.Reading
import CallExcerpt.Proofs.Files.Disk
import CallExcerpt.Proofs.Files.Gzip
import CallExcerpt.Proofs.Files.Path
import CallExcerpt.Proofs.Files.Traces
import CallExcerpt.Proofs.Filter.History
import CallExcerpt.Proofs.Filter.Verdict
import CallExcerpt.Proofs.Firsts
import CallExcerpt.Proofs.Graph.Building
import CallExcerpt.Proofs.Graph.Consistent
import CallExcerpt.Proofs.Graph.Contents
import CallExcerpt.Proofs.Graph.Grammar
import CallExcerpt.Proofs.Graph.Keeping
import CallExcerpt.Proofs.Graph.Overlay
import CallExcerpt.Proofs.Graph.SourceFile
import CallExcerpt.Proofs.Graph.Styling
import CallExcerpt.Proofs.Json.Spelling
import CallExcerpt.Proofs.Request.Artifact
import CallExcerpt.Proofs.Request.Broken
import CallExcerpt.Proofs.Request.Spelling
import CallExcerpt.Proofs.Request.Wire
import CallExcerpt.Proofs.Service.Along
import CallExcerpt.Proofs.Service.Apart
import CallExcerpt.Proofs.Service.Broken
import CallExcerpt.Proofs.Service.Confined
import CallExcerpt.Proofs.Service.Failing
import CallExcerpt.Proofs.Service.Filing
import CallExcerpt.Proofs.Service.Leaving
import CallExcerpt.Proofs.Service.Onward
import CallExcerpt.Proofs.Service.Refusing
import CallExcerpt.Proofs.Service.Resident
import CallExcerpt.Proofs.Service.Roles
import CallExcerpt.Proofs.Service.Serve
import CallExcerpt.Proofs.Service.Steady
import CallExcerpt.Proofs.Success
import CallExcerpt.Proofs.Table
import CallExcerpt.Proofs.Text.Numeral
import CallExcerpt.Proofs.Text.Pieces
import CallExcerpt.Proofs.Text.Utf8
import CallExcerpt.Proofs.Tools.Reading
import CallExcerpt.Proofs.Tools.Reporting
import CallExcerpt.Proofs.Walk.AnyOrder
import CallExcerpt.Proofs.Walk.Attributes
import CallExcerpt.Proofs.Walk.Depth
import CallExcerpt.Proofs.Walk.Expansion
import CallExcerpt.Proofs.Walk.Forest
import CallExcerpt.Proofs.Walk.Growth
import CallExcerpt.Proofs.Walk.Justified
import CallExcerpt.Proofs.Walk.Labels
import CallExcerpt.Proofs.Walk.Members
import CallExcerpt.Proofs.Walk.Move
import CallExcerpt.Proofs.Walk.Order
import CallExcerpt.Proofs.Walk.Pruning
import CallExcerpt.Proofs.Walk.Reach
import CallExcerpt.Proofs.Walk.Removal
import CallExcerpt.Proofs.Walk.Screens
import CallExcerpt.Proofs.Walk.Shape
import CallExcerpt.Proofs.Walk.Sources
import CallExcerpt.Proofs.Walk.TakingBack
import CallExcerpt.Proofs.Walk.Transpose
import CallExcerpt.Tools.Call
