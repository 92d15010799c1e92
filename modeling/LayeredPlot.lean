import LayeredPlot.Layer.Listing
import LayeredPlot.Number.Double
import LayeredPlot.Number.Exact
import LayeredPlot.Picture.Session
import LayeredPlot.Settings.Document
import LayeredPlot.Table.Lemmas
import LayeredPlot.Tick.Candidates
import LayeredPlot.Proofs.Number.Exact
import LayeredPlot.Proofs.Tick.Quality
import LayeredPlot.Proofs.Tick.Enumeration
import LayeredPlot.Proofs.Tick.Pruning
import LayeredPlot.Proofs.Outcome
import LayeredPlot.Proofs.Table
import LayeredPlot.Proofs.Plot.Agreement
import LayeredPlot.Proofs.Plot.Assembly
import LayeredPlot.Proofs.Plot.Resolution
import LayeredPlot.Proofs.Plot.SeriesTypes
import LayeredPlot.Proofs.Limits
import LayeredPlot.Proofs.Tick.Choice
import LayeredPlot.Proofs.Scale.Extent
import LayeredPlot.Proofs.Picture.Panel
import LayeredPlot.Proofs.Plot.Containment
import LayeredPlot.Proofs.Picture.Drawing
import LayeredPlot.Proofs.Picture.History
import LayeredPlot.Proofs.Number.Decade
import LayeredPlot.Proofs.Tick.Completeness
import LayeredPlot.Proofs.Tick.Chosen
import LayeredPlot.Proofs.Tick.Standard
import LayeredPlot.Proofs.Tick.Words
import LayeredPlot.Proofs.Scale.Pooling
import LayeredPlot.Proofs.Plot.EmptyDeclaration
import LayeredPlot.Proofs.Data.Frame
import LayeredPlot.Proofs.Data.Reading
import LayeredPlot.Proofs.Plot.Structure
import LayeredPlot.Proofs.Number.Double
import LayeredPlot.Proofs.Plot.Reordering
import LayeredPlot.Proofs.Number.Digits
import LayeredPlot.Proofs.Settings.Document
import LayeredPlot.Proofs.Tick.Mirror
import LayeredPlot.Proofs.Tick.ZeroTick
import LayeredPlot.Proofs.Tick.Walk
import LayeredPlot.Proofs.Tick.Expansion
import LayeredPlot.Proofs.Scale.Collapse
import LayeredPlot.Proofs.Limits.Undefined
import LayeredPlot.Proofs.Layer.Filling
import LayeredPlot.Proofs.Layer.Evaluation
import LayeredPlot.Proofs.Layer.Alignment
import LayeredPlot.Proofs.Plot.Sharing
import LayeredPlot.Proofs.Plot.Conflicts
import LayeredPlot.Proofs.Number.Whole
import LayeredPlot.Proofs.Picture.Rows
import LayeredPlot.Proofs.Picture.Document
