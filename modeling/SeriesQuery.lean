import SeriesQuery.Files.Tree
import SeriesQuery.Main
import SeriesQuery.Proofs.Archive.Cut
import SeriesQuery.Proofs.Archive.Delivery
import SeriesQuery.Proofs.Archive.History
import SeriesQuery.Proofs.Archive.Partition
import SeriesQuery.Proofs.Archive.Truncation
import SeriesQuery.Proofs.Execution.Several
import SeriesQuery.Proofs.Execution.SortedOnce
import SeriesQuery.Proofs.Execution.Split
import SeriesQuery.Proofs.Execution.StagesSucceed
import SeriesQuery.Proofs.Execution.WholeRange
import SeriesQuery.Proofs.Filter.Printing
import SeriesQuery.Proofs.Filter.TagTexts
import SeriesQuery.Proofs.Query.Rendering
import SeriesQuery.Proofs.Query.FilterElements
import SeriesQuery.Proofs.Store.Reordering
import SeriesQuery.Proofs.Store.TagLists
import SeriesQuery.Proofs.Stage.Laziness
import SeriesQuery.Proofs.Stage.Rates
import SeriesQuery.Proofs.Stage.Windows
import SeriesQuery.Proofs.Stage.RollUp
import SeriesQuery.Proofs.Stage.Reordering
import SeriesQuery.Proofs.Double.Integers
import SeriesQuery.Proofs.Double.Extremes
import SeriesQuery.Proofs.Double.Number
import SeriesQuery.Proofs.Stage.IntegerConstant
import SeriesQuery.Proofs.Pattern.Spans
import SeriesQuery.Proofs.Pattern.Locality
import SeriesQuery.Proofs.Pattern.LocalReaders
import SeriesQuery.Proofs.Pattern.LocalClasses
import SeriesQuery.Proofs.Pattern.LocalExpressions
import SeriesQuery.Proofs.Pattern.Enclosed
import SeriesQuery.Proofs.Filter.WholeValue
import SeriesQuery.Proofs.Stage.Selections
import SeriesQuery.Proofs.Filter.Scanning
import SeriesQuery.Proofs.Filter.Printable
import SeriesQuery.Proofs.Store.Insertion
import SeriesQuery.Proofs.Archive.LimitedRoom
import SeriesQuery.Proofs.Double.Truncation
import SeriesQuery.Proofs.Double.Rounding
import SeriesQuery.Proofs.Double.Nearest
import SeriesQuery.Proofs.Stage.Constants
import SeriesQuery.Proofs.Stage.ArgumentForms
import SeriesQuery.Proofs.Query.TrailingSeparators
import SeriesQuery.Proofs.Execution.Assembly
import SeriesQuery.Proofs.Filter.Refusal
import SeriesQuery.Proofs.Range.Lengths
import SeriesQuery.Proofs.Range.Relative
import SeriesQuery.Proofs.Double.Shortest
import SeriesQuery.Proofs.Json.Documents
import SeriesQuery.Proofs.Json.Series
import SeriesQuery.Proofs.Settings.FirstFile
