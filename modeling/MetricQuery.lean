import MetricQuery.CommandLine
import MetricQuery.Series.Record
import MetricQuery.Main
import MetricQuery.Proofs.Engine.SharedHoldings
import MetricQuery.Proofs.Engine.Grid
import MetricQuery.Proofs.Target.RoundTrip
import MetricQuery.Proofs.Series.ConsolidateRange
import MetricQuery.Proofs.Engine.FetchStep
import MetricQuery.Proofs.Target.CallText
import MetricQuery.Proofs.Target.Arguments
import MetricQuery.Proofs.Target.Application
import MetricQuery.Proofs.Target.ArgumentList
import MetricQuery.Proofs.Target.Faults
import MetricQuery.Proofs.Series.AlignRange
import MetricQuery.Proofs.Target.Literals
import MetricQuery.Proofs.Target.Positions
import MetricQuery.Proofs.Series.Reordering
import MetricQuery.Proofs.Series.Slice
import MetricQuery.Proofs.Builtin.Rebucketing
import MetricQuery.Proofs.Builtin.Hits
import MetricQuery.Proofs.Builtin.Moving
import MetricQuery.Proofs.Engine.PointWindow
import MetricQuery.Proofs.Builtin.Forecast
import MetricQuery.Proofs.Builtin.Lead
import MetricQuery.Proofs.Engine.Calls
import MetricQuery.Proofs.Engine.MovingStart
import MetricQuery.Proofs.Engine.Bootstrap
import MetricQuery.Proofs.Engine.Filling
import MetricQuery.Proofs.Builtin.Gaps
import MetricQuery.Proofs.Builtin.IntervalTotals
import MetricQuery.Proofs.Builtin.Growth
import MetricQuery.Proofs.Engine.Shifting
import MetricQuery.Proofs.Builtin.Releases
import MetricQuery.Proofs.Builtin.Grouping
import MetricQuery.Proofs.Glob.Regex
import MetricQuery.Proofs.Time.Interval
import MetricQuery.Proofs.Time.Alignment
import MetricQuery.Proofs.Builtin.AbsentArguments
import MetricQuery.Proofs.Engine.Omission
import MetricQuery.Proofs.Series.InlineTags
import MetricQuery.Proofs.Builtin.RebucketingRange
import MetricQuery.Proofs.Target.InnerMetric
import MetricQuery.Proofs.Engine.Spellings
import MetricQuery.Proofs.Series.WrappedNames
import MetricQuery.Proofs.Builtin.BackReferences
