import CalendarSeries.Logging.Timing
import CalendarSeries.Main
import CalendarSeries.Proofs.Aggregation.Making
import CalendarSeries.Proofs.Bucket.LocalDays
import CalendarSeries.Proofs.Bucket.Ownership
import CalendarSeries.Proofs.Bucket.Splitting
import CalendarSeries.Proofs.Bucket.WallDay
import CalendarSeries.Proofs.CommandLine.Exit
import CalendarSeries.Proofs.CommandLine.LocalRange
import CalendarSeries.Proofs.CommandLine.LocalSpan
import CalendarSeries.Proofs.Instant.ReadBack
import CalendarSeries.Proofs.Instant.SavingDays
import CalendarSeries.Proofs.LabelFilter.Equality
import CalendarSeries.Proofs.LabelFilter.Grammar
import CalendarSeries.Proofs.Query.Asked
import CalendarSeries.Proofs.Query.CalendarResult
import CalendarSeries.Proofs.Query.CallWords
import CalendarSeries.Proofs.Query.Combining
import CalendarSeries.Proofs.Query.Dealing
import CalendarSeries.Proofs.Query.Execution
import CalendarSeries.Proofs.Query.FailedStep
import CalendarSeries.Proofs.Query.LastGiven
import CalendarSeries.Proofs.Query.Mirror
import CalendarSeries.Proofs.Query.OneBucket
import CalendarSeries.Proofs.Query.ProperRanges
import CalendarSeries.Proofs.Query.RawResult
import CalendarSeries.Proofs.Query.ReadBack
import CalendarSeries.Proofs.Query.Reconciling
import CalendarSeries.Proofs.Query.RoundTrip
import CalendarSeries.Proofs.Query.SubRanges
import CalendarSeries.Proofs.Sample.Average
import CalendarSeries.Proofs.Sample.Join
import CalendarSeries.Proofs.Sample.Rounding
import CalendarSeries.Proofs.Sample.Transforming
import CalendarSeries.Proofs.Series.Adding
import CalendarSeries.Proofs.Series.Creation
import CalendarSeries.Proofs.Series.Labels
import CalendarSeries.Proofs.Settings.EnvFile
import CalendarSeries.Proofs.Settings.FailedLoad
import CalendarSeries.Proofs.Text.Words
import CalendarSeries.Sample.Equality
import CalendarSeries.Series.Commands
