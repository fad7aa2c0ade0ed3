import FilterList.Main
import FilterList.Text.Quoted
import FilterList.Proofs.RegexMatching
import FilterList.Proofs.CompilerRun
import FilterList.Proofs.DecisionOrder
import FilterList.Proofs.TableHits
import FilterList.Proofs.SubscriptionPhases
import FilterList.Proofs.SubscriptionLoading
import FilterList.Proofs.DistinctEntries
import FilterList.Proofs.TextCutting
import FilterList.Proofs.WrittenRule
import FilterList.Proofs.RuleReading
import FilterList.Proofs.RulePlacing
import FilterList.Proofs.RuleMeaning
import FilterList.Proofs.BlockingRules
import FilterList.Proofs.RuleParts
import FilterList.Proofs.PlacedEntries
import FilterList.Proofs.RuleOutcomes
import FilterList.Proofs.ListAccounts
import FilterList.Proofs.IdleLines
import FilterList.Proofs.EvaluationTrace
import FilterList.Proofs.EntryShapes
import FilterList.Proofs.RuleScope
import FilterList.Proofs.FurtherLines
import FilterList.Proofs.ExceptionRules
import FilterList.Proofs.NegatedDomains
import FilterList.Proofs.PageHost
import FilterList.Proofs.Utf8Decoding
import FilterList.Proofs.ListBytes
import FilterList.Proofs.LoadedLists
import FilterList.Proofs.RegexContinuation
import FilterList.Proofs.ClassContinuation
import FilterList.Proofs.PatternReading
import FilterList.Proofs.WholeUrlPatterns
import FilterList.Proofs.TextSlices
import FilterList.Proofs.HostGrammar
import FilterList.Proofs.TextBytes
import FilterList.Proofs.HostBytes
import FilterList.Proofs.DomainLabels
import FilterList.Proofs.CaretLines
import FilterList.Proofs.RegexRules
import FilterList.Proofs.SchemePatterns
import FilterList.Proofs.OptionedLines
import FilterList.Proofs.LimitedLines
import FilterList.Proofs.DomainItems
import FilterList.Proofs.DomainSpread
import FilterList.Proofs.TrailingStars
import FilterList.Proofs.LineEndings
import FilterList.Proofs.WildcardLayouts
import FilterList.Proofs.OptionOrder
import FilterList.Proofs.BrokenPatterns
import FilterList.Proofs.LineRecords
import FilterList.Proofs.CommandFailures
import FilterList.Proofs.JsonReading
import FilterList.Proofs.BatchReplies
import FilterList.Proofs.PatternSegments
import FilterList.Proofs.OptionCuts
import FilterList.Proofs.SampledEntries
import FilterList.Proofs.ReachedEntries
import FilterList.Proofs.TableCells
