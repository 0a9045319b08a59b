import LogSearch.Execution
import LogSearch.Main
import LogSearch.Proofs.Calendar
import LogSearch.Proofs.Timestamp
import LogSearch.Proofs.Expansion
import LogSearch.Proofs.ClauseMeaning
import LogSearch.Proofs.Translation
import LogSearch.Proofs.Refinement
import LogSearch.Proofs.Planning
import LogSearch.Proofs.Authorization
import LogSearch.Proofs.Overrides
import LogSearch.Proofs.Reading
import LogSearch.Proofs.WellFormed
import LogSearch.Proofs.ExpandedTrees
import LogSearch.Proofs.Building
import LogSearch.Proofs.History
import LogSearch.Proofs.Questions
import LogSearch.Proofs.Defects
import LogSearch.Proofs.Execution
import LogSearch.Proofs.KeepLists
import LogSearch.Proofs.Aggregations
import LogSearch.Proofs.Names
import LogSearch.Proofs.ReadBack
import LogSearch.Proofs.ReadBackSearchTypes
import LogSearch.Proofs.ReadBackQueries
import LogSearch.Proofs.RoundTrip
import LogSearch.Proofs.ReadBackStates
import LogSearch.Proofs.Paging
import LogSearch.Proofs.Parameters
import LogSearch.Proofs.Phrases
import LogSearch.Proofs.Keywords
import LogSearch.Proofs.Windows
import LogSearch.Proofs.BucketContents
import LogSearch.Proofs.BucketRows
import LogSearch.Proofs.Restriction
import LogSearch.Proofs.Records
import LogSearch.Proofs.FilterGrammar
import LogSearch.Proofs.PrintedPlans
import LogSearch.Proofs.Rounding
import LogSearch.Proofs.WrittenNumbers
import LogSearch.Proofs.SeriesIds
import LogSearch.Proofs.FilterExpressions
import LogSearch.Proofs.RequestRendering
