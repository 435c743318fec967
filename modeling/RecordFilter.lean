import RecordFilter.Expr.Eval
import RecordFilter.Expr.Json
import RecordFilter.Expr.Parse
import RecordFilter.Expr.Render
import RecordFilter.Scripting.Calls
import RecordFilter.Session
import RecordFilter.Proofs.Outcome
import RecordFilter.Proofs.Parens
import RecordFilter.Proofs.ScanRun
import RecordFilter.Proofs.Tree
import RecordFilter.Proofs.Monotonicity
import RecordFilter.Proofs.Pieces
import RecordFilter.Proofs.CanonicalTokens
import RecordFilter.Proofs.Apostrophes
import RecordFilter.Proofs.CanonicalRows
import RecordFilter.Proofs.RoundTrip
import RecordFilter.Proofs.OutsideQuotes
import RecordFilter.Proofs.ReadTrees
import RecordFilter.Proofs.CanonicalForm
import RecordFilter.Proofs.CanonicalIdentity
import RecordFilter.Proofs.Segments
import RecordFilter.Proofs.Seams
import RecordFilter.Proofs.TokenPlaces
import RecordFilter.Proofs.Grammar
import RecordFilter.Proofs.Relocation
import RecordFilter.Proofs.Composition
import RecordFilter.Proofs.Refusals
import RecordFilter.Proofs.ErrorPlaces
import RecordFilter.Proofs.UnclosedParens
import RecordFilter.Proofs.SuppliedParens
import RecordFilter.Proofs.CacheRuns
import RecordFilter.Proofs.SessionRuns
import RecordFilter.Proofs.WaysOfAsking
import RecordFilter.Proofs.LowercaseParts
import RecordFilter.Proofs.InstallRaces
import RecordFilter.Proofs.WrittenJson
import RecordFilter.Proofs.TreesAsJson
import RecordFilter.Proofs.TreeHeights
import RecordFilter.Proofs.ConditionPlaces
import RecordFilter.Proofs.NestingLimit
import RecordFilter.Proofs.RedundantParens
import RecordFilter.Proofs.LowercaseForms
import RecordFilter.Proofs.CaseVariants
import RecordFilter.Proofs.CacheRounds
import RecordFilter.Proofs.FinalRefusals
import RecordFilter.Proofs.ImplicitAnd
import RecordFilter.Proofs.TokenLikeness
import RecordFilter.Proofs.DisplayedTokens
import RecordFilter.Proofs.RefusedRequests
import RecordFilter.Proofs.ClosedGroups
import RecordFilter.Proofs.ScriptedSettings
import RecordFilter.Proofs.Numerals
import RecordFilter.Proofs.JsonGrammar
import RecordFilter.Proofs.JsonReading
import RecordFilter.Proofs.JsonSettings
