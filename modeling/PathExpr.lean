import PathExpr.Chain.Build
import PathExpr.Path
import PathExpr.Proofs.Equivalence
import PathExpr.Proofs.Lexical.Encoding
import PathExpr.Proofs.Lexical.NumberTokens
import PathExpr.Proofs.Lexical.Strings
import PathExpr.Proofs.Linking
import PathExpr.Proofs.Number.Accepted
import PathExpr.Proofs.Number.Exact
import PathExpr.Proofs.Number.Integers
import PathExpr.Proofs.Regex.Flags
import PathExpr.Proofs.Regex.Quoted
import PathExpr.Proofs.Reports
import PathExpr.Proofs.Respaced
import PathExpr.Proofs.RoundTrip
import PathExpr.Proofs.Scope
import PathExpr.Proofs.Signs
import PathExpr.Proofs.Syntax.Progress
import PathExpr.Regex.Test
