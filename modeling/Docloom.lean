import Docloom.Main
import Docloom.Proofs.Command.Agreement
import Docloom.Proofs.Directive.Exclusion
import Docloom.Proofs.Directive.Remainder
import Docloom.Proofs.Link.Insertion
import Docloom.Proofs.Markdown.RoundTrip
import Docloom.Proofs.Partials.Composition
import Docloom.Proofs.Partials.Outcome
import Docloom.Proofs.Partials.Survival
import Docloom.Proofs.Redirect.Filling
import Docloom.Proofs.Redirect.Instance
import Docloom.Proofs.Redirect.Resolution
import Docloom.Proofs.Redirect.Sharing
import Docloom.Proofs.Site.Identity
import Docloom.Proofs.Site.Orders
import Docloom.Proofs.Site.Trees
import Docloom.Proofs.Site.Paragraphs
import Docloom.Proofs.Version.Published
import Docloom.Proofs.Directive.Matching
import Docloom.Proofs.Directive.Range
import Docloom.Proofs.Directive.Renaming
import Docloom.Proofs.File.Literals
import Docloom.Proofs.Partials.Literals
import Docloom.Proofs.Site.Literals
import Docloom.Proofs.Frontmatter
import Docloom.Proofs.Version.Ranking
import Docloom.Proofs.Version.Readings
import Docloom.Proofs.Directive.Comparison
import Docloom.Proofs.Alert
import Docloom.Proofs.Directive.Recognition
import Docloom.Proofs.Version.Runs
import Docloom.Proofs.Markdown.FencedCode
import Docloom.Proofs.Markdown.LinkTarget
import Docloom.Proofs.Redirect.Printing
import Docloom.Proofs.Redirect.Alignment
