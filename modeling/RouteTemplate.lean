import RouteTemplate.Catalogue
import RouteTemplate.Session
import RouteTemplate.Main
import RouteTemplate.Proofs.Pattern.Fit
import RouteTemplate.Proofs.Pattern.Separation
import RouteTemplate.Proofs.Pattern.Reading
import RouteTemplate.Proofs.Pattern.Grammar
import RouteTemplate.Proofs.Assignment
import RouteTemplate.Proofs.Pattern.Filling
import RouteTemplate.Proofs.Path.Extension
import RouteTemplate.Proofs.Path.Built
import RouteTemplate.Proofs.Route
import RouteTemplate.Proofs.Registry.Construction
import RouteTemplate.Proofs.Registry.Priority
import RouteTemplate.Proofs.Registry.Soundness
import RouteTemplate.Proofs.Registry.Recovery
import RouteTemplate.Proofs.Registry.OwnPaths
import RouteTemplate.Proofs.Pattern.Validity
import RouteTemplate.Proofs.Pattern.Segments
import RouteTemplate.Proofs.Resolution
import RouteTemplate.Proofs.Registry.Standard
import RouteTemplate.Proofs.Registry.Defects
import RouteTemplate.Proofs.Respelling
import RouteTemplate.Proofs.Respelling.Pattern
import RouteTemplate.Proofs.Respelling.Separator
import RouteTemplate.Proofs.Registry.Refusal
import RouteTemplate.Proofs.Session.Registries
import RouteTemplate.Proofs.CommandLine.Definition
import RouteTemplate.Proofs.Registry.Canonical
import RouteTemplate.Proofs.Registry.StandardPaths
import RouteTemplate.Proofs.CommandLine.Status
import RouteTemplate.Proofs.Pattern.Agreement
import RouteTemplate.Proofs.Pattern.Substitution
import RouteTemplate.Proofs.Session.Log
import RouteTemplate.Proofs.Pattern.Tolerance
import RouteTemplate.Proofs.Pattern.WholeSegments
import RouteTemplate.Proofs.Registry.Verdict
import RouteTemplate.Proofs.Registry.Extensions
import RouteTemplate.Proofs.CommandLine.Merging
import RouteTemplate.Proofs.Text.Words
import RouteTemplate.Proofs.CommandLine.Table
