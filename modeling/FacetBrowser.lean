import FacetBrowser.Main
import FacetBrowser.Session
import FacetBrowser.Proofs.CompletionOrder
import FacetBrowser.Proofs.PathIndependence
import FacetBrowser.Proofs.Regrouping
import FacetBrowser.Proofs.Acceptance
import FacetBrowser.Proofs.Placement
import FacetBrowser.Proofs.Extension
import FacetBrowser.Proofs.Narrowing
import FacetBrowser.Proofs.Conjunction
import FacetBrowser.Proofs.Opening
import FacetBrowser.Proofs.Absence
import FacetBrowser.Proofs.Frugality
import FacetBrowser.Proofs.Listening
import FacetBrowser.Proofs.Closing
import FacetBrowser.Proofs.Lifecycle
import FacetBrowser.Proofs.Redelivery
import FacetBrowser.Proofs.Ranking
import FacetBrowser.Proofs.Served
import FacetBrowser.Proofs.Confinement
import FacetBrowser.Proofs.Settlement
import FacetBrowser.Proofs.Assembly
import FacetBrowser.Proofs.Traversal
import FacetBrowser.Proofs.Selection
import FacetBrowser.Proofs.Rounds
import FacetBrowser.Proofs.RoundTrip
import FacetBrowser.Proofs.Reading
import FacetBrowser.Proofs.Overrides
import FacetBrowser.Proofs.Links
import FacetBrowser.Proofs.Rounding
import FacetBrowser.Proofs.Digits
import FacetBrowser.Proofs.NumberText
import FacetBrowser.Proofs.Spelling
import FacetBrowser.Proofs.Decoded
import FacetBrowser.Proofs.Siblings
