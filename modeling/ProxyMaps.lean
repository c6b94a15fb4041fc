import ProxyMaps.Helper.Standard
import ProxyMaps.Main
import ProxyMaps.Proofs.AnnotationValue.RewriteTarget
import ProxyMaps.Proofs.MapFile.Canonical
import ProxyMaps.Proofs.MapFile.Certificates
import ProxyMaps.Proofs.Regex.Malformed
import ProxyMaps.Proofs.RouteFile
import ProxyMaps.Proofs.Snapshot.Reading
import ProxyMaps.Proofs.Snapshot.Reported
import ProxyMaps.Proofs.Regex.WholeText
import ProxyMaps.Proofs.Allowlist
import ProxyMaps.Proofs.Decimal.Numeral
import ProxyMaps.Proofs.Decimal.Rounding
import ProxyMaps.Proofs.Duration
import ProxyMaps.Proofs.AnnotationValue.Timeout
import ProxyMaps.Proofs.Helper.Sanitizers
import ProxyMaps.Proofs.MapFile.WildcardDomain
import ProxyMaps.Proofs.Regex.Answers
import ProxyMaps.Proofs.Snapshot.NullField
import ProxyMaps.Proofs.Regex.Cache.History
import ProxyMaps.Proofs.Grouping
import ProxyMaps.Proofs.Command.Check
import ProxyMaps.Proofs.HostPattern.Separation
import ProxyMaps.Proofs.HostPattern.SubdomainLanguage
import ProxyMaps.Proofs.Command.Maps
import ProxyMaps.Proofs.Snapshot.LoadsBack
import ProxyMaps.Proofs.Duration.Exact
import ProxyMaps.Proofs.Cidr
import ProxyMaps.Proofs.Helper.Binding
import ProxyMaps.Proofs.Regex.FirstMatch
import ProxyMaps.Proofs.Decimal.Scientific
import ProxyMaps.Proofs.Decimal.Shortest
import ProxyMaps.Proofs.Decimal.Layout
import ProxyMaps.Proofs.Calendar
import ProxyMaps.Proofs.Text.Quoted
import ProxyMaps.Proofs.Value.Scalar
import ProxyMaps.Proofs.Snapshot.Entries
import ProxyMaps.Proofs.AnnotationValue.Indent
import ProxyMaps.Proofs.HostPattern.CertificateHost
import ProxyMaps.Proofs.Timer
import ProxyMaps.Proofs.Decimal.Grammar
import ProxyMaps.Proofs.Snapshot.Weight
import ProxyMaps.Proofs.Helper.Matching
