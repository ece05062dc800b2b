import LineExtraction.Catalogue.Written
import LineExtraction.Main
import LineExtraction.Proofs.Backtracking.PhraseReading
import LineExtraction.Proofs.Backtracking.Quoting
import LineExtraction.Proofs.Backtracking.Reach
import LineExtraction.Proofs.Backtracking.References
import LineExtraction.Proofs.CommandLine.Accounting
import LineExtraction.Proofs.CommandLine.Failing
import LineExtraction.Proofs.Compilation.Marks
import LineExtraction.Proofs.Decoding.RoundTrip
import LineExtraction.Proofs.Extraction.Agreement
import LineExtraction.Proofs.Extraction.Appending
import LineExtraction.Proofs.Extraction.Attribution
import LineExtraction.Proofs.Extraction.Backends
import LineExtraction.Proofs.Extraction.Candidates
import LineExtraction.Proofs.Extraction.FieldBinding
import LineExtraction.Proofs.Extraction.Geometry
import LineExtraction.Proofs.Extraction.LiteralLines
import LineExtraction.Proofs.Extraction.Membership
import LineExtraction.Proofs.Extraction.Reporting
import LineExtraction.Proofs.Extraction.Wrapping
import LineExtraction.Proofs.Linear.CanonicalForm
import LineExtraction.Proofs.Linear.NameSurvey
import LineExtraction.Proofs.Linear.PhraseTrees
import LineExtraction.Proofs.Pattern.Erasure
import LineExtraction.Proofs.Pattern.NameScan
import LineExtraction.Proofs.Backtracking.Soundness
import LineExtraction.Proofs.Backtracking.Widening
import LineExtraction.Proofs.Compilation.Faults
import LineExtraction.Proofs.Compilation.Locations
import LineExtraction.Proofs.Report.Framing
import LineExtraction.Proofs.Pattern.PositionalScans
