import SecureStartup.Value.Order
import SecureStartup.Value.Text

/-!
  Values that JSON has no form for, turned into ones that it has (`json_serializer`).

  A writer of JSON hands over every value that it has no form for, and writes what it gets back, in
  which there may again be such values.  `converted?` is one such step.  Only lines of the log are
  written with it; the outputs of the program and of the configuration tool are not, and there the same
  values are replaced by their texts or refused.
-/

namespace SecureStartup.Value

/-- The text that a value is converted to: dates and times in ISO 8601, paths as they are, categories
    as their words, everything else as its text. -/
def convertedText : Value → String
  | .date d => String.ofList d.iso
  | .datetime t => t.iso
  | .category c => c.word
  | v => v.text

/-- **A value converted**, its parts left alone: tuples and sets become lists, sets in order;
    everything else becomes text.  A set whose items have no order cannot be converted. -/
def converted? : Value → Option Value
  | .set xs | .frozenset xs => (sort? xs).map .list
  | .tuple xs => some (.list xs)
  | v => some (.str v.convertedText)

end SecureStartup.Value
