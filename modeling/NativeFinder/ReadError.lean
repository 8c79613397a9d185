import NativeFinder.Number.Numeral

/-!
# Errors of reading values

The values of settings are read from texts in two formats. In both, a text is either not in
the format at all, or it holds something that has the form of a value but stands for none: a
numeral of too many digits, or a date that there is not.
-/

namespace NativeFinder

/-- Why a text gives no value. -/
inductive ReadError where
  | malformed
  | numeral (error : Numeral.IntError)
  | value (message : Text)
deriving DecidableEq, Inhabited

end NativeFinder
