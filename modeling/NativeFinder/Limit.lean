/-!
# Limits on listings

A listing may be cut to a number of items. No limit keeps them all, a limit `n` keeps the
first `n`, and a negative limit `-n` drops the last `n`.
-/

namespace NativeFinder

/-- How many items of a listing are shown; `none` for all of them. -/
abbrev Limit := Option Int

namespace Limit

/-- The items of a listing within the limit. -/
def apply {α : Type} : Limit → List α → List α
  | none, xs => xs
  | some (.ofNat n), xs => xs.take n
  | some (.negSucc n), xs => xs.take (xs.length - (n + 1))

/-- What is shown is an initial part of the listing. -/
theorem apply_prefix {α : Type} (limit : Limit) (xs : List α) : limit.apply xs <+: xs := by
  match limit with
  | none => exact List.prefix_rfl
  | some (.ofNat n) => exact List.take_prefix n xs
  | some (.negSucc n) => exact List.take_prefix _ xs

/-- Of nothing there is nothing to show. -/
theorem apply_nil {α : Type} (limit : Limit) : limit.apply ([] : List α) = [] :=
  List.prefix_nil.mp (limit.apply_prefix [])

/-- A limit that is not negative bounds what is shown. -/
theorem length_apply_le {α : Type} (n : Nat) (xs : List α) :
    (apply (some n) xs).length ≤ n :=
  List.length_take_le n xs

end Limit

end NativeFinder
