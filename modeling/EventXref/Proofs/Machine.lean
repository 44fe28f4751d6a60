import EventXref.Machine

/-!
Results that their type holds are the same in every build. A checked build has no others, and a
wrapping one always has a result.
-/
namespace EventXref

namespace Build

variable {build : Build} {values n : Nat} {x y : Int}

theorem signed_of_fits (low : -values ≤ 2 * x) (high : 2 * x < values) :
    build.signed values x = some x := by
  have same : x.bmod values = x := by
    apply Int.bmod_eq_of_le_mul_two <;> omega
  simp [signed, same]

theorem eq_of_signed_checked (result : Build.checked.signed values x = some y) : y = x := by
  rw [signed] at result
  split at result
  · exact (Option.some.inj result).symm
  · cases result

end Build

end EventXref
