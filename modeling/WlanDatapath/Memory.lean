/-!
# Requests for memory

Whether a request for memory succeeds is decided outside the data path.  A
`Memory` is the answer to every possible request; operations that need memory
take one and report failure instead of assuming success.

`Memory.bounded` is the answer given by a machine whose single requests are
bounded by the address space and, if one is set, by a further limit.
-/

namespace WlanDatapath

/-- Which requests, by their size in octets, are granted. -/
abbrev Memory := Nat → Bool

namespace Memory

/-- No single request may be larger than half of a 64-bit address space. -/
def largestRequest : Nat := 1 <<< 63 - 1

/-- Grants every request below the limit, and every empty request, as long as
it fits the address space. -/
def bounded (limit : Option Nat) : Memory := fun size =>
  decide (size ≤ largestRequest) && (size == 0 || limit.all fun bound => decide (size < bound))

/-- An empty request never fails. -/
@[simp]
theorem bounded_zero (limit : Option Nat) : bounded limit 0 = true := by
  simp [bounded]

end Memory

end WlanDatapath
