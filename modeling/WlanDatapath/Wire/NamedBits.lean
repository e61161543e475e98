/-!
# Words whose bits have names

Several words are sets of flags.  A table lists the defined bits of such a word,
lowest first, with their names; this module reads off the names that are set and
drops the bits without a name.
-/

namespace WlanDatapath.Wire

/-- The defined bits of a flag word, lowest first, each with its name. -/
abbrev BitTable := List (Nat × String)

namespace BitTable

/-- The names of the defined bits that are set, lowest bit first. -/
def names (table : BitTable) (word : UInt32) : List String :=
  (table.filter fun entry => word.toNat.testBit entry.1).map (·.2)

/-- The word in which exactly the defined bits are set. -/
def mask (table : BitTable) : UInt32 :=
  table.foldl (fun word entry => word ||| (1 <<< UInt32.ofNat entry.1)) 0

/-- The word with its undefined bits cleared. -/
def known (table : BitTable) (word : UInt32) : UInt32 :=
  word &&& table.mask

@[simp]
theorem names_zero (table : BitTable) : table.names 0 = [] := by
  simp [names]

@[simp]
theorem known_known (table : BitTable) (word : UInt32) :
    table.known (table.known word) = table.known word := by
  simp [known, UInt32.and_assoc]

end BitTable

end WlanDatapath.Wire
