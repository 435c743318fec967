/-!
# Character classes

A class of characters is given by the code points it holds, as closed intervals. The tables of the
classes this library uses stand in modules of their own, each named for the class; they follow
version 17.0 of the Unicode character database.
-/

namespace RecordFilter

/-- A class of characters, as closed intervals of code points. -/
structure CharClass where
  /-- The intervals, first and last code point, in increasing order. -/
  intervals : List (Nat × Nat)

namespace CharClass

/-- Whether `c` lies in one of the intervals. -/
def contains (k : CharClass) (c : Char) : Bool :=
  k.intervals.any fun (first, last) => first ≤ c.toNat && c.toNat ≤ last

theorem contains_iff {k : CharClass} {c : Char} :
    k.contains c = true ↔ ∃ i ∈ k.intervals, i.1 ≤ c.toNat ∧ c.toNat ≤ i.2 := by
  simp [contains]

end CharClass

end RecordFilter
