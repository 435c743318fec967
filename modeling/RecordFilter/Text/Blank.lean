import RecordFilter.Text.CharClass

/-!
# Blank characters

The characters with the property `White_Space`. Only three of them separate tokens; a string that
holds any of them is written in quotes all the same.
-/

namespace RecordFilter.CharClass

/-- The characters with the property `White_Space`. -/
def blank : CharClass where
  intervals := [
   (0x9, 0xD), (0x20, 0x20), (0x85, 0x85), (0xA0, 0xA0), (0x1680, 0x1680), (0x2000, 0x200A),
   (0x2028, 0x2029), (0x202F, 0x202F), (0x205F, 0x205F), (0x3000, 0x3000)]

end RecordFilter.CharClass
