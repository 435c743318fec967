/-!
# Comparison that ignores ASCII case

Keywords are recognised in any mix of ASCII upper and lower case; letters outside ASCII have to
agree exactly.
-/

namespace RecordFilter

/-- The characters of `s` with ASCII capitals made small. -/
def foldAscii (s : String) : List Char :=
  s.toList.map Char.toLower

/-- Whether `a` and `b` differ in the case of ASCII letters at most. -/
def eqIgnoringAsciiCase (a b : String) : Bool :=
  foldAscii a == foldAscii b

theorem eqIgnoringAsciiCase_iff {a b : String} :
    eqIgnoringAsciiCase a b = true ↔ foldAscii a = foldAscii b := by
  simp [eqIgnoringAsciiCase]

@[simp] theorem eqIgnoringAsciiCase_self (a : String) : eqIgnoringAsciiCase a a = true := by
  simp [eqIgnoringAsciiCase]

end RecordFilter
