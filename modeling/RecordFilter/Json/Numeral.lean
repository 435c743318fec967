/-!
# Numerals

A number of a JSON text, kept as it is written: what a number is good for depends on its spelling,
and a count has to be exact at any size.
-/

namespace RecordFilter

/-- A JSON number as it is written: sign, digits before and after the point, exponent. -/
structure Numeral where
  negative : Bool
  whole : List Char
  fraction : List Char
  exponent : Option Int
deriving DecidableEq, Repr

namespace Numeral

/-- The number that decimal digits stand for. -/
def valueOfDigits (digits : List Char) : Nat :=
  digits.foldl (fun n c => 10 * n + (c.toNat - '0'.toNat)) 0

/-- The numeral of a natural number. -/
def ofNat (n : Nat) : Numeral :=
  ⟨false, Nat.toDigits 10 n, [], none⟩

/-- Reads an exponent, if one stands there, to the end. -/
def readExponent? : List Char → Option (Option Int)
  | [] => some none
  | c :: rest =>
    if c = 'e' || c = 'E' then
      let (negative, digits) :=
        match rest with
        | '+' :: digits => (false, digits)
        | '-' :: digits => (true, digits)
        | digits => (false, digits)
      if digits.isEmpty || !digits.all Char.isDigit then none
      else
        let n : Int := valueOfDigits digits
        some (some (if negative then -n else n))
    else none

/-- Reads a fraction and an exponent, each if it stands there, to the end. -/
def readRest? (negative : Bool) (whole : List Char) : List Char → Option Numeral
  | '.' :: rest => do
    let fraction := rest.takeWhile Char.isDigit
    if fraction.isEmpty then none
    else return ⟨negative, whole, fraction, ← readExponent? (rest.dropWhile Char.isDigit)⟩
  | rest => do return ⟨negative, whole, [], ← readExponent? rest⟩

/-- Reads a numeral without its sign. A zero in front of other digits is refused. -/
def readUnsigned? (negative : Bool) (cs : List Char) : Option Numeral :=
  match cs.takeWhile Char.isDigit with
  | [] => none
  | '0' :: _ :: _ => none
  | whole => readRest? negative whole (cs.dropWhile Char.isDigit)

/-- The numeral that `cs` is the text of. -/
def ofChars? : List Char → Option Numeral
  | '-' :: cs => readUnsigned? true cs
  | cs => readUnsigned? false cs

/-- The text of the numeral. -/
def toChars (n : Numeral) : List Char :=
  (if n.negative then ['-'] else []) ++ n.whole ++
    (if n.fraction.isEmpty then [] else '.' :: n.fraction) ++
    match n.exponent with
    | none => []
    | some e => 'e' :: (toString e).toList

/-- The natural number, if the numeral is the plain text of one: digits only. -/
def toNat? (n : Numeral) : Option Nat :=
  if n.negative || !n.fraction.isEmpty || n.exponent.isSome then none
  else some (valueOfDigits n.whole)

/-- The whole number, if the numeral is the plain text of one: digits, and a sign perhaps. -/
def toInt? (n : Numeral) : Option Int :=
  if !n.fraction.isEmpty || n.exponent.isSome then none
  else
    let value : Int := valueOfDigits n.whole
    some (if n.negative then -value else value)

/-- The least number that is rounded to no finite double. -/
def doubleLimit : Nat := Nat.pow 2 1024 - Nat.pow 2 970

/-- Whether the number is rounded to a finite double. Without its point the numeral has a whole
number for digits, to be multiplied by a power of ten; with few digits the product is small enough
in any case, so that the power is worked out only where it is no longer than the text. -/
def fitsDouble (n : Numeral) : Bool :=
  let digits := n.whole ++ n.fraction
  let scale : Int := n.exponent.getD 0 - n.fraction.length
  let value := valueOfDigits digits
  value == 0 || decide (digits.length + scale ≤ 308) ||
    (decide (scale ≤ 308) &&
      decide (value * Nat.pow 10 scale.toNat < doubleLimit * Nat.pow 10 (-scale).toNat))

example : (ofChars? "-12.50e+3".toList).map toChars = some "-12.50e3".toList := by decide

example : ["0", "10", "-0", "007", "1.0", "1.", "1e", ".5", "+1", ""].map
    (fun s => (ofChars? s.toList).bind toNat?) =
    [some 0, some 10, none, none, none, none, none, none, none, none] := by decide

end Numeral

end RecordFilter
