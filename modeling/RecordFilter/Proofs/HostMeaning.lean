import RecordFilter.Scripting.Calls

/-!
# What is relied on of a host language

What the values and the exceptions of a host are to its own programs is a `Meaning`. The conversions
of the host are relied on for keeping to it (`Meaning.IsKept`) and for nothing else. In particular
any value may be passed: one that is neither a number nor a text may still stand for a whole number
or for a truth value, and a text need not have characters.

`Value.meaning` is the meaning of the values that come with the library, and it is kept.
-/

namespace RecordFilter.Scripting

/-- What a value is. -/
inductive Kind where
  /-- The value that stands for the absence of one. -/
  | absent
  | bool (b : Bool)
  | int (n : Int)
  /-- A text, with its characters unless half of a surrogate pair stands alone in it. -/
  | text (characters? : Option String)
  | dict
  /-- Any other value. It may say itself which whole number it stands for, and which truth value. -/
  | other (index? : Option Int) (truth? : Option Bool)
deriving DecidableEq

/-- The truth value that a value is or stands for. A number is none. -/
def Kind.truth? : Kind → Option Bool
  | .bool b => some b
  | .other _ truth? => truth?
  | _ => none

/-- The whole number that a value is or stands for. A truth value counts as one or zero. -/
def Kind.whole? : Kind → Option Int
  | .int n => some n
  | .bool b => some (if b then 1 else 0)
  | .other index? _ => index?
  | _ => none

/-- What the values and the exceptions of a host are to its own programs. -/
structure Meaning (α ε : Type) where
  kind : α → Kind
  IsTypeError : ε → Prop
  IsValueError : ε → Prop
  /-- The message of an exception. -/
  message? : ε → Option String
  /-- The value that an exception is about, if it carries it. -/
  subject? : ε → Option α

/-- The host keeps to the meaning of its values. -/
structure Meaning.IsKept {α ε : Type} [Exceptions ε] [Host α ε] (m : Meaning α ε) : Prop where
  isAbsent_iff (v : α) : Host.isAbsent v = true ↔ m.kind v = .absent
  isSome_keys?_iff (v : α) : (Host.keys? v).isSome = true ↔ m.kind v = .dict
  text_eq_ok_iff (v : α) (s : String) : Host.text v = .ok s ↔ m.kind v = .text (some s)
  /-- What is no text is refused for its type. -/
  isTypeError_of_text {v : α} {e : ε} (h : Host.text v = .error e)
    (hv : ∀ characters?, m.kind v ≠ .text characters?) : m.IsTypeError e
  /-- A text without characters is refused for its value, and the exception carries the text. -/
  isValueError_of_text {v : α} {e : ε} (h : Host.text v = .error e) (hv : m.kind v = .text none) :
    m.IsValueError e ∧ m.subject? e = some v
  flag_eq_ok_iff (v : α) (b : Bool) : Host.flag v = .ok b ↔ (m.kind v).truth? = some b
  count_eq_ok_iff (v : α) (n : Nat) :
    Host.count v = .ok n ↔ (m.kind v).whole? = some (n : Int) ∧ n < Nat.pow 2 64
  isValueError_valueError (message : String) : m.IsValueError (Exceptions.valueError message)
  message?_valueError (message : String) :
    m.message? (Exceptions.valueError message) = some message

/-! ## The values that come with the library -/

namespace Value

/-- What the values are. -/
def kind : Value → Kind
  | .none => .absent
  | .bool b => .bool b
  | .int n => .int n
  | .text s => .text (some s)
  | .brokenText _ => .text Option.none
  | .dict _ => .dict
  | .convertible index? truth? => .other index? truth?
  | .float _ => .other Option.none Option.none
  | .list _ => .other Option.none Option.none
  | .object _ => .other Option.none Option.none

/-- What the values and the faults are. That a text cannot be encoded is a fault of its value. -/
def meaning : Meaning Value Fault where
  kind := kind
  IsTypeError f := f.kind = "TypeError"
  IsValueError f := f.kind = "ValueError" ∨ f.kind = "UnicodeEncodeError"
  message? := Fault.message?
  subject? f :=
    match f with
    | .noEncoding units => some (.brokenText units)
    | _ => Option.none

theorem truth?_kind (v : Value) : v.kind.truth? = v.truth? := by
  cases v <;> rfl

theorem whole?_kind (v : Value) : v.kind.whole? = v.whole? := by
  cases v <;> rfl

theorem toCount_eq_ok_iff {v : Value} {n : Nat} :
    v.toCount = .ok n ↔ v.whole? = some (n : Int) ∧ n < Nat.pow 2 64 := by
  rw [toCount]
  cases v.whole? with
  | none => simp
  | some k =>
    simp only [Option.some.injEq]
    split
    next hk =>
      obtain ⟨m, rfl⟩ := Int.eq_ofNat_of_zero_le hk.1
      have hm : m < Nat.pow 2 64 := Int.ofNat_lt.1 hk.2
      simp only [Int.toNat_natCast, Except.ok.injEq, Int.natCast_inj]
      constructor
      · rintro rfl
        exact ⟨rfl, hm⟩
      · exact fun h => h.1
    next hk =>
      refine iff_of_false (by simp) ?_
      rintro ⟨rfl, hn⟩
      exact hk ⟨Int.natCast_nonneg n, Int.ofNat_lt.2 hn⟩

theorem meaning_isKept : meaning.IsKept where
  isAbsent_iff v := by cases v <;> simp [Host.isAbsent, isNone, meaning, kind]
  isSome_keys?_iff v := by cases v <;> simp [Host.keys?, keys?, meaning, kind]
  text_eq_ok_iff v s := by cases v <;> simp [Host.text, toText, meaning, kind]
  isTypeError_of_text {v e} h hv := by
    cases v with
    | text s => cases h
    | brokenText units => exact absurd rfl (hv Option.none)
    | _ =>
      cases h
      rfl
  isValueError_of_text {v e} h hv := by
    cases v with
    | brokenText units =>
      cases h
      exact ⟨.inr rfl, rfl⟩
    | _ => cases hv
  flag_eq_ok_iff v b := by
    have htruth : (meaning.kind v).truth? = v.truth? := truth?_kind v
    rw [htruth]
    cases h : v.truth? <;> simp [Host.flag, toFlag, h]
  count_eq_ok_iff v n := by
    have hwhole : (meaning.kind v).whole? = v.whole? := whole?_kind v
    rw [hwhole]
    exact toCount_eq_ok_iff
  isValueError_valueError message := .inl rfl
  message?_valueError message := rfl

end Value

end RecordFilter.Scripting
