import Mathlib.Data.List.Forall2
import Mathlib.Tactic.SplitIfs
import RecordFilter.Proofs.JsonGrammar

/-!
# How the texts of a JSON value are read

A text is read in two halves, so a text of a value is first shown to be the lexemes of the value
(`Json.LexesAs`) and these are then shown to be the value (`Json.ReadsAs`). Both are stated with
whatever follows and with whatever has been read before. Together they say that every text of a
value is read as the value (`Json.parse?_of_partSpelled`).
-/

namespace RecordFilter

namespace Json

mutual

/-- The lexemes of the text of a value. -/
def lexemes : Json → List Lexeme
  | .null => [.null]
  | .bool b => [.bool b]
  | .number n => [.number n]
  | .string s => [.string s]
  | .array items =>
    .openArray :: ([Lexeme.comma].intercalate (lexemesOfItems items) ++ [.closeArray])
  | .object members =>
    .openObject :: ([Lexeme.comma].intercalate (lexemesOfMembers members) ++ [.closeObject])

/-- The lexemes of the items of an array. -/
def lexemesOfItems : List Json → List (List Lexeme)
  | [] => []
  | j :: rest => j.lexemes :: lexemesOfItems rest

/-- The lexemes of the members of an object. -/
def lexemesOfMembers : List (String × Json) → List (List Lexeme)
  | [] => []
  | (key, j) :: rest => (.string key :: .colon :: j.lexemes) :: lexemesOfMembers rest

end

theorem lexemesOfItems_eq_map (items : List Json) : lexemesOfItems items = items.map lexemes := by
  induction items with
  | nil => rfl
  | cons j rest ih => simp [lexemesOfItems, ih]

theorem lexemesOfMembers_eq_map (members : List (String × Json)) :
    lexemesOfMembers members = members.map fun m => .string m.1 :: .colon :: m.2.lexemes := by
  induction members with
  | nil => rfl
  | cons m rest ih => simp [lexemesOfMembers, ih]

/-! ## From text to lexemes -/

namespace Lexing

/-- The lexemes of the text that is left. -/
def complete (l : Lexing) (cs : List Char) : Option (List Lexeme) := do
  (← cs.foldlM step l).finish

/-- A word ends before this text. -/
def EndsWord (rest : List Char) : Prop :=
  ∀ c ∈ rest.head?, endsBefore c = true

theorem complete_nil (l : Lexing) : l.complete [] = l.finish := rfl

theorem complete_cons (l : Lexing) (c : Char) (cs : List Char) :
    l.complete (c :: cs) = (l.step c).bind (·.complete cs) := by
  simp only [complete, List.foldlM_cons, Option.bind_eq_bind]
  cases l.step c <;> rfl

/-- A character that is read goes with the text that is left. -/
theorem complete_of_step {l m : Lexing} {c : Char} (h : l.step c = some m) (cs : List Char) :
    l.complete (c :: cs) = m.complete cs := by
  rw [complete_cons, h]
  rfl

variable {found : List Lexeme} {c : Char} {text rest : List Char}

theorem complete_blanks (h : AreBlanks text) :
    complete ⟨found, .between⟩ (text ++ rest) = complete ⟨found, .between⟩ rest := by
  induction text with
  | nil => rfl
  | cons c text ih =>
    obtain ⟨hc, htext⟩ := List.forall_mem_cons.1 h
    rw [List.cons_append, complete_of_step (m := ⟨found, .between⟩) (by simp [step, begin, hc]),
      ih htext]

theorem EndsWord.of_blanks (h : AreBlanks text) (hrest : EndsWord rest) :
    EndsWord (text ++ rest) := by
  cases text with
  | nil => exact hrest
  | cons c text =>
    have hc : isBlank c = true := h c List.mem_cons_self
    simp [EndsWord, endsBefore, hc]

/-- A word is read when it has ended. -/
theorem complete_word (hne : text ≠ []) (hword : text.any endsBefore = false)
    (hrest : EndsWord rest) :
    complete ⟨found, .between⟩ (text ++ rest) =
      (Lexeme.ofWord? text).bind fun l => complete ⟨l :: found, .between⟩ rest := by
  have hall : ∀ c ∈ text, endsBefore c = false := by
    simpa using hword
  have hread (read cs : List Char) (hcs : ∀ c ∈ cs, endsBefore c = false) :
      complete ⟨found, .word read⟩ (cs ++ rest) =
        complete ⟨found, .word (cs.reverse ++ read)⟩ rest := by
    induction cs generalizing read with
    | nil => rfl
    | cons c cs ih =>
      obtain ⟨hc, hcs⟩ := List.forall_mem_cons.1 hcs
      rw [List.cons_append,
        complete_of_step (m := ⟨found, .word (c :: read)⟩) (by simp [step, hc]),
        ih (c :: read) hcs]
      simp
  -- nothing in the word says that it is complete: what follows does, be it the end of the text
  have hend (read : List Char) :
      complete ⟨found, .word read⟩ rest =
        (Lexeme.ofWord? read.reverse).bind fun l => complete ⟨l :: found, .between⟩ rest := by
    cases rest with
    | nil => simp [complete_nil, finish]
    | cons d rest =>
      have hd : endsBefore d = true := hrest d rfl
      cases hl : Lexeme.ofWord? read.reverse <;> simp [complete_cons, step, hd, hl]
  obtain ⟨c, cs, rfl⟩ := List.exists_cons_of_ne_nil hne
  obtain ⟨hc, hcs⟩ := List.forall_mem_cons.1 hall
  have hbegin : step ⟨found, .between⟩ c = some ⟨found, .word [c]⟩ := by
    simp only [endsBefore, Bool.or_eq_false_iff, beq_eq_false_iff_ne, ne_eq,
      Option.isSome_eq_false_iff, Option.isNone_iff_eq_none] at hc
    simp [step, begin, hc]
  rw [List.cons_append, complete_of_step hbegin, hread [c] cs hcs, hend]
  simp

/-! ### Strings -/

/-- Four digits are read as the code unit that they spell. -/
theorem complete_unit {n : Nat} {digits : List Char} (h : UnitSpelled n digits) (read : List Char)
    (high : Option Nat) :
    complete ⟨found, .unit read high 3 0⟩ (digits ++ rest) =
      (endUnit read high n).bind fun position => complete ⟨found, position⟩ rest := by
  cases h with
  | @intro a b c d w x y z ha hb hc hd =>
    simp only [List.cons_append, List.nil_append]
    rw [complete_of_step (m := ⟨found, .unit read high 2 w⟩) (by simp [step, ha]),
      complete_of_step (m := ⟨found, .unit read high 1 (16 * w + x)⟩) (by simp [step, hb]),
      complete_of_step (m := ⟨found, .unit read high 0 (16 * (16 * w + x) + y)⟩)
        (by simp [step, hc]),
      complete_cons]
    cases hunit : endUnit read high (16 * (16 * (16 * w + x) + y) + z) <;>
      simp [step, hd, hunit]

theorem unescape?_of_mem {e : Char} (h : (e, c) ∈ shortEscapes) :
    unescape? e = some c ∧ e ≠ 'u' := by
  have hall : ∀ p ∈ shortEscapes, unescape? p.1 = some p.2 ∧ p.1 ≠ 'u' := by decide
  exact hall _ h

/-- However a character is written, it is read as the character. -/
theorem complete_char (h : CharSpelled c text) (read : List Char) :
    complete ⟨found, .text read⟩ (text ++ rest) = complete ⟨found, .text (c :: read)⟩ rest := by
  have hslash : step ⟨found, .text read⟩ '\\' = some ⟨found, .escape read⟩ := by simp [step]
  have hu : step ⟨found, .escape read⟩ 'u' = some ⟨found, .unit read none 3 0⟩ := by simp [step]
  cases h with
  | plain hquote hslash hcontrol =>
    exact complete_of_step (by simp [step, hquote, hslash, Nat.not_lt.2 hcontrol]) rest
  | @short e he =>
    obtain ⟨hescape, hne⟩ := unescape?_of_mem he
    rw [List.cons_append, List.cons_append, List.nil_append, complete_of_step hslash,
      complete_of_step (m := ⟨found, .text (c :: read)⟩) (by simp [step, hne, hescape])]
  | unit hdigits =>
    -- a character is no half of a surrogate pair, so the unit stands for itself
    have hunit : endUnit read none c.toNat = some (.text (c :: read)) := by
      have hvalid : c.toNat < 0xD800 ∨ 0xDFFF < c.toNat ∧ c.toNat < 0x110000 := c.valid
      have hhalf : ¬(0xD800 ≤ c.toNat ∧ c.toNat < 0xDC00) := by omega
      have hother : ¬(0xDC00 ≤ c.toNat ∧ c.toNat < 0xE000) := by omega
      simp [endUnit, hhalf, hother]
    rw [List.cons_append, List.cons_append, complete_of_step hslash, complete_of_step hu,
      complete_unit hdigits, hunit, Option.bind_some]
  | @pair high low highDigits lowDigits hhigh hlow hc hhighDigits hlowDigits =>
    have hfirst : endUnit read none high = some (.half read high) := by simp [endUnit, hhigh]
    have hsecond : endUnit read (some high) low = some (.text (c :: read)) := by
      simp [endUnit, hlow, ← hc]
    have hhalf : step ⟨found, .half read high⟩ '\\' = some ⟨found, .halfEscape read high⟩ := by
      simp [step]
    have hhalfu : step ⟨found, .halfEscape read high⟩ 'u' =
        some ⟨found, .unit read (some high) 3 0⟩ := by
      simp [step]
    rw [List.cons_append, List.cons_append, List.append_assoc, List.cons_append, List.cons_append,
      complete_of_step hslash, complete_of_step hu, complete_unit hhighDigits, hfirst,
      Option.bind_some, complete_of_step hhalf, complete_of_step hhalfu,
      complete_unit hlowDigits, hsecond, Option.bind_some]

theorem complete_chars {cs : List Char} {parts : List (List Char)}
    (h : List.Forall₂ CharSpelled cs parts) (read : List Char) :
    complete ⟨found, .text read⟩ (parts.flatten ++ '"' :: rest) =
      complete ⟨.string (String.ofList (read.reverse ++ cs)) :: found, .between⟩ rest := by
  induction h generalizing read with
  | nil => exact complete_of_step (by simp [step]) rest
  | cons hc _ ih =>
    rw [List.flatten_cons, List.append_assoc, complete_char hc, ih]
    simp

end Lexing

/-! ### Pieces of text -/

/-- Wherever a lexeme may begin, the text is read as the lexemes. -/
def LexesAs (text : List Char) (ls : List Lexeme) : Prop :=
  ∀ found rest, Lexing.EndsWord rest →
    Lexing.complete ⟨found, .between⟩ (text ++ rest) =
      Lexing.complete ⟨ls.reverse ++ found, .between⟩ rest

theorem LexesAs.nil : LexesAs [] [] :=
  fun _ _ _ => rfl

/-- Punctuation is neither a blank nor a quote. -/
theorem Lexeme.of_ofPunctuation? {c : Char} {l : Lexeme} (h : ofPunctuation? c = some l) :
    isBlank c = false ∧ c ≠ '"' := by
  unfold ofPunctuation? at h
  split_ifs at h with hc hc hc hc hc hc <;> subst hc <;> decide

theorem forall₂_imp_of_mem {α β : Type} {R S : α → β → Prop} {as : List α} {bs : List β}
    (hRS : ∀ a ∈ as, ∀ b, R a b → S a b) (h : List.Forall₂ R as bs) : List.Forall₂ S as bs := by
  induction h with
  | nil => exact .nil
  | cons hfirst _ ih =>
    obtain ⟨ha, has⟩ := List.forall_mem_cons.1 hRS
    exact .cons (ha _ hfirst) (ih has)

namespace LexesAs

variable {text first second blanks : List Char} {ls ms : List Lexeme}

/-- Punctuation ends what stands before it. -/
theorem punctuation {c : Char} {l : Lexeme} (hc : Lexeme.ofPunctuation? c = some l)
    (hfirst : LexesAs first ls) (hsecond : LexesAs second ms) :
    LexesAs (first ++ c :: second) (ls ++ l :: ms) := by
  obtain ⟨hblank, hquote⟩ := Lexeme.of_ofPunctuation? hc
  have hends (rest : List Char) : Lexing.EndsWord (c :: rest) := by
    simp [Lexing.EndsWord, Lexing.endsBefore, hc]
  have hstep (found : List Lexeme) :
      Lexing.step ⟨found, .between⟩ c = some ⟨l :: found, .between⟩ := by
    simp [Lexing.step, Lexing.begin, hc, hblank, hquote]
  intro found rest hrest
  rw [List.append_assoc, List.cons_append, hfirst found _ (hends _),
    Lexing.complete_of_step (hstep _), hsecond _ rest hrest]
  simp

theorem blanks_append (hblanks : AreBlanks blanks) (h : LexesAs text ls) :
    LexesAs (blanks ++ text) ls := by
  intro found rest hrest
  rw [List.append_assoc, Lexing.complete_blanks hblanks, h found rest hrest]

theorem append_blanks (hblanks : AreBlanks blanks) (h : LexesAs text ls) :
    LexesAs (text ++ blanks) ls := by
  intro found rest hrest
  rw [List.append_assoc, h found _ (.of_blanks hblanks hrest), Lexing.complete_blanks hblanks]

/-- Parts with commas between are read as lexemes with commas between. -/
theorem intercalate {α : Type} {lexemesOf : α → List Lexeme} {as : List α}
    {texts : List (List Char)}
    (h : List.Forall₂ (fun a text => LexesAs text (lexemesOf a)) as texts) :
    LexesAs ([','].intercalate texts) ([Lexeme.comma].intercalate (as.map lexemesOf)) := by
  induction h with
  | nil => exact .nil
  | cons hfirst hlater ih =>
    cases hlater with
    | nil => simpa using hfirst
    | cons hsecond hlater =>
      rw [List.map_cons, List.map_cons, List.intercalate_cons_cons, List.intercalate_cons_cons,
        List.append_assoc, List.append_assoc]
      exact hfirst.punctuation rfl ih

end LexesAs

/-! ### Values -/

theorem LexesAs.string {s : String} {text : List Char} (h : StringSpelled s text) :
    LexesAs text [.string s] := by
  intro found rest _
  cases h with
  | intro hparts =>
    have hopen : Lexing.step ⟨found, .between⟩ '"' = some ⟨found, .text []⟩ := by
      simp [Lexing.step, Lexing.begin, isBlank]
    rw [List.cons_append, List.append_assoc, List.singleton_append,
      Lexing.complete_of_step hopen, Lexing.complete_chars hparts]
    simp

theorem LexesAs.word {text : List Char} {l : Lexeme} (hne : text ≠ [])
    (hword : text.any Lexing.endsBefore = false) (hl : Lexeme.ofWord? text = some l) :
    LexesAs text [l] := by
  intro found rest hrest
  rw [Lexing.complete_word hne hword hrest, hl]
  rfl

/-- No character of a numeral ends a word. -/
theorem Lexing.endsBefore_of_mayOccur {c : Char} (h : Numeral.MayOccur c) :
    endsBefore c = false := by
  have hne {d : Char} (hd : ¬ Numeral.MayOccur d) : c ≠ d := fun hcd => hd (hcd ▸ h)
  have hblank : c ≠ ' ' ∧ c ≠ '\t' ∧ c ≠ '\n' ∧ c ≠ '\r' :=
    ⟨hne (by decide), hne (by decide), hne (by decide), hne (by decide)⟩
  have harray : c ≠ '[' ∧ c ≠ ']' := ⟨hne (by decide), hne (by decide)⟩
  have hobject : c ≠ '{' ∧ c ≠ '}' := ⟨hne (by decide), hne (by decide)⟩
  have hothers : c ≠ '"' ∧ c ≠ ',' ∧ c ≠ ':' :=
    ⟨hne (by decide), hne (by decide), hne (by decide)⟩
  simp [endsBefore, isBlank, Lexeme.ofPunctuation?, hblank, harray, hobject, hothers]

theorem any_endsBefore_of_spelled {n : Numeral} {text : List Char} (h : n.Spelled text) :
    text.any Lexing.endsBefore = false := by
  rw [List.any_eq_false]
  intro c hc
  rw [Lexing.endsBefore_of_mayOccur (h.mayOccur c hc)]
  exact Bool.false_ne_true

theorem ofWord?_of_spelled {n : Numeral} {text : List Char} (h : n.Spelled text) :
    Lexeme.ofWord? text = some (.number n) := by
  have hnull : text ≠ ['n', 'u', 'l', 'l'] := by
    rintro rfl
    exact absurd (h.mayOccur 'n' (by simp)) (by decide)
  have htrue : text ≠ ['t', 'r', 'u', 'e'] := by
    rintro rfl
    exact absurd (h.mayOccur 't' (by simp)) (by decide)
  have hfalse : text ≠ ['f', 'a', 'l', 's', 'e'] := by
    rintro rfl
    exact absurd (h.mayOccur 'f' (by simp)) (by decide)
  rw [Lexeme.ofWord?, if_neg hnull, if_neg htrue, if_neg hfalse,
    Numeral.ofChars?_eq_some_iff.2 h]
  rfl

theorem LexesAs.number {n : Numeral} {text : List Char} (h : n.Spelled text) :
    LexesAs text [.number n] :=
  .word h.ne_nil (any_endsBefore_of_spelled h) (ofWord?_of_spelled h)

/-- The parts of an array or an object, with the two characters around them. -/
theorem LexesAs.brackets {α : Type} {lexemesOf : α → List Lexeme} {as : List α}
    {texts : List (List Char)} {blanks : List Char} {opening closing : Char}
    {openingLexeme closingLexeme : Lexeme}
    (hopening : Lexeme.ofPunctuation? opening = some openingLexeme)
    (hclosing : Lexeme.ofPunctuation? closing = some closingLexeme) (hblanks : AreBlanks blanks)
    (h : List.Forall₂ (fun a text => LexesAs text (lexemesOf a)) as texts) :
    LexesAs (opening :: (blanks ++ [','].intercalate texts ++ [closing]))
      (openingLexeme :: ([Lexeme.comma].intercalate (as.map lexemesOf) ++ [closingLexeme])) :=
  nil.punctuation hopening (((intercalate h).blanks_append hblanks).punctuation hclosing nil)

/-- Blanks around a value make no difference. -/
theorem LexesAs.part {j : Json} {text : List Char}
    (hj : ∀ text, j.Spelled text → LexesAs text j.lexemes) (h : PartSpelled j text) :
    LexesAs text j.lexemes := by
  cases h with
  | intro hbefore hafter h => exact ((hj _ h).blanks_append hbefore).append_blanks hafter

theorem LexesAs.member {m : String × Json} {text : List Char}
    (hvalue : ∀ text, PartSpelled m.2 text → LexesAs text m.2.lexemes) (h : MemberSpelled m text) :
    LexesAs text (.string m.1 :: .colon :: m.2.lexemes) := by
  cases h with
  | intro hbefore hafter hkey h =>
    have hname := ((LexesAs.string hkey).blanks_append hbefore).append_blanks hafter
    exact hname.punctuation rfl (hvalue _ h)

/-- A text of a value is read as the lexemes of the value. -/
theorem lexesAs_of_spelled {j : Json} {text : List Char} (h : j.Spelled text) :
    LexesAs text j.lexemes := by
  induction j generalizing text with
  | null =>
    cases h
    exact .word (by simp) rfl rfl
  | bool b =>
    cases h with
    | true => exact .word (by simp) rfl rfl
    | false => exact .word (by simp) rfl rfl
  | number n =>
    cases h with
    | number h => exact .number h
  | string s =>
    cases h with
    | string h => exact .string h
  | array items ih =>
    cases h with
    | array hblanks h =>
      rw [lexemes, lexemesOfItems_eq_map]
      exact .brackets rfl rfl hblanks
        (forall₂_imp_of_mem (fun j hj _ => LexesAs.part fun _ => ih j hj) h)
  | object members ih =>
    cases h with
    | object hblanks h =>
      rw [lexemes, lexemesOfMembers_eq_map]
      exact .brackets rfl rfl hblanks (forall₂_imp_of_mem
        (fun m hm _ => LexesAs.member fun _ => LexesAs.part fun _ => ih m hm) h)

/-! ## From lexemes to the value -/

namespace Reading

/-- What has been read goes with the lexemes that are left. -/
theorem foldlM_append {r next : Reading} {ls : List Lexeme} (h : ls.foldlM step r = some next)
    (ms : List Lexeme) : (ls ++ ms).foldlM step r = ms.foldlM step next := by
  rw [List.foldlM_append, h]
  rfl

theorem foldlM_cons {r next : Reading} {l : Lexeme} (h : step r l = some next)
    (ls : List Lexeme) : (l :: ls).foldlM step r = ls.foldlM step next := by
  rw [List.foldlM_cons, h]
  rfl

theorem foldlM_singleton (r : Reading) (l : Lexeme) : [l].foldlM step r = step r l := by
  simp

/-- Parts with commas between are taken up one after the other. With `read` taken up so far the
reading is at `after read` behind a part and at `before read` in front of the next one. -/
theorem foldlM_intercalate {α : Type} (lexemesOf : α → List Lexeme)
    (before after : List α → Reading)
    (hcomma : ∀ read, step (after read) .comma = some (before read))
    {start : Reading} {a : α} {read : List α} {rest : List α}
    (hfirst : (lexemesOf a).foldlM step start = some (after (a :: read)))
    (hlater : ∀ b ∈ rest, ∀ read,
      (lexemesOf b).foldlM step (before read) = some (after (b :: read))) :
    ([Lexeme.comma].intercalate ((a :: rest).map lexemesOf)).foldlM step start =
      some (after ((a :: rest).reverse ++ read)) := by
  induction rest generalizing a read start with
  | nil => simpa using hfirst
  | cons b rest ih =>
    obtain ⟨hb, hrest⟩ := List.forall_mem_cons.1 hlater
    have htail := ih (hb (a :: read)) hrest
    rw [List.map_cons] at htail
    rw [List.map_cons, List.map_cons, List.intercalate_cons_cons, List.append_assoc,
      foldlM_append hfirst, List.singleton_append, foldlM_cons (hcomma _), htail]
    simp

end Reading

/-- Wherever a value has to begin, the lexemes are taken up as the value. -/
def ReadsAs (ls : List Lexeme) (j : Json) : Prop :=
  ∀ stack, ls.foldlM Reading.step (.inside stack .value) = Reading.addValue stack j

/-- No value begins as an array ends. -/
theorem foldlM_lexemes_valueOrEnd (j : Json) (stack : List OpenJson) :
    j.lexemes.foldlM Reading.step (.inside stack .valueOrEnd) =
      j.lexemes.foldlM Reading.step (.inside stack .value) := by
  cases j <;> rfl

theorem ReadsAs.array {items : List Json} (h : ∀ j ∈ items, ReadsAs j.lexemes j) :
    ReadsAs (lexemes (.array items)) (.array items) := by
  intro stack
  have hopen : Reading.step (.inside stack .value) .openArray =
      some (.inside (.array [] :: stack) .valueOrEnd) := rfl
  rw [lexemes, lexemesOfItems_eq_map, Reading.foldlM_cons hopen]
  cases items with
  | nil => exact Reading.foldlM_singleton _ _
  | cons j rest =>
    obtain ⟨hj, hrest⟩ := List.forall_mem_cons.1 h
    have hfirst : j.lexemes.foldlM Reading.step (.inside (.array [] :: stack) .valueOrEnd) =
        some (.inside (.array [j] :: stack) .commaOrEnd) :=
      (foldlM_lexemes_valueOrEnd j _).trans (hj _)
    have hlater (k : Json) (hk : k ∈ rest) (read : List Json) :
        k.lexemes.foldlM Reading.step (.inside (.array read :: stack) .value) =
          some (.inside (.array (k :: read) :: stack) .commaOrEnd) :=
      hrest k hk _
    have hitems := Reading.foldlM_intercalate lexemes
      (fun read => .inside (.array read :: stack) .value)
      (fun read => .inside (.array read :: stack) .commaOrEnd) (fun _ => rfl) hfirst hlater
    rw [Reading.foldlM_append hitems, Reading.foldlM_singleton]
    simp [Reading.step, Reading.endArray]

theorem ReadsAs.object {members : List (String × Json)}
    (h : ∀ m ∈ members, ReadsAs m.2.lexemes m.2) :
    ReadsAs (lexemes (.object members)) (.object members) := by
  intro stack
  have hopen : Reading.step (.inside stack .value) .openObject =
      some (.inside (.object [] :: stack) .keyOrEnd) := rfl
  rw [lexemes, lexemesOfMembers_eq_map, Reading.foldlM_cons hopen]
  cases members with
  | nil => exact Reading.foldlM_singleton _ _
  | cons m rest =>
    obtain ⟨hm, hrest⟩ := List.forall_mem_cons.1 h
    have hfirst : (Lexeme.string m.1 :: .colon :: m.2.lexemes).foldlM Reading.step
        (.inside (.object [] :: stack) .keyOrEnd) =
          some (.inside (.object [m] :: stack) .commaOrEnd) :=
      hm (.member [] m.1 :: stack)
    have hlater (p : String × Json) (hp : p ∈ rest) (read : List (String × Json)) :
        (Lexeme.string p.1 :: .colon :: p.2.lexemes).foldlM Reading.step
          (.inside (.object read :: stack) .key) =
            some (.inside (.object (p :: read) :: stack) .commaOrEnd) :=
      hrest p hp (.member read p.1 :: stack)
    have hmembers := Reading.foldlM_intercalate
      (fun p : String × Json => .string p.1 :: .colon :: p.2.lexemes)
      (fun read => .inside (.object read :: stack) .key)
      (fun read => .inside (.object read :: stack) .commaOrEnd) (fun _ => rfl) hfirst hlater
    rw [Reading.foldlM_append hmembers, Reading.foldlM_singleton]
    simp [Reading.step, Reading.endObject]

/-- The lexemes of a value are read as the value. -/
theorem readsAs_lexemes (j : Json) : ReadsAs j.lexemes j := by
  induction j with
  | null => exact fun stack => Reading.foldlM_singleton _ _
  | bool b => exact fun stack => Reading.foldlM_singleton _ _
  | number n => exact fun stack => Reading.foldlM_singleton _ _
  | string s => exact fun stack => Reading.foldlM_singleton _ _
  | array items ih => exact .array ih
  | object members ih => exact .object ih

theorem ofLexemes?_lexemes (j : Json) : ofLexemes? j.lexemes = some j := by
  have hread : j.lexemes.foldlM Reading.step .start = some (.complete j) := readsAs_lexemes j []
  rw [ofLexemes?, hread]
  rfl

/-! ## From text to value -/

variable {j : Json} {text : String}

theorem lexemes?_of_partSpelled (h : PartSpelled j text.toList) :
    lexemes? text.toList = some j.lexemes := by
  have hlexes := LexesAs.part (fun _ => lexesAs_of_spelled) h
  have hend : Lexing.EndsWord [] := by simp [Lexing.EndsWord]
  have hstart : lexemes? text.toList = Lexing.complete ⟨[], .between⟩ (text.toList ++ []) := by
    rw [List.append_nil]
    rfl
  rw [hstart, hlexes [] [] hend, Lexing.complete_nil]
  simp [Lexing.finish]

/-- A text of a value is read as the value. -/
theorem parse?_of_partSpelled (h : PartSpelled j text.toList) : parse? text = some j := by
  rw [parse?, lexemes?_of_partSpelled h, Option.bind_some, ofLexemes?_lexemes]

/-- A text is a text of one value at most. -/
theorem eq_of_partSpelled {i : Json} (hi : PartSpelled i text.toList)
    (hj : PartSpelled j text.toList) : i = j :=
  Option.some.inj ((parse?_of_partSpelled hi).symm.trans (parse?_of_partSpelled hj))

end Json

end RecordFilter
