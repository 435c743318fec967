import RecordFilter.Proofs.JsonLexemes

/-!
# Only the texts of a value are read

The converse of reading. Lexemes that are read as a value are the lexemes of the value: what has
been read is told by what is still open (`Json.Reading.HasRead`). What is written with the lexemes
of a value is a text of the value. So a text that is read is one of the texts of the value
(`Json.parse?_eq_some_iff`).
-/

namespace RecordFilter

namespace Json

/-! ## The value of the lexemes -/

/-- What stands in front of a value, or of a key, inside an array or an object that is open. -/
def OpenJson.lexemes : OpenJson → List Lexeme
  | .array items => .openArray :: items.reverse.flatMap fun j => j.lexemes ++ [.comma]
  | .object members =>
    .openObject :: members.reverse.flatMap fun m => .string m.1 :: .colon :: m.2.lexemes ++ [.comma]
  | .member members key =>
    .openObject :: members.reverse.flatMap
      (fun m => .string m.1 :: .colon :: m.2.lexemes ++ [.comma]) ++ [.string key, .colon]

namespace Reading

/-- What stands in front of a value inside all that is open. -/
def lexemesBefore (stack : List OpenJson) : List Lexeme :=
  stack.reverse.flatMap OpenJson.lexemes

@[simp] theorem lexemesBefore_nil : lexemesBefore [] = [] := rfl

@[simp] theorem lexemesBefore_cons (o : OpenJson) (outer : List OpenJson) :
    lexemesBefore (o :: outer) = lexemesBefore outer ++ o.lexemes := by
  simp [lexemesBefore]

/-- The lexemes that have been read when the reading has come so far. -/
inductive HasRead : Reading → List Lexeme → Prop
  | complete (j : Json) : HasRead (.complete j) j.lexemes
  | value (stack : List OpenJson) : HasRead (.inside stack .value) (lexemesBefore stack)
  | valueOrEnd (outer : List OpenJson) :
    HasRead (.inside (.array [] :: outer) .valueOrEnd) (lexemesBefore (.array [] :: outer))
  | key (members : List (String × Json)) (outer : List OpenJson) :
    HasRead (.inside (.object members :: outer) .key) (lexemesBefore (.object members :: outer))
  | keyOrEnd (outer : List OpenJson) :
    HasRead (.inside (.object [] :: outer) .keyOrEnd) (lexemesBefore (.object [] :: outer))
  | colon (members : List (String × Json)) (outer : List OpenJson) (key : String) :
    HasRead (.inside (.object members :: outer) (.colon key))
      (lexemesBefore (.object members :: outer) ++ [.string key])
  | item (items : List Json) (outer : List OpenJson) (j : Json) :
    HasRead (.inside (.array (j :: items) :: outer) .commaOrEnd)
      (lexemesBefore (.array items :: outer) ++ j.lexemes)
  | member (members : List (String × Json)) (outer : List OpenJson) (key : String) (j : Json) :
    HasRead (.inside (.object ((key, j) :: members) :: outer) .commaOrEnd)
      (lexemesBefore (.member members key :: outer) ++ j.lexemes)

variable {r next : Reading} {stack : List OpenJson} {j : Json} {l : Lexeme} {ls : List Lexeme}

theorem hasRead_of_addValue (h : addValue stack j = some next) :
    next.HasRead (lexemesBefore stack ++ j.lexemes) := by
  rcases stack with _ | ⟨items | members | ⟨members, key⟩, outer⟩
  · cases h
    exact .complete j
  · cases h
    exact .item items outer j
  · cases h
  · cases h
    exact .member members outer key j

/-- What ends here is a value of what is still open. -/
theorem hasRead_of_addValue_eq (h : addValue stack j = some next)
    (hls : ls = lexemesBefore stack ++ j.lexemes) : next.HasRead ls :=
  hls ▸ hasRead_of_addValue h

theorem hasRead_of_beginValue (h : beginValue stack l = some next) :
    next.HasRead (lexemesBefore stack ++ [l]) := by
  cases l with
  | openArray =>
    cases h
    have hread := HasRead.valueOrEnd stack
    rwa [lexemesBefore_cons] at hread
  | openObject =>
    cases h
    have hread := HasRead.keyOrEnd stack
    rwa [lexemesBefore_cons] at hread
  | null => exact hasRead_of_addValue h
  | bool b => exact hasRead_of_addValue h
  | number n => exact hasRead_of_addValue h
  | string s => exact hasRead_of_addValue h
  | _ => cases h

/-- Parts with commas between are those before the last one, each with its comma, and the last. -/
theorem intercalate_concat {α : Type} (lexemesOf : α → List Lexeme) (as : List α) (a : α) :
    [Lexeme.comma].intercalate ((as ++ [a]).map lexemesOf) =
      as.flatMap (fun b => lexemesOf b ++ [.comma]) ++ lexemesOf a := by
  induction as with
  | nil => simp
  | cons b as ih =>
    obtain ⟨c, cs, hcs⟩ := List.exists_cons_of_ne_nil (List.concat_ne_nil a as)
    rw [hcs, List.map_cons] at ih
    rw [List.cons_append, hcs, List.map_cons, List.map_cons, List.intercalate_cons_cons, ih]
    simp

/-- One lexeme more has been read. -/
theorem HasRead.step (hr : r.HasRead ls) (h : r.step l = some next) :
    next.HasRead (ls ++ [l]) := by
  cases hr with
  | complete j => cases h
  | value stack => exact hasRead_of_beginValue h
  | valueOrEnd outer =>
    cases l with
    | closeArray =>
      exact hasRead_of_addValue_eq h (by simp [OpenJson.lexemes, Json.lexemes, lexemesOfItems])
    | _ => exact hasRead_of_beginValue h
  | key members outer =>
    cases l with
    | string key =>
      cases h
      exact .colon members outer key
    | _ => cases h
  | keyOrEnd outer =>
    cases l with
    | string key =>
      cases h
      exact .colon [] outer key
    | closeObject =>
      exact hasRead_of_addValue_eq h (by simp [OpenJson.lexemes, Json.lexemes, lexemesOfMembers])
    | _ => cases h
  | colon members outer key =>
    cases l with
    | colon =>
      cases h
      have hread := HasRead.value (.member members key :: outer)
      simpa [OpenJson.lexemes] using hread
    | _ => cases h
  | item items outer j =>
    cases l with
    | comma =>
      cases h
      have hread := HasRead.value (.array (j :: items) :: outer)
      simpa [OpenJson.lexemes] using hread
    | closeArray =>
      refine hasRead_of_addValue_eq h ?_
      rw [Json.lexemes, lexemesOfItems_eq_map, List.reverse_cons, intercalate_concat]
      simp [OpenJson.lexemes]
    | _ => cases h
  | member members outer key j =>
    cases l with
    | comma =>
      cases h
      have hread := HasRead.key ((key, j) :: members) outer
      simpa [OpenJson.lexemes] using hread
    | closeObject =>
      refine hasRead_of_addValue_eq h ?_
      rw [Json.lexemes, lexemesOfMembers_eq_map, List.reverse_cons, intercalate_concat]
      simp [OpenJson.lexemes]
    | _ => cases h

theorem HasRead.foldlM {ms : List Lexeme} (hr : r.HasRead ls)
    (h : ms.foldlM Reading.step r = some next) : next.HasRead (ls ++ ms) := by
  induction ms generalizing r ls with
  | nil =>
    cases h
    rwa [List.append_nil]
  | cons l ms ih =>
    rw [List.foldlM_cons] at h
    obtain ⟨m, hm, hnext⟩ := Option.bind_eq_some_iff.1 h
    have hread := ih (hr.step hm) hnext
    rwa [List.append_assoc] at hread

end Reading

/-- Lexemes that are read as a value are the lexemes of the value. -/
theorem ofLexemes?_eq_some_iff {ls : List Lexeme} {j : Json} :
    ofLexemes? ls = some j ↔ ls = j.lexemes := by
  refine ⟨?_, fun h => h ▸ ofLexemes?_lexemes j⟩
  intro h
  obtain ⟨r, hr, hj⟩ := Option.bind_eq_some_iff.1 h
  have hread := (Reading.HasRead.value []).foldlM hr
  cases r with
  | inside stack awaited => cases hj
  | complete j =>
    cases hj
    cases hread
    rfl

/-! ## The text of the value -/

namespace Lexeme

/-- The one character that a lexeme is written with, if it is punctuation. -/
def mark? : Lexeme → Option Char
  | .openArray => some '['
  | .closeArray => some ']'
  | .openObject => some '{'
  | .closeObject => some '}'
  | .comma => some ','
  | .colon => some ':'
  | _ => none

variable {l : Lexeme} {ls : List Lexeme} {c : Char} {text : List Char}

theorem mark?_of_ofPunctuation? (h : ofPunctuation? c = some l) : mark? l = some c := by
  unfold ofPunctuation? at h
  split_ifs at h with hc hc hc hc hc hc <;> cases h <;> rw [hc, mark?]

theorem mark?_of_lexemes {j : Json} (h : j.lexemes = [l]) : mark? l = none := by
  cases j with
  | array items => simp [lexemes] at h
  | object members => simp [lexemes] at h
  | _ =>
    cases h
    rfl

/-- A word is the text of a value. -/
theorem exists_spelled_of_ofWord? (h : ofWord? text = some l) :
    ∃ j : Json, j.lexemes = [l] ∧ j.Spelled text := by
  unfold ofWord? at h
  split_ifs at h with hnull htrue hfalse
  · cases h
    exact ⟨.null, rfl, hnull ▸ .null⟩
  · cases h
    exact ⟨.bool true, rfl, htrue ▸ .true⟩
  · cases h
    exact ⟨.bool false, rfl, hfalse ▸ .false⟩
  · obtain ⟨n, hn, rfl⟩ := Option.map_eq_some_iff.1 h
    exact ⟨.number n, rfl, .number (Numeral.ofChars?_eq_some_iff.1 hn)⟩

/-- Punctuation is written in one way only. -/
theorem Spelled.eq_singleton (h : l.Spelled text) (hc : mark? l = some c) : text = [c] := by
  cases h with
  | punctuation h =>
    cases (mark?_of_ofPunctuation? h).symm.trans hc
    rfl
  | word h =>
    obtain ⟨j, hj, -⟩ := exists_spelled_of_ofWord? h
    cases (mark?_of_lexemes hj).symm.trans hc
  | string h => cases hc

/-- A value of one lexeme is written as the lexeme is. -/
theorem Spelled.value {j : Json} (h : l.Spelled text) (hj : j.lexemes = [l]) : j.Spelled text := by
  have hsame {i : Json} (hi : i.lexemes = [l]) : i = j := by
    have hread := ofLexemes?_lexemes i
    rw [hi, ← hj, ofLexemes?_lexemes] at hread
    exact (Option.some.inj hread).symm
  cases h with
  | punctuation h => cases (mark?_of_ofPunctuation? h).symm.trans (mark?_of_lexemes hj)
  | word h =>
    obtain ⟨i, hi, hspelled⟩ := exists_spelled_of_ofWord? h
    exact hsame hi ▸ hspelled
  | @string s _ h => exact hsame (i := .string s) rfl ▸ .string h

theorem AreSpelled.exists_of_cons (h : AreSpelled (l :: ls) text) :
    ∃ blanks part rest, text = blanks ++ (part ++ rest) ∧ AreBlanks blanks ∧ l.Spelled part ∧
      AreSpelled ls rest := by
  cases h with
  | cons hblanks hl hrest => exact ⟨_, _, _, rfl, hblanks, hl, hrest⟩

theorem AreSpelled.exists_of_mark (hc : mark? l = some c) (h : AreSpelled (l :: ls) text) :
    ∃ blanks rest, text = blanks ++ c :: rest ∧ AreBlanks blanks ∧ AreSpelled ls rest := by
  obtain ⟨blanks, part, rest, rfl, hblanks, hl, hrest⟩ := h.exists_of_cons
  obtain rfl := hl.eq_singleton hc
  exact ⟨blanks, rest, rfl, hblanks, hrest⟩

/-- Where the lexemes are written in front of others, there is such a text. -/
def Begin (ls : List Lexeme) (IsText : List Char → Prop) : Prop :=
  ∀ ms text, AreSpelled (ls ++ ms) text →
    ∃ part rest, text = part ++ rest ∧ IsText part ∧ AreSpelled ms rest

end Lexeme

open Lexeme (Begin AreSpelled mark?)

/-! ### Parts and their blanks -/

theorem PartSpelled.append_blanks {j : Json} {text blanks : List Char} (h : PartSpelled j text)
    (hblanks : AreBlanks blanks) : PartSpelled j (text ++ blanks) := by
  cases h with
  | intro hbefore hafter h =>
    rw [List.append_assoc]
    exact .intro hbefore (areBlanks_append hafter hblanks) h

theorem MemberSpelled.append_blanks {m : String × Json} {text blanks : List Char}
    (h : MemberSpelled m text) (hblanks : AreBlanks blanks) :
    MemberSpelled m (text ++ blanks) := by
  cases h with
  | intro hbefore hafter hkey h =>
    rw [List.append_assoc, List.cons_append]
    exact .intro hbefore hafter hkey (h.append_blanks hblanks)

section Parts

variable {α : Type} {lexemesOf : α → List Lexeme} {IsText : α → List Char → Prop}
  (happend : ∀ {a text blanks}, IsText a text → AreBlanks blanks → IsText a (text ++ blanks))
  {closing : Lexeme} {c : Char} (hc : mark? closing = some c)
include happend hc

/-- The blanks behind a part belong to it. -/
theorem exists_parts_of_areSpelled_cons {a : α} {as : List α} {ms : List Lexeme} {text : List Char}
    (hparts : ∀ b ∈ a :: as, Begin (lexemesOf b) (IsText b))
    (h : AreSpelled ([.comma].intercalate ((a :: as).map lexemesOf) ++ closing :: ms) text) :
    ∃ texts rest, text = [','].intercalate texts ++ c :: rest ∧
      List.Forall₂ IsText (a :: as) texts ∧ AreSpelled ms rest := by
  induction as generalizing a text with
  | nil =>
    rw [List.map_singleton, List.intercalate_singleton] at h
    obtain ⟨part, _, rfl, hpart, hlater⟩ := hparts a List.mem_cons_self _ _ h
    obtain ⟨blanks, rest, rfl, hblanks, hrest⟩ := hlater.exists_of_mark hc
    exact ⟨[part ++ blanks], rest, by simp, .cons (happend hpart hblanks) .nil, hrest⟩
  | cons b as ih =>
    obtain ⟨ha, has⟩ := List.forall_mem_cons.1 hparts
    rw [List.map_cons, List.map_cons, List.intercalate_cons_cons, List.append_assoc,
      List.append_assoc, ← List.map_cons] at h
    obtain ⟨part, _, rfl, hpart, hlater⟩ := ha _ _ h
    obtain ⟨blanks, _, rfl, hblanks, hlater⟩ := hlater.exists_of_mark (c := ',') rfl
    obtain ⟨texts, rest, rfl, htexts, hrest⟩ := ih has hlater
    refine ⟨(part ++ blanks) :: texts, rest, ?_, .cons (happend hpart hblanks) htexts, hrest⟩
    cases htexts
    simp [List.intercalate_cons_cons]

/-- Parts with commas between and what closes them. -/
theorem exists_parts_of_areSpelled {as : List α} {ms : List Lexeme} {text : List Char}
    (hparts : ∀ b ∈ as, Begin (lexemesOf b) (IsText b))
    (h : AreSpelled ([.comma].intercalate (as.map lexemesOf) ++ closing :: ms) text) :
    ∃ blanks texts rest, text = blanks ++ [','].intercalate texts ++ c :: rest ∧
      AreBlanks blanks ∧ List.Forall₂ IsText as texts ∧ AreSpelled ms rest := by
  cases as with
  | nil =>
    obtain ⟨blanks, rest, rfl, hblanks, hrest⟩ := AreSpelled.exists_of_mark hc h
    exact ⟨blanks, [], rest, by simp, hblanks, .nil, hrest⟩
  | cons a as =>
    obtain ⟨texts, rest, rfl, htexts, hrest⟩ :=
      exists_parts_of_areSpelled_cons happend hc hparts h
    exact ⟨[], texts, rest, by simp, areBlanks_nil, htexts, hrest⟩

end Parts

theorem begin_member {m : String × Json} (h : Begin m.2.lexemes (PartSpelled m.2)) :
    Begin (.string m.1 :: .colon :: m.2.lexemes) (MemberSpelled m) := by
  intro ms text hms
  obtain ⟨before, keyText, _, rfl, hbefore, hkey, hlater⟩ := AreSpelled.exists_of_cons hms
  obtain ⟨after, _, rfl, hafter, hlater⟩ := hlater.exists_of_mark (c := ':') rfl
  obtain ⟨part, rest, rfl, hpart, hrest⟩ := h _ _ hlater
  have hkeyText : StringSpelled m.1 keyText := by
    cases hkey.value (j := .string m.1) rfl with
    | string h => exact h
  exact ⟨before ++ keyText ++ after ++ ':' :: part, rest, by simp,
    .intro hbefore hafter hkeyText hpart, hrest⟩

/-- What is written with the lexemes of a value is a text of the value. -/
theorem begin_lexemes (j : Json) : Begin j.lexemes (PartSpelled j) := by
  have hvalue {j : Json} {l : Lexeme} (hj : j.lexemes = [l]) : Begin j.lexemes (PartSpelled j) := by
    intro ms text h
    rw [hj] at h
    obtain ⟨blanks, part, rest, rfl, hblanks, hl, hrest⟩ := AreSpelled.exists_of_cons h
    exact ⟨blanks ++ part ++ [], rest, by simp, .intro hblanks areBlanks_nil (hl.value hj), hrest⟩
  induction j with
  | null => exact hvalue rfl
  | bool b => exact hvalue rfl
  | number n => exact hvalue rfl
  | string s => exact hvalue rfl
  | array items ih =>
    intro ms text h
    rw [lexemes, lexemesOfItems_eq_map, List.cons_append, List.append_assoc] at h
    obtain ⟨before, _, rfl, hbefore, hlater⟩ := AreSpelled.exists_of_mark (c := '[') rfl h
    obtain ⟨blanks, texts, rest, rfl, hblanks, htexts, hrest⟩ :=
      exists_parts_of_areSpelled (c := ']') PartSpelled.append_blanks rfl ih hlater
    exact ⟨_, rest, by simp, .intro hbefore areBlanks_nil (.array hblanks htexts), hrest⟩
  | object members ih =>
    intro ms text h
    rw [lexemes, lexemesOfMembers_eq_map, List.cons_append, List.append_assoc] at h
    obtain ⟨before, _, rfl, hbefore, hlater⟩ := AreSpelled.exists_of_mark (c := '{') rfl h
    obtain ⟨blanks, texts, rest, rfl, hblanks, htexts, hrest⟩ :=
      exists_parts_of_areSpelled (c := '}') MemberSpelled.append_blanks rfl
        (fun m hm => begin_member (ih m hm)) hlater
    exact ⟨_, rest, by simp, .intro hbefore areBlanks_nil (.object hblanks htexts), hrest⟩

/-! ## The value of a text -/

/-- A text is read as a value if it is one of the texts of the value. -/
theorem parse?_eq_some_iff {text : String} {j : Json} :
    parse? text = some j ↔ PartSpelled j text.toList := by
  refine ⟨?_, parse?_of_partSpelled⟩
  intro h
  obtain ⟨ls, hls, hj⟩ := Option.bind_eq_some_iff.1 h
  obtain rfl := ofLexemes?_eq_some_iff.1 hj
  have htext := areSpelled_of_lexemes? hls
  rw [← List.append_nil j.lexemes] at htext
  obtain ⟨part, blanks, htext, hpart, hblanks⟩ := begin_lexemes j _ _ htext
  cases hblanks with
  | nil hblanks =>
    rw [htext]
    exact hpart.append_blanks hblanks

/-- A text is read as a document if it is one of the texts of a value, all numbers of the value fit
doubles, and it does not nest too deep. -/
theorem read?_eq_some_iff {text : String} {j : Json} :
    read? text = some j ↔ PartSpelled j text.toList ∧ j.FitsDoubles ∧ j.depth ≤ 127 := by
  rw [read?, Option.filter_eq_some_iff, parse?_eq_some_iff, decide_eq_true_eq, maxNesting]

end Json

end RecordFilter
