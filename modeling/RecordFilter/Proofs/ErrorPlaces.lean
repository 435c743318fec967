import Mathlib.Control.Monad.Basic
import RecordFilter.Proofs.Refusals
import RecordFilter.Proofs.TokenPlaces

/-!
# What an error points at

The offset of an error is an index into the text, and what the error says of the place is so
(`pointsInto_of_parse`). For an error of the scan this is read off the segments before the place.
For an error of the parser there is a token that the error is about (`ParseError.IsAbout`), and the
token stands in the text where its offset says.
-/

namespace RecordFilter

/-- What the error says of its offset, where the token `t` stands in the text `cs`. -/
def ParseError.HoldsAt (cs : List Char) (t : Token) : ParseError → Prop
  | .unexpectedCloseParen offset => cs[offset]? = some ')'
  | .unclosedParen offset => cs[offset]? = some '('
  | .emptyGroup offset => cs[offset]? = some '('
  | .missingAnd token offset => token = t.display ∧ token.toList <+: cs.drop offset
  | .missingTerm _ => t.isKeyword "and" = true
  | .tooDeep offset => cs[offset]? = some '('
  | .missingOperation _ => True
  | .invalidOperation token offset => token = t.display ∧ token.toList <+: cs.drop offset
  | .missingValue offset => cs[offset]? = some '=' ∨ cs[offset]? = some '~'

/-- The offset of the error is inside the text, and what the error says of it is so. -/
def FilterError.PointsInto (text : String) (e : FilterError) : Prop :=
  e.offset < text.length ∧
  match e with
  | .lex (.unexpectedQuote quote offset) =>
    isQuote quote = true ∧ text.toList[offset]? = some quote
  | .lex (.incompleteToken rest offset) =>
    ∃ quote, isQuote quote = true ∧ text.toList[offset]? = some quote ∧
      quote ∉ text.toList.drop (offset + 1) ∧
        rest.toList = text.toList.drop (offset + 1) ++ ['\n']
  | .parse cause =>
    ∃ ts t, tokenize text = .ok ts ∧ t ∈ ts ∧ t.offset = cause.offset ∧
      (∀ u ∈ ts, u.offset = cause.offset → u = t) ∧ cause.HoldsAt text.toList t

variable {mode : ParseMode} {text : String}

/-! ## Errors of the scan -/

theorem pointsInto_of_quoteAfterRun {q : Char} {offset : Nat}
    (h : QuoteAfterRun text.toList q offset) :
    FilterError.PointsInto text (.lex (.unexpectedQuote q offset)) := by
  obtain ⟨before, rest, gs, hchars, rfl, hq, -, -⟩ := h
  have hstands : StandsAt text.toList [q] before.length := ⟨before, rest, by simp [hchars], rfl⟩
  exact ⟨hstands.lt_length (by simp), hq, hstands.getElem?_eq⟩

theorem pointsInto_of_quoteLeftOpen {rest : String} {offset : Nat}
    (h : QuoteLeftOpen text.toList rest offset) :
    FilterError.PointsInto text (.lex (.incompleteToken rest offset)) := by
  obtain ⟨before, q, after, gs, hchars, rfl, hq, -, -, hafter, rfl⟩ := h
  have hstands : StandsAt text.toList [q] before.length := ⟨before, after, by simp [hchars], rfl⟩
  have hdrop : text.toList.drop (before.length + 1) = after := by
    rw [hchars, List.append_cons, ← List.length_singleton (a := q), ← List.length_append,
      List.drop_left]
  refine ⟨hstands.lt_length (by simp), q, hq, hstands.getElem?_eq, ?_, ?_⟩
  · rwa [hdrop]
  · rw [hdrop, String.toList_ofList]

theorem pointsInto_of_tokenize {e : LexError} (h : tokenize text = .error e) :
    FilterError.PointsInto text (.lex e) := by
  cases e with
  | unexpectedQuote q offset =>
    exact pointsInto_of_quoteAfterRun (tokenizeChars_eq_unexpectedQuote_iff.1 h)
  | incompleteToken rest offset =>
    exact pointsInto_of_quoteLeftOpen (tokenizeChars_eq_incompleteToken_iff.1 h)

/-! ## Errors of the parser -/

section Tokens

variable {ts : List Token} {t : Token} (h : tokenize text = .ok ts) (ht : t ∈ ts)
include h ht

/-- A symbol of one character stands where its token does. -/
theorem getElem?_of_isSymbol {c : Char} (hc : t.isSymbol (String.ofList [c]) = true) :
    text.toList[t.offset]? = some c := by
  obtain ⟨hquote, htext⟩ := Token.isSymbol_iff.1 hc
  have hdisplay : t.display.toList = [c] := by
    rw [Token.display, hquote, htext]
    exact String.toList_ofList
  have hstands := (standsAt_of_tokenize h ht).1
  rw [hdisplay] at hstands
  exact hstands.getElem?_eq

theorem ParseError.IsAbout.holdsAt {e : ParseError} (he : e.IsAbout t) :
    e.HoldsAt text.toList t := by
  have hprefix : t.display.toList <+: text.toList.drop t.offset :=
    (standsAt_of_tokenize h ht).1.prefix_drop
  cases e with
  | unexpectedCloseParen offset =>
    obtain ⟨rfl, hclosing⟩ := he
    exact getElem?_of_isSymbol h ht hclosing
  | unclosedParen offset =>
    obtain ⟨rfl, hopening⟩ := he
    exact getElem?_of_isSymbol h ht hopening
  | emptyGroup offset =>
    obtain ⟨rfl, hopening⟩ := he
    exact getElem?_of_isSymbol h ht hopening
  | missingAnd token offset =>
    obtain ⟨rfl, rfl⟩ := he
    exact ⟨rfl, hprefix⟩
  | missingTerm offset => exact he.2
  | tooDeep offset =>
    obtain ⟨rfl, hopening⟩ := he
    exact getElem?_of_isSymbol h ht hopening
  | missingOperation offset => exact trivial
  | invalidOperation token offset =>
    obtain ⟨rfl, rfl⟩ := he
    exact ⟨rfl, hprefix⟩
  | missingValue offset =>
    obtain ⟨rfl, o, hsymbol⟩ := he
    cases o with
    | equals => exact .inl (getElem?_of_isSymbol h ht hsymbol)
    | contains => exact .inr (getElem?_of_isSymbol h ht hsymbol)

end Tokens

theorem pointsInto_of_parseTokens {ts : List Token} (h : tokenize text = .ok ts) {e : ParseError}
    (he : parseTokens mode ts = .error e) : FilterError.PointsInto text (.parse e) := by
  obtain ⟨t, ht, habout⟩ := blamesTokens_readNested mode maxDepth ts e he
  have hoffset : e.offset = t.offset := habout.offset_eq
  obtain ⟨hstands, hne⟩ := standsAt_of_tokenize h ht
  constructor
  · show e.offset < text.toList.length
    rw [hoffset]
    exact hstands.lt_length hne
  · refine ⟨ts, t, h, ht, hoffset.symm, ?_, habout.holdsAt h ht⟩
    intro u hu hsame
    exact offset_injOn_of_tokenize h hu ht (hsame.trans hoffset)

/-- Each error of a filter text points at the part of the text that it is about. -/
theorem pointsInto_of_parse {e : FilterError} (h : parse mode text = .error e) :
    e.PointsInto text := by
  rw [parse] at h
  cases htokens : tokenize text with
  | error cause =>
    rw [htokens] at h
    cases h
    exact pointsInto_of_tokenize htokens
  | ok ts =>
    rw [htokens, mapError_ok, ok_bind] at h
    cases hparse : parseTokens mode ts with
    | error cause =>
      rw [hparse] at h
      cases h
      exact pointsInto_of_parseTokens htokens hparse
    | ok tree =>
      rw [hparse] at h
      cases h

/-- A quoted operator is shown in its quotes, a rest that a quote opens without them, and characters
are counted, not bytes. -/
theorem pointsInto_of_parse_quotes :
    FilterError.PointsInto "\u00e4 = 1 and ('b c' \"='\" 2)"
      (.parse (.invalidOperation "\"='\"" 17)) ∧
    FilterError.PointsInto "\u00e4 = 'b\"" (.lex (.incompleteToken "b\"\n" 4)) := by
  have hoperator : parse .strict "\u00e4 = 1 and ('b c' \"='\" 2)" =
      .error (.parse (.invalidOperation "\"='\"" 17)) := by
    decide +kernel
  have hopen : parse .permissive "\u00e4 = 'b\"" =
      .error (.lex (.incompleteToken "b\"\n" 4)) := by
    decide +kernel
  exact ⟨pointsInto_of_parse hoperator, pointsInto_of_parse hopen⟩

end RecordFilter
