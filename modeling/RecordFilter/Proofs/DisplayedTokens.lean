import RecordFilter.Proofs.Seams
import RecordFilter.Proofs.TokenLikeness
import RecordFilter.Proofs.TokenPlaces

/-!
# Displayed tokens

The tokens of a text, displayed with a space between each two, are a text with the same tokens
(`tokenize_displayAll`), the texts and the quotes of the tokens being the same and only the offsets
others. So it is the same filter, or none for the same reason.

A displayed token is read as the token it shows, provided that its text could stand as it is
displayed (`Token.ReadsBack`). Not every token reads back: a quoted text with a quote of its kind is
displayed with a backslash, which the scan does not know. But the scan finds no such token
(`readsBack_of_mem`).
-/

namespace RecordFilter

/-- The tokens as they are displayed, with a space between each two. -/
def displayAll (ts : List Token) : String :=
  String.intercalate " " (ts.map Token.display)

namespace Token

/-- The tokens have one text and one kind of quotes, or no quotes. -/
structure SpelledLike (t u : Token) : Prop where
  text_eq : t.text = u.text
  quote_eq : t.quote = u.quote

/-- The token, displayed, is read as what it is. -/
def ReadsBack (t : Token) : Prop :=
  tokenizeChars t.display.toList = .ok [{ t with offset := 0 }]

theorem SpelledLike.alike {t u : Token} (h : t.SpelledLike u) : t.Alike u where
  text_eq := h.text_eq
  isQuoted_eq := by rw [isQuoted, isQuoted, h.quote_eq]

theorem spelledLike_shift {t u : Token} (n : Nat) (h : t.SpelledLike u) :
    t.SpelledLike (u.shift n) :=
  ⟨h.text_eq, h.quote_eq⟩

end Token

/-! ## Tokens that were found in a text -/

theorem Segment.token?_zero {g : Segment} {offset : Nat} {t : Token}
    (h : g.token? offset = some t) : g.token? 0 = some { t with offset := 0 } := by
  cases g <;> cases h <;> rfl

theorem readsBack_of_mem {s : String} {ts : List Token} (h : tokenize s = .ok ts) {t : Token}
    (ht : t ∈ ts) : t.ReadsBack := by
  obtain ⟨gs, hgs, rfl⟩ := segments_of_tokenize h
  obtain ⟨before, g, after, rfl, htoken⟩ := exists_segment_of_mem ht
  have hg : g.IsProper := hgs.proper g (by simp)
  obtain ⟨hdisplay, -⟩ := Segment.display_of_token? hg htoken
  rw [Token.ReadsBack, hdisplay, tokenizeChars_of_segmented (segmented_singleton hg),
    segmentsTokens, Segment.token?_zero htoken]
  rfl

/-! ## Tokens with spaces between -/

/-- Tokens that read back one by one read back in a row. -/
theorem exists_tokenizeChars_intercalate {ts : List Token} (h : ∀ t ∈ ts, t.ReadsBack) :
    ∃ us, tokenizeChars ([' '].intercalate (ts.map (·.display.toList))) = .ok us ∧
      List.Forall₂ Token.SpelledLike ts us := by
  induction ts with
  | nil => exact ⟨[], rfl, .nil⟩
  | cons t rest ih =>
    obtain ⟨ht, hrest⟩ := List.forall_mem_cons.1 h
    have hfirst : t.SpelledLike { t with offset := 0 } := ⟨rfl, rfl⟩
    cases rest with
    | nil =>
      refine ⟨_, ?_, .cons hfirst .nil⟩
      rw [List.map_singleton, List.intercalate_singleton]
      exact ht
    | cons t' rest =>
      obtain ⟨us, hus, hlike⟩ := ih hrest
      have hmoved (n : Nat) :
          List.Forall₂ Token.SpelledLike (t' :: rest) (us.map (Token.shift n)) :=
        List.forall₂_map_right_iff.2 (hlike.imp fun _ _ => Token.spelledLike_shift n)
      rw [List.map_cons] at hus
      rw [List.map_cons, List.map_cons, List.intercalate_cons_cons,
        tokenizeChars_append_separator ht rfl, hus]
      exact ⟨_, rfl, .cons hfirst (hmoved _)⟩

/-! ## The same filter -/

/-- A text with tokens is the filter that its tokens are. -/
theorem parse_of_tokenize {s : String} {ts : List Token} (h : tokenize s = .ok ts)
    (mode : ParseMode) : parse mode s = (parseTokens mode ts).mapError .parse := by
  rw [parse, h, mapError_ok, ok_bind]

/-- The tokens of a text, displayed with a space between each two, have the same texts and the same
quotes, and are the same filter in either mode, or are refused for what is wrong with the same
token. -/
theorem tokenize_displayAll {s : String} {ts : List Token} (h : tokenize s = .ok ts) :
    ∃ us, tokenize (displayAll ts) = .ok us ∧ List.Forall₂ Token.SpelledLike ts us ∧
      ∀ mode, (∃ e, parse mode s = .ok e ∧ parse mode (displayAll ts) = .ok e) ∨
        ∃ (kind : ParseError.Kind) (i : Nat) (t u : Token), ts[i]? = some t ∧ us[i]? = some u ∧
          parse mode s = .error (.parse (kind.about t)) ∧
          parse mode (displayAll ts) = .error (.parse (kind.about u)) := by
  obtain ⟨us, hus, hlike⟩ := exists_tokenizeChars_intercalate fun t ht => readsBack_of_mem h ht
  have hread : tokenize (displayAll ts) = .ok us := by
    rw [tokenize, displayAll, String.toList_intercalate, List.map_map]
    exact hus
  refine ⟨us, hread, hlike, fun mode => ?_⟩
  rw [parse_of_tokenize h, parse_of_tokenize hread]
  have houtcome := sameOutcome_parseTokens (hlike.imp fun _ _ => Token.SpelledLike.alike) mode
  generalize parseTokens mode ts = outcome at houtcome
  generalize parseTokens mode us = outcome' at houtcome
  cases houtcome with
  | ok he => exact .inl ⟨_, rfl, congrArg Except.ok he.symm⟩
  | error kind hsame =>
    obtain ⟨-, i, ht, hu⟩ := hsame
    exact .inr ⟨kind, i, _, _, ht, hu, rfl, rfl⟩

/-- A quoted text with the other quote and a parenthesis in it, one with nothing in it, and a
parenthesis that is left open. -/
theorem tokenize_displayAll_quotes :
    let ts : List Token := [.bare "(" 0, .quoted "\"(" '\'' 1, .bare "=" 6, .quoted "" '"' 8,
      .bare "or" 10]
    tokenize "('\"('\t=\n\"\"or" = .ok ts ∧ displayAll ts = "( '\"(' = \"\" or" ∧
    (∃ us, tokenize "( '\"(' = \"\" or" = .ok us ∧ List.Forall₂ Token.SpelledLike ts us) ∧
    parse .permissive "( '\"(' = \"\" or" = .ok (.condition ⟨"\"(", .equals, ""⟩) := by
  intro ts
  have htokens : tokenize "('\"('\t=\n\"\"or" = .ok ts := rfl
  have hdisplay : displayAll ts = "( '\"(' = \"\" or" := by decide +kernel
  have hparse : parse .permissive "('\"('\t=\n\"\"or" =
      .ok (.condition ⟨"\"(", .equals, ""⟩) := by
    decide +kernel
  obtain ⟨us, hus, hlike, hmodes⟩ := tokenize_displayAll htokens
  have hpermissive := hmodes .permissive
  rw [hdisplay, hparse] at hpermissive
  rw [hdisplay] at hus
  refine ⟨htokens, hdisplay, ⟨us, hus, hlike⟩, ?_⟩
  obtain ⟨e, he, hread⟩ | ⟨kind, i, t, u, -, -, herror, -⟩ := hpermissive
  · rw [hread, ← he]
  · cases herror

end RecordFilter
