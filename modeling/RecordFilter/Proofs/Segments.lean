import Mathlib.Data.List.Chain
import Mathlib.Data.List.TakeWhile
import RecordFilter.Proofs.ScanRun

/-!
# The segments of a text

A text is a sequence of tokens exactly if it can be cut, from its first character to its last, into
segments: separators, parentheses, texts between two quotes of a kind, and runs of plain characters,
each run as long as it can be and no quote directly after it (`Segmented`). The tokens are those of
the segments, in order (`segmentsTokens`), and there is one way at most to cut a text
(`Segmented.unique`).

A text that cannot be cut so can be cut up to some quote. Either the quote stands directly after a
run (`QuoteAfterRun`), or it opens a text that no quote of its kind ends (`QuoteLeftOpen`). The scan
refuses the text at that quote. `tokenize_segments` puts this together.
-/

namespace RecordFilter

/-! ## Segments -/

/-- A part of a text that the scan does not cut any further. -/
inductive Segment where
  | separator (c : Char)
  | paren (c : Char)
  /-- The text between two `quote`s, and the two. -/
  | quoted (quote : Char) (body : List Char)
  /-- Characters that are one bare token. -/
  | run (cs : List Char)

namespace Segment

/-- The characters of the segment. -/
def chars : Segment → List Char
  | .separator c => [c]
  | .paren c => [c]
  | .quoted quote body => [quote] ++ body ++ [quote]
  | .run cs => cs

/-- The characters are of the kinds that the segment is for. -/
def IsProper : Segment → Prop
  | .separator c => isSeparator c = true
  | .paren c => isParen c = true
  | .quoted quote body => isQuote quote = true ∧ quote ∉ body
  | .run cs => cs ≠ [] ∧ ∀ c ∈ cs, isPlain c = true

/-- The token of the segment, if it has one, where the segment begins at `offset`. -/
def token? : Segment → (offset : Nat) → Option Token
  | .separator _, _ => none
  | .paren c, offset => some (.bare (String.ofList [c]) offset)
  | .quoted quote body, offset => some (.quoted (String.ofList body) quote offset)
  | .run cs, offset => some (.bare (String.ofList cs) offset)

/-- Whether the segment is a run of plain characters. -/
def isRun : Segment → Bool
  | .run _ => true
  | _ => false

/-- Whether the segment can stand directly after a run. -/
def mayFollowRun : Segment → Bool
  | .separator _ => true
  | .paren _ => true
  | _ => false

end Segment

/-- The characters of several segments. -/
def segmentsChars (gs : List Segment) : List Char :=
  gs.flatMap Segment.chars

/-- The tokens of several segments, of which the first begins at `offset`. -/
def segmentsTokens : (offset : Nat) → List Segment → List Token
  | _, [] => []
  | offset, g :: gs => (g.token? offset).toList ++ segmentsTokens (offset + g.chars.length) gs

/-- Whether the last of several segments is a run. -/
def endsInRun (gs : List Segment) : Bool :=
  gs.getLast?.any Segment.isRun

/-- The text is cut into the segments, without a gap or an overlap. -/
structure Segmented (cs : List Char) (gs : List Segment) : Prop where
  chars_eq : segmentsChars gs = cs
  proper : ∀ g ∈ gs, g.IsProper
  /-- A run is as long as it can be, and no quote stands directly after it. -/
  maximal : gs.IsChain fun g next => g.isRun = true → next.mayFollowRun = true

/-- The quote `q` at `offset` stands directly after a run. -/
def QuoteAfterRun (cs : List Char) (q : Char) (offset : Nat) : Prop :=
  ∃ before rest gs, cs = before ++ q :: rest ∧ before.length = offset ∧ isQuote q = true ∧
    Segmented before gs ∧ endsInRun gs = true

/-- The quote at `offset` opens a text that no quote ends. With a newline after it, the text is
`text`. -/
def QuoteLeftOpen (cs : List Char) (text : String) (offset : Nat) : Prop :=
  ∃ before q rest gs, cs = before ++ q :: rest ∧ before.length = offset ∧ isQuote q = true ∧
    Segmented before gs ∧ endsInRun gs = false ∧ q ∉ rest ∧ text = String.ofList (rest ++ ['\n'])

/-! ## The first segment -/

theorem isSeparator_of_isParen {c : Char} (h : isParen c = true) : isSeparator c = false := by
  simp only [isParen, Bool.or_eq_true, beq_iff_eq] at h
  rcases h with rfl | rfl <;> decide

theorem isBreak_eq_false_of_isQuote {c : Char} (h : isQuote c = true) : isBreak c = false := by
  refine Bool.eq_false_iff.2 fun hbreak => ?_
  rw [isQuote_of_isBreak hbreak] at h
  cases h

theorem isBreak_eq_false_of_isPlain {c : Char} (h : isPlain c = true) : isBreak c = false := by
  refine Bool.eq_false_iff.2 fun hbreak => ?_
  rw [isPlain_eq_false_of_isBreak hbreak] at h
  cases h

namespace Segment

/-- Whether a segment of this kind can begin with the character. -/
def opens : Segment → Char → Bool
  | .separator _, c => isSeparator c
  | .paren _, c => isParen c
  | .quoted _ _, c => isQuote c
  | .run _, c => isPlain c

theorem exists_chars {g : Segment} (h : g.IsProper) :
    ∃ c cs, g.chars = c :: cs ∧ g.opens c = true := by
  cases g with
  | separator c => exact ⟨c, [], rfl, h⟩
  | paren c => exact ⟨c, [], rfl, h⟩
  | quoted q body => exact ⟨q, _, rfl, h.1⟩
  | run cs =>
    obtain ⟨hne, hplain⟩ := h
    obtain ⟨c, cs, rfl⟩ := List.exists_cons_of_ne_nil hne
    exact ⟨c, cs, rfl, hplain c (by simp)⟩

/-- The first character of a segment says of what kind the segment is. -/
theorem ctorIdx_eq_of_opens {g g' : Segment} {c : Char} (h : g.opens c = true)
    (h' : g'.opens c = true) : g.ctorIdx = g'.ctorIdx := by
  have hparen : isParen c = true → isQuote c = false := fun hp =>
    isQuote_of_isBreak (by simp [isBreak, hp])
  have hclass := char_cases c
  -- no character is of two classes, so two kinds that are not the same cannot both begin with `c`
  cases g <;> cases g' <;> first | rfl | simp_all [opens, isPlain]

/-- The first character of a segment says whether the segment can stand after a run. -/
theorem isBreak_of_opens {g : Segment} {c : Char} (h : g.opens c = true) :
    isBreak c = g.mayFollowRun := by
  cases g with
  | separator _ =>
    have hc : isSeparator c = true := h
    simp [isBreak, mayFollowRun, hc]
  | paren _ =>
    have hc : isParen c = true := h
    simp [isBreak, mayFollowRun, hc]
  | quoted _ _ => exact isBreak_eq_false_of_isQuote h
  | run _ => exact isBreak_eq_false_of_isPlain h

end Segment

theorem segmented_nil : Segmented [] [] :=
  ⟨rfl, by simp, .nil⟩

theorem Segmented.eq_nil {gs : List Segment} (h : Segmented [] gs) : gs = [] := by
  cases gs with
  | nil => rfl
  | cons g gs =>
    obtain ⟨c, rest, hchars, -⟩ := Segment.exists_chars (h.proper g (by simp))
    simpa [segmentsChars, hchars] using h.chars_eq

theorem endsInRun_cons (g : Segment) {gs : List Segment} (h : gs ≠ []) :
    endsInRun (g :: gs) = endsInRun gs := by
  rw [endsInRun, List.getLast?_cons_of_ne_nil h, endsInRun]

theorem reverse_segmentsTokens_cons (offset : Nat) (g : Segment) (gs : List Segment) :
    (segmentsTokens offset (g :: gs)).reverse =
      (segmentsTokens (offset + g.chars.length) gs).reverse ++ (g.token? offset).toList := by
  rw [segmentsTokens, List.reverse_append]
  cases g.token? offset <;> rfl

/-- What follows a run begins with a segment that may do so exactly if its first character is a
break. -/
theorem Segmented.mayFollowRun_head_iff {cs : List Char} {gs : List Segment}
    (h : Segmented cs gs) :
    (∀ g ∈ gs.head?, g.mayFollowRun = true) ↔ ∀ c ∈ cs.head?, isBreak c = true := by
  rw [← h.chars_eq]
  cases gs with
  | nil => simp [segmentsChars]
  | cons g gs =>
    obtain ⟨c, rest, hchars, hc⟩ := Segment.exists_chars (h.proper g (by simp))
    simp [segmentsChars, hchars, Segment.isBreak_of_opens hc]

theorem segmented_cons_iff {cs : List Char} {g : Segment} {gs : List Segment} :
    Segmented cs (g :: gs) ↔ ∃ rest, cs = g.chars ++ rest ∧ g.IsProper ∧
      (g.isRun = true → ∀ c ∈ rest.head?, isBreak c = true) ∧ Segmented rest gs := by
  constructor
  · rintro ⟨rfl, hproper, hmaximal⟩
    obtain ⟨hg, hgs⟩ := List.forall_mem_cons.1 hproper
    obtain ⟨hhead, htail⟩ := List.isChain_cons.1 hmaximal
    have hrest : Segmented (segmentsChars gs) gs := ⟨rfl, hgs, htail⟩
    refine ⟨segmentsChars gs, rfl, hg, fun hrun => ?_, hrest⟩
    exact hrest.mayFollowRun_head_iff.1 fun next hnext => hhead next hnext hrun
  · rintro ⟨rest, rfl, hg, hrun, hrest⟩
    refine ⟨by rw [← hrest.chars_eq]; rfl, List.forall_mem_cons.2 ⟨hg, hrest.proper⟩, ?_⟩
    refine List.isChain_cons.2 ⟨fun next hnext hg => ?_, hrest.maximal⟩
    exact hrest.mayFollowRun_head_iff.2 (hrun hg) next hnext

theorem segmented_singleton {g : Segment} (hg : g.IsProper) : Segmented g.chars [g] :=
  segmented_cons_iff.2 ⟨[], (List.append_nil _).symm, hg, by simp, segmented_nil⟩

/-! ## What the scan does on segments -/

namespace Scan

/-- Whether the scan is in the middle of a bare token. -/
def isBare (s : Scan) : Bool :=
  match s.current with
  | .bare _ _ => true
  | _ => false

theorem settle_of_not_bare {s : Scan} (h : s.isBare = false) : s.settle = s := by
  obtain ⟨o, found, _ | ⟨start, read⟩ | ⟨q, start, read⟩⟩ := s
  · rfl
  · cases h
  · rfl

theorem run_settle (s : Scan) {c : Char} (h : isBreak c = true) (cs : List Char) :
    s.settle.run (c :: cs) = s.run (c :: cs) := by
  rw [run_cons, run_cons, step_settle s h]

variable (o : Nat) (found : List Token)

/-- A segment is read as its token, to its end or, if it is a run, but for its end. -/
theorem run_segment {g : Segment} (h : g.IsProper) :
    ∃ u, run ⟨o, found, .none⟩ g.chars = .ok u ∧ u.isBare = g.isRun ∧
      u.settle = ⟨o + g.chars.length, (g.token? o).toList ++ found, .none⟩ := by
  cases g with
  | separator c =>
    have hc : isSeparator c = true := h
    refine ⟨⟨o + 1, found, .none⟩, ?_, rfl, rfl⟩
    simp [Segment.chars, run_cons, step, hc]
  | paren c =>
    have hc : isParen c = true := h
    have hq : isQuote c = false := isQuote_of_isBreak (by simp [isBreak, hc])
    refine ⟨⟨o + 1, paren c o :: found, .none⟩, ?_, rfl, rfl⟩
    simp [Segment.chars, run_cons, step, hc, hq, isSeparator_of_isParen hc]
  | quoted q body =>
    obtain ⟨hq, hbody⟩ := h
    refine ⟨_, run_between_quotes o found q hq hbody, rfl, ?_⟩
    simp [settle, Segment.chars, Segment.token?, Nat.add_assoc]
  | run cs =>
    obtain ⟨hne, hplain⟩ := h
    refine ⟨_, run_plain o found hne hplain, rfl, ?_⟩
    simp [settle, Segment.chars, Segment.token?, textOf]

theorem run_segments {cs : List Char} {gs : List Segment} (h : Segmented cs gs) :
    ∃ u, run ⟨o, found, .none⟩ cs = .ok u ∧ u.isBare = endsInRun gs ∧
      u.settle = ⟨o + cs.length, (segmentsTokens o gs).reverse ++ found, .none⟩ := by
  induction gs generalizing cs o found with
  | nil =>
    obtain rfl : [] = cs := h.chars_eq
    exact ⟨_, rfl, rfl, rfl⟩
  | cons g gs ih =>
    obtain ⟨rest, rfl, hg, hrun, hrest⟩ := segmented_cons_iff.1 h
    obtain ⟨u, hu, hbare, hsettle⟩ := run_segment o found hg
    rw [run_append, hu, ok_bind, reverse_segmentsTokens_cons, List.append_assoc,
      List.length_append, ← Nat.add_assoc]
    cases rest with
    | nil =>
      obtain rfl : gs = [] := hrest.eq_nil
      exact ⟨u, rfl, by simp [hbare, endsInRun], by simp [hsettle, segmentsTokens]⟩
    | cons c rest =>
      have hne : gs ≠ [] := by
        rintro rfl
        exact List.cons_ne_nil c rest hrest.chars_eq.symm
      -- a run is over before what follows it is read
      have hover : u.settle.run (c :: rest) = u.run (c :: rest) := by
        cases hg : g.isRun with
        | false => rw [settle_of_not_bare (hbare.trans hg)]
        | true => exact run_settle u (hrun hg c rfl) rest
      rw [← hover, hsettle, endsInRun_cons g hne]
      exact ih _ _ hrest

/-- A quote directly after a run is refused. -/
theorem step_of_isBare {s : Scan} (h : s.isBare = true) {q : Char} (hq : isQuote q = true) :
    s.step q = .error (.unexpectedQuote q s.settle.offset) := by
  obtain ⟨o, found, _ | ⟨start, read⟩ | ⟨q₀, start, read⟩⟩ := s
  · cases h
  · simp [step, settle, hq, isSeparator_of_isQuote hq]
  · cases h

/-- A quote that no quote of its kind follows takes up the rest of the text. -/
theorem complete_open_quote {q : Char} (hq : isQuote q = true) {rest : List Char}
    (hrest : q ∉ rest) :
    complete ⟨o, found, .none⟩ (q :: rest) =
      .error (.incompleteToken (String.ofList (rest ++ ['\n'])) o) := by
  have hopen : step ⟨o, found, .none⟩ q = .ok ⟨o + 1, found, .quoted q o []⟩ := by
    simp [step, hq, isSeparator_of_isQuote hq]
  rw [complete_cons, hopen, ok_bind, complete, run_quoted _ _ _ _ _ hrest, ok_bind]
  simp [finish, textOf]

end Scan

/-! ## Every text is cut up to some quote -/

/-- What is left of the text after the segments begins with a quote that stands directly after a run
or that no quote of its kind follows. -/
def IsStuck (gs : List Segment) (rest : List Char) : Prop :=
  ∀ q tail, rest = q :: tail → isQuote q = true ∧ (endsInRun gs = true ∨ q ∉ tail)

/-- The text is cut into segments, to its end or up to a quote where that is not possible. -/
def IsCut (cs : List Char) : Prop :=
  ∃ before rest gs, cs = before ++ rest ∧ Segmented before gs ∧ IsStuck gs rest

theorem IsStuck.cons {gs : List Segment} {rest : List Char} (h : IsStuck gs rest) (g : Segment) :
    IsStuck (g :: gs) rest := by
  intro q tail hrest
  obtain ⟨hq, hstuck⟩ := h q tail hrest
  refine ⟨hq, hstuck.imp_left fun hrun => ?_⟩
  have hne : gs ≠ [] := by
    rintro rfl
    cases hrun
  rw [endsInRun_cons g hne, hrun]

theorem IsCut.prepend {cs : List Char} (h : IsCut cs) {g : Segment} (hg : g.IsProper)
    (hrun : g.isRun = true → ∀ c ∈ cs.head?, isBreak c = true) : IsCut (g.chars ++ cs) := by
  obtain ⟨before, rest, gs, rfl, hbefore, hstuck⟩ := h
  refine ⟨g.chars ++ before, rest, g :: gs, by simp, ?_, hstuck.cons g⟩
  refine segmented_cons_iff.2 ⟨before, rfl, hg, fun hgrun c hc => ?_, hbefore⟩
  exact hrun hgrun c (List.mem_head?_append_of_mem_head? hc)

theorem isCut_of_quote_after_run {run : List Char} (hrun : (Segment.run run).IsProper) {q : Char}
    (hq : isQuote q = true) (rest : List Char) : IsCut (run ++ q :: rest) := by
  have hrunSegmented : Segmented run [.run run] := segmented_singleton hrun
  refine ⟨run, q :: rest, [.run run], rfl, hrunSegmented, ?_⟩
  rintro _ _ ⟨rfl, rfl⟩
  exact ⟨hq, .inl rfl⟩

theorem isCut_of_open_quote {q : Char} (hq : isQuote q = true) {rest : List Char}
    (hrest : q ∉ rest) : IsCut (q :: rest) := by
  refine ⟨[], q :: rest, [], rfl, segmented_nil, ?_⟩
  rintro _ _ ⟨rfl, rfl⟩
  exact ⟨hq, .inr hrest⟩

/-- The plain characters at the front of a text. -/
theorem exists_plain_front (cs : List Char) :
    ∃ front more, cs = front ++ more ∧ (∀ c ∈ front, isPlain c = true) ∧
      ∀ c ∈ more.head?, isPlain c = false := by
  refine ⟨cs.takeWhile isPlain, cs.dropWhile isPlain, List.takeWhile_append_dropWhile.symm, ?_, ?_⟩
  · intro c hc
    exact List.mem_takeWhile_imp hc
  · intro c hc
    rw [← List.find?_not_eq_head?_dropWhile] at hc
    simpa using List.find?_some hc

theorem isCut (cs : List Char) : IsCut cs := by
  match cs with
  | [] =>
    refine ⟨[], [], [], rfl, segmented_nil, ?_⟩
    rintro _ _ ⟨⟩
  | c :: cs =>
    rcases char_cases c with ⟨hs, -, -⟩ | ⟨-, hq⟩ | ⟨-, -, hp⟩ | hplain
    · exact (isCut cs).prepend (g := .separator c) hs (by simp [Segment.isRun])
    · by_cases hclosed : c ∈ cs
      · obtain ⟨body, more, rfl, hbody⟩ := List.eq_append_cons_of_mem hclosed
        have hcut := (isCut more).prepend (g := .quoted c body) ⟨hq, hbody⟩
          (by simp [Segment.isRun])
        simpa [Segment.chars] using hcut
      · exact isCut_of_open_quote hq hclosed
    · exact (isCut cs).prepend (g := .paren c) hp (by simp [Segment.isRun])
    · obtain ⟨front, more, rfl, hfront, hmore⟩ := exists_plain_front cs
      have hrun : (Segment.run (c :: front)).IsProper :=
        ⟨by simp, List.forall_mem_cons.2 ⟨isPlain_iff.2 hplain, hfront⟩⟩
      -- the run cannot be cut off if a quote stands directly after it
      by_cases hquote : ∃ q rest, more = q :: rest ∧ isQuote q = true
      · obtain ⟨q, rest, rfl, hq⟩ := hquote
        exact isCut_of_quote_after_run hrun hq rest
      · refine (isCut more).prepend hrun fun _ d hd => ?_
        obtain ⟨rest, rfl⟩ : ∃ rest, more = d :: rest := List.head?_eq_some_iff.1 hd
        have hnotQuote : isQuote d = false :=
          Bool.eq_false_iff.2 fun hq => hquote ⟨d, rest, rfl, hq⟩
        simpa [isPlain, isBreak, hnotQuote, or_iff_not_imp_left] using hmore d hd
termination_by cs.length

/-! ## There is one way at most to cut a text -/

/-- Segments at the front of one text are the same. -/
theorem Segment.append_inj {g g' : Segment} (hg : g.IsProper) (hg' : g'.IsProper)
    {xs ys : List Char} (hxs : g.isRun = true → ∀ c ∈ xs.head?, isBreak c = true)
    (hys : g'.isRun = true → ∀ c ∈ ys.head?, isBreak c = true)
    (h : g.chars ++ xs = g'.chars ++ ys) : g = g' ∧ xs = ys := by
  obtain ⟨c, cs, hc, hopens⟩ := exists_chars hg
  obtain ⟨d, ds, hd, hopens'⟩ := exists_chars hg'
  obtain rfl : c = d := by
    rw [hc, hd] at h
    exact List.head_eq_of_cons_eq h
  have hkind := ctorIdx_eq_of_opens hopens hopens'
  cases g with
  | separator a =>
    cases g' with
    | separator b => simpa [chars] using h
    | _ => cases hkind
  | paren a =>
    cases g' with
    | paren b => simpa [chars] using h
    | _ => cases hkind
  | quoted q body =>
    cases g' with
    | quoted r body' =>
      obtain ⟨rfl, hrest⟩ : q = r ∧ body ++ q :: xs = body' ++ r :: ys := by
        simpa [chars] using h
      obtain ⟨rfl, rfl⟩ := append_cons_inj hg.2 hg'.2 hrest
      exact ⟨rfl, rfl⟩
    | _ => cases hkind
  | run front =>
    cases g' with
    | run front' =>
      -- both runs go on up to the first character that is not plain
      obtain ⟨rfl, rfl⟩ := append_inj_of_head hg.2
        (fun e he => isPlain_eq_false_of_isBreak (hxs rfl e he)) hg'.2
        (fun e he => isPlain_eq_false_of_isBreak (hys rfl e he)) h
      exact ⟨rfl, rfl⟩
    | _ => cases hkind

theorem Segmented.unique {cs : List Char} {gs gs' : List Segment} (h : Segmented cs gs)
    (h' : Segmented cs gs') : gs = gs' := by
  induction gs generalizing cs gs' with
  | nil =>
    obtain rfl : [] = cs := h.chars_eq
    exact h'.eq_nil.symm
  | cons g gs ih =>
    obtain ⟨rest, rfl, hg, hrun, hrest⟩ := segmented_cons_iff.1 h
    cases gs' with
    | nil =>
      obtain ⟨c, front, hchars, -⟩ := Segment.exists_chars hg
      simpa [segmentsChars, hchars] using h'.chars_eq
    | cons g' gs' =>
      obtain ⟨rest', hchars, hg', hrun', hrest'⟩ := segmented_cons_iff.1 h'
      obtain ⟨rfl, rfl⟩ := Segment.append_inj hg hg' hrun hrun' hchars
      rw [ih hrest hrest']

/-! ## The three outcomes -/

section Outcomes

variable {cs : List Char} {q : Char} {text : String} {offset : Nat}

/-- A text that is cut into segments is read as their tokens. -/
theorem tokenizeChars_of_segmented {gs : List Segment} (h : Segmented cs gs) :
    tokenizeChars cs = .ok (segmentsTokens 0 gs) := by
  obtain ⟨u, hu, -, hsettle⟩ := Scan.run_segments 0 [] h
  rw [Scan.tokenizeChars_eq_complete, Scan.complete, Scan.start, hu, ok_bind,
    ← Scan.finish_settle, hsettle]
  simp [Scan.finish]

theorem tokenizeChars_of_quoteAfterRun (h : QuoteAfterRun cs q offset) :
    tokenizeChars cs = .error (.unexpectedQuote q offset) := by
  obtain ⟨before, rest, gs, rfl, rfl, hq, h, hrun⟩ := h
  obtain ⟨u, hu, hbare, hsettle⟩ := Scan.run_segments 0 [] h
  rw [Scan.tokenizeChars_eq_complete, Scan.complete_append, Scan.start, hu, ok_bind,
    Scan.complete_cons, Scan.step_of_isBare (hbare.trans hrun) hq, hsettle]
  simp

theorem tokenizeChars_of_quoteLeftOpen (h : QuoteLeftOpen cs text offset) :
    tokenizeChars cs = .error (.incompleteToken text offset) := by
  obtain ⟨before, q, rest, gs, rfl, rfl, hq, h, hrun, hrest, rfl⟩ := h
  obtain ⟨u, hu, hbare, hsettle⟩ := Scan.run_segments 0 [] h
  rw [Scan.settle_of_not_bare (hbare.trans hrun)] at hsettle
  rw [Scan.tokenizeChars_eq_complete, Scan.complete_append, Scan.start, hu, ok_bind, hsettle,
    Scan.complete_open_quote _ _ hq hrest]
  simp

theorem segmented_or_quote (cs : List Char) :
    (∃ gs, Segmented cs gs) ∨ (∃ q offset, QuoteAfterRun cs q offset) ∨
      ∃ text offset, QuoteLeftOpen cs text offset := by
  obtain ⟨before, rest, gs, rfl, hbefore, hstuck⟩ := isCut cs
  cases rest with
  | nil => exact .inl ⟨gs, by simpa using hbefore⟩
  | cons q rest =>
    obtain ⟨hq, hreason⟩ := hstuck q rest rfl
    cases hrun : endsInRun gs with
    | true => exact .inr (.inl ⟨q, _, before, rest, gs, rfl, rfl, hq, hbefore, hrun⟩)
    | false =>
      have hrest : q ∉ rest := by simpa [hrun] using hreason
      exact .inr (.inr ⟨_, _, before, q, rest, gs, rfl, rfl, hq, hbefore, hrun, hrest, rfl⟩)

/-- What is said of a text by what it is read as. -/
theorem tokenizeChars_outcome (cs : List Char) :
    match tokenizeChars cs with
    | .ok ts => ∃ gs, Segmented cs gs ∧ segmentsTokens 0 gs = ts
    | .error (.unexpectedQuote q offset) => QuoteAfterRun cs q offset
    | .error (.incompleteToken text offset) => QuoteLeftOpen cs text offset := by
  rcases segmented_or_quote cs with ⟨gs, hgs⟩ | ⟨q, offset, hquote⟩ | ⟨text, offset, hquote⟩
  · rw [tokenizeChars_of_segmented hgs]
    exact ⟨gs, hgs, rfl⟩
  · rw [tokenizeChars_of_quoteAfterRun hquote]
    exact hquote
  · rw [tokenizeChars_of_quoteLeftOpen hquote]
    exact hquote

theorem tokenizeChars_eq_ok_iff {ts : List Token} :
    tokenizeChars cs = .ok ts ↔ ∃ gs, Segmented cs gs ∧ segmentsTokens 0 gs = ts := by
  constructor
  · intro h
    simpa [h] using tokenizeChars_outcome cs
  · rintro ⟨gs, hgs, rfl⟩
    exact tokenizeChars_of_segmented hgs

theorem tokenizeChars_eq_unexpectedQuote_iff :
    tokenizeChars cs = .error (.unexpectedQuote q offset) ↔ QuoteAfterRun cs q offset := by
  refine ⟨fun h => ?_, tokenizeChars_of_quoteAfterRun⟩
  simpa [h] using tokenizeChars_outcome cs

theorem tokenizeChars_eq_incompleteToken_iff :
    tokenizeChars cs = .error (.incompleteToken text offset) ↔ QuoteLeftOpen cs text offset := by
  refine ⟨fun h => ?_, tokenizeChars_of_quoteLeftOpen⟩
  simpa [h] using tokenizeChars_outcome cs

end Outcomes

/-- A text is read as tokens exactly if it can be cut into segments, and then as theirs. It is
refused for a quote directly after a run, or for a quote that nothing ends, exactly if it has one,
what stands before the quote being cut into segments. One of the three is the case, and a text can
be cut in one way at most. -/
theorem tokenize_segments (s : String) :
    (∀ ts, tokenize s = .ok ts ↔ ∃ gs, Segmented s.toList gs ∧ segmentsTokens 0 gs = ts) ∧
    (∀ q offset, tokenize s = .error (.unexpectedQuote q offset) ↔
      QuoteAfterRun s.toList q offset) ∧
    (∀ text offset, tokenize s = .error (.incompleteToken text offset) ↔
      QuoteLeftOpen s.toList text offset) ∧
    ((∃ gs, Segmented s.toList gs) ∨ (∃ q offset, QuoteAfterRun s.toList q offset) ∨
      ∃ text offset, QuoteLeftOpen s.toList text offset) ∧
    ∀ gs gs', Segmented s.toList gs → Segmented s.toList gs' → gs = gs' := by
  refine ⟨fun ts => ?_, fun q offset => ?_, fun text offset => ?_, segmented_or_quote s.toList, ?_⟩
  · exact tokenizeChars_eq_ok_iff
  · exact tokenizeChars_eq_unexpectedQuote_iff
  · exact tokenizeChars_eq_incompleteToken_iff
  · intro gs gs' h h'
    exact h.unique h'

/-- Between two quotes side by side and a parenthesis nothing is lost, and a run before a quote is
refused. -/
theorem tokenize_adjacent_quotes :
    tokenize "''\"(\")" = .ok
      [.quoted "" '\'' 0, .quoted "(" '"' 2, .bare ")" 5] ∧
    tokenize "(a'b'" = .error (.unexpectedQuote '\'' 2) := by
  have hquotes : Segmented "''\"(\")".toList
      [.quoted '\'' [], .quoted '"' ['('], .paren ')'] :=
    ⟨rfl, by simp [Segment.IsProper, isQuote, isParen], by simp [Segment.isRun]⟩
  have hrun : Segmented "(a".toList [.paren '(', .run ['a']] :=
    ⟨rfl, by simp [Segment.IsProper, isParen, isPlain, isSeparator, isQuote],
      by simp [Segment.isRun]⟩
  constructor
  · exact ((tokenize_segments _).1 _).2 ⟨_, hquotes, rfl⟩
  · exact ((tokenize_segments _).2.1 _ _).2 ⟨_, "b'".toList, _, rfl, rfl, rfl, hrun, rfl⟩

end RecordFilter
