import Mathlib.Data.List.Nodup
import RecordFilter.Proofs.Segments

/-!
# Where the tokens of a text stand

A token stands in the text where its offset says, written as it is displayed
(`standsAt_of_tokenize`): what the display of a quoted token puts a backslash before cannot be in
such a token. No two tokens of a text have the same offset (`offset_injOn_of_tokenize`), so an
offset names one token at most.
-/

namespace RecordFilter

/-- The characters `part` stand in `cs`, from `offset` on. -/
def StandsAt (cs part : List Char) (offset : Nat) : Prop :=
  ∃ before after, cs = before ++ part ++ after ∧ before.length = offset

namespace StandsAt

variable {cs part : List Char} {c : Char} {offset : Nat}

theorem getElem?_eq (h : StandsAt cs (c :: part) offset) : cs[offset]? = some c := by
  obtain ⟨before, after, rfl, rfl⟩ := h
  rw [List.append_assoc, List.getElem?_append_right (Nat.le_refl _), Nat.sub_self]
  rfl

theorem prefix_drop (h : StandsAt cs part offset) : part <+: cs.drop offset := by
  obtain ⟨before, after, rfl, rfl⟩ := h
  rw [List.append_assoc, List.drop_left]
  exact List.prefix_append part after

theorem lt_length (h : StandsAt cs part offset) (hne : part ≠ []) : offset < cs.length := by
  obtain ⟨before, after, rfl, rfl⟩ := h
  have hpos : 0 < part.length := List.length_pos_iff.2 hne
  simp only [List.length_append]
  omega

end StandsAt

/-! ## The token of a segment -/

namespace Segment

theorem display_of_token? {g : Segment} (hg : g.IsProper) {offset : Nat} {t : Token}
    (h : g.token? offset = some t) : t.display.toList = g.chars ∧ t.offset = offset := by
  cases g with
  | separator c => cases h
  | paren c =>
    cases h
    exact ⟨String.toList_ofList, rfl⟩
  | quoted q body =>
    cases h
    obtain ⟨-, hbody⟩ := hg
    refine ⟨?_, rfl⟩
    show (String.ofList _).toList = _
    rw [String.toList_ofList, Token.quoted, String.toList_ofList,
      Token.flatMap_escape_eq_self hbody]
    rfl
  | run cs =>
    cases h
    exact ⟨String.toList_ofList, rfl⟩

theorem length_chars_pos {g : Segment} (hg : g.IsProper) : 0 < g.chars.length := by
  obtain ⟨c, cs, hchars, -⟩ := exists_chars hg
  rw [hchars, List.length_cons]
  omega

end Segment

/-! ## The tokens of a text -/

theorem exists_segment_of_mem {gs : List Segment} {offset : Nat} {t : Token}
    (h : t ∈ segmentsTokens offset gs) :
    ∃ before g after, gs = before ++ g :: after ∧
      g.token? (offset + (segmentsChars before).length) = some t := by
  induction gs generalizing offset with
  | nil => cases h
  | cons g gs ih =>
    rw [segmentsTokens, List.mem_append, Option.mem_toList] at h
    rcases h with hg | hgs
    · exact ⟨[], g, gs, rfl, hg⟩
    · obtain ⟨before, g', after, rfl, hg'⟩ := ih hgs
      refine ⟨g :: before, g', after, rfl, ?_⟩
      rw [segmentsChars, List.flatMap_cons, List.length_append, ← Nat.add_assoc]
      exact hg'

/-- The offsets of the tokens of segments go up, from that of the first on. -/
theorem pairwise_offset_segmentsTokens {gs : List Segment} (h : ∀ g ∈ gs, g.IsProper)
    (offset : Nat) :
    (segmentsTokens offset gs).Pairwise (fun t u => t.offset < u.offset) ∧
      ∀ t ∈ segmentsTokens offset gs, offset ≤ t.offset := by
  induction gs generalizing offset with
  | nil =>
    constructor
    · exact .nil
    · intro t ht
      cases ht
  | cons g gs ih =>
    obtain ⟨hg, hgs⟩ := List.forall_mem_cons.1 h
    obtain ⟨hpairwise, hle⟩ := ih hgs (offset + g.chars.length)
    have hpos : 0 < g.chars.length := Segment.length_chars_pos hg
    rw [segmentsTokens]
    cases htoken : g.token? offset with
    | none =>
      constructor
      · exact hpairwise
      · intro u hu
        have hu := hle u hu
        omega
    | some t =>
      obtain ⟨-, ht⟩ := Segment.display_of_token? hg htoken
      constructor
      · apply List.pairwise_cons.2
        constructor
        · intro u hu
          have hu := hle u hu
          omega
        · exact hpairwise
      · intro u hu
        rcases List.mem_cons.1 hu with rfl | hu
        · omega
        · have hu := hle u hu
          omega

section Texts

variable {s : String} {ts : List Token} {t u : Token}

theorem segments_of_tokenize (h : tokenize s = .ok ts) :
    ∃ gs, Segmented s.toList gs ∧ segmentsTokens 0 gs = ts :=
  tokenizeChars_eq_ok_iff.1 h

/-- A token stands where its offset says, as it is displayed. -/
theorem standsAt_of_tokenize (h : tokenize s = .ok ts) (ht : t ∈ ts) :
    StandsAt s.toList t.display.toList t.offset ∧ t.display.toList ≠ [] := by
  obtain ⟨gs, hgs, rfl⟩ := segments_of_tokenize h
  obtain ⟨before, g, after, rfl, htoken⟩ := exists_segment_of_mem ht
  have hg : g.IsProper := hgs.proper g (by simp)
  obtain ⟨hdisplay, hoffset⟩ := Segment.display_of_token? hg htoken
  have hchars : s.toList = segmentsChars before ++ g.chars ++ segmentsChars after := by
    rw [← hgs.chars_eq]
    simp [segmentsChars]
  rw [hdisplay]
  refine ⟨⟨_, _, hchars, ?_⟩, List.length_pos_iff.1 (Segment.length_chars_pos hg)⟩
  rw [hoffset, Nat.zero_add]

/-- An offset names one token of a text at most. -/
theorem offset_injOn_of_tokenize (h : tokenize s = .ok ts) (ht : t ∈ ts) (hu : u ∈ ts)
    (hoffset : t.offset = u.offset) : t = u := by
  obtain ⟨gs, hgs, rfl⟩ := segments_of_tokenize h
  have hpairwise := (pairwise_offset_segmentsTokens hgs.proper 0).1
  have hnodup : ((segmentsTokens 0 gs).map Token.offset).Nodup := by
    apply List.pairwise_map.2
    apply hpairwise.imp
    intro a b hlt
    exact Nat.ne_of_lt hlt
  exact List.inj_on_of_nodup_map hnodup ht hu hoffset

end Texts

end RecordFilter
