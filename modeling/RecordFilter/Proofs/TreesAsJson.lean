import RecordFilter.Expr.Json
import RecordFilter.Proofs.JsonLibrary
import RecordFilter.Proofs.Tree
import RecordFilter.Proofs.WrittenJson

/-!
# Trees are read back from their documents

What is relied on of a coding of trees is that the kind of a node is a member of an object among
those for its parts (`Expr.Coding.IsTagged`). A tree is then what its value is decoded to, and so it
is read back from its document, unless that nests too deep to be read at all: each group is an array
in an object. With which library documents are written and read is of no account, as long as it
writes compactly and reads strictly.
-/

namespace RecordFilter

open Json (valuesOf)

@[simp] theorem NodeKind.ofName?_name (k : Connective) :
    NodeKind.ofName? k.name = some (.group k) := by
  cases k <;> decide

namespace Expr

variable {ε : Type}

/-- A node is coded as an object. The member `type` names its kind, and there is one member more for
each of its parts. In decoding the members may stand in any order, and others are passed over. -/
structure Coding.IsTagged (code : Coding ε) : Prop where
  encode_condition (c : Condition) :
    code.encode (.condition c) = .object
      [("type", .string "condition"), ("field", .string c.field),
       ("operator", .string c.operator.symbol), ("value", .string c.value)]
  encode_group (k : Connective) (es : List Expr) :
    code.encode (.group k es) = .object
      [("type", .string k.name), ("children", .array (es.map code.encode))]
  decode_condition {members : List (String × Json)} {c : Condition}
    (htype : valuesOf "type" members = [.string "condition"])
    (hfield : valuesOf "field" members = [.string c.field])
    (hoperator : valuesOf "operator" members = [.string c.operator.symbol])
    (hvalue : valuesOf "value" members = [.string c.value]) :
    code.decode (.object members) = .ok (.condition c)
  decode_group {members : List (String × Json)} {k : Connective} {items : List Json}
    {es : List Expr} (htype : valuesOf "type" members = [.string k.name])
    (hchildren : valuesOf "children" members = [.array items])
    (hitems : List.Forall₂ (fun j e => code.decode j = .ok e) items es) :
    code.decode (.object members) = .ok (.group k es)

/-! ## The value of a tree -/

section Tagged

variable {code : Coding ε} (hcode : code.IsTagged)
include hcode

theorem numbers_encode (e : Expr) : (code.encode e).numbers = [] := by
  induction e with
  | condition c => rw [hcode.encode_condition, Json.numbers]; rfl
  | group k es ih =>
    have hitems : Json.numbersOfItems (es.map code.encode) = [] := by
      rw [List.eq_nil_iff_forall_not_mem]
      intro n hn
      obtain ⟨j, hj, hnj⟩ := Json.mem_numbersOfItems.1 hn
      obtain ⟨e, he, rfl⟩ := List.mem_map.1 hj
      rw [ih e he] at hnj
      cases hnj
    simp [hcode.encode_group, Json.numbers, Json.numbersOfMembers, hitems]

/-- A tree is what its value is decoded to. -/
theorem decode_encode (e : Expr) : code.decode (code.encode e) = .ok e := by
  induction e with
  | condition c =>
    rw [hcode.encode_condition]
    exact hcode.decode_condition (by simp) (by simp) (by simp) (by simp)
  | group k es ih =>
    have hitems : List.Forall₂ (fun j e => code.decode j = .ok e) (es.map code.encode) es := by
      rw [List.forall₂_map_left_iff, List.forall₂_same]
      exact ih
    rw [hcode.encode_group]
    exact hcode.decode_group (by simp) (by simp) hitems

/-- A group takes two levels, one for its members and one for its children. -/
theorem depth_encode_le {e : Expr} {n : Nat} (h : e.nesting ≤ n) :
    (code.encode e).depth ≤ 2 * n + 1 := by
  induction e generalizing n with
  | condition c =>
    have hdepth : (code.encode (.condition c)).depth = 1 := by rw [hcode.encode_condition]; rfl
    omega
  | group k es ih =>
    obtain ⟨m, rfl⟩ : ∃ m, n = m + 1 :=
      Nat.exists_eq_add_one.2 (Nat.lt_of_lt_of_le (nesting_group_pos k es) h)
    have hitems : Json.depthOfItems (es.map code.encode) ≤ 2 * m + 1 := by
      rw [Json.depthOfItems_le_iff, List.forall_mem_map]
      intro e he
      exact ih e he (nesting_group_le_succ_iff.1 h e he)
    have hdepth :
        (code.encode (.group k es)).depth = Json.depthOfItems (es.map code.encode) + 2 := by
      simp [hcode.encode_group, Json.depth, Json.depthOfMembers]
    omega

/-- The tree with groups of one around it, one inside the other. -/
def nested : (n : Nat) → Expr → Expr
  | 0, e => e
  | n + 1, e => .group .and [nested n e]

theorem depth_encode_nested (n : Nat) (e : Expr) :
    (code.encode (nested n e)).depth = 2 * n + (code.encode e).depth := by
  induction n with
  | zero => simp [nested]
  | succ n ih =>
    simp [nested, hcode.encode_group, Json.depth, Json.depthOfMembers, Json.depthOfItems, ih]
    omega

/-! ## The document of a tree -/

variable {lib : Json.Library ε}

theorem toDocument_eq (hwrite : lib.WritesCompactly) (e : Expr) :
    toDocument lib code e = .ok (code.encode e).write := by
  rw [toDocument, hwrite.write_eq _ (numbers_encode hcode e), mapError_ok]

theorem partSpelled_write_encode (e : Expr) :
    (code.encode e).PartSpelled (code.encode e).write.toList := by
  have hnumbers : ∀ n ∈ (code.encode e).numbers, n.Spelled n.toChars := by
    simp [numbers_encode hcode e]
  exact (Json.spelled_write _ hnumbers).part

/-- What is written for a tree is a document of the tree if it does not nest too deep, and else it
is no document. -/
theorem ofDocument_write_eq_ok_iff (hread : lib.ReadsStrictly) (e : Expr) :
    ofDocument lib code (code.encode e).write = .ok e ↔ (code.encode e).depth ≤ 127 := by
  have htext := partSpelled_write_encode hcode e
  rw [ofDocument, mapError_eq_ok_iff, hread.read_eq_ok_iff]
  constructor
  · rintro ⟨j, hj, -, hdepth, -⟩
    obtain rfl := Json.eq_of_partSpelled hj htext
    exact hdepth
  · intro hdepth
    have hfits : (code.encode e).FitsDoubles := by simp [Json.FitsDoubles, numbers_encode hcode e]
    exact ⟨code.encode e, htext, hfits, hdepth, decode_encode hcode e⟩

/-- No more than 63 groups one inside the other are never too many. -/
theorem ofDocument_write_of_nesting_le (hread : lib.ReadsStrictly) {e : Expr} (h : e.nesting ≤ 63) :
    ofDocument lib code (code.encode e).write = .ok e :=
  (ofDocument_write_eq_ok_iff hcode hread e).2 (depth_encode_le hcode h)

end Tagged

/-! ## The built-in coding -/

theorem allToJson_eq_map (es : List Expr) : allToJson es = es.map toJson := by
  induction es with
  | nil => rfl
  | cons e rest ih => rw [allToJson, ih, List.map_cons]

/-- A kind that is given at the root may be given in the same way below it. -/
theorem kind_of_root {j : Json} {kind : NodeKind} (h : NodeKind.ofJson? true j = some kind) :
    NodeKind.ofJson? false j = some kind := by
  cases j with
  | string name => exact h
  | _ => cases h

theorem ofJson?_of_root {j : Json} {e : Expr} (h : ofJson? true j = some e) :
    ofJson? false j = some e := by
  unfold ofJson? at h ⊢
  split at h
  next members =>
    split at h
    next kind hkind =>
      split at h
      next hroot => simpa only [hkind, kind_of_root hroot] using h
      next k hroot => simpa only [hkind, kind_of_root hroot] using h
      next => cases h
    next => cases h
  next kind parts =>
    split at h
    next hroot => simpa only [kind_of_root hroot] using h
    next k items hroot => simpa only [kind_of_root hroot] using h
    next => cases h
  next => cases h

theorem allOfJson?_of_forall₂ {items : List Json} {es : List Expr}
    (h : List.Forall₂ (fun j e => ofJson? true j = some e) items es) :
    allOfJson? items = some es := by
  induction h with
  | nil => rfl
  | cons hfirst _ ih => simp [allOfJson?, ofJson?_of_root hfirst, ih]

theorem childrenOfMembers?_eq {members : List (String × Json)} {items : List Json}
    (h : valuesOf "children" members = [.array items]) :
    childrenOfMembers? members = allOfJson? items := by
  induction members with
  | nil => cases h
  | cons m rest ih =>
    obtain ⟨key, j⟩ := m
    rw [Json.valuesOf_cons] at h
    split_ifs at h with hkey
    · obtain ⟨rfl, hrest⟩ := List.cons.inj h
      simp [childrenOfMembers?, hkey, hrest]
    · cases j <;> simp [childrenOfMembers?, hkey, ih h]

theorem Coding.decode_builtIn_eq_ok_iff {j : Json} {e : Expr} :
    Coding.builtIn.decode j = .ok e ↔ ofJson? true j = some e := by
  cases h : ofJson? true j <;> simp [Coding.builtIn, h]

theorem Coding.builtIn_isTagged : Coding.builtIn.IsTagged where
  encode_condition _ := rfl
  encode_group k es := by
    simp [Coding.builtIn, toJson, allToJson_eq_map]
  decode_condition htype hfield hoperator hvalue := by
    rw [Coding.decode_builtIn_eq_ok_iff]
    simp [ofJson?, htype, NodeKind.ofJson?, NodeKind.ofName?, Condition.ofMembers?, hfield,
      hoperator, hvalue, Condition.ofParts?, Operator.ofJson?]
  decode_group htype hchildren hitems := by
    simp only [Coding.decode_builtIn_eq_ok_iff] at hitems ⊢
    simp [ofJson?, htype, NodeKind.ofJson?, childrenOfMembers?_eq hchildren,
      allOfJson?_of_forall₂ hitems]

/-! ## Any library and any coding -/

/-- Every tree is written, and it is read back from what is written if and only if no more than 127
arrays and objects stand one inside the other there. -/
theorem ofDocument_toDocument {lib : Json.Library ε} {code : Coding ε}
    (hwrite : lib.WritesCompactly) (hread : lib.ReadsStrictly) (hcode : code.IsTagged) (e : Expr) :
    ∃ text, toDocument lib code e = .ok text ∧
      (ofDocument lib code text = .ok e ↔ (code.encode e).depth ≤ 127) :=
  ⟨_, toDocument_eq hcode hwrite e, ofDocument_write_eq_ok_iff hcode hread e⟩

/-- With 63 groups around it a condition is read back, whatever characters it has, and with 64 it is
not. -/
theorem ofDocument_toDocument_nested :
    let e : Expr := .condition ⟨"a\x00\"", .contains, "\\\né"⟩
    (∃ text, toDocument .builtIn .builtIn (nested 63 e) = .ok text ∧
      ofDocument .builtIn .builtIn text = .ok (nested 63 e)) ∧
    ∃ text, toDocument .builtIn .builtIn (nested 64 e) = .ok text ∧
      ofDocument .builtIn .builtIn text ≠ .ok (nested 64 e) := by
  intro e
  have hdepth (n : Nat) : (Coding.builtIn.encode (nested n e)).depth = 2 * n + 1 :=
    depth_encode_nested Coding.builtIn_isTagged n e
  have hdocument := ofDocument_toDocument Json.Library.builtIn_writesCompactly
    Json.Library.builtIn_readsStrictly Coding.builtIn_isTagged
  obtain ⟨text, htext, hback⟩ := hdocument (nested 63 e)
  obtain ⟨deepText, hdeepText, hdeepBack⟩ := hdocument (nested 64 e)
  rw [hdepth] at hback hdeepBack
  exact ⟨⟨text, htext, hback.2 (by decide)⟩, deepText, hdeepText,
    fun h => absurd (hdeepBack.1 h) (by decide)⟩

end Expr

end RecordFilter
