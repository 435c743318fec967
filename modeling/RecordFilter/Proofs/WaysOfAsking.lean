import Mathlib.Data.List.Forall2
import RecordFilter.Json.Basic
import RecordFilter.Proofs.CanonicalForm
import RecordFilter.Proofs.Monotonicity
import RecordFilter.Proofs.SessionRuns

/-!
# Ways of asking

A session can be asked about one record or about a list of them, the empty filter is answered
without the cache, and a record can be a map of several kinds. `Session.AnswersAsOne` says that none
of this makes a difference: what is answered depends on what the filter stands for in the active
mode, and on the text that each field of a record shows.
-/

namespace RecordFilter

/-- The two records show the same text for every field. -/
def Record.SameFields {ρ σ : Type} [Record ρ] [Record σ] (r : ρ) (r' : σ) : Prop :=
  ∀ field, Record.field? r field = Record.field? r' field

section Representations

variable {ρ σ : Type} [Record ρ] [Record σ]

theorem Record.SameFields.read_eq {r : ρ} {r' : σ} (h : Record.SameFields r r') (field : String) :
    Record.read r field = Record.read r' field := by
  rw [Record.read, Record.read, h field]

/-- A tree looks at a record through its fields only. -/
theorem Record.SameFields.eval_eq {r : ρ} {r' : σ} (h : Record.SameFields r r') (e : Expr) :
    e.eval r = e.eval r' := by
  apply Expr.eval_eq_of_showAlike
  intro field _
  rw [Record.ShowAlike, h.read_eq field]

/-- A map in the order of its keys shows what a hash map with the same entries shows. -/
theorem sameFields_treeMap {hashed : Std.HashMap String String}
    {sorted : Std.TreeMap String String} (h : ∀ field : String, sorted[field]? = hashed[field]?) :
    Record.SameFields hashed sorted :=
  fun field => (h field).symm

/-- A JSON object shows what a hash map of its string members shows. -/
theorem sameFields_json {hashed : Std.HashMap String String} {json : JsonRecord}
    (h : ∀ field text, Json.lookup? field json.members = some (.string text) ↔
      hashed[field]? = some text) : Record.SameFields hashed json := by
  intro field
  apply Option.ext
  intro text
  rw [field?_hashMap, ← h field text]
  show _ ↔ (Json.lookup? field json.members).bind Json.toString? = some text
  cases Json.lookup? field json.members with
  | none => simp
  | some j => cases j <;> simp [Json.toString?]

/-! ## The places of the records that pass -/

theorem mem_matchingIndices_iff {e : Expr} {records : List ρ} {i : Nat} :
    i ∈ matchingIndices e records ↔ ∃ r, records[i]? = some r ∧ e.eval r = true := by
  simp [matchingIndices, List.mem_zipIdx_iff_getElem?]

theorem pairwise_matchingIndices (e : Expr) (records : List ρ) :
    (matchingIndices e records).Pairwise (· < ·) := by
  have hplaces : (records.zipIdx.map Prod.snd).Pairwise (· < ·) := by
    rw [List.zipIdx_map_snd]
    exact List.pairwise_lt_range'
  exact hplaces.sublist (List.filter_sublist.map Prod.snd)

/-- The empty filter has the place of every record. -/
theorem matchingIndices_vacuous (records : List ρ) :
    matchingIndices .vacuous records = List.range records.length := by
  simp [matchingIndices, List.zipIdx_map_snd, List.range_eq_range']

/-- The places depend on what is found of each record only. -/
theorem matchingIndices_eq (e : Expr) (records : List ρ) :
    matchingIndices e records =
      ((records.map (Expr.eval · e)).zipIdx.filter Prod.fst).map Prod.snd := by
  rw [List.zipIdx_map, List.filter_map, List.map_map]
  rfl

theorem matchingIndices_congr {records : List ρ} {others : List σ}
    (h : List.Forall₂ Record.SameFields records others) (e : Expr) :
    matchingIndices e records = matchingIndices e others := by
  have hverdicts : records.map (Expr.eval · e) = others.map (Expr.eval · e) := by
    induction h with
    | nil => rfl
    | cons hr _ ih => rw [List.map_cons, List.map_cons, hr.eval_eq, ih]
  rw [matchingIndices_eq, matchingIndices_eq, hverdicts]

end Representations

namespace Session

/-- However the session is asked about the filter, it answers by what the filter stands for in the
active mode. -/
structure AnswersAsOne (s : Session) (filter : String) : Prop where
  /-- One record is checked by evaluating the filter, be the filter empty or not. -/
  check_eq : ∀ {ρ : Type} [Record ρ] (record : ρ),
    (s.check filter record).answer = (parse s.active.mode filter).map (·.eval record)
  /-- Many records are refused only if the filter cannot be parsed, and with the same error. -/
  filterRecords_eq_error_iff : ∀ {ρ : Type} [Record ρ] (records : List ρ) (e : FilterError),
    (s.filterRecords filter records).answer = .error e ↔
      filter ≠ "" ∧ parse s.active.mode filter = .error e
  /-- What is refused for many records is refused for each record there is. -/
  check_of_filterRecords : ∀ {ρ σ : Type} [Record ρ] [Record σ] (records : List ρ)
    (e : FilterError), (s.filterRecords filter records).answer = .error e →
      ∀ record : σ, (s.check filter record).answer = .error e
  /-- Of many records, those are listed, in order, that pass one by one. -/
  filterRecords_eq_ok : ∀ {ρ : Type} [Record ρ] (records : List ρ),
    (∀ e, (s.filterRecords filter records).answer ≠ .error e) →
      ∃ indices, (s.filterRecords filter records).answer = .ok indices ∧
        indices.Pairwise (· < ·) ∧
        ∀ i, i ∈ indices ↔ ∃ r, records[i]? = some r ∧ (s.check filter r).answer = .ok true
  /-- The kind of map that a record is makes no difference. -/
  check_congr : ∀ {ρ σ : Type} [Record ρ] [Record σ] (record : ρ) (other : σ),
    Record.SameFields record other →
      (s.check filter record).answer = (s.check filter other).answer
  filterRecords_congr : ∀ {ρ σ : Type} [Record ρ] [Record σ] (records : List ρ) (others : List σ),
    List.Forall₂ Record.SameFields records others →
      (s.filterRecords filter records).answer = (s.filterRecords filter others).answer

/-- The empty filter, which is answered without the cache, is answered as any other. -/
theorem InStep.answer_check_eq {s : Session} (h : s.InStep) {ρ : Type} [Record ρ]
    (filter : String) (record : ρ) :
    (s.check filter record).answer = (parse s.active.mode filter).map (·.eval record) := by
  rw [h.answer_check]
  split
  next hempty => rw [hempty, parse_empty]; rfl
  next => rfl

theorem InStep.answer_filterRecords_eq {s : Session} (h : s.InStep) {ρ : Type} [Record ρ]
    (filter : String) (records : List ρ) :
    (s.filterRecords filter records).answer =
      (parse s.active.mode filter).map (matchingIndices · records) := by
  rw [h.answer_filterRecords]
  split
  next hempty => rw [hempty, parse_empty, ← matchingIndices_vacuous]; rfl
  next => rfl

theorem InStep.answersAsOne {s : Session} (h : s.InStep) (filter : String) :
    s.AnswersAsOne filter := by
  have hnonempty {e : FilterError} (hp : parse s.active.mode filter = .error e) : filter ≠ "" := by
    rintro rfl
    simp [parse_empty] at hp
  constructor
  case check_eq =>
    intro ρ _ record
    exact h.answer_check_eq filter record
  case filterRecords_eq_error_iff =>
    intro ρ _ records e
    rw [h.answer_filterRecords_eq]
    cases hp : parse s.active.mode filter with
    | error e' =>
      have := hnonempty hp
      simp [Except.map, this]
    | ok t => simp [Except.map]
  case check_of_filterRecords =>
    intro ρ σ _ _ records e he record
    rw [h.answer_filterRecords_eq] at he
    rw [h.answer_check_eq]
    cases hp : parse s.active.mode filter with
    | error e' => simpa [hp, Except.map] using he
    | ok t => simp [hp, Except.map] at he
  case filterRecords_eq_ok =>
    intro ρ _ records hok
    simp only [h.answer_filterRecords_eq, h.answer_check_eq] at hok ⊢
    cases hp : parse s.active.mode filter with
    | error e => exact absurd (by rw [hp]; rfl) (hok e)
    | ok t =>
      refine ⟨matchingIndices t records, rfl, pairwise_matchingIndices t records, fun i => ?_⟩
      rw [mem_matchingIndices_iff]
      simp [Except.map]
  case check_congr =>
    intro ρ σ _ _ record other hsame
    simp only [h.answer_check_eq, hsame.eval_eq]
  case filterRecords_congr =>
    intro ρ σ _ _ records others hsame
    simp only [h.answer_filterRecords_eq, matchingIndices_congr hsame]

/-- Whatever has been asked of a session, all ways of asking about a filter agree. Hash maps, sorted
maps and JSON objects are records with the same fields if they have the same texts under the same
names; a member of a JSON object that is no string counts as absent. There are two kinds of hash
maps, which differ in how they hash and in nothing that is asked of a record: what is said of hash
maps is said of both. -/
theorem afterAll_fresh_answersAsOne (requests : List Request) (filter : String) :
    (fresh.afterAll requests).AnswersAsOne filter ∧
    ∀ (hashed : Std.HashMap String String) (sorted : Std.TreeMap String String)
      (json : JsonRecord), (∀ field : String, sorted[field]? = hashed[field]?) →
      (∀ field text, Json.lookup? field json.members = some (.string text) ↔
        hashed[field]? = some text) →
      Record.SameFields hashed sorted ∧ Record.SameFields hashed json := by
  refine ⟨(InStep.fresh.afterAll requests).answersAsOne filter, ?_⟩
  intro hashed sorted json hsorted hjson
  exact ⟨sameFields_treeMap hsorted, sameFields_json hjson⟩

/-- A filter that is left open, asked of a permissive session. A hash map and a sorted map with one
text and a JSON object with a number besides are the same record to it, which passes; with another
text in its place a condition does not hold, and the record fails. -/
theorem afterAll_fresh_answersAsOne_number :
    let requests : List Request := [.install ⟨.permissive, 1⟩, .get "zip = ''"]
    let s := fresh.afterAll requests
    let hashed := (∅ : Std.HashMap String String).insert "city" "Ulm"
    let sorted := (∅ : Std.TreeMap String String).insert "city" "Ulm"
    let json : JsonRecord := ⟨[("zip", .number (.ofNat 7)), ("city", .string "Ulm")]⟩
    let other : JsonRecord := ⟨[("city", .string "Berlin")]⟩
    (Record.SameFields hashed sorted ∧ Record.SameFields hashed json) ∧
    (s.filterRecords "(zip = '' and city ~ u" [json]).answer =
      (s.filterRecords "(zip = '' and city ~ u" [hashed]).answer ∧
    (s.check "(zip = '' and city ~ u" json).answer = .ok true ∧
    (s.check "(zip = '' and city ~ u" other).answer = .ok false := by
  intro requests s hashed sorted json other
  obtain ⟨hanswers, hkinds⟩ := afterAll_fresh_answersAsOne requests "(zip = '' and city ~ u"
  have hsorted (field : String) : sorted[field]? = hashed[field]? := by
    by_cases h : "city" = field
    · simp [hashed, sorted, h]
    · simp [hashed, sorted, h]
  have hjson (field text : String) :
      Json.lookup? field json.members = some (.string text) ↔ hashed[field]? = some text := by
    by_cases hcity : "city" = field
    · subst hcity
      simp [hashed, json, Json.lookup?]
    · by_cases hzip : "zip" = field
      · subst hzip
        simp [hashed, json, Json.lookup?]
      · simp [hashed, json, Json.lookup?, hcity, hzip]
  have hsame := hkinds hashed sorted json hsorted hjson
  have hactive : s.active.mode = .permissive := by
    rw [active, installed_afterAll]
    rfl
  refine ⟨hsame, ?_, ?_, ?_⟩
  · exact (hanswers.filterRecords_congr [hashed] [json] (.cons hsame.2 .nil)).symm
  · rw [hanswers.check_eq json, hactive]
    decide +kernel
  · rw [hanswers.check_eq other, hactive]
    decide +kernel

end Session

end RecordFilter
