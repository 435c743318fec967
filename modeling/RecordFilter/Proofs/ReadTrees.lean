import RecordFilter.Proofs.Reading
import RecordFilter.Proofs.Tree

/-!
# The shape of the trees that are read

A tree read from tokens restricts nothing or has two children or more in every group
(`isBranching_or_eq_vacuous`). The invariant is that all that has been taken up so far branches:
a conjunction is joined only once it has a term, an `or` group only from such conjunctions, and a
tree that restricts nothing is refused inside parentheses.
-/

namespace RecordFilter

theorem Expr.isBranching_join (k : Connective) {es : List Expr} (hne : es ≠ [])
    (hes : ∀ e ∈ es, e.IsBranching) : (join k es).IsBranching := by
  match es with
  | [] => exact absurd rfl hne
  | [e] => exact hes e (by simp)
  | a :: b :: rest => exact isBranching_group.2 ⟨by simp, hes⟩

/-- Each tree that is read branches or restricts nothing. -/
def BodyReader.ReadsBranching (body : BodyReader) : Prop :=
  ∀ ts e, body ts = .ok e → e.IsBranching ∨ e = .vacuous

namespace Progress

variable {mode : ParseMode} {body? : Option BodyReader} {p q : Progress} {t : Token}

/-- All that has been taken up so far branches. -/
structure Branches (p : Progress) : Prop where
  alternatives : ∀ e ∈ p.alternatives, e.IsBranching
  terms : ∀ e ∈ p.terms, e.IsBranching

theorem branches_start : start.Branches :=
  ⟨fun _ he => absurd he List.not_mem_nil, fun _ he => absurd he List.not_mem_nil⟩

theorem Branches.addTerm (h : p.Branches) {e : Expr} (he : e.IsBranching) :
    (p.addTerm e).Branches :=
  ⟨h.alternatives, List.forall_mem_cons.2 ⟨he, h.terms⟩⟩

theorem Branches.endConjunction (h : p.Branches) : p.endConjunction.Branches := by
  by_cases hterms : p.terms = []
  · rw [Progress.endConjunction, hterms]
    exact h
  · have hjoin : (Expr.join .and p.terms.reverse).IsBranching :=
      Expr.isBranching_join .and (by simpa using hterms)
        (fun e he => h.terms e (List.mem_reverse.1 he))
    rw [endConjunction_of_ne_nil hterms]
    exact ⟨List.forall_mem_cons.2 ⟨hjoin, h.alternatives⟩,
      fun _ he => absurd he List.not_mem_nil⟩

theorem Branches.expr (h : p.Branches) : p.expr.IsBranching ∨ p.expr = .vacuous := by
  rw [Progress.expr]
  by_cases halternatives : p.endConjunction.alternatives = []
  · right
    rw [halternatives]
    rfl
  · left
    exact Expr.isBranching_join .or (by simpa using halternatives)
      (fun e he => h.endConjunction.alternatives e (List.mem_reverse.1 he))

variable (hbody : ∀ body, body? = some body → body.ReadsBranching)
include hbody

theorem isBranching_of_body {body : BodyReader} {inside : List Token} {e : Expr}
    (h : body? = some body) (he : body inside = .ok e) (hv : e.isVacuous = false) :
    e.IsBranching := by
  rcases hbody body h inside e he with hbranching | rfl
  · exact hbranching
  · simp at hv

/-- What a token does keeps all that has been taken up branching. -/
theorem Branches.moves (h : p.Branches) (hmoves : Moves body? p t q) : q.Branches := by
  cases hmoves with
  | alternative => exact h.endConjunction
  | value => exact h.addTerm (Expr.isBranching_condition _)
  | close _ _ hsome he hv => exact h.addTerm (isBranching_of_body hbody hsome he hv)
  | conjunction | group | field | operator | inside => exact ⟨h.alternatives, h.terms⟩

theorem Branches.ends (h : p.Branches) {e : Expr} (hends : Ends mode body? p e) :
    e.IsBranching ∨ e = .vacuous := by
  cases hends with
  | between => exact h.expr
  | body _ _ hsome he hv => exact (h.addTerm (isBranching_of_body hbody hsome he hv)).expr

theorem readsBranching_readSequence (mode : ParseMode) :
    BodyReader.ReadsBranching (readSequence mode body?) := by
  intro ts e h
  obtain ⟨p, hp, hends⟩ := exists_ends_of_readSequence (P := fun _ p => p.Branches)
    (fun _ _ _ _ hp hmoves => Branches.moves hbody hp hmoves) branches_start h
  exact Branches.ends hbody hp hends

end Progress

theorem readsBranching_readNested (mode : ParseMode) (levels : Nat) :
    BodyReader.ReadsBranching (readNested mode levels) :=
  readNested_induct (fun _ hbody => Progress.readsBranching_readSequence hbody mode) levels

/-- A tree read from a filter text branches or restricts nothing. -/
theorem isBranching_or_eq_vacuous {mode : ParseMode} {input : String} {e : Expr}
    (h : parse mode input = .ok e) : e.IsBranching ∨ e = .vacuous := by
  obtain ⟨ts, -, hparse⟩ := bind_eq_ok_iff.1 h
  exact readsBranching_readNested mode maxDepth ts e (mapError_eq_ok_iff.1 hparse)

end RecordFilter
