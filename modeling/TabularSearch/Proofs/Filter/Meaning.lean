import TabularSearch.Filter.Compile
import TabularSearch.Proofs.Filter.Verdict
import TabularSearch.Proofs.Outcome

/-!
# Compiling a condition keeps its meaning

`Condition.holds` says when a condition holds of a document, in terms of what
the backend knows of the document's fields.  The filter of a condition has the
same meaning, and so has the form in which the filter is sent:
`verdict?_ofQuery` takes a condition together with filters for the presence of
fields all the way to the backend's verdict.
-/

namespace TabularSearch

open TabularSearch.Json

variable {Document : Type} (leaves : Leaves Document) (document : Document)

namespace Leaves

/-- Whether a field's value lies on the side of a scalar that
a bound's key names. -/
def beyond
    (field key : String)
    (value : Scalar) :
    Bool :=
  match value.bound? with
  | some bound => leaves.range field key bound document
  | none => false

/-- Whether a field's text contains the text of a scalar. -/
def mentions
    (field : String)
    (value : Scalar) :
    Bool :=
  match value.searchText? with
  | some text =>
    leaves.pattern field (String.ofList (Filter.containing text)) document
  | none => false

/-- Whether a field compares with a scalar as asked; null stands for absence. -/
def compares
    (field : String)
    (value : Scalar) :
    Comparison → Bool
  | .equal =>
    if value.isNull then !leaves.present field document
    else leaves.term field value.sent document
  | .notEqual =>
    if value.isNull then leaves.present field document
    else !leaves.term field value.sent document
  | .greater => leaves.beyond document field "gt" value
  | .greaterOrEqual => leaves.beyond document field "gte" value
  | .less => leaves.beyond document field "lt" value
  | .lessOrEqual => leaves.beyond document field "lte" value
  | .contains => leaves.mentions document field value
  | .notContains => !leaves.mentions document field value

end Leaves

namespace Condition

mutual

/-- Whether a condition holds of a document. -/
def holds : Condition → Bool
  | .compare field comparison value =>
    leaves.compares document field value comparison
  | .all parts => (truths parts).all id
  | .any parts => (truths parts).any id

/-- Which of some conditions hold of a document. -/
def truths : List Condition → List Bool
  | [] => []
  | part :: rest => part.holds :: truths rest

end

end Condition

namespace Filter

theorem holds_not (filter : Filter) :
    (not filter).holds leaves document = !filter.holds leaves document := by
  simp [not, holds, truths]

theorem holds_all (filters : List Filter) :
    (all filters).holds leaves document =
      (truths leaves document filters).all id := by
  simp [all, holds, truths]

/-- Choosing from nothing is not asked of the backend: there it would hold. -/
theorem holds_any
    {filters : List Filter}
    (nonempty : filters ≠ []) :
    (any filters).holds leaves document =
      (truths leaves document filters).any id := by
  simp [any, holds, truths, nonempty]

theorem holds_join (filters : List Filter) :
    (join filters).holds leaves document =
      (truths leaves document filters).all id := by
  cases filters with
  | nil => rfl
  | cons filter rest => exact holds_all leaves document (filter :: rest)

theorem holds_ofBound
    {field : String}
    {comparison : Comparison}
    {bound : Bound}
    {value : Scalar}
    {filter : Filter}
    (compiled : ofBound field comparison bound value = .ok filter) :
    filter.holds leaves document =
      leaves.beyond document field bound.key value := by
  unfold ofBound at compiled
  cases sent : value.bound? with
  | none => simp [sent] at compiled
  | some closing =>
      simp only [sent, Except.ok.injEq] at compiled
      subst compiled
      simp [holds, Leaves.beyond, sent]

theorem holds_ofText
    {field : String}
    {comparison : Comparison}
    {value : Scalar}
    {filter : Filter}
    (compiled : ofText field comparison value = .ok filter) :
    filter.holds leaves document = leaves.mentions document field value := by
  unfold ofText at compiled
  cases sought : value.searchText? with
  | none => simp [sought] at compiled
  | some text =>
      simp only [sought, Except.ok.injEq] at compiled
      subst compiled
      simp [holds, Leaves.mentions, sought]

/-- One case for each comparison; equality is decided apart for null. -/
theorem holds_ofComparison
    {field : String}
    {comparison : Comparison}
    {value : Scalar}
    {filter : Filter}
    (compiled : ofComparison field comparison value = .ok filter) :
    filter.holds leaves document =
      leaves.compares document field value comparison := by
  unfold ofComparison at compiled
  split at compiled
  · cases compiled
  · cases comparison with
    | equal =>
        cases compiled
        by_cases null : value.isNull <;>
          simp [null, Leaves.compares, holds_not, holds]
    | notEqual =>
        cases compiled
        by_cases null : value.isNull <;>
          simp [null, Leaves.compares, holds_not, holds]
    | greater => exact holds_ofBound leaves document compiled
    | greaterOrEqual => exact holds_ofBound leaves document compiled
    | less => exact holds_ofBound leaves document compiled
    | lessOrEqual => exact holds_ofBound leaves document compiled
    | contains => exact holds_ofText leaves document compiled
    | notContains =>
        rcases map_eq_ok_iff.1 compiled with ⟨sought, found, rfl⟩
        rw [holds_not, holds_ofText leaves document found]
        rfl

mutual

theorem holds_ofCondition :
    ∀ {condition : Condition} {filter : Filter},
      ofCondition condition = .ok filter →
        filter.holds leaves document = condition.holds leaves document
  | .compare field comparison value, filter, compiled => by
    rw [ofCondition] at compiled
    rw [holds_ofComparison leaves document compiled, Condition.holds]
  | .all [], filter, compiled => by
    cases compiled
    rfl
  | .all (part :: rest), filter, compiled => by
    rcases map_eq_ok_iff.1 compiled with ⟨filters, parts, rfl⟩
    rw [holds_all, truths_ofConditions parts, Condition.holds]
  | .any [], filter, compiled => by
    cases compiled
    rfl
  | .any (part :: rest), filter, compiled => by
    rcases map_eq_ok_iff.1 compiled with ⟨filters, parts, rfl⟩
    have nonempty : filters ≠ [] := by
      rintro rfl
      simpa [truths, Condition.truths] using truths_ofConditions parts
    rw [holds_any leaves document nonempty, truths_ofConditions parts,
      Condition.holds]

theorem truths_ofConditions :
    ∀ {parts : List Condition} {filters : List Filter},
      ofConditions parts = .ok filters →
        truths leaves document filters = Condition.truths leaves document parts
  | [], filters, compiled => by
    cases compiled
    rfl
  | part :: rest, filters, compiled => by
    rw [ofConditions] at compiled
    split at compiled
    · cases compiled
    · rename_i filter first
      split at compiled
      · cases compiled
      · rename_i others second
        cases compiled
        rw [truths, Condition.truths, holds_ofCondition first,
          truths_ofConditions second]

end

/-- The filter of a query holds where the condition holds and
the further filters do. -/
theorem holds_ofQuery
    {condition : Option Condition}
    {further : List Filter}
    {filter : Filter}
    (compiled : ofQuery condition further = .ok filter) :
    filter.holds leaves document =
      (condition.all (·.holds leaves document) &&
        (truths leaves document further).all id) := by
  cases condition with
  | none =>
      cases compiled
      simp [holds_join]
  | some condition =>
      rcases map_eq_ok_iff.1 compiled with ⟨first, found, rfl⟩
      simp [holds_join, truths, holds_ofCondition leaves document found]

theorem holds_ofQuery_present
    {condition : Option Condition}
    {fields : List String}
    {filter : Filter}
    (compiled : ofQuery condition (fields.map present) = .ok filter) :
    filter.holds leaves document =
      (condition.all (·.holds leaves document) &&
        fields.all fun field => leaves.present field document) := by
  rw [holds_ofQuery leaves document compiled, truths_eq_map, List.map_map,
    List.all_map]
  rfl

end Filter

/-- A backend that knows of its documents the names of their fields,
and finds every text. -/
def Leaves.ofNames : Leaves (List String) :=
  { term := fun _ _ _ => false
    present := fun field names => names.contains field
    range := fun _ _ _ _ => false
    pattern := fun field _ names => names.contains field }

end TabularSearch
