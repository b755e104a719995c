import Mathlib.Data.List.Forall2
import TabularSearch.Proofs.Json.Records
import TabularSearch.Proofs.Outcome
import TabularSearch.Response.Flatten

/-!
# Documents and their rows

The members of a document that was read have different names, whatever its
text repeats, and its row holds them as they are and in their order.  Only
the identifier is put under a column of its own, over a member of that
name or else at the end.
-/

namespace TabularSearch

open TabularSearch.Json

/-! ## Documents that were read -/

/-- No name comes twice among the members. -/
def Hit.Distinct (hit : Hit) : Prop :=
  (hit.source.map Prod.fst).Nodup

/-- No field comes twice in what is read of a hit. -/
def HitParts.Distinct (parts : HitParts) : Prop :=
  ((parts.source.getD []).map Prod.fst).Nodup

/-- No hit that was read has a field twice. -/
def HitsParts.Distinct (parts : HitsParts) : Prop :=
  ∀ hit ∈ parts.hits.getD [], hit.Distinct

/-- No hit of what is read of an answer has a field twice. -/
def ResponseParts.Distinct (parts : ResponseParts) : Prop :=
  (parts.hits.getD { total := none, hits := none }).Distinct

section Steps

variable {name : String} {document : Document}

theorem HitParts.step_distinct
    {parts next : HitParts}
    (stepped : parts.step name document = .ok next)
    (distinct : parts.Distinct) :
    next.Distinct := by
  unfold step at stepped
  split at stepped <;> rcases map_eq_ok_iff.1 stepped with ⟨_, filled, rfl⟩
  · exact distinct
  · rcases fill_eq_ok_iff.1 filled with ⟨-, source, read, rfl⟩
    exact nodup_readObject read
  · exact distinct

theorem readHit_distinct
    {hit : Hit}
    (read : readHit document = .ok hit) :
    hit.Distinct := by
  simp only [readHit, bind_eq_ok_iff, pure, Except.pure, Except.ok.injEq]
    at read
  rcases read with ⟨parts, taken, id, -, rfl⟩
  have distinct : parts.Distinct :=
    readRecord_keeps (fun _ _ _ _ => HitParts.step_distinct) taken
      List.nodup_nil
  exact distinct

theorem HitsParts.step_distinct
    {parts next : HitsParts}
    (stepped : parts.step name document = .ok next)
    (distinct : parts.Distinct) :
    next.Distinct := by
  unfold step at stepped
  split at stepped <;> rcases map_eq_ok_iff.1 stepped with ⟨_, filled, rfl⟩
  · exact distinct
  · rcases fill_eq_ok_iff.1 filled with ⟨-, hits, read, rfl⟩
    exact readList_forall (fun _ _ => readHit_distinct) read
  · exact distinct

theorem readHits_distinct
    {parts : HitsParts}
    (read : readHits document = .ok parts) :
    parts.Distinct :=
  readRecord_keeps (fun _ _ _ _ => HitsParts.step_distinct) read
    (List.forall_mem_nil _)

theorem ResponseParts.step_distinct
    {parts next : ResponseParts}
    (stepped : parts.step name document = .ok next)
    (distinct : parts.Distinct) :
    next.Distinct := by
  unfold step at stepped
  split at stepped <;> rcases map_eq_ok_iff.1 stepped with ⟨_, filled, rfl⟩
  -- Only the member with the documents says anything about them.
  case h_4 =>
      rcases fill_eq_ok_iff.1 filled with ⟨-, documents, read, rfl⟩
      exact readHits_distinct read
  all_goals exact distinct

/-- Every document of an answer that was read has different names. -/
theorem SearchResponse.distinct_of_read
    {response : SearchResponse}
    (read : SearchResponse.read document = .ok response) :
    ∀ hit ∈ response.hits, hit.Distinct := by
  simp only [SearchResponse.read, bind_eq_ok_iff, pure, Except.pure,
    Except.ok.injEq] at read
  rcases read with ⟨parts, taken, rfl⟩
  have distinct : parts.Distinct :=
    readRecord_keeps (fun _ _ _ _ => ResponseParts.step_distinct) taken
      (List.forall_mem_nil _)
  exact distinct

end Steps

/-! ## Their rows -/

/-- A row shows a document: its identifier, and every other member
as it is and in order. -/
structure Hit.ShownBy (hit : Hit) (row : Row) : Prop where
  identifier : row.get? idColumn = some (.string hit.id)
  members : ∀ name, name ≠ idColumn → row.get? name = itemAt? name hit.source
  columns :
    row.columns =
      if idColumn ∈ hit.source.map Prod.fst then hit.source.map Prod.fst
      else hit.source.map Prod.fst ++ [idColumn]

theorem Hit.Distinct.shownBy_toRow
    {hit : Hit}
    (distinct : hit.Distinct) :
    hit.ShownBy hit.toRow where
  identifier := Row.get?_insert_self _ _ _
  members := by
    intro name other
    rw [toRow, Row.get?_insert_of_ne _ other, Row.get?,
      Row.entries_ofList distinct]
  columns := by
    rw [toRow, Row.columns_insert, Row.columns, Row.entries_ofList distinct]

/-- An answer that was read has a row for each document, in their order. -/
theorem SearchResponse.shownBy_of_read
    {document : Document}
    {response : SearchResponse}
    (read : SearchResponse.read document = .ok response) :
    List.Forall₂ Hit.ShownBy response.hits (response.hits.map Hit.toRow) := by
  rw [List.forall₂_map_right_iff, List.forall₂_same]
  exact fun hit member => (distinct_of_read read hit member).shownBy_toRow

end TabularSearch
