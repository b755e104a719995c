import TabularSearch.Aggregation.Plan
import TabularSearch.Rows.Export

/-!
# Names gathered in order

Names are gathered one after the other, each where it first comes.
`mem_addNames` says which names there are at the end, `nodup_addNames`
that none comes twice, and `pairwise_addNames` that they stand in the
order in which they first came.
-/

namespace TabularSearch

@[simp]
theorem addNames_nil (names : List String) : addNames names [] = names := rfl

@[simp]
theorem addNames_cons
    (names : List String)
    (first : String)
    (rest : List String) :
    addNames names (first :: rest) = addNames (addName names first) rest :=
  rfl

theorem addNames_append (names more last : List String) :
    addNames names (more ++ last) = addNames (addNames names more) last := by
  induction more generalizing names with
  | nil => rfl
  | cons first rest step => exact step _

theorem mem_addName
    {names : List String}
    {name other : String} :
    other ∈ addName names name ↔ other ∈ names ∨ other = name := by
  unfold addName
  split
  · rename_i present
    exact ⟨Or.inl, fun found => found.elim id fun same => same ▸ present⟩
  · simp

theorem nodup_addName
    {names : List String}
    (distinct : names.Nodup)
    (name : String) :
    (addName names name).Nodup := by
  unfold addName
  split
  · exact distinct
  · rename_i absent
    rw [List.nodup_append]
    refine ⟨distinct, by simp, ?_⟩
    rintro other member single added rfl
    exact absent (List.mem_singleton.1 added ▸ member)

theorem mem_addNames
    {names more : List String}
    {name : String} :
    name ∈ addNames names more ↔ name ∈ names ∨ name ∈ more := by
  induction more generalizing names with
  | nil => simp
  | cons first rest step =>
      rw [addNames_cons, step, mem_addName, List.mem_cons, or_assoc]

theorem nodup_addNames
    {names : List String}
    (distinct : names.Nodup)
    (more : List String) :
    (addNames names more).Nodup := by
  induction more generalizing names with
  | nil => exact distinct
  | cons first rest step => exact step (nodup_addName distinct first)

/-- Names of which none comes twice are gathered as they are. -/
theorem addNames_of_nodup
    {names more : List String}
    (distinct : (names ++ more).Nodup) :
    addNames names more = names ++ more := by
  induction more generalizing names with
  | nil => rw [addNames_nil, List.append_nil]
  | cons first rest step =>
      have absent : first ∉ names := fun member =>
        (List.nodup_append.1 distinct).2.2 _ member _ List.mem_cons_self rfl
      rw [addNames_cons, addName, if_neg absent, step (by simpa using distinct)]
      simp

/-- Names that stand as they first came among those read go on to do so. -/
theorem pairwise_addNames_append
    {seen front : List String}
    (gathered : ∀ name, name ∈ seen ↔ name ∈ front)
    (rest : List String)
    (order : seen.Pairwise fun former latter =>
      (front ++ rest).idxOf former < (front ++ rest).idxOf latter) :
    (addNames seen rest).Pairwise fun former latter =>
      (front ++ rest).idxOf former < (front ++ rest).idxOf latter := by
  induction rest generalizing seen front with
  | nil => exact order
  | cons name rest step =>
      rw [addNames_cons]
      rw [← List.singleton_append, ← List.append_assoc] at order ⊢
      refine step (fun other => ?_) ?_
      · rw [mem_addName, gathered, List.mem_append, List.mem_singleton]
      · rw [addName]
        split
        · exact order
        · rename_i absent
          have atEnd : (front ++ [name] ++ rest).idxOf name = front.length := by
            rw [List.append_assoc, List.idxOf_append,
              if_neg (mt (gathered name).2 absent)]
            simp
          refine List.pairwise_append.2 ⟨order, List.pairwise_singleton _ _, ?_⟩
          intro former member latter single
          have within := (gathered former).1 member
          rw [List.mem_singleton.1 single, atEnd, List.append_assoc,
            List.idxOf_append, if_pos within]
          exact List.idxOf_lt_length_of_mem within

/-- Names are gathered in the order in which they first come. -/
theorem pairwise_addNames (names : List String) :
    (addNames [] names).Pairwise fun former latter =>
      names.idxOf former < names.idxOf latter := by
  have nothing :
      ∀ name, name ∈ ([] : List String) ↔ name ∈ ([] : List String) :=
    fun _ => Iff.rfl
  exact pairwise_addNames_append nothing names List.Pairwise.nil

end TabularSearch
