import TabularSearch.Filter.Basic

/-!
# Filters as they are sent

A filter is sent under the name of its kind, and a boolean node leaves out
its empty groups.  Nothing is lost by that: two filters that are sent
alike are the same filter.
-/

namespace TabularSearch

open TabularSearch.Json

/-! ## Lists that are left out where they are empty -/

/-- A list as a value, unless there is nothing in it. -/
def listItem? : List Value → Option Value
  | [] => none
  | first :: rest => some (.array (first :: rest))

theorem listItem?_injective : Function.Injective listItem? := by
  intro left right same
  cases left <;> cases right <;> cases same <;> rfl

theorem Bound.key_injective : Function.Injective Bound.key := by
  intro left right same
  cases left <;> cases right <;> first | rfl | exact absurd same (by decide)

namespace Filter

theorem itemAt?_groupMember
    (key name : String)
    (filters : List Value) :
    itemAt? key (groupMember name filters) =
      if name = key then listItem? filters else none := by
  cases filters with
  | nil => simp [groupMember, itemAt?, listItem?]
  | cons first rest => rfl

theorem itemAt?_minimumMember
    {key : String}
    (other : "minimum_should_match" ≠ key)
    (should : List Filter) :
    itemAt? key (minimumMember should) = none := by
  cases should with
  | nil => rfl
  | cons first rest => rw [minimumMember, itemAt?, if_neg other, itemAt?]

/-- The groups of a boolean node are found in what is sent of it. -/
theorem groups_of_sent
    {must should mustNot : List Filter}
    {members : Members}
    (sent :
      (Filter.clauses must should mustNot).toValue =
        single "bool" (.object members)) :
    itemAt? "must" members = listItem? (toValues must) ∧
      itemAt? "should" members = listItem? (toValues should) ∧
        itemAt? "must_not" members = listItem? (toValues mustNot) := by
  simp only [toValue, single, Value.object.injEq, List.cons.injEq,
    Prod.mk.injEq, true_and, and_true] at sent
  subst sent
  simp [itemAt?_append, itemAt?_groupMember, itemAt?_minimumMember]

mutual

/-- One case for every kind; filters of different kinds are sent
under different names. -/
theorem toValue_injective :
    ∀ {left right : Filter}, left.toValue = right.toValue → left = right
  | .everything, right, same => by
    cases right <;> simp_all [toValue, single]
  | .nothing, right, same => by
    cases right <;> simp_all [toValue, single]
  | .term field value, right, same => by
    cases right <;> simp_all [toValue, single]
  | .present field, right, same => by
    cases right <;> simp_all [toValue, single]
  | .range field bound value, right, same => by
    cases right <;> simp_all [toValue, single, Bound.key_injective.eq_iff]
  | .pattern field expression, right, same => by
    cases right <;> simp_all [toValue, single]
  | .clauses must should mustNot, right, same => by
    cases right with
    | clauses otherMust otherShould otherMustNot =>
        obtain ⟨members, sent⟩ : ∃ members,
            (clauses must should mustNot).toValue =
              single "bool" (.object members) := ⟨_, rfl⟩
        have first := groups_of_sent sent
        have second := groups_of_sent (same.symm.trans sent)
        rw [toValues_injective
          (listItem?_injective (first.1.symm.trans second.1)),
          toValues_injective
          (listItem?_injective (first.2.1.symm.trans second.2.1)),
          toValues_injective
            (listItem?_injective (first.2.2.symm.trans second.2.2))]
    | _ => simp [toValue, single] at same

theorem toValues_injective :
    ∀ {left right : List Filter}, toValues left = toValues right → left = right
  | [], right, same => by
    cases right with
    | nil => rfl
    | cons first rest => cases same
  | first :: rest, right, same => by
    cases right with
    | nil => cases same
    | cons other others =>
        obtain ⟨head, tail⟩ := List.cons.inj same
        rw [toValue_injective head, toValues_injective tail]

end

end Filter

end TabularSearch
