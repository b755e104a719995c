import TabularSearch.Proofs.Aggregation.Scopes

/-!
# Aggregations as they are sent

Aggregations are sent as members of an object, each under its name.  Where no
name comes twice in a scope nothing is overwritten, and two trees that are sent
alike are the same tree, in names, kinds and order.
-/

namespace TabularSearch

open TabularSearch.Json

/-- No name comes twice in any scope from the top on. -/
def NamesApart (top : List Aggregation) : Prop :=
  ∀ depth siblings, ScopeAt top depth siblings →
    (siblings.map Aggregation.name).Nodup

theorem ScopeAt.deeper
    {top : List Aggregation}
    {node : Aggregation}
    (member : node ∈ top)
    {depth : Nat}
    {siblings : List Aggregation}
    (reached : ScopeAt node.children depth siblings) :
    ScopeAt top (depth + 1) siblings := by
  induction reached with
  | top => exact .inside .top member
  | inside above inner step => exact .inside step inner

theorem NamesApart.children
    {top : List Aggregation}
    (apart : NamesApart top)
    {node : Aggregation}
    (member : node ∈ top) :
    NamesApart node.children :=
  fun depth siblings reached =>
    apart (depth + 1) siblings (reached.deeper member)

/-! ## What a single aggregation is sent as -/

theorem Direction.word_injective : Function.Injective Direction.word := by
  intro left right same
  cases left <;> cases right <;> first | rfl | exact absurd same (by decide)

theorem Granularity.formatToken_injective :
    Function.Injective Granularity.formatToken := by
  intro left right same
  cases left <;> cases right <;> first | rfl | exact absurd same (by decide)

theorem BucketOrder.toValue_injective :
    Function.Injective BucketOrder.toValue := by
  intro left right same
  cases left <;> cases right <;>
    simp_all [toValue, Filter.single, Direction.word_injective.eq_iff]

/-- The granularity is told by the format alone, the two spellings
of the interval apart. -/
theorem AggregationKind.members_injective :
    Function.Injective AggregationKind.members := by
  intro left right same
  cases left <;> cases right <;>
    simp_all [members, Filter.single, ofWord_inj,
      BucketOrder.toValue_injective.eq_iff,
      Granularity.formatToken_injective.eq_iff]

/-- The kind is sent as one member, in front of what is inside. -/
theorem AggregationKind.exists_members (kind : AggregationKind) :
    ∃ member, kind.members = [member] := by
  cases kind <;> exact ⟨_, rfl⟩

theorem nestedMember_injective : Function.Injective nestedMember := by
  intro left right same
  cases left <;> cases right <;> simp_all [nestedMember]

theorem Aggregation.toValue_inj
    {name other : String}
    {kind otherKind : AggregationKind}
    {children others : List Aggregation}
    (same :
      (Aggregation.node name kind children).toValue =
        (Aggregation.node other otherKind others).toValue) :
    kind = otherKind ∧
      aggregationsValue children = aggregationsValue others := by
  rw [Aggregation.toValue, Aggregation.toValue, Value.object.injEq] at same
  obtain ⟨first, single⟩ := kind.exists_members
  obtain ⟨second, otherSingle⟩ := otherKind.exists_members
  rw [single, otherSingle, List.singleton_append, List.singleton_append] at same
  obtain ⟨rfl, inside⟩ := List.cons.inj same
  exact ⟨AggregationKind.members_injective (single.trans otherSingle.symm),
    congrArg Value.object (nestedMember_injective inside)⟩

/-! ## Trees -/

theorem entries_of_aggregationsValue
    {left right : List Aggregation}
    (apart : NamesApart left)
    (otherApart : NamesApart right)
    (same : aggregationsValue left = aggregationsValue right) :
    (left.map fun node => (node.name, node.toValue)) =
      right.map fun node => (node.name, node.toValue) := by
  rw [aggregationsValue_eq_object (apart 0 left .top),
    aggregationsValue_eq_object (otherApart 0 right .top)] at same
  exact Value.object.inj same

mutual

/-- Aggregations that are sent alike under one name are the
same, also inside. -/
theorem Aggregation.eq_of_toValue :
    ∀ {left right : Aggregation},
      NamesApart left.children → NamesApart right.children →
        left.name = right.name → left.toValue = right.toValue → left = right
  | .node name kind children, .node other otherKind others, apart, otherApart,
    named, same => by
    obtain ⟨alike, inside⟩ := Aggregation.toValue_inj same
    have nested : children = others :=
      siblings_eq_of_entries (fun node => apart.children)
        (fun node => otherApart.children)
        (entries_of_aggregationsValue apart otherApart inside)
    have label : name = other := named
    rw [label, alike, nested]

theorem siblings_eq_of_entries :
    ∀ {left right : List Aggregation},
      (∀ node ∈ left, NamesApart node.children) →
        (∀ node ∈ right, NamesApart node.children) →
        ((left.map fun node => (node.name, node.toValue)) =
          right.map fun node => (node.name, node.toValue)) →
          left = right
  | [], right, apart, otherApart, same => (List.map_eq_nil_iff.1 same.symm).symm
  | first :: rest, [], apart, otherApart, same => by cases same
  | first :: rest, other :: others, apart, otherApart, same => by
    rw [List.forall_mem_cons] at apart otherApart
    obtain ⟨head, tail⟩ := List.cons.inj same
    obtain ⟨named, alike⟩ := Prod.mk.inj head
    rw [Aggregation.eq_of_toValue apart.1 otherApart.1 named alike,
      siblings_eq_of_entries apart.2 otherApart.2 tail]

end

/-- Trees without repeated names that are sent alike are the same. -/
theorem eq_of_aggregationsValue
    {left right : List Aggregation}
    (apart : NamesApart left)
    (otherApart : NamesApart right)
    (same : aggregationsValue left = aggregationsValue right) :
    left = right :=
  siblings_eq_of_entries (fun _ => apart.children)
    (fun _ => otherApart.children)
    (entries_of_aggregationsValue apart otherApart same)

end TabularSearch
