import Mathlib.Data.List.Chain
import TabularSearch.Proofs.Aggregation.Scopes
import TabularSearch.Proofs.Response.Reads

/-!
# Answers without what was not asked for

Of an answer everything may be deleted that the plan does not ask for: at the
top all but the planned aggregations, in a bucket all but the ones planned
inside it and the members that say what the bucket is, and the number of
matching documents if it is not needed.  The rows stay as they are unless a
level is labelled like the key of a bucket: its results are then the key of the
buckets around them, and a column on a field shows the key whole.
-/

namespace TabularSearch

open TabularSearch.Json

/-! ## Deleting -/

/-- The members of an object changed. -/
def overElement (change : Members → Members) : Value → Value
  | .object bucket => .object (change bucket)
  | other => other

/-- The members of every object in an array changed. -/
def overElements (change : Members → Members) : Value → Value
  | .array elements => .array (elements.map (overElement change))
  | other => other

/-- The result of an aggregation with its buckets changed in their places. -/
def overBuckets (change : Members → Members) : Value → Value
  | .object members =>
    .object <| members.map fun member =>
      if member.1 = "buckets" then (member.1, overElements change member.2)
      else member
  | other => other

/-- The members of a scope that are planned, changed as planned,
and those that are kept. -/
def pruneMembers
    (kept : List String)
    (planned? : String → Value → Option Value)
    (scope : Members) :
    Members :=
  scope.filterMap fun member =>
    ((planned? member.1 member.2).or
      (if member.1 ∈ kept then some member.2 else none)).map
      fun value => (member.1, value)

/-- The members of a bucket that say what it is. -/
def bucketMembers : List String := ["key", "key_as_string", "doc_count"]

mutual

/-- The result of an aggregation without what is not planned
inside its buckets. -/
def Aggregation.prune : Aggregation → Value → Value
  | .node _ kind children, result =>
    match kind with
    | .statistics _ => result
    | _ =>
      overBuckets (pruneMembers bucketMembers (plannedResult? children)) result

/-- What is left of a result under a name, if it is planned. -/
def plannedResult? : List Aggregation → String → Value → Option Value
  | [], _, _ => none
  | node :: rest, name, result =>
    if node.name = name then some (node.prune result)
    else plannedResult? rest name result

end

/-- A scope without what is neither planned nor kept in it. -/
def pruneScope
    (kept : List String)
    (planned : List Aggregation)
    (scope : Members) :
    Members :=
  pruneMembers kept (plannedResult? planned) scope

/-- An answer without what a plan does not ask for. -/
def SearchResponse.pruned
    (response : SearchResponse)
    (plan : Plan) :
    SearchResponse :=
  { response with
    total := if plan.totalHits then response.total else 0
    aggregations := pruneScope [] plan.aggregations response.aggregations }

/-! ## Looking into what is left -/

theorem itemAt?_pruneMembers
    {kept : List String}
    {planned? : String → Value → Option Value}
    {name : String}
    {change : Value → Value}
    (keeps : ∀ value,
      (planned? name value).or (if name ∈ kept then some value else none) =
        some (change value))
    (scope : Members) :
    itemAt? name (pruneMembers kept planned? scope) =
      (itemAt? name scope).map change := by
  unfold pruneMembers
  induction scope with
  | nil => rfl
  | cons member rest step =>
      rcases member with ⟨other, value⟩
      by_cases same : other = name
      · subst same
        simp [keeps value, itemAt?]
      · rw [List.filterMap_cons]
        split
        · rw [step, itemAt?, if_neg same]
        · rename_i left found
          rcases Option.map_eq_some_iff.1 found with ⟨_, -, rfl⟩
          rw [itemAt?, itemAt?, if_neg same, if_neg same, step]

theorem notMem_pruneMembers
    {kept : List String}
    {planned? : String → Value → Option Value}
    {name : String}
    (drops : ∀ value,
      (planned? name value).or (if name ∈ kept then some value else none) =
        none)
    (scope : Members) :
    name ∉ (pruneMembers kept planned? scope).map Prod.fst := by
  intro member
  rcases List.mem_map.1 member with ⟨⟨_, value⟩, left, rfl⟩
  rcases List.mem_filterMap.1 left with ⟨⟨other, before⟩, -, found⟩
  rcases Option.map_eq_some_iff.1 found with ⟨_, looked, same⟩
  rcases Prod.mk.inj same with ⟨rfl, rfl⟩
  rw [drops before] at looked
  cases looked

theorem get?_overBuckets
    (change : Members → Members)
    (result : Value) :
    (overBuckets change result).get? "buckets" =
      (result.get? "buckets").map (overElements change) := by
  cases result with
  | object members =>
      simp only [overBuckets, Value.get?]
      induction members with
      | nil => rfl
      | cons member rest step =>
          rw [List.map_cons]
          by_cases same : member.1 = "buckets"
          · simp [itemAt?, same]
          · simp only [itemAt?, if_neg same, step]
  | _ => rfl

theorem filterMap_overElement
    (change : Members → Members)
    (elements : List Value) :
    (elements.map (overElement change)).filterMap Value.asObject? =
      (elements.filterMap Value.asObject?).map change := by
  rw [List.filterMap_map, List.map_filterMap]
  congr 1
  funext element
  cases element <;> rfl

theorem bucketsOf_eq_map
    {scope pruned : Members}
    {name : String}
    {change : Members → Members}
    (found :
      itemAt? name pruned = (itemAt? name scope).map (overBuckets change)) :
    bucketsOf pruned name = (bucketsOf scope name).map change := by
  unfold bucketsOf
  rw [found]
  cases itemAt? name scope with
  | none => rfl
  | some result =>
      simp only [Option.map_some, Option.bind_some, get?_overBuckets]
      cases result.get? "buckets" with
      | none => rfl
      | some listed =>
          cases listed with
          | array elements => exact filterMap_overElement change elements
          | _ => rfl

/-! ## What a bucket is -/

/-- Two values are the same, or both are objects. -/
def SameUnlessObjects (left right : Value) : Prop :=
  left = right ∨
    ∃ members others, left = .object members ∧ right = .object others

theorem sameUnlessObjects_overBuckets
    (change : Members → Members)
    (result : Value) :
    SameUnlessObjects (overBuckets change result) result := by
  cases result with
  | object members => exact Or.inr ⟨_, members, rfl, rfl⟩
  | _ => exact Or.inl rfl

theorem Aggregation.sameUnlessObjects_prune
    (node : Aggregation)
    (result : Value) :
    SameUnlessObjects (node.prune result) result := by
  rcases node with ⟨name, kind, children⟩
  cases kind with
  | statistics field => exact Or.inl rfl
  | terms field size order => exact sameUnlessObjects_overBuckets _ result
  | dates field granularity order =>
      exact sameUnlessObjects_overBuckets _ result

theorem sameUnlessObjects_plannedResult?
    {planned : List Aggregation}
    {name : String}
    {result left : Value}
    (found : plannedResult? planned name result = some left) :
    SameUnlessObjects left result := by
  induction planned with
  | nil => cases found
  | cons node rest step =>
      rw [plannedResult?] at found
      split at found
      · obtain rfl := Option.some.inj found
        exact node.sameUnlessObjects_prune result
      · exact step found

/-- What is kept of a scope is there afterwards, and changed only
where it is an object. -/
theorem exists_itemAt?_pruneScope
    {kept : List String}
    {name : String}
    (member : name ∈ kept)
    (planned : List Aggregation)
    (scope : Members) :
    ∃ change : Value → Value,
      (∀ value, SameUnlessObjects (change value) value) ∧
        itemAt? name (pruneScope kept planned scope) =
          (itemAt? name scope).map change := by
  refine ⟨fun value => (plannedResult? planned name value).getD value, ?_, ?_⟩
  · intro value
    change SameUnlessObjects ((plannedResult? planned name value).getD value)
      value
    cases found : plannedResult? planned name value with
    | none => exact Or.inl rfl
    | some left => exact sameUnlessObjects_plannedResult? found
  · apply itemAt?_pruneMembers
    intro value
    rw [if_pos member]
    cases plannedResult? planned name value with
    | none => rfl
    | some left => rfl

theorem bind_itemAt?_pruneScope
    {Item : Type}
    {read : Value → Option Item}
    (blind : ∀ members, read (.object members) = none)
    {kept : List String}
    {name : String}
    (member : name ∈ kept)
    (planned : List Aggregation)
    (scope : Members) :
    (itemAt? name (pruneScope kept planned scope)).bind read =
      (itemAt? name scope).bind read := by
  rcases exists_itemAt?_pruneScope member planned scope with
    ⟨change, similar, found⟩
  rw [found, Option.bind_map]
  cases itemAt? name scope with
  | none => rfl
  | some value =>
      rw [Option.bind_some, Option.bind_some, Function.comp_apply]
      rcases similar value with same | ⟨members, others, left, right⟩
      · rw [same]
      · rw [left, right, blind, blind]

section Bucket

variable (planned : List Aggregation) (bucket : Members)

theorem bucketCount_pruneScope :
    bucketCount (pruneScope bucketMembers planned bucket) =
      bucketCount bucket := by
  have member : "doc_count" ∈ bucketMembers := by simp [bucketMembers]
  rw [bucketCount, bucketCount, bind_itemAt?_pruneScope (fun _ => rfl) member]

theorem bucketKeyText?_pruneScope :
    bucketKeyText? (pruneScope bucketMembers planned bucket) =
      bucketKeyText? bucket := by
  have member : "key_as_string" ∈ bucketMembers := by simp [bucketMembers]
  rw [bucketKeyText?, bucketKeyText?,
    bind_itemAt?_pruneScope (fun _ => rfl) member]

theorem asSigned?_bucketKey (bucket : Members) :
    (bucketKey bucket).asSigned? =
      (itemAt? "key" bucket).bind Value.asSigned? := by
  rw [bucketKey]
  cases itemAt? "key" bucket with
  | none => rfl
  | some key => rfl

theorem timeKey?_pruneScope (granularity : Granularity) :
    timeKey? granularity (pruneScope bucketMembers planned bucket) =
      timeKey? granularity bucket := by
  have member : "key" ∈ bucketMembers := by simp [bucketMembers]
  rw [timeKey?, timeKey?, bucketKeyText?_pruneScope, asSigned?_bucketKey,
    asSigned?_bucketKey, bind_itemAt?_pruneScope (fun _ => rfl) member]

end Bucket

theorem plannedResult?_eq_none
    {planned : List Aggregation}
    {name : String}
    (unplanned : name ∉ planned.map Aggregation.name)
    (result : Value) :
    plannedResult? planned name result = none := by
  induction planned with
  | nil => rfl
  | cons node rest step =>
      rw [List.map_cons, List.mem_cons, not_or] at unplanned
      rw [plannedResult?, if_neg fun same => unplanned.1 same.symm,
        step unplanned.2]

theorem bucketKey_pruneScope
    {planned : List Aggregation}
    (unplanned : "key" ∉ planned.map Aggregation.name)
    (bucket : Members) :
    bucketKey (pruneScope bucketMembers planned bucket) = bucketKey bucket := by
  have member : "key" ∈ bucketMembers := by simp [bucketMembers]
  have found : itemAt? "key" (pruneScope bucketMembers planned bucket) =
      (itemAt? "key" bucket).map id := by
    apply itemAt?_pruneMembers
    intro value
    rw [plannedResult?_eq_none unplanned, if_pos member, Option.none_or, id]
  rw [bucketKey, bucketKey, found, Option.map_id, id]

/-- The column of a level stays as it is, on a date always, and on a field if
nothing inside is named like the key. -/
theorem groupKey_pruneScope
    {planned : List Aggregation}
    {group : Grouping}
    (unplanned :
      ∀ field label, group = .byField field label →
        "key" ∉ planned.map Aggregation.name)
    (bucket : Members) :
    groupKey (pruneScope bucketMembers planned bucket) group =
      groupKey bucket group := by
  cases group with
  | byField field label =>
      have key := bucketKey_pruneScope (unplanned field label rfl) bucket
      rw [groupKey, groupKey, fieldKey, fieldKey, key,
        bucketKeyText?_pruneScope]
  | byTime field label granularity =>
      rw [groupKey, groupKey, timeKey?_pruneScope]

/-! ## Rows -/

/-- No level on a field is directly above one that is labelled
like the key of a bucket. -/
def KeysApart (groups : List Grouping) : Prop :=
  groups.IsChain fun above below =>
    ∀ field label, above = .byField field label → below.label ≠ "key"

theorem itemAt?_pruneScope
    (kept : List String)
    (delivery : Delivery)
    (innermost : List Aggregation)
    (group : Grouping)
    (rest : List Grouping)
    (scope : Members) :
    itemAt? group.label
        (pruneScope kept
          (nestLevels delivery innermost (group :: rest)) scope) =
      (itemAt? group.label scope).map
        (overBuckets
          (pruneScope bucketMembers (nestLevels delivery innermost rest))) := by
  apply itemAt?_pruneMembers
  intro value
  have pruned :
      (Aggregation.node group.label (group.kind delivery)
        (nestLevels delivery innermost rest)).prune value =
        overBuckets
          (pruneScope bucketMembers (nestLevels delivery innermost rest))
            value := by
    cases group with
    | byField field label => rfl
    | byTime field label granularity => rfl
  rw [nestLevels, plannedResult?, Aggregation.name, if_pos rfl, pruned,
    Option.some_or]

theorem bucketsOf_pruneScope
    (kept : List String)
    (delivery : Delivery)
    (innermost : List Aggregation)
    (group : Grouping)
    (rest : List Grouping)
    (scope : Members) :
    bucketsOf
      (pruneScope kept (nestLevels delivery innermost (group :: rest)) scope)
        group.label =
      (bucketsOf scope group.label).map
        (pruneScope bucketMembers (nestLevels delivery innermost rest)) :=
  bucketsOf_eq_map (itemAt?_pruneScope kept delivery innermost group rest scope)

theorem plannedResult?_statistics
    {fields : List String}
    {field : String}
    (member : field ∈ fields)
    (result : Value) :
    plannedResult? (fields.map Aggregation.statistics)
        (statisticsName field) result =
      some result := by
  induction fields with
  | nil => cases member
  | cons other rest step =>
      rw [List.map_cons, plannedResult?]
      split
      · rfl
      · rename_i different
        rcases List.mem_cons.1 member with rfl | later
        · exact absurd rfl different
        · exact step later

theorem notMem_nestLevels
    {name : String}
    (unmarked : name.toList.head? ≠ some '_')
    {groups : List Grouping}
    (unlabelled : ∀ group ∈ groups.head?, group.label ≠ name)
    (delivery : Delivery)
    (fields : List String) :
    name ∉
      (nestLevels delivery (fields.map Aggregation.statistics) groups).map
        Aggregation.name := by
  cases groups with
  | nil =>
      rw [nestLevels, List.map_map]
      intro member
      rcases List.mem_map.1 member with ⟨field, -, rfl⟩
      exact unmarked
        (by simp [Aggregation.statistics, Aggregation.name, statisticsName])
  | cons group rest =>
      rw [nestLevels, List.map_singleton, List.mem_singleton]
      exact fun same => unlabelled group rfl same.symm

/-- A scope without what is not planned in it is read alike. -/
theorem readAlike_pruneScope
    {groups : List Grouping}
    (apart : KeysApart groups)
    (query : Query)
    (delivery : Delivery)
    (kept : List String)
    (scope : Members) :
    ReadAlike query groups
      (pruneScope kept
        (nestLevels delivery (query.measuredFields.map Aggregation.statistics)
          groups) scope)
      scope := by
  induction groups generalizing kept scope with
  | nil =>
      intro field measured
      have found :
          itemAt? (statisticsName field)
              (pruneScope kept
                (query.measuredFields.map Aggregation.statistics) scope) =
            (itemAt? (statisticsName field) scope).map id := by
        apply itemAt?_pruneMembers
        intro value
        rw [plannedResult?_statistics measured, Option.some_or, id]
      rw [nestLevels, found, Option.map_id, id]
  | cons group rest step =>
      rw [ReadAlike, bucketsOf_pruneScope, List.forall₂_map_left_iff,
        List.forall₂_same]
      intro bucket _
      refine ⟨groupKey_pruneScope ?_ bucket, bucketCount_pruneScope _ bucket,
        step apart.tail bucketMembers bucket⟩
      intro field label onField
      refine notMem_nestLevels (by decide) (fun below next => ?_) delivery
        query.measuredFields
      exact (List.isChain_cons.1 apart).1 below next field label onField

/-! ## Keys that are results -/

section Mixed

variable {query : Query}

/-- The result of a level with a single bucket. -/
def singleBucket
    (name : String)
    (bucket : Members) :
    String × Value :=
  (name, .object [("buckets", .array [.object bucket])])

/-- Buckets inside each other, each beside a member that nothing asks for. -/
def nestedBuckets : List Grouping → Members
  | [] => [("", .null)]
  | group :: rest =>
    [singleBucket group.label (nestedBuckets rest), ("", .null)]

theorem bucketsOf_singleBucket
    (name : String)
    (bucket others : Members) :
    bucketsOf (singleBucket name bucket :: others) name = [bucket] := by
  simp [bucketsOf, singleBucket, itemAt?, Value.get?, Value.asArray?,
    Value.asObject?]

theorem length_flattenLevels_nestedBuckets
    (steps : List Step)
    (groups : List Grouping) :
    (flattenLevels query steps (nestedBuckets groups) groups).length = 1 := by
  induction groups generalizing steps with
  | nil => rfl
  | cons group rest step =>
      rw [nestedBuckets, flattenLevels, bucketsOf_singleBucket,
        List.flatMap_singleton]
      exact step _

theorem empty_mem_nestedBuckets (groups : List Grouping) :
    "" ∈ (nestedBuckets groups).map Prod.fst := by
  cases groups <;> simp [nestedBuckets]

/-- What nothing asks for is deleted from the innermost of these buckets. -/
theorem pruneScope_nestedBuckets_ne
    {groups : List Grouping}
    (named : ∀ group ∈ groups, Named group.label)
    (delivery : Delivery)
    (fields : List String) :
    pruneScope bucketMembers
        (nestLevels delivery (fields.map Aggregation.statistics) groups)
        (nestedBuckets groups) ≠
      nestedBuckets groups := by
  have unlabelled : ∀ group ∈ groups.head?, group.label ≠ "" := by
    intro group first blank
    have label := named group (List.mem_of_mem_head? first)
    rw [blank] at label
    cases label
  have unplanned := notMem_nestLevels (by decide) unlabelled delivery fields
  have dropped :
      "" ∉ (pruneScope bucketMembers
        (nestLevels delivery (fields.map Aggregation.statistics) groups)
        (nestedBuckets groups)).map Prod.fst := by
    apply notMem_pruneMembers
    intro value
    rw [plannedResult?_eq_none unplanned, if_neg (by simp [bucketMembers]),
      Option.none_or]
  intro same
  rw [same] at dropped
  exact dropped (empty_mem_nestedBuckets groups)

/-- The steps taken are in every row below. -/
theorem get?_of_mem_flattenLevels
    (accepted : query.Accepted)
    {groups : List Grouping}
    {taken : List Step}
    (aligned : taken.length + groups.length = query.groups.length)
    {scope : Members}
    {row : Row}
    (member : row ∈ flattenLevels query taken scope groups)
    {level : Nat}
    {group : Grouping}
    {step : Step}
    (grouped : query.groups[level]? = some group)
    (reached : taken[level]? = some step) :
    row.get? group.label = some step.key := by
  rw [flattenLevels_eq_map] at member
  rcases List.mem_map.1 member with ⟨path, within, rfl⟩
  have complete :
      (taken ++ stepsOf groups path).length = query.groups.length := by
    rw [List.length_append, length_stepsOf (mem_pathsFrom.1 within).length_eq,
      aligned]
  apply get?_leafRow_group accepted complete _ grouped
  rw [List.getElem?_append_left (List.getElem?_eq_some_iff.1 reached).1,
    reached]

theorem flattenLevels_ne
    (accepted : query.Accepted)
    {above : Grouping}
    {rest : List Grouping}
    {left right : List Step}
    (remaining : query.groups.drop left.length = above :: rest)
    (same : left.length = right.length)
    {one other : Step}
    (different : one.key ≠ other.key)
    {scope around : Members}
    (inhabited : flattenLevels query (right ++ [other]) around rest ≠ []) :
    flattenLevels query (left ++ [one]) scope rest ≠
      flattenLevels query (right ++ [other]) around rest := by
  intro rows
  rcases List.exists_mem_of_ne_nil _ inhabited with ⟨row, last⟩
  have first : row ∈ flattenLevels query (left ++ [one]) scope rest :=
    rows ▸ last
  have grouped : query.groups[left.length]? = some above :=
    getElem?_of_drop_eq_cons remaining
  have aligned : left.length + 1 + rest.length = query.groups.length := by
    have count := congrArg List.length remaining
    have within := (List.getElem?_eq_some_iff.1 grouped).1
    rw [List.length_drop, List.length_cons] at count
    omega
  have here : (right ++ [other])[left.length]? = some other := by
    rw [same, List.getElem?_concat_length]
  have lefts :=
    get?_of_mem_flattenLevels accepted (by simpa using aligned) first grouped
    List.getElem?_concat_length
  have rights :=
    get?_of_mem_flattenLevels accepted (by simpa [← same] using aligned) last
    grouped here
  rw [lefts, Option.some.injEq] at rights
  exact different rights

theorem fieldKey_of_object
    {bucket members : Members}
    (key : bucketKey bucket = .object members) :
    fieldKey bucket = .object members := by
  rw [fieldKey, key]

/-- Below a level on a field, what nothing asks for inside a level that is
labelled like the key shows in the column of the field. -/
theorem groupKey_nestedBuckets_ne
    (field label : String)
    {below : Grouping}
    {more : List Grouping}
    (mixed : below.label = "key")
    (named : ∀ group ∈ more, Named group.label)
    (delivery : Delivery)
    (fields : List String) :
    groupKey
        (pruneScope bucketMembers
          (nestLevels delivery (fields.map Aggregation.statistics)
            (below :: more))
          (nestedBuckets (below :: more)))
        (.byField field label) ≠
      groupKey (nestedBuckets (below :: more)) (.byField field label) := by
  let inside := nestLevels delivery (fields.map Aggregation.statistics) more
  have found : itemAt? "key" (nestedBuckets (below :: more)) =
      some (.object [("buckets", .array [.object (nestedBuckets more)])]) := by
    rw [nestedBuckets, mixed]
    rfl
  have left := itemAt?_pruneScope bucketMembers delivery
    (fields.map Aggregation.statistics) below more
      (nestedBuckets (below :: more))
  rw [mixed, found] at left
  have whole : bucketKey (nestedBuckets (below :: more)) =
      .object [("buckets", .array [.object (nestedBuckets more)])] := by
    rw [bucketKey, found, Option.getD_some]
  have pruned : bucketKey
        (pruneScope bucketMembers
          (nestLevels delivery (fields.map Aggregation.statistics)
            (below :: more))
          (nestedBuckets (below :: more))) =
      .object
        [("buckets",
          .array
            [.object
              (pruneScope bucketMembers inside (nestedBuckets more))])] := by
    rw [bucketKey, left]
    rfl
  rw [groupKey, groupKey, fieldKey_of_object pruned, fieldKey_of_object whole]
  intro same
  simp only [Value.object.injEq, Value.array.injEq, List.cons.injEq,
    Prod.mk.injEq, and_true, true_and] at same
  exact pruneScope_nestedBuckets_ne named delivery fields same

/-- If keys are apart below a level but not with it, the level is on a field and
directly above one labelled like the key. -/
theorem exists_key_of_not_keysApart
    {group : Grouping}
    {rest : List Grouping}
    (apart : KeysApart rest)
    (mixed : ¬ KeysApart (group :: rest)) :
    ∃ field label below more,
      group = .byField field label ∧ rest = below :: more ∧
        below.label = "key" := by
  rw [KeysApart, List.isChain_cons] at mixed
  by_contra other
  refine mixed ⟨fun below next field label onField key => other ?_, apart⟩
  rcases List.head?_eq_some_iff.1 next with ⟨more, rfl⟩
  exact ⟨field, label, below, more, onField, rfl, key⟩

/-- Where a level on a field is above one labelled like the key, there are
buckets whose rows do not stay as they are. -/
theorem exists_flattenLevels_ne
    (accepted : query.Accepted)
    (delivery : Delivery)
    (fields : List String)
    {groups : List Grouping}
    (mixed : ¬ KeysApart groups)
    (named : ∀ group ∈ groups, Named group.label) :
    ∃ scope, ∀ (kept : List String) (left right : List Step),
      query.groups.drop left.length = groups → left.length = right.length →
        flattenLevels query left
            (pruneScope kept
              (nestLevels delivery (fields.map Aggregation.statistics) groups)
                scope) groups ≠
          flattenLevels query right scope groups := by
  induction groups with
  | nil => exact absurd List.isChain_nil mixed
  | cons group rest step =>
      by_cases apart : KeysApart rest
      · -- The level itself is above one labelled like the key.
        obtain ⟨field, label, below, more, rfl, rfl, key⟩ :=
          exists_key_of_not_keysApart apart mixed
        let bucket := nestedBuckets (below :: more)
        refine ⟨[singleBucket label bucket],
          fun kept left right remaining same rows => ?_⟩
        have top (bucket : Members) :
            bucketsOf [singleBucket label bucket]
                (Grouping.byField field label).label =
              [bucket] := bucketsOf_singleBucket label bucket []
        rw [flattenLevels, flattenLevels, bucketsOf_pruneScope, top,
          List.map_singleton, List.flatMap_singleton, List.flatMap_singleton]
          at rows
        refine flattenLevels_ne accepted remaining same ?_
          (List.ne_nil_of_length_eq_add_one
            (length_flattenLevels_nestedBuckets _ _)) rows
        exact groupKey_nestedBuckets_ne field label key
          (fun deeper member => named deeper (by simp [member])) delivery fields
      · -- The keys above may already differ, so the steps taken are not
        -- assumed to be equal.
        obtain ⟨inner, different⟩ := step apart fun group member =>
          named group (List.mem_cons_of_mem _ member)
        refine ⟨[singleBucket group.label inner],
          fun kept left right remaining same => ?_⟩
        rw [flattenLevels, flattenLevels, bucketsOf_pruneScope,
          bucketsOf_singleBucket, List.map_singleton, List.flatMap_singleton,
          List.flatMap_singleton]
        apply different
        · exact drop_length_concat remaining _
        · rw [List.length_append, List.length_append, same]
          rfl

/-- What the plan does not ask for can be deleted from every answer
exactly if no level on a field is directly above one that is labelled
like the key of a bucket. -/
theorem flattenResponse_pruned_iff
    (accepted : query.Accepted)
    (aggregated : query.isAggregate = true) :
    (∀ response,
      flattenResponse query (response.pruned query.plan) =
        flattenResponse query response) ↔
      KeysApart query.groups := by
  constructor
  · intro unchanged
    by_contra mixed
    have grouped : query.groups ≠ [] := fun ungrouped =>
      mixed (by rw [ungrouped]; exact List.isChain_nil)
    obtain ⟨scope, different⟩ :=
      exists_flattenLevels_ne accepted query.plan.delivery
      query.measuredFields mixed fun group member =>
        (accepted.groups group member).2
    let response : SearchResponse :=
      { took := 0
        timedOut := false
        scrollId := none
        total := 0
        hits := []
        aggregations := scope }
    have rows := unchanged response
    rw [accepted.flattenResponse_eq_flattenLevels grouped,
      accepted.flattenResponse_eq_flattenLevels grouped] at rows
    exact different [] [] [] rfl rfl rows
  · intro apart response
    apply accepted.flattenResponse_congr aggregated
    · intro counts
      have planned : query.plan.totalHits = true := counts
      rw [SearchResponse.pruned, if_pos planned]
    · exact readAlike_pruneScope apart query query.plan.delivery []
        response.aggregations

end Mixed

/-! ## A level labelled like the key -/

/-- A level labelled like the key of a bucket below a level on a field. -/
def hostKeys : Query :=
  { Query.ofTable "db" "t" with
      groups := [.byField "host" "host", .byField "status" "key"] }

/-- A result of the inner level that holds something nobody asked for. -/
def keyedBuckets : SearchResponse :=
  { took := 0
    timedOut := false
    scrollId := none
    total := 0
    hits := []
    aggregations :=
      [singleBucket "host"
        [singleBucket "key" [("key", .string "ok"), ("junk", .object [])],
          ("doc_count", .ofWord 2)]] }

/-- The result of the inner level is the key in the column of the outer one,
with everything that is in it. -/
theorem key_column_holds_unplanned :
    hostKeys.check = .ok () ∧ hostKeys.isAggregate = true ∧
      Plan.ofQuery hostKeys = .ok hostKeys.plan ∧
        flattenResponse hostKeys (keyedBuckets.pruned hostKeys.plan) ≠
          flattenResponse hostKeys keyedBuckets := by
  refine ⟨rfl, rfl, rfl, fun same => ?_⟩
  have whole : (flattenResponse hostKeys keyedBuckets).map Row.entries =
      [[singleBucket "host" [("key", .string "ok"), ("junk", .object [])],
        ("key", .string "ok")]] := rfl
  have pruned :
      (flattenResponse hostKeys (keyedBuckets.pruned hostKeys.plan)).map
          Row.entries =
        [[singleBucket "host" [("key", .string "ok")],
          ("key", .string "ok")]] := rfl
  rw [same, whole] at pruned
  cases pruned

end TabularSearch
