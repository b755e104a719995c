import TabularSearch.Filter.Basic

/-!
# What a sent filter says of a document

The backend sees a filter only in the form in which it is sent.  `verdict?`
reads that form by the backend's rules: the four kinds of leaves are decided by
what the backend knows of the document, and a boolean query counts the verdicts
on its parts.  A form that the rules do not cover has no verdict.

`Filter.holds` is the meaning of a filter before it is written,
and `verdict?_toValue` says that writing a filter neither
changes nor loses its meaning.
-/

namespace TabularSearch

open TabularSearch.Json

/-- How a backend decides the leaves of a filter for its documents. -/
structure Leaves (Document : Type) where
  term : String → Value → Document → Bool
  present : String → Document → Bool
  /-- By the field, the key of the bound and its value. -/
  range : String → String → Value → Document → Bool
  pattern : String → String → Document → Bool

namespace Leaves

variable {Document : Type} (leaves : Leaves Document) (document : Document)

/-- The verdict on a leaf with a name and a body. -/
def verdict?
    (name : String)
    (body : Value) :
    Option Bool :=
  match name with
  | "term" =>
    match body with
    | .object [(field, value)] => some (leaves.term field value document)
    | _ => none
  | "exists" =>
    match body with
    | .object [("field", .string field)] => some (leaves.present field document)
    | _ => none
  | "range" =>
    match body with
    | .object [(field, .object [(bound, value)])] =>
      some (leaves.range field bound value document)
    | _ => none
  | "regexp" =>
    match body with
    | .object [(field, .string expression)] =>
      some (leaves.pattern field expression document)
    | _ => none
  | _ => none

end Leaves

/-- The verdicts on the parts of a boolean query; a group that
is not sent is none. -/
structure Ballot where
  must : Option (List Bool)
  should : Option (List Bool)
  mustNot : Option (List Bool)
  minimum : Option UInt64

namespace Ballot

/-- Rules without any part. -/
def empty : Ballot :=
  { must := none, should := none, mustNot := none, minimum := none }

/-- How many of the optional parts have to match.  Where the query does
not say, none has to beside required parts, and one has to where the
optional parts stand alone. -/
def least (ballot : Ballot) : Nat :=
  match ballot.minimum with
  | some minimum => minimum.toNat
  | none => if ballot.must.isSome || ballot.should.isNone then 0 else 1

/-- The verdicts on a group of parts put under the name of the group. -/
def put?
    (name : String)
    (verdicts : List Bool)
    (ballot : Ballot) :
    Option Ballot :=
  match name with
  | "must" => some { ballot with must := some verdicts }
  | "should" => some { ballot with should := some verdicts }
  | "must_not" => some { ballot with mustNot := some verdicts }
  | _ => none

/-- All required parts match, no excluded one does, and enough
of the optional ones. -/
def verdict (ballot : Ballot) : Bool :=
  (ballot.must.getD []).all id &&
    decide (ballot.least ≤ (ballot.should.getD []).count true) &&
    !(ballot.mustNot.getD []).any id

theorem one_le_count_true (verdicts : List Bool) :
    decide (1 ≤ verdicts.count true) = verdicts.any id := by
  rw [Bool.eq_iff_iff, decide_eq_true_iff, List.one_le_count_iff,
    List.any_eq_true]
  constructor
  · exact fun member => ⟨true, member, rfl⟩
  · rintro ⟨verdict, member, holds⟩
    cases holds
    exact member

end Ballot

section Reading

variable {Document : Type} (leaves : Leaves Document) (document : Document)

mutual

/-- The verdict on a filter as it is sent. -/
def verdict? : Value → Option Bool
  | .object [("match_all", _)] => some true
  | .object [("match_none", _)] => some false
  | .object [("bool", .object members)] => (ballot? members).map Ballot.verdict
  | .object [(name, body)] => leaves.verdict? document name body
  | _ => none

/-- The verdicts of several queries, if all have one. -/
def verdicts? : List Value → Option (List Bool)
  | [] => some []
  | query :: rest =>
    match verdict? query, verdicts? rest with
    | some verdict, some verdicts => some (verdict :: verdicts)
    | _, _ => none

/-- The verdicts on the members of a boolean query. -/
def ballot? : List (String × Value) → Option Ballot
  | [] => some .empty
  | (name, .array queries) :: rest =>
    match verdicts? queries, ballot? rest with
    | some verdicts, some ballot => ballot.put? name verdicts
    | _, _ => none
  | ("minimum_should_match", .number written) :: rest =>
    match written.toWord?, ballot? rest with
    | some minimum, some ballot => some { ballot with minimum := some minimum }
    | _, _ => none
  | _ => none

end

end Reading

namespace Filter

variable {Document : Type} (leaves : Leaves Document) (document : Document)

mutual

/-- Whether a filter matches a document. -/
def holds : Filter → Bool
  | .everything => true
  | .nothing => false
  | .term field value => leaves.term field value document
  | .present field => leaves.present field document
  | .range field bound value => leaves.range field bound.key value document
  | .pattern field expression => leaves.pattern field expression document
  | .clauses must should mustNot =>
    (truths must).all id && (should.isEmpty || (truths should).any id) &&
      !(truths mustNot).any id

/-- Which of some filters match a document. -/
def truths : List Filter → List Bool
  | [] => []
  | filter :: rest => filter.holds :: truths rest

end

theorem truths_eq_map (filters : List Filter) :
    truths leaves document filters = filters.map (holds leaves document) := by
  induction filters with
  | nil => rfl
  | cons filter rest step => simp [truths, step]

/-- A group of parts is sent unless it is empty, and counts under its name. -/
theorem ballot?_groupMember
    {queries : List Value}
    {verdicts : List Bool}
    (judged : verdicts? leaves document queries = some verdicts)
    {rest : Members}
    {ballot : Ballot}
    (others : ballot? leaves document rest = some ballot)
    (name : String) :
    ballot? leaves document (groupMember name queries ++ rest) =
      if queries = [] then some ballot else ballot.put? name verdicts := by
  cases queries with
  | nil => simpa [groupMember] using others
  | cons query more => simp [groupMember, ballot?, judged, others]

theorem ballot?_minimumMember (should : List Filter) :
    ballot? leaves document (minimumMember should) =
      some { Ballot.empty with
        minimum := if should = [] then none else some 1 } := by
  cases should <;> rfl

/-- The truths of a group of parts, where the group is sent. -/
def sentTruths (filters : List Filter) : Option (List Bool) :=
  if filters.isEmpty then none else some (truths leaves document filters)

/-- What a boolean node's members come to when they are read back. -/
def ballotOf (must should mustNot : List Filter) : Ballot :=
  { must := sentTruths leaves document must
    should := sentTruths leaves document should
    mustNot := sentTruths leaves document mustNot
    minimum := if should = [] then none else some 1 }

/-- The groups are read from the last member to the first. -/
theorem ballot?_clauses
    {must should mustNot : List Filter}
    (required :
      verdicts? leaves document (toValues must) =
        some (truths leaves document must))
    (optional :
      verdicts? leaves document (toValues should) =
        some (truths leaves document should))
    (excluded :
      verdicts? leaves document (toValues mustNot) =
        some (truths leaves document mustNot)) :
    ballot? leaves document
        (groupMember "must" (toValues must) ++
          groupMember "should" (toValues should) ++
            groupMember "must_not" (toValues mustNot) ++ minimumMember should) =
      some (ballotOf leaves document must should mustNot) := by
  have fromExcluded :
      ballot? leaves document
          (groupMember "must_not" (toValues mustNot) ++ minimumMember should) =
        some { ballotOf leaves document must should mustNot with
          must := none
          should := none } := by
    rw [ballot?_groupMember leaves document excluded
      (ballot?_minimumMember leaves document should)]
    cases mustNot <;>
      simp [toValues, ballotOf, sentTruths, Ballot.put?, Ballot.empty]
  have fromOptional :
      ballot? leaves document
          (groupMember "should" (toValues should) ++
            (groupMember "must_not" (toValues mustNot) ++
              minimumMember should)) =
        some { ballotOf leaves document must should mustNot with
          must := none } := by
    rw [ballot?_groupMember leaves document optional fromExcluded]
    cases should <;> simp [toValues, ballotOf, sentTruths, Ballot.put?]
  rw [List.append_assoc, List.append_assoc,
    ballot?_groupMember leaves document required fromOptional]
  cases must <;> simp [toValues, ballotOf, sentTruths, Ballot.put?]

/-- The ballot counts as the node's own meaning does: one optional part is
enough, and where no part is optional none is asked for. -/
theorem verdict_ballotOf (must should mustNot : List Filter) :
    (ballotOf leaves document must should mustNot).verdict =
      holds leaves document (.clauses must should mustNot) := by
  have sent : ∀ filters : List Filter,
      (sentTruths leaves document filters).getD [] =
        truths leaves document filters := by
    intro filters
    cases filters <;> rfl
  have least :
      (ballotOf leaves document must should mustNot).least =
        if should = [] then 0 else 1 := by
    cases should <;> simp [Ballot.least, ballotOf, sentTruths]
  rw [Ballot.verdict, least]
  cases should with
  | nil => simp [ballotOf, sent, holds]
  | cons filter rest =>
      rw [if_neg (List.cons_ne_nil filter rest), Ballot.one_le_count_true]
      simp [ballotOf, sent, holds]

mutual

/-- A filter as it is sent has the filter's own meaning as its verdict. -/
theorem verdict?_toValue :
    ∀ filter : Filter,
      verdict? leaves document filter.toValue =
        some (filter.holds leaves document)
  | .everything => rfl
  | .nothing => rfl
  | .term field value => by
    simp [toValue, single, verdict?, Leaves.verdict?, holds]
  | .present field => by
    simp [toValue, single, verdict?, Leaves.verdict?, holds]
  | .range field bound value => by
    simp [toValue, single, verdict?, Leaves.verdict?, holds]
  | .pattern field expression => by
    simp [toValue, single, verdict?, Leaves.verdict?, holds]
  | .clauses must should mustNot => by
    have read := ballot?_clauses leaves document (verdicts?_toValues must)
      (verdicts?_toValues should) (verdicts?_toValues mustNot)
    simp only [toValue, single, verdict?, read, Option.map_some,
      verdict_ballotOf]

theorem verdicts?_toValues :
    ∀ filters : List Filter,
      verdicts? leaves document (toValues filters) =
        some (truths leaves document filters)
  | [] => rfl
  | filter :: rest => by
    simp [toValues, verdicts?, truths, verdict?_toValue filter,
      verdicts?_toValues rest]

end

end Filter

end TabularSearch
