import Mathlib.Data.List.Induction
import TabularSearch.Proofs.Url.Encode
import TabularSearch.Url.Reader

/-!
# The segments of a path

The text of a path is split into its segments again, as long as no segment holds
a slash.  Addresses of the web that are read have such segments only, and none
holds a question mark either, so that their path ends where the query begins.
-/

namespace TabularSearch.Url

/-! ## Splitting -/

section Split

variable {separator : Char}

theorem splitAt_ne_nil (text : List Char) : splitAt separator text ≠ [] := by
  cases text with
  | nil => exact List.cons_ne_nil _ _
  | cons character rest =>
      rw [splitAt, List.foldr_cons]
      split
      · exact List.cons_ne_nil _ _
      · split <;> exact List.cons_ne_nil _ _

theorem splitAt_separator (rest : List Char) :
    splitAt separator (separator :: rest) = [] :: splitAt separator rest := by
  rw [splitAt, List.foldr_cons, if_pos rfl, splitAt]

theorem splitAt_other
    {character : Char}
    (other : character ≠ separator)
    {rest part : List Char}
    {parts : List (List Char)}
    (split : splitAt separator rest = part :: parts) :
    splitAt separator (character :: rest) = (character :: part) :: parts := by
  rw [splitAt] at split
  rw [splitAt, List.foldr_cons, if_neg other, split]

/-- A text is split at a separator in it. -/
theorem splitAt_append (front back : List Char) :
    splitAt separator (front ++ separator :: back) =
      splitAt separator front ++ splitAt separator back := by
  induction front with
  | nil => exact splitAt_separator back
  | cons character rest step =>
      by_cases same : character = separator
      · rw [same, List.cons_append, splitAt_separator, step, splitAt_separator,
          List.cons_append]
      · obtain ⟨part, parts, split⟩ :=
          List.exists_cons_of_ne_nil (splitAt_ne_nil rest)
        rw [split, List.cons_append] at step
        rw [List.cons_append, splitAt_other same step, splitAt_other same split,
          List.cons_append]

theorem splitAt_of_not_mem
    {text : List Char}
    (absent : separator ∉ text) :
    splitAt separator text = [text] := by
  induction text with
  | nil => rfl
  | cons character rest step =>
      rw [List.mem_cons, not_or] at absent
      exact splitAt_other (Ne.symm absent.1) (step absent.2)

theorem not_mem_of_mem_splitAt
    {text part : List Char}
    (found : part ∈ splitAt separator text) :
    separator ∉ part := by
  induction text generalizing part with
  | nil =>
      rw [List.mem_singleton.1 found]
      exact List.not_mem_nil
  | cons character rest step =>
      by_cases same : character = separator
      · rw [same, splitAt_separator, List.mem_cons] at found
        rcases found with rfl | later
        · exact List.not_mem_nil
        · exact step later
      · obtain ⟨first, parts, split⟩ :=
          List.exists_cons_of_ne_nil (splitAt_ne_nil rest)
        rw [splitAt_other same split, List.mem_cons] at found
        rcases found with rfl | later
        · rw [List.mem_cons, not_or]
          exact ⟨Ne.symm same, step (split ▸ List.mem_cons_self)⟩
        · exact step (split ▸ List.mem_cons_of_mem _ later)

end Split

/-! ## Path texts -/

/-- A segment holds no character that ends a segment or a path. -/
def IsSegment (segment : String) : Prop :=
  '/' ∉ segment.toList ∧ '?' ∉ segment.toList

theorem IsSegment.empty : IsSegment "" :=
  ⟨List.not_mem_nil, List.not_mem_nil⟩

theorem IsSegment.ofEncoded
    {inSet : Char → Bool}
    (question : inSet '?' = true)
    {text : List Char}
    (apart : '/' ∈ text → inSet '/' = true) :
    IsSegment (.ofList (encode inSet text)) := by
  rw [IsSegment, String.toList_ofList]
  exact ⟨not_mem_encode (by decide) apart, not_mem_encode (by decide) fun _ =>
    question⟩

/-- The parts of an address's path between its slashes. -/
def textSegments (url : Url) : List (List Char) :=
  (splitAt '/' url.path.text.toList).drop 1

theorem Path.toList_text (segments : List String) :
    (Path.segments segments).text.toList =
      segments.flatMap fun segment => '/' :: segment.toList := by
  simp [Path.text, String.toList_join, List.flatMap_map]

/-- The segments are told from the text of their path. -/
theorem splitAt_text
    {segments : List String}
    (apart : ∀ segment ∈ segments, IsSegment segment) :
    splitAt '/' (Path.segments segments).text.toList =
      [] :: segments.map String.toList := by
  rw [Path.toList_text]
  induction segments using List.reverseRecOn with
  | nil => rfl
  | append_singleton front segment step =>
      rw [List.forall_mem_append, List.forall_mem_singleton] at apart
      rw [List.flatMap_append, List.flatMap_singleton, splitAt_append,
        step apart.1, splitAt_of_not_mem apart.2.1, List.cons_append,
        List.map_append, List.map_singleton]

theorem textSegments_eq
    {url : Url}
    {segments : List String}
    (path : url.path = .segments segments)
    (apart : ∀ segment ∈ segments, IsSegment segment) :
    url.textSegments = segments.map String.toList := by
  rw [textSegments, path, splitAt_text apart, List.drop_one, List.tail_cons]

theorem segments_eq_of_text_eq
    {segments others : List String}
    (apart : ∀ segment ∈ segments, IsSegment segment)
    (apart' : ∀ segment ∈ others, IsSegment segment)
    (same : (Path.segments segments).text = (Path.segments others).text) :
    segments = others := by
  have split := splitAt_text apart
  rw [same, splitAt_text apart'] at split
  exact (List.map_inj_right fun _ _ => String.toList_injective).1
    (List.cons.inj split).2 |>.symm

theorem not_mem_text
    {segments : List String}
    (apart : ∀ segment ∈ segments, IsSegment segment) :
    '?' ∉ (Path.segments segments).text.toList := by
  rw [Path.toList_text]
  intro found
  obtain ⟨segment, among, here⟩ := List.mem_flatMap.1 found
  rcases List.mem_cons.1 here with wrong | inside
  · exact absurd wrong (by decide)
  · exact (apart segment among).2 inside

/-! ## Addresses that are read -/

section Added

variable {kind : SchemeKind} {Holds : String → Prop}

theorem forall_mem_withoutLast
    {path : List String}
    (before : ∀ segment ∈ path, Holds segment) :
    ∀ segment ∈ withoutLast path, Holds segment := by
  intro segment found
  rw [withoutLast] at found
  split at found
  · split at found
    · exact before segment found
    · exact before segment (List.dropLast_subset path found)
  · exact before segment found

/-- What holds of the empty segment, of a path and of the parts added to it
holds of the whole path. -/
theorem forall_mem_addSegments
    (web : kind = .web)
    (empty : Holds "")
    {parts : List (List Char)}
    (added : ∀ part ∈ parts, Holds (.ofList part))
    {path : List String}
    (before : ∀ segment ∈ path, Holds segment) :
    ∀ segment ∈ addSegments kind path parts, Holds segment := by
  induction parts generalizing path with
  | nil => exact before
  | cons part rest step =>
      rw [List.forall_mem_cons] at added
      have closed {shorter : List String}
        (kept : ∀ segment ∈ shorter, Holds segment) :
          ∀ segment ∈ if rest.isEmpty = true then shorter ++ [""] else shorter,
            Holds segment := by
        split
        · rw [List.forall_mem_append, List.forall_mem_singleton]
          exact ⟨kept, empty⟩
        · exact kept
      rw [addSegments]
      split
      · exact step added.2 (closed (forall_mem_withoutLast before))
      · split
        · exact step added.2 (closed before)
        · refine step added.2 ?_
          rw [List.forall_mem_append, List.forall_mem_singleton, segmentText,
            if_neg (by simp [web])]
          exact ⟨before, added.1⟩

theorem isSegment_of_mem_readSegments
    (web : kind = .web)
    (text : List Char) :
    ∀ segment ∈ readSegments kind text, IsSegment segment := by
  refine forall_mem_addSegments web .empty ?_ (List.forall_mem_nil _)
  intro part found
  obtain ⟨source, among, rfl⟩ := List.mem_map.1 found
  have split : source ∈ pathParts kind text := by
    split at among
    next first rest parts =>
      rw [parts]
      exact List.mem_cons_of_mem _ among
    next => exact among
  exact .ofEncoded rfl fun slash => absurd slash (not_mem_of_mem_splitAt split)

end Added

theorem readHierarchy?_web
    {scheme : String}
    (web : SchemeKind.ofScheme scheme = .web)
    {text : List Char}
    {followed : Bool}
    {authority : Option Authority}
    {path : Path}
    (found : readHierarchy? scheme text followed = some (authority, path)) :
    authority.isSome = true ∧
      ∃ segments, path = .segments segments ∧ ∀ segment ∈ segments,
        IsSegment segment := by
  simp only [readHierarchy?, web, readWithAuthority?, Option.map_eq_some_iff,
    Option.bind_eq_bind, Option.bind_eq_some_iff, Option.pure_def,
    Option.some.injEq, Prod.mk.injEq] at found
  obtain ⟨_, ⟨⟨asked, more⟩, -, rfl⟩, rfl, rfl⟩ := found
  refine ⟨rfl, _, rfl, ?_⟩
  rw [if_neg (by simp)]
  exact isSegment_of_mem_readSegments rfl _

/-- An address of the web: somebody is asked, for a path of segments. -/
structure IsWeb (url : Url) (path : List String) : Prop where
  kind : SchemeKind.ofScheme url.scheme = .web
  located : url.authority.isSome = true
  path_eq : url.path = .segments path
  apart : ∀ segment ∈ path, IsSegment segment

theorem isWeb_of_read?
    {text : String}
    {url : Url}
    (read : read? text = some url)
    (web : SchemeKind.ofScheme url.scheme = .web) :
    ∃ path, IsWeb url path := by
  simp only [read?, Option.bind_eq_bind, Option.bind_eq_some_iff,
    Option.pure_def, Option.some.injEq] at read
  obtain ⟨⟨scheme, rest⟩, -, ⟨authority, path⟩, found, rfl⟩ := read
  obtain ⟨located, segments, rfl, apart⟩ := readHierarchy?_web web found
  exact ⟨segments, web, located, rfl, apart⟩

end TabularSearch.Url
