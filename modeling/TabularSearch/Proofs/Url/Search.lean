import TabularSearch.Proofs.Url.Path
import TabularSearch.Url.Search

/-!
# Names added to a path

A plain name is put at the end of a path, encoded, and decodes to itself there.
Dots are left out or move along the path, also if tabs or line ends stand among
them, and other names lose their tabs and line ends.  As a name adds one segment
at most, a path that is as long as all names together make it has only got
segments; `plain_of_decoded` concludes that the names are found in it again only
if all of them are plain.
-/

namespace TabularSearch

namespace Url

/-! ## Dots -/

/-- Only a capital has another lower case. -/
theorem eq_or_capital_of_toLower_eq
    {character lower : Char}
    (same : character.toLower = lower) :
    character = lower ∨
      65 ≤ character.toNat ∧ lower.toNat = character.toNat + 32 := by
  delta Char.toLower at same
  split at same
  next capital =>
    subst same
    have above : 65 ≤ character.toNat := UInt32.le_iff_toNat_le.1 capital.1
    have below : character.toNat ≤ 90 := UInt32.le_iff_toNat_le.1 capital.2
    have sum :
        (character.val + 32).toNat = (character.toNat + 32) % 4294967296 :=
      UInt32.toNat_add _ _
    exact .inr ⟨above, sum.trans (by omega)⟩
  next => exact .inl same

theorem eq_of_toLower_eq
    {character lower : Char}
    (same : character.toLower = lower)
    (early : lower.toNat < 97) :
    character = lower := by
  rcases eq_or_capital_of_toLower_eq same with equal | ⟨capital, later⟩
  · exact equal
  · omega

/-- The spellings of a dot in lower case. -/
def dots : List (List Char) :=
  [['.'], ['%', '2', 'e']]

theorem decodeBytes_dot
    {spelling : List Char}
    (dot : spelling.map Char.toLower ∈ dots)
    (rest : List Char) :
    decodeBytes (spelling ++ rest) = 0x2E :: decodeBytes rest := by
  simp only [dots, List.mem_cons, List.not_mem_nil, or_false,
    List.map_eq_cons_iff, List.map_eq_nil_iff] at dot
  rcases dot with ⟨point, _, rfl, pointed, rfl⟩ |
    ⟨percent, _, rfl, marked, high, _, rfl, two, low, _, rfl, fourteen, rfl⟩
  · obtain rfl := eq_of_toLower_eq pointed (by decide)
    exact decodeBytes_of_ne_percent (by decide) rest
  · obtain rfl := eq_of_toLower_eq marked (by decide)
    obtain rfl := eq_of_toLower_eq two (by decide)
    rcases eq_or_capital_of_toLower_eq fourteen with rfl | ⟨-, capital⟩
    · rfl
    · obtain rfl : low = 'E' :=
        Char.toNat_inj.1 (Nat.add_right_cancel capital.symm)
      rfl

theorem decodeBytes_of_isHere
    {segment : List Char}
    (here : isHere segment = true) :
    decodeBytes segment = utf8Bytes "." := by
  have dot : segment.map Char.toLower ∈ dots := by
    simpa [isHere, dots] using here
  have decoded := decodeBytes_dot dot []
  rw [List.append_nil] at decoded
  exact decoded

theorem decodeBytes_of_isParent
    {segment : List Char}
    (parent : isParent segment = true) :
    decodeBytes segment = utf8Bytes ".." := by
  have pair :
      ∃ front ∈ dots, ∃ back ∈ dots,
        segment.map Char.toLower = front ++ back := by
    simpa [isParent, dots, or_assoc] using parent
  obtain ⟨_, one, _, two, lower⟩ := pair
  obtain ⟨front, back, rfl, rfl, rfl⟩ := List.map_eq_append_iff.1 lower
  have last := decodeBytes_dot two []
  rw [List.append_nil] at last
  rw [decodeBytes_dot one, last]
  rfl

/-! ## Names -/

/-- A name that stands in a path as it is: it does not move along the path, and
nothing in it is dropped. -/
structure IsPlainName (name : String) : Prop where
  not_here : name ≠ "."
  not_parent : name ≠ ".."
  whole : ∀ character ∈ name.toList, character ∉ ['\t', '\n', '\r']

/-- The characters of a name that are not dropped. -/
def keptOf (name : String) : List Char :=
  name.toList.filter fun character => character ∉ ['\t', '\n', '\r']

theorem keptOf_eq_iff {name : String} :
    keptOf name = name.toList ↔ ∀ character ∈ name.toList,
      character ∉ ['\t', '\n', '\r'] := by
  rw [keptOf, List.filter_eq_self]
  simp only [decide_eq_true_eq]

/-- Whether a name is plain can be decided. -/
instance (name : String) : Decidable (IsPlainName name) :=
  decidable_of_iff (name ≠ "." ∧ name ≠ ".." ∧ keptOf name = name.toList)
    ⟨fun ⟨notHere, notParent, whole⟩ =>
      ⟨notHere, notParent, keptOf_eq_iff.1 whole⟩,
      fun plain =>
        ⟨plain.not_here, plain.not_parent, keptOf_eq_iff.2 plain.whole⟩⟩

/-- A name as it is written in a path. -/
def writtenName (name : String) : String :=
  .ofList (encode inSpecialSegment name.toList)

theorem decodeBytes_writtenName (name : String) :
    decodeBytes (writtenName name).toList = utf8Bytes name := by
  rw [writtenName, String.toList_ofList, decodeBytes_encode rfl, utf8Bytes]

theorem writtenName_injective : Function.Injective writtenName := by
  intro left right same
  apply utf8Bytes_inj
  rw [← decodeBytes_writtenName, same, decodeBytes_writtenName]

theorem writtenName_ne_empty
    {name : String}
    (named : name ≠ "") :
    writtenName name ≠ "" :=
  fun empty => named (writtenName_injective empty)

/-! ## Adding names to a path -/

/-- The path that a segment is put behind: a lone empty segment gives way. -/
def entered (path : List String) : List String :=
  if path = [""] then [] else path

theorem length_entered_le (path : List String) :
    (entered path).length ≤ path.length := by
  rw [entered]
  split
  · exact Nat.zero_le _
  · exact Nat.le_refl _

theorem entered_append
    {last : String}
    (named : last ≠ "")
    (path : List String) :
    entered (path ++ [last]) = path ++ [last] := by
  refine if_neg fun lone => named ?_
  exact (List.append_singleton_inj.1 (lone.trans (List.nil_append _).symm)).2

section Added

variable {scheme : String} {name : String} {names : List String}
  (web : SchemeKind.ofScheme scheme = .web)

include web

theorem addSegment_of_ne_dots
    (still : ¬(name = "." ∨ name = ".."))
    (path : List String) :
    addSegment scheme path name =
      if isParent (encode inSpecialSegment (keptOf name)) = true then
        withoutLast (entered path) ++ [""]
      else if isHere (encode inSpecialSegment (keptOf name)) = true then
        entered path ++ [""]
      else
        entered path ++ [.ofList (encode inSpecialSegment (keptOf name))] := by
  have set : inAddedSegment scheme = inSpecialSegment := by
    rw [inAddedSegment, web]
    rfl
  rw [addSegment, if_neg still]
  simp [web, set, addSegments, segmentText, keptOf, entered]

/-- A plain name is put at the end. -/
theorem addSegment_plain
    (plain : IsPlainName name)
    (path : List String) :
    addSegment scheme path name = entered path ++ [writtenName name] := by
  have kept := keptOf_eq_iff.2 plain.whole
  have decoded :
      decodeBytes (encode inSpecialSegment name.toList) = utf8Bytes name :=
    decodeBytes_encode rfl _
  rw [addSegment_of_ne_dots web (not_or.2 ⟨plain.not_here, plain.not_parent⟩),
    kept,
    if_neg fun parent =>
      plain.not_parent
        (utf8Bytes_inj (decoded.symm.trans (decodeBytes_of_isParent parent))),
    if_neg fun here =>
      plain.not_here
        (utf8Bytes_inj (decoded.symm.trans (decodeBytes_of_isHere here))),
    writtenName]

/-- Any other name does not make the path longer, or puts
something else at its end. -/
theorem addSegment_other
    (other : ¬IsPlainName name)
    (path : List String) :
    (entered (addSegment scheme path name)).length ≤ (entered path).length ∨
      ∃ last,
        addSegment scheme path name = entered path ++ [last] ∧
          decodeBytes last.toList ≠ utf8Bytes name := by
  by_cases moving : name = "." ∨ name = ".."
  · rw [addSegment, if_pos moving]
    exact .inl (Nat.le_refl _)
  · have cut : keptOf name ≠ name.toList := fun whole =>
      other ⟨(not_or.1 moving).1, (not_or.1 moving).2, keptOf_eq_iff.1 whole⟩
    have named : utf8Bytes "" ≠ utf8Bytes name := by
      intro empty
      obtain rfl := utf8Bytes_inj empty
      exact cut rfl
    rw [addSegment_of_ne_dots web moving]
    split
    next =>
      rw [withoutLast]
      split
      next last found =>
        split
        · exact .inr ⟨"", rfl, named⟩
        · have some : entered path ≠ [] := fun empty => by
            rw [empty] at found
            cases found
          have length := List.length_pos_iff.2 some
          refine .inl (Nat.le_trans (length_entered_le _) ?_)
          rw [List.length_append, List.length_dropLast, List.length_singleton]
          omega
      next none =>
        rw [List.getLast?_eq_none_iff.1 none]
        exact .inl (Nat.le_refl _)
    next =>
      split
      next => exact .inr ⟨"", rfl, named⟩
      next =>
        refine .inr ⟨_, rfl, ?_⟩
        rw [String.toList_ofList, decodeBytes_encode rfl]
        intro same
        have texts : String.ofList (keptOf name) = name :=
          utf8Bytes_inj (by rw [utf8Bytes, String.toList_ofList, same])
        exact cut (by rw [← String.toList_ofList (l := keptOf name), texts])

theorem isSegment_addSegment
    {path : List String}
    (apart : ∀ segment ∈ path, IsSegment segment) :
    ∀ segment ∈ addSegment scheme path name, IsSegment segment := by
  have set : inAddedSegment scheme = inSpecialSegment := by
    rw [inAddedSegment, web]
    rfl
  rw [addSegment]
  split
  · exact apart
  · simp only [web, set, reduceCtorEq, if_false]
    refine forall_mem_addSegments rfl .empty ?_ ?_
    · rw [List.forall_mem_singleton]
      exact .ofEncoded rfl fun _ => rfl
    · split
      · exact List.forall_mem_nil _
      · exact apart

theorem isSegment_foldl_addSegment
    {path : List String}
    (apart : ∀ segment ∈ path, IsSegment segment) :
    ∀ segment ∈ names.foldl (addSegment scheme) path, IsSegment segment := by
  induction names generalizing path with
  | nil => exact apart
  | cons name rest step => exact step (isSegment_addSegment web apart)

theorem length_addSegment_le (name : String) (path : List String) :
    (entered (addSegment scheme path name)).length ≤
      (entered path).length + 1 := by
  have one {last : String} :
      (entered (entered path ++ [last])).length ≤ (entered path).length + 1 :=
    Nat.le_trans (length_entered_le _) (Nat.le_of_eq List.length_append)
  by_cases plain : IsPlainName name
  · rw [addSegment_plain web plain]
    exact one
  · rcases addSegment_other web plain path with short | ⟨last, put, -⟩
    · exact Nat.le_succ_of_le short
    · rw [put]
      exact one

theorem length_foldl_addSegment_le (names : List String) (path : List String) :
    (entered (names.foldl (addSegment scheme) path)).length ≤
      (entered path).length + names.length := by
  induction names generalizing path with
  | nil => exact Nat.le_refl _
  | cons name rest step =>
      have first := length_addSegment_le web name path
      have others := step (addSegment scheme path name)
      rw [List.foldl_cons, List.length_cons]
      omega

theorem entered_foldl_addSegment
    (plain : ∀ name ∈ names, IsPlainName name)
    (named : ∀ name ∈ names, name ≠ "")
    (path : List String) :
    entered (names.foldl (addSegment scheme) path) =
      entered path ++ names.map writtenName := by
  induction names generalizing path with
  | nil => exact (List.append_nil _).symm
  | cons name rest step =>
      rw [List.forall_mem_cons] at plain named
      rw [List.foldl_cons, step plain.2 named.2, addSegment_plain web plain.1,
        entered_append (writtenName_ne_empty named.1), List.append_assoc,
        List.map_cons, List.singleton_append]

/-- Only plain names are found again at the end of the path,
each in its place. -/
theorem plain_of_decoded
    (path : List String)
    (decoded :
      (entered (names.foldl (addSegment scheme) path)).map (fun segment =>
          decodeBytes segment.toList) =
        (entered path).map (fun segment => decodeBytes segment.toList) ++
          names.map utf8Bytes) :
    ∀ name ∈ names, IsPlainName name := by
  induction names using List.reverseRecOn with
  | nil => exact List.forall_mem_nil _
  | append_singleton front last step =>
      rw [List.foldl_append, List.foldl_cons, List.foldl_nil, List.map_append,
        List.map_singleton, ← List.append_assoc] at decoded
      have length := congrArg List.length decoded
      simp only [List.length_append, List.length_map, List.length_singleton]
        at length
      have before := length_foldl_addSegment_le web front path
      -- A path made longer by the last name is entered as it is.
      have put {segment : String}
          (added :
            addSegment scheme (front.foldl (addSegment scheme) path) last =
              entered (front.foldl (addSegment scheme) path) ++ [segment]) :
          (entered (front.foldl (addSegment scheme) path)).map
              (fun segment => decodeBytes segment.toList) =
            (entered path).map (fun segment => decodeBytes segment.toList) ++
              front.map utf8Bytes ∧
            decodeBytes segment.toList = utf8Bytes last := by
        have whole :
            entered
                (entered (front.foldl (addSegment scheme) path) ++ [segment]) =
            entered (front.foldl (addSegment scheme) path) ++ [segment] := by
          refine if_neg fun lone => ?_
          rw [added, lone, entered, if_pos rfl] at length
          exact absurd length (by simp)
        rw [added, whole, List.map_append, List.map_singleton] at decoded
        exact List.append_singleton_inj.1 decoded
      rw [List.forall_mem_append, List.forall_mem_singleton]
      by_cases plain : IsPlainName last
      · exact ⟨step (put (addSegment_plain web plain _)).1, plain⟩
      · rcases addSegment_other web plain (front.foldl (addSegment scheme) path)
          with short | ⟨segment, added, other⟩
        · omega
        · exact absurd (put added).2 other

end Added

end Url

end TabularSearch
