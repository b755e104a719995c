import TabularSearch.Json.Decode
import TabularSearch.Rows.Row

/-!
# What reading keeps

A record is read member by member into its parts, so whatever every member keeps
holds of the parts in the end, and whatever is read of every element holds of a
list.  A free object keeps every name once, whatever its text repeats: the last
value counts and stands at the first place.
-/

namespace TabularSearch.Json

theorem fill_eq_ok_iff
    {Item : Type}
    {place filled : Option Item}
    {read : Document → Except Fault Item}
    {document : Document} :
    fill place read document = .ok filled ↔
      place = none ∧ ∃ item, read document = .ok item ∧ filled = some item := by
  cases place with
  | some item => simp [fill]
  | none =>
      rw [fill]
      cases read document <;> simp [eq_comm]

section Kept

variable {State : Type} {step : State → String → Document → Except Fault State}
  {Holds : State → Prop} {initial final : State}

/-- What every member keeps is kept when the members are read
one after the other. -/
theorem readMembers_keeps
    (kept :
      ∀ state name document next,
        step state name document = .ok next → Holds state → Holds next)
    {members : List (Option String × Document)}
    (read : readMembers step initial members = .ok final)
    (start : Holds initial) :
    Holds final := by
  induction members generalizing initial with
  | nil =>
      cases read
      exact start
  | cons member rest further =>
      rcases member with ⟨_ | name, document⟩
      · cases read
      · rw [readMembers] at read
        cases taken : step initial name document with
        | error fault => simp [taken] at read
        | ok next =>
            rw [taken] at read
            exact further read (kept initial name document next taken start)

theorem readRecord_keeps
    (kept :
      ∀ state name document next,
        step state name document = .ok next → Holds state → Holds next)
    {reading : Reading}
    {names : List String}
    {document : Document}
    (read : readRecord reading names step initial document = .ok final)
    (start : Holds initial) :
    Holds final := by
  unfold readRecord at read
  split at read
  · split at read
    · cases read
    · rename_i members closed state taken
      split at read <;> cases read
      exact readMembers_keeps kept taken start
  · split at read
    · cases read
    · rename_i elements closed state taken
      split at read <;> cases read
      exact readMembers_keeps kept taken start
  · cases read

end Kept

theorem readElements_forall
    {Item : Type}
    {read : Document → Except Fault Item}
    {Holds : Item → Prop}
    (each : ∀ document item, read document = .ok item → Holds item)
    {documents : List Document}
    {items : List Item}
    (found : readElements read documents = .ok items) :
    ∀ item ∈ items, Holds item := by
  induction documents generalizing items with
  | nil =>
      cases found
      exact List.forall_mem_nil _
  | cons document rest step =>
      rw [readElements] at found
      split at found
      · cases found
      · rename_i first taken
        split at found
        · cases found
        · rename_i others further
          cases found
          exact List.forall_mem_cons.2 ⟨each document first taken, step further⟩

theorem readList_forall
    {Item : Type}
    {read : Document → Except Fault Item}
    {Holds : Item → Prop}
    (each : ∀ document item, read document = .ok item → Holds item)
    {document : Document}
    {items : List Item}
    (found : readList read document = .ok items) :
    ∀ item ∈ items, Holds item := by
  unfold readList at found
  split at found
  · split at found
    · cases found
    · rename_i taken
      split at found <;> cases found
      exact readElements_forall each taken
  · cases found

theorem Document.nodup_toMembers?
    {members : List (Option String × Document)}
    {read result : Members}
    (found : toMembers? read members = some result)
    (distinct : (read.map Prod.fst).Nodup) :
    (result.map Prod.fst).Nodup := by
  induction members generalizing read with
  | nil =>
      rw [toMembers?] at found
      exact Option.some.inj found ▸ distinct
  | cons member rest step =>
      rcases member with ⟨_ | name, document⟩
      · simp [toMembers?] at found
      · rw [toMembers?] at found
        split at found
        · exact step found (Row.nodup_putEntry distinct name _)
        · cases found

/-- The names of a free object that was read are different. -/
theorem nodup_readObject
    {document : Document}
    {members : Members}
    (read : readObject document = .ok members) :
    (members.map Prod.fst).Nodup := by
  unfold readObject at read
  split at read
  · rename_i written closed
    split at read <;> cases read
    rename_i found
    cases closed with
    | false => simp [Document.toValue?] at found
    | true =>
        simp only [Document.toValue?, Option.map_eq_some_iff,
          Value.object.injEq] at found
        rcases found with ⟨_, found, rfl⟩
        exact Document.nodup_toMembers? found List.nodup_nil
  · cases read

end TabularSearch.Json
