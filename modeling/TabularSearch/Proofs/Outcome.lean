/-!
# Outcomes of steps that may fail

What it takes for a chain of steps to succeed: every step succeeds on
what the one before it left.  A chain that fails does so with the cause
of its first step that fails.
-/

namespace TabularSearch

variable {Cause Item Other : Type}

/-! ## Steps that succeed -/

@[simp]
theorem map_ok
    (change : Item → Other)
    (item : Item) :
    (Except.ok item : Except Cause Item).map change = .ok (change item) :=
  rfl

@[simp]
theorem ok_bind
    (item : Item)
    (next : Item → Except Cause Other) :
    (Except.ok item >>= next) = next item :=
  rfl

@[simp]
theorem pure_eq_ok (item : Item) :
    (pure item : Except Cause Item) = .ok item :=
  rfl

/-! ## Chains of steps -/

theorem map_eq_ok_iff
    {change : Item → Other}
    {outcome : Except Cause Item}
    {other : Other} :
    outcome.map change = .ok other ↔ ∃ item,
      outcome = .ok item ∧ change item = other := by
  cases outcome <;> simp [Except.map]

theorem bind_eq_ok_iff
    {next : Item → Except Cause Other}
    {outcome : Except Cause Item}
    {other : Other} :
    (outcome >>= next) = .ok other ↔ ∃ item,
      outcome = .ok item ∧ next item = .ok other := by
  cases outcome <;> simp [bind, Except.bind]

/-- A check leaves nothing behind for the next step. -/
theorem check_bind_eq_ok_iff
    {check : Except Cause Unit}
    {next : Unit → Except Cause Other}
    {other : Other} :
    (check >>= next) = .ok other ↔ check = .ok () ∧ next () = .ok other := by
  cases check <;> simp [bind, Except.bind]

/-- A chain fails where one step fails after all before it have succeeded. -/
theorem bind_eq_error_iff
    {next : Item → Except Cause Other}
    {outcome : Except Cause Item}
    {cause : Cause} :
    (outcome >>= next) = .error cause ↔
      outcome = .error cause ∨
        ∃ item, outcome = .ok item ∧ next item = .error cause := by
  cases outcome <;> simp [bind, Except.bind]

theorem map_eq_error_iff
    {change : Item → Other}
    {outcome : Except Cause Item}
    {cause : Cause} :
    outcome.map change = .error cause ↔ outcome = .error cause := by
  cases outcome <;> simp [Except.map]

end TabularSearch
