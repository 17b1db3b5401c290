import Mathlib.Data.List.Basic

/-!
# Failures and exceptions

A computation that ends in a result or reports a failure, and that an exception
may end before it does either. The rules say when a composed one returns at all,
what it yields and which failures it can report.
-/

namespace XServer.Lib

variable {χ ε α β : Type}

/-- A computation that yields an `α`, reports a failure `ε`, or is ended by an exception `χ`. -/
abbrev Fallible (χ ε α : Type) := ExceptT ε (Except χ) α

/-- No exception ends `m`. -/
def Returns (m : Fallible χ ε α) : Prop := ∃ result, m.run = .ok result

/-- The exception that ends `m`. -/
def raised (m : Fallible χ ε α) : Option χ :=
  match m.run with
  | .error exception => some exception
  | .ok _ => none

/-- `m` ends with the result `a`: no failure is reported and no exception ends it. -/
def Yields (m : Fallible χ ε α) (a : α) : Prop := m.run = .ok (.ok a)

/-- Whatever failure `m` reports, `allowed` holds of it. -/
def FailsOnly (allowed : ε → Prop) (m : Fallible χ ε α) : Prop := ∀ failure, m.run = .ok (.error failure) → allowed failure

/-- A call that cannot report a failure. -/
def liftCall (x : Except χ α) : Fallible χ ε α := ExceptT.lift x

/-- What an exception ends does not return. -/
theorem not_returns_of_raised {m : Fallible χ ε α} {exception : χ} (h : raised m = some exception) : ¬ Returns m := by
  rintro ⟨result, returned⟩
  unfold raised at h
  rw [returned] at h
  cases h

theorem run_liftCall (x : Except χ α) : (liftCall x : Fallible χ ε α).run = x.map .ok := rfl

section
variable {m : Fallible χ ε α}

/-- The three ways in which the first part of a composed computation can end. -/
theorem run_bind_yielded {a : α} (h : m.run = .ok (.ok a)) (f : α → Fallible χ ε β) : (m >>= f).run = (f a).run := by
  rw [ExceptT.run_bind, h]
  rfl

theorem run_bind_failed {failure : ε} (h : m.run = .ok (.error failure)) (f : α → Fallible χ ε β) :
    (m >>= f).run = .ok (.error failure) := by
  rw [ExceptT.run_bind, h]
  rfl

theorem run_bind_thrown {exception : χ} (h : m.run = .error exception) (f : α → Fallible χ ε β) :
    (m >>= f).run = .error exception := by
  rw [ExceptT.run_bind, h]
  rfl

end

theorem returns_pure (a : α) : Returns (pure a : Fallible χ ε α) := ⟨.ok a, rfl⟩

theorem returns_throw (failure : ε) : Returns (throw failure : Fallible χ ε α) := ⟨.error failure, rfl⟩

@[simp] theorem yields_pure {a b : α} : Yields (pure a : Fallible χ ε α) b ↔ a = b := by
  constructor
  · intro h
    cases h
    rfl
  · rintro rfl
    rfl

@[simp] theorem not_yields_throw {failure : ε} {a : α} : ¬ Yields (throw failure : Fallible χ ε α) a := by
  intro h
  cases h

@[simp] theorem yields_liftCall {x : Except χ α} {a : α} : Yields (liftCall x : Fallible χ ε α) a ↔ x = .ok a := by
  unfold Yields
  rw [run_liftCall]
  cases x with
  | error e => simp [Except.map]
  | ok b => simp [Except.map]

@[simp] theorem returns_liftCall {x : Except χ α} : Returns (liftCall x : Fallible χ ε α) ↔ ∃ a, x = .ok a := by
  unfold Returns
  rw [run_liftCall]
  cases x with
  | error e => simp [Except.map]
  | ok b => simp [Except.map]

/-- A composed computation returns if its first part does and, for the result of this, its second; a reported failure returns. -/
theorem returns_bind {m : Fallible χ ε α} {f : α → Fallible χ ε β} :
    Returns (m >>= f) ↔ Returns m ∧ ∀ a, Yields m a → Returns (f a) := by
  unfold Returns Yields
  cases h : m.run with
  | error e => simp [run_bind_thrown h]
  | ok result =>
    cases result with
    | error failure => simp [run_bind_failed h]
    | ok a => simp [run_bind_yielded h]

/-- The result of a composed computation is that of its second part, for the result of the first. -/
theorem yields_bind {m : Fallible χ ε α} {f : α → Fallible χ ε β} {b : β} :
    Yields (m >>= f) b ↔ ∃ a, Yields m a ∧ Yields (f a) b := by
  unfold Yields
  cases h : m.run with
  | error e => simp [run_bind_thrown h]
  | ok result =>
    cases result with
    | error failure => simp [run_bind_failed h]
    | ok a => simp [run_bind_yielded h]

section FailsOnly
variable {allowed : ε → Prop}

theorem FailsOnly.pure (a : α) : FailsOnly allowed (pure a : Fallible χ ε α) := by
  intro failure h
  cases h

theorem FailsOnly.throw {failure : ε} (h : allowed failure) : FailsOnly allowed (throw failure : Fallible χ ε α) := by
  intro other reported
  cases reported
  exact h

/-- A call without failures reports none; its exceptions are no failures. -/
theorem FailsOnly.liftCall (x : Except χ α) : FailsOnly allowed (liftCall x : Fallible χ ε α) := by
  intro failure h
  rw [run_liftCall] at h
  cases x <;> cases h

/-- What the parts can report is what the whole can. -/
theorem FailsOnly.bind {m : Fallible χ ε α} {f : α → Fallible χ ε β} (first : FailsOnly allowed m)
    (next : ∀ a, FailsOnly allowed (f a)) : FailsOnly allowed (m >>= f) := by
  intro failure h
  cases reported : m.run with
  | error e =>
    rw [run_bind_thrown reported] at h
    cases h
  | ok result =>
    cases result with
    | error other =>
      rw [run_bind_failed reported] at h
      cases h
      exact first _ reported
    | ok a =>
      rw [run_bind_yielded reported] at h
      exact next a failure h

end FailsOnly

/-! ## The first accepted entry -/

/-- The value of the first key that `accepts` takes; the keys after it are not looked at. -/
def firstThat (accepts : β → Except χ Bool) : List (β × α) → Except χ (Option α)
  | [] => .ok none
  | entry :: rest => do
    let taken ← accepts entry.1
    if taken then return some entry.2 else firstThat accepts rest

theorem firstThat_refused {accepts : β → Except χ Bool} {entry : β × α} (refused : accepts entry.1 = .ok false)
    (rest : List (β × α)) : firstThat accepts (entry :: rest) = firstThat accepts rest := by
  rw [firstThat, refused]
  rfl

theorem firstThat_taken {accepts : β → Except χ Bool} {entry : β × α} (taken : accepts entry.1 = .ok true)
    (rest : List (β × α)) : firstThat accepts (entry :: rest) = .ok (some entry.2) := by
  rw [firstThat, taken]
  rfl

theorem firstThat_thrown {accepts : β → Except χ Bool} {entry : β × α} {exception : χ}
    (thrown : accepts entry.1 = .error exception) (rest : List (β × α)) :
    firstThat accepts (entry :: rest) = .error exception := by
  rw [firstThat, thrown]
  rfl

/-- Every key up to the first accepted one can be looked at. -/
def ScansThrough (accepts : β → Except χ Bool) (entries : List (β × α)) : Prop :=
  ∀ before entry after, entries = before ++ entry :: after → (∀ other ∈ before, accepts other.1 = .ok false) →
    ∃ taken, accepts entry.1 = .ok taken

theorem scansThrough_nil (accepts : β → Except χ Bool) : ScansThrough accepts ([] : List (β × α)) := by
  intro before entry after split
  cases before <;> cases split

/-- The entries behind the first are looked at only if it is refused. -/
theorem scansThrough_cons {accepts : β → Except χ Bool} {entry : β × α} {rest : List (β × α)} :
    ScansThrough accepts (entry :: rest) ↔
      (∃ taken, accepts entry.1 = .ok taken) ∧ (accepts entry.1 = .ok false → ScansThrough accepts rest) := by
  constructor
  · intro h
    refine ⟨h [] entry rest rfl (by simp), fun refused before other after split none => ?_⟩
    refine h (entry :: before) other after (by rw [split]; rfl) fun skipped mem => ?_
    rcases List.mem_cons.mp mem with rfl | mem
    · exact refused
    · exact none skipped mem
  · rintro ⟨looked, later⟩ before other after split none
    cases before with
    | nil =>
      cases split
      exact looked
    | cons skipped before =>
      cases split
      exact later (none _ List.mem_cons_self) before other after rfl fun x mem => none x (List.mem_cons_of_mem _ mem)

/-- A search returns unless it looks at a key that throws. -/
theorem firstThat_ok {accepts : β → Except χ Bool} {entries : List (β × α)} :
    (∃ found, firstThat accepts entries = .ok found) ↔ ScansThrough accepts entries := by
  induction entries with
  | nil => exact iff_of_true ⟨none, rfl⟩ (scansThrough_nil _)
  | cons entry rest ih =>
    rw [scansThrough_cons, ← ih]
    cases looked : accepts entry.1 with
    | error e => simp [firstThat_thrown looked]
    | ok taken =>
      cases taken with
      | false => simp [firstThat_refused looked]
      | true => simp [firstThat_taken looked]

/-- A search finds nothing if every key was looked at and refused. -/
theorem firstThat_none {accepts : β → Except χ Bool} {entries : List (β × α)} :
    firstThat accepts entries = .ok none ↔ ∀ entry ∈ entries, accepts entry.1 = .ok false := by
  induction entries with
  | nil => simp [firstThat]
  | cons entry rest ih =>
    rw [List.forall_mem_cons, ← ih]
    cases looked : accepts entry.1 with
    | error e => simp [firstThat_thrown looked]
    | ok taken =>
      cases taken with
      | false => simp [firstThat_refused looked]
      | true => simp [firstThat_taken looked]

end XServer.Lib
