import Mathlib.Data.List.Induction

/-!
# Histories

A list of events in which each was allowed after the ones before it. Histories grow at
the end (`History.snoc`); what the rule excludes of an event's past, the history excludes
of its whole length (`History.never_after`, `History.countP_le_one`).
-/

namespace XServer.Lib

variable {ω : Type} {allowed : List ω → ω → Prop} {trace : List ω}

/-- Every event was allowed after the events before it. -/
def History (allowed : List ω → ω → Prop) (trace : List ω) : Prop :=
  ∀ before event after, trace = before ++ event :: after → allowed before event

theorem history_nil : History allowed [] := by
  intro before event after split
  cases before <;> cases split

namespace History

theorem snoc {event : ω} (h : History allowed trace) (next : allowed trace event) : History allowed (trace ++ [event]) := by
  intro before other after split
  rcases List.eq_nil_or_concat after with rfl | ⟨rest, last, rfl⟩
  · obtain ⟨rfl, same⟩ := List.append_inj' split rfl
    cases same
    exact next
  · rw [List.concat_eq_append, ← List.cons_append, ← List.append_assoc] at split
    obtain ⟨rfl, -⟩ := List.append_inj' split rfl
    exact h before other rest rfl

theorem init {event : ω} (h : History allowed (trace ++ [event])) : History allowed trace := by
  rintro before other after rfl
  refine h before other (after ++ [event]) ?_
  simp

/-- An event that is never allowed after another does not come after it. -/
theorem never_after (h : History allowed trace) {first later : ω} (excludes : ∀ before, allowed before later → first ∉ before)
    {before after : List ω} (split : trace = before ++ first :: after) : later ∉ after := by
  intro mem
  obtain ⟨middle, rest, rfl⟩ := List.append_of_mem mem
  have whole : trace = (before ++ first :: middle) ++ later :: rest := by simp [split]
  refine excludes _ (h _ _ _ whole) ?_
  exact List.mem_append_right _ List.mem_cons_self

/-- Events that are never allowed after one of their kind come at most once. -/
theorem countP_le_one (h : History allowed trace) {kind : ω → Bool}
    (once : ∀ before event, allowed before event → kind event = true → ∀ earlier ∈ before, kind earlier = false) :
    trace.countP kind ≤ 1 := by
  induction trace using List.reverseRecOn with
  | nil => exact Nat.zero_le 1
  | append_singleton trace event ih =>
    rw [List.countP_append, List.countP_singleton]
    by_cases here : kind event = true
    · have none : trace.countP kind = 0 := by
        refine List.countP_eq_zero.mpr fun earlier mem => ?_
        rw [once trace event (h trace event [] rfl) here earlier mem]
        exact Bool.false_ne_true
      rw [if_pos here]
      omega
    · rw [if_neg here]
      exact ih h.init

end History
end XServer.Lib
