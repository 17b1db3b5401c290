/-!
# Checks in order

A computation that reads something rule by rule and stops at the first rule that is
broken, against the list of all rules that are broken, in the order of the reading.
-/

namespace XServer.Lib

variable {ε α β : Type}

/-- `m` reports the first rule of `broken`; if none is, it yields what `post` says. -/
def Checks (m : Except ε α) (broken : List ε) (post : α → Prop) : Prop :=
  match m with
  | .ok a => broken = [] ∧ post a
  | .error report => broken.head? = some report

namespace Checks

variable {m : Except ε α} {broken : List ε} {post : α → Prop}

theorem pure {a : α} (h : post a) : Checks (.ok a : Except ε α) [] post := by
  constructor
  · rfl
  · exact h

theorem error (report : ε) (rest : List ε) : Checks (.error report : Except ε α) (report :: rest) post := by
  show (report :: rest).head? = some report
  rfl

@[simp] theorem ok_bind (a : α) (f : α → Except ε β) : ((.ok a : Except ε α) >>= f) = f a := rfl

theorem weaken {wider : α → Prop} (h : Checks m broken post) (wide : ∀ a, post a → wider a) : Checks m broken wider := by
  cases m with
  | ok a => exact ⟨h.1, wide a h.2⟩
  | error report => exact h

/-- What is read next is checked next; its rules may speak of what is read so far only by what `post` says. -/
theorem bind {f : α → Except ε β} {next : List ε} {last : β → Prop} (h : Checks m broken post)
    (hf : ∀ a, post a → Checks (f a) next last) : Checks (m >>= f) (broken ++ next) last := by
  cases m with
  | ok a =>
    obtain ⟨clean, ha⟩ := h
    rw [clean, List.nil_append]
    exact hf a ha
  | error report =>
    show (broken ++ next).head? = some report
    rw [List.head?_append, show broken.head? = some report from h]
    rfl

/-- A step with nothing of its own to report. -/
theorem map {f : α → β} {last : β → Prop} (h : Checks m broken post) (hf : ∀ a, post a → last (f a)) :
    Checks (m >>= fun a => .ok (f a)) broken last := by
  have composed : Checks (m >>= fun a => .ok (f a)) (broken ++ []) last := h.bind fun a ha => pure (hf a ha)
  rwa [List.append_nil] at composed

theorem result {a : α} (h : Checks m broken post) (ok : m = .ok a) : broken = [] ∧ post a := by
  rw [ok] at h
  exact h

theorem error_iff (h : Checks m broken post) {report : ε} : m = .error report ↔ broken.head? = some report := by
  cases m with
  | ok a =>
    have clean : broken = [] := h.1
    rw [clean]
    constructor <;> intro impossible <;> cases impossible
  | error first =>
    have reported : broken.head? = some first := h
    rw [reported]
    constructor <;> intro same <;> cases same <;> rfl

end Checks

end XServer.Lib
