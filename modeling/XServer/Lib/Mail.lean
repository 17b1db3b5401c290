import Mathlib.Data.List.Basic

/-!
# Requests awaited over a network that loses messages

A party that sends a request waits for the answer. The tokens are what is waited
for; a message carries the tokens of the request or answer it is. As long as no
message is lost and every request is answered, whatever is awaited is in flight
(`Covered`): a step that takes a message off the network either ends the wait or
puts a message with the same token on it (`Covered.take`).
-/

namespace XServer.Lib

/-- The messages in flight in a state, what its parties wait for, and what a message
carries. -/
structure Mail (σ ε τ : Type) where
  network : σ → List ε
  awaits : σ → τ → Prop
  carries : ε → τ → Prop

namespace Mail

variable {σ ε τ : Type} (mail : Mail σ ε τ)

/-- A message in flight carries the token. -/
def InFlight (s : σ) (token : τ) : Prop := ∃ e ∈ mail.network s, mail.carries e token

/-- Whatever is awaited is in flight. -/
def Covered (s : σ) : Prop := ∀ token, mail.awaits s token → mail.InFlight s token

/-- What is awaited after a step was awaited before, or is in flight. -/
def Renews (s s' : σ) : Prop := ∀ token, mail.awaits s' token → mail.awaits s token ∨ mail.InFlight s' token

variable {mail} {s s' : σ}

/-- A step that takes nothing off the network. -/
theorem Covered.grow (h : mail.Covered s) (kept : ∀ e ∈ mail.network s, e ∈ mail.network s') (renews : mail.Renews s s') :
    mail.Covered s' := by
  intro token awaited
  rcases renews token awaited with before | sent
  · obtain ⟨e, mem, carries⟩ := h token before
    exact ⟨e, kept e mem, carries⟩
  · exact sent

/-- A step that takes one message off the network: whoever waited for it does not
any more, or the answer is in flight. -/
theorem Covered.take {taken : ε} (h : mail.Covered s) (kept : ∀ e ∈ mail.network s, e = taken ∨ e ∈ mail.network s')
    (renews : mail.Renews s s')
    (answered : ∀ token, mail.awaits s token → mail.carries taken token → mail.awaits s' token → mail.InFlight s' token) :
    mail.Covered s' := by
  intro token awaited
  rcases renews token awaited with before | sent
  · obtain ⟨e, mem, carries⟩ := h token before
    rcases kept e mem with rfl | still
    · exact answered token before carries awaited
    · exact ⟨e, still, carries⟩
  · exact sent

end Mail

/-- What is left of a list without one of its entries. -/
theorem mem_eraseIdx_of_mem {α : Type} {as : List α} {a taken : α} {i : Nat} (mem : a ∈ as) (at_i : as[i]? = some taken) :
    a = taken ∨ a ∈ as.eraseIdx i := by
  induction as generalizing i with
  | nil => cases mem
  | cons b as ih =>
    cases i with
    | zero =>
      cases at_i
      rw [List.eraseIdx_cons_zero]
      exact List.mem_cons.mp mem
    | succ i =>
      rw [List.eraseIdx_cons_succ]
      rcases List.mem_cons.mp mem with rfl | later
      · exact .inr List.mem_cons_self
      · rcases ih later at_i with same | still
        · exact .inl same
        · exact .inr (List.mem_cons_of_mem _ still)

end XServer.Lib
