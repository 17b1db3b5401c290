import Mathlib.Data.List.Basic

/-!
# Input-driven machines and their runs

A system is a deterministic step on a state and an input; everything the
environment decides (which message arrives, what a clock or a library call
returns) is part of the input. A run is a list of inputs; it ends in a state
and leaves a trace of outputs. `Along` restricts a run to steps that meet a
condition on the state before the step and on the input.

Three rules carry every result about runs: an invariant (`run_invariant`), a
relation between the ends of a run (`run_relates`) and an invariant of the
state together with the trace so far (`run_trace_along`).
-/

namespace XServer.Lib

/-- A deterministic system driven by inputs. -/
structure Machine (σ ι ω : Type) where
  step : σ → ι → σ × List ω

namespace Machine

variable {σ ι ω : Type} (m : Machine σ ι ω)

/-- The final state and the output trace of a list of inputs. -/
def run (s : σ) : List ι → σ × List ω
  | [] => (s, [])
  | i :: is => ((run (m.step s i).1 is).1, (m.step s i).2 ++ (run (m.step s i).1 is).2)

/-- Every step of the run from `s` meets `ok`. -/
def Along (ok : σ → ι → Prop) : σ → List ι → Prop
  | _, [] => True
  | s, i :: is => ok s i ∧ Along ok (m.step s i).1 is

instance decidableAlong (ok : σ → ι → Prop) [∀ s i, Decidable (ok s i)] : ∀ s is, Decidable (m.Along ok s is)
  | _, [] => .isTrue trivial
  | s, i :: is =>
    have := decidableAlong ok (m.step s i).1 is
    inferInstanceAs (Decidable (ok s i ∧ m.Along ok (m.step s i).1 is))

/-- `s` is the end of some run from `init`. -/
def Reachable (init s : σ) : Prop := ∃ is, (m.run init is).1 = s

@[simp] theorem run_nil (s : σ) : m.run s [] = (s, []) := rfl

theorem run_append (s : σ) (is js : List ι) :
    (m.run s (is ++ js)).1 = (m.run (m.run s is).1 js).1 := by
  induction is generalizing s with
  | nil => rfl
  | cons i is ih => exact ih (m.step s i).1

theorem run_append_trace (s : σ) (is js : List ι) :
    (m.run s (is ++ js)).2 = (m.run s is).2 ++ (m.run (m.run s is).1 js).2 := by
  induction is generalizing s with
  | nil => rfl
  | cons i is ih =>
    simp only [List.cons_append, run, List.append_assoc]
    rw [ih]

variable {m}

theorem Along.mono {ok ok' : σ → ι → Prop} (h : ∀ s i, ok s i → ok' s i) :
    ∀ {s : σ} {is : List ι}, m.Along ok s is → m.Along ok' s is := by
  intro s is
  induction is generalizing s with
  | nil => exact fun _ => trivial
  | cons i is ih => exact fun along => ⟨h s i along.1, ih along.2⟩

/-- A condition on the inputs alone. -/
theorem along_of_forall {ok : ι → Prop} (s : σ) {is : List ι} (h : ∀ i ∈ is, ok i) : m.Along (fun _ => ok) s is := by
  induction is generalizing s with
  | nil => trivial
  | cons i is ih => exact ⟨h i List.mem_cons_self, ih _ fun j mem => h j (List.mem_cons_of_mem i mem)⟩

theorem along_true (s : σ) (is : List ι) : m.Along (fun _ _ => True) s is := along_of_forall s fun _ _ => trivial

theorem Along.append {ok : σ → ι → Prop} {s : σ} {is js : List ι}
    (h : m.Along ok s (is ++ js)) : m.Along ok s is ∧ m.Along ok (m.run s is).1 js := by
  induction is generalizing s with
  | nil => exact ⟨trivial, h⟩
  | cons i is ih => exact ⟨⟨h.1, (ih h.2).1⟩, (ih h.2).2⟩

theorem along_append {ok : σ → ι → Prop} {s : σ} {is js : List ι} (first : m.Along ok s is)
    (second : m.Along ok (m.run s is).1 js) : m.Along ok s (is ++ js) := by
  induction is generalizing s with
  | nil => exact second
  | cons i is ih => exact ⟨first.1, ih first.2 second⟩

/-- A condition on every step is one on the last step of every beginning. -/
theorem along_iff_prefix {ok : σ → ι → Prop} {s : σ} {is : List ι} :
    m.Along ok s is ↔ ∀ js i, js ++ [i] <+: is → ok (m.run s js).1 i := by
  induction is generalizing s with
  | nil =>
    refine iff_of_true trivial fun js i h => ?_
    have none := List.prefix_nil.mp h
    simp at none
  | cons i is ih =>
    constructor
    · rintro ⟨head, tail⟩ js j h
      cases js with
      | nil =>
        obtain ⟨rfl, -⟩ := List.cons_prefix_cons.mp h
        exact head
      | cons j' js =>
        obtain ⟨rfl, rest⟩ := List.cons_prefix_cons.mp h
        exact ih.mp tail js j rest
    · intro h
      exact ⟨h [] i (List.cons_prefix_cons.mpr ⟨rfl, List.nil_prefix⟩),
        ih.mpr fun js j rest => h (i :: js) j (List.cons_prefix_cons.mpr ⟨rfl, rest⟩)⟩

theorem Along.and {ok ok' : σ → ι → Prop} {s : σ} {is : List ι} (h : m.Along ok s is) (h' : m.Along ok' s is) :
    m.Along (fun s i => ok s i ∧ ok' s i) s is := by
  induction is generalizing s with
  | nil => trivial
  | cons i is ih => exact ⟨⟨h.1, h'.1⟩, ih h.2 h'.2⟩

/-- What an invariant gives for every step of an admissible run. -/
theorem Along.of_invariant {ok holds : σ → ι → Prop} {Inv : σ → Prop}
    (step : ∀ s i, Inv s → ok s i → Inv (m.step s i).1) (gives : ∀ s i, Inv s → ok s i → holds s i)
    {s : σ} {is : List ι} (start : Inv s) (along : m.Along ok s is) : m.Along holds s is := by
  induction is generalizing s with
  | nil => trivial
  | cons i is ih => exact ⟨gives s i start along.1, ih (step s i start along.1) along.2⟩

/-- **Invariants.** What every admissible step preserves holds after every
admissible run. -/
theorem run_invariant {ok : σ → ι → Prop} {Inv : σ → Prop}
    (step : ∀ s i, Inv s → ok s i → Inv (m.step s i).1) {s : σ} {is : List ι}
    (start : Inv s) (along : m.Along ok s is) : Inv (m.run s is).1 := by
  induction is generalizing s with
  | nil => exact start
  | cons i is ih => exact ih (step s i start along.1) along.2

/-- **Invariants** of unrestricted runs. -/
theorem invariant {Inv : σ → Prop} (step : ∀ s i, Inv s → Inv (m.step s i).1)
    {init s : σ} (start : Inv init) (reach : m.Reachable init s) : Inv s := by
  obtain ⟨is, rfl⟩ := reach
  exact run_invariant (fun s i h _ => step s i h) start (along_true _ is)

/-- Some step of the run meets `ok`. -/
def Sometime (ok : σ → ι → Prop) : σ → List ι → Prop
  | _, [] => False
  | s, i :: is => ok s i ∨ Sometime ok (m.step s i).1 is

/-- **What a run brings about.** A property that holds after a step exactly if it
held before or the step meets `ok` holds after a run exactly if it held at first
or some step met `ok`. -/
theorem run_iff_sometime {Inv P : σ → Prop} {ok : σ → ι → Prop} (keeps : ∀ s i, Inv s → Inv (m.step s i).1)
    (step : ∀ s i, Inv s → (P (m.step s i).1 ↔ P s ∨ ok s i)) {s : σ} (start : Inv s) (is : List ι) :
    P (m.run s is).1 ↔ P s ∨ m.Sometime ok s is := by
  induction is generalizing s with
  | nil => exact (or_iff_left id).symm
  | cons i is ih =>
    refine (ih (keeps s i start)).trans ?_
    rw [step s i start, or_assoc]
    rfl

/-- The latest mark that a step of the run leaves. -/
def latest {α : Type} (mark : σ → ι → Option α) : σ → List ι → Option α
  | _, [] => none
  | s, i :: is => (latest mark (m.step s i).1 is).or (mark s i)

/-- **What the latest mark tells.** An invariant of the state and the latest mark so
far, which every step renews. -/
theorem run_latest {α : Type} {mark : σ → ι → Option α} {Inv : Option α → σ → Prop}
    (step : ∀ h s i, Inv h s → Inv ((mark s i).or h) (m.step s i).1) {s : σ} {h : Option α} (start : Inv h s)
    (is : List ι) : Inv ((m.latest mark s is).or h) (m.run s is).1 := by
  induction is generalizing s h with
  | nil => exact start
  | cons i is ih =>
    rw [latest, Option.or_assoc]
    exact ih (step h s i start)

/-- **Relations between two states of a run.** A reflexive and transitive
relation that every step from an invariant state obeys relates the ends of
every run. -/
theorem run_relates {Inv : σ → Prop} {R : σ → σ → Prop}
    (refl : ∀ s, R s s) (trans : ∀ a b c, R a b → R b c → R a c)
    (inv : ∀ s i, Inv s → Inv (m.step s i).1) (step : ∀ s i, Inv s → R s (m.step s i).1)
    {s : σ} (start : Inv s) (is : List ι) : R s (m.run s is).1 := by
  induction is generalizing s with
  | nil => exact refl s
  | cons i is ih => exact trans _ _ _ (step s i start) (ih (inv s i start))

/-- **Traces.** An invariant of the state and the outputs so far. -/
theorem run_trace_along {ok : σ → ι → Prop} {Inv : σ → List ω → Prop}
    (step : ∀ s t i, Inv s t → ok s i → Inv (m.step s i).1 (t ++ (m.step s i).2))
    {s : σ} {t : List ω} {is : List ι} (start : Inv s t) (along : m.Along ok s is) :
    Inv (m.run s is).1 (t ++ (m.run s is).2) := by
  induction is generalizing s t with
  | nil => simpa using start
  | cons i is ih =>
    have next := ih (step s t i start along.1) along.2
    rwa [List.append_assoc] at next

/-- **Traces** of unrestricted runs. -/
theorem run_trace {Inv : σ → List ω → Prop}
    (step : ∀ s t i, Inv s t → Inv (m.step s i).1 (t ++ (m.step s i).2))
    {s : σ} {t : List ω} (start : Inv s t) (is : List ι) :
    Inv (m.run s is).1 (t ++ (m.run s is).2) :=
  run_trace_along (fun s t i h _ => step s t i h) start (along_true s is)

end Machine

/-! ## Steps made of smaller changes -/

/-- A sequence of changes, with the outputs of all of them in order. -/
inductive Steps {σ ω : Type} (change : σ → List ω → σ → Prop) : σ → List ω → σ → Prop where
  | nil (s : σ) : Steps change s [] s
  | cons {s t u : σ} {es fs : List ω} (head : change s es t) (tail : Steps change t fs u) :
      Steps change s (es ++ fs) u

namespace Steps

variable {σ ω : Type} {change : σ → List ω → σ → Prop}

theorem single {s t : σ} {es : List ω} (h : change s es t) : Steps change s es t := by
  have one := cons h (nil t)
  rwa [List.append_nil] at one

theorem append {s t u : σ} {es fs : List ω} (first : Steps change s es t) (second : Steps change t fs u) :
    Steps change s (es ++ fs) u := by
  induction first with
  | nil s => exact second
  | cons head _ ih =>
    rw [List.append_assoc]
    exact cons head (ih second)

/-- Steps made of smaller steps. -/
theorem refine {change' : σ → List ω → σ → Prop} (each : ∀ s es t, change s es t → Steps change' s es t) {s u : σ}
    {es : List ω} (h : Steps change s es u) : Steps change' s es u := by
  induction h with
  | nil s => exact nil s
  | cons head _ ih => exact (each _ _ _ head).append ih

/-- What every change preserves of the state. -/
theorem invariant {Inv : σ → Prop} (step : ∀ s es u, Inv s → change s es u → Inv u) {s u : σ} {es : List ω}
    (h : Steps change s es u) (start : Inv s) : Inv u := by
  induction h with
  | nil s => exact start
  | cons head _ ih => exact ih (step _ _ _ start head)

/-- What every change preserves of the state and the outputs so far. -/
theorem trace {Inv : σ → List ω → Prop} (step : ∀ s t es u, Inv s t → change s es u → Inv u (t ++ es))
    {s u : σ} {t es : List ω} (h : Steps change s es u) (start : Inv s t) : Inv u (t ++ es) := by
  induction h generalizing t with
  | nil s => simpa using start
  | cons head _ ih =>
    have next := ih (step _ _ _ _ start head)
    rwa [List.append_assoc] at next

end Steps

end XServer.Lib
