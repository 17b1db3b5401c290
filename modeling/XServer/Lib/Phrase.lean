import Mathlib.Data.List.Infix
import XServer.Lib.Search

/-!
# Phrases in composed texts

A text is put together from parts, and a phrase is looked for in it. Where the parts
cannot overlap with the phrase at their seam, it is found in the text only if it is found
in a part.
-/

namespace XServer.Lib

section Phrase
variable {α : Type}

/-- A phrase without the separator lies on one side of it. -/
theorem infix_separated {needle left right : List α} {c : α} (absent : c ∉ needle) :
    needle <:+: left ++ c :: right ↔ needle <:+: left ∨ needle <:+: right := by
  constructor
  · intro found
    rcases List.infix_append_iff_ne_nil.mp found with inLeft | inRight | ⟨front, back, -, nonempty, split, -, starts⟩
    · exact .inl inLeft
    · rcases List.infix_cons_iff.mp inRight with starts | later
      · cases needle with
        | nil => exact .inl List.nil_infix
        | cons a rest =>
          rw [List.cons_prefix_cons] at starts
          exact absurd (starts.1 ▸ List.mem_cons_self) absent
      · exact .inr later
    · cases back with
      | nil => exact absurd rfl nonempty
      | cons a back =>
        rw [List.cons_prefix_cons] at starts
        subst split
        exact absurd (List.mem_append_right front (starts.1 ▸ List.mem_cons_self)) absent
  · rintro (inLeft | inRight)
    · exact List.infix_append_of_infix_left inLeft
    · exact List.infix_append_of_infix_right (List.infix_cons inRight)

/-- No end of `left` begins the phrase, so it does not begin in `left` and end behind it. -/
theorem infix_behind {needle left right : List α} (apart : ∀ tail ∈ left.tails, tail ≠ [] → ¬ tail <+: needle) :
    needle <:+: left ++ right ↔ needle <:+: left ∨ needle <:+: right := by
  constructor
  · intro found
    rcases List.infix_append_iff_ne_nil.mp found with inLeft | inRight | ⟨front, back, nonempty, -, split, ends, -⟩
    · exact .inl inLeft
    · exact .inr inRight
    · have begins : front <+: needle := split ▸ List.prefix_append front back
      exact absurd begins (apart front ((List.mem_tails front left).mpr ends) nonempty)
  · rintro (inLeft | inRight)
    · exact List.infix_append_of_infix_left inLeft
    · exact List.infix_append_of_infix_right inRight

/-- No beginning of `right` ends the phrase. -/
theorem infix_before {needle left right : List α} (apart : ∀ head ∈ right.inits, head ≠ [] → ¬ head <:+ needle) :
    needle <:+: left ++ right ↔ needle <:+: left ∨ needle <:+: right := by
  constructor
  · intro found
    rcases List.infix_append_iff_ne_nil.mp found with inLeft | inRight | ⟨front, back, -, nonempty, split, -, starts⟩
    · exact .inl inLeft
    · exact .inr inRight
    · have ends : back <:+ needle := split ▸ List.suffix_append front back
      exact absurd ends (apart back ((List.mem_inits back right).mpr starts) nonempty)
  · rintro (inLeft | inRight)
    · exact List.infix_append_of_infix_left inLeft
    · exact List.infix_append_of_infix_right inRight

/-- A phrase that ends at the first `c` it has does not go on behind a `c`. -/
theorem infix_terminated {needle left right : List α} {c : α} (last : c ∉ needle.dropLast) :
    needle <:+: left ++ [c] ++ right ↔ needle <:+: left ++ [c] ∨ needle <:+: right := by
  constructor
  · intro found
    rcases List.infix_append_iff_ne_nil.mp found with inLeft | inRight | ⟨front, back, nonempty, more, split, ends, -⟩
    · exact .inl inLeft
    · exact .inr inRight
    · have terminator : c ∈ front := by
        obtain ⟨start, same⟩ := ends
        have final := congrArg List.getLast? same
        rw [List.getLast?_append, List.getLast?_append, List.getLast?_singleton] at final
        cases here : front.getLast? with
        | none => exact absurd (List.getLast?_eq_none_iff.mp here) nonempty
        | some a =>
          rw [here] at final
          cases final
          exact List.mem_of_getLast? here
      rw [split, List.dropLast_append_of_ne_nil more] at last
      exact absurd (List.mem_append_left _ terminator) last
  · rintro (inLeft | inRight)
    · exact List.infix_append_of_infix_left inLeft
    · exact List.infix_append_of_infix_right inRight

/-- A list without `c` in front of the first `c` is determined. -/
theorem split_first {left right left' right' : List α} {c : α} (absent : c ∉ left) (absent' : c ∉ left')
    (same : left ++ c :: right = left' ++ c :: right') : left = left' ∧ right = right' := by
  induction left generalizing left' with
  | nil =>
    cases left' with
    | nil => exact ⟨rfl, (List.cons.inj same).2⟩
    | cons a rest => exact absurd ((List.cons.inj same).1 ▸ List.mem_cons_self) absent'
  | cons b left ih =>
    cases left' with
    | nil => exact absurd ((List.cons.inj same).1 ▸ List.mem_cons_self) absent
    | cons a rest =>
      obtain ⟨head, tail⟩ := List.cons.inj same
      obtain ⟨front, back⟩ := ih (fun mem => absent (List.mem_cons_of_mem b mem))
        (fun mem => absent' (List.mem_cons_of_mem a mem)) tail
      exact ⟨by rw [head, front], back⟩

/-- A phrase of several words that begins in a text's first word has its other words right behind it. -/
theorem infix_first_word {word word' others rest : List α} {c : α} (single : c ∉ word) (single' : c ∉ word')
    (found : word ++ c :: others <:+: word' ++ c :: rest) :
    word ++ c :: others <:+: c :: rest ∨ others <+: rest := by
  rcases List.infix_append_iff.mp found with inWord | inRest | ⟨front, back, split, ends, starts⟩
  · exact absurd (inWord.subset (List.mem_append_right word List.mem_cons_self)) single'
  · exact .inl inRest
  · have free : c ∉ front := fun mem => single' (ends.subset mem)
    cases back with
    | nil =>
      rw [List.append_nil] at split
      exact absurd (split ▸ List.mem_append_right word List.mem_cons_self) free
    | cons a back =>
      rw [List.cons_prefix_cons] at starts
      obtain ⟨rfl, behind⟩ := starts
      rw [(split_first single free split).2]
      exact .inr behind

theorem prefix_first_word {word word' others rest : List α} {c : α} (single : c ∉ word) (single' : c ∉ word')
    (found : word ++ c :: others <+: word' ++ c :: rest) : others <+: rest := by
  obtain ⟨tail, same⟩ := found
  rw [List.append_assoc, List.cons_append] at same
  rw [← (split_first single single' same).2]
  exact List.prefix_append others tail

variable [DecidableEq α]

/-- What `search` finds. -/
theorem search_isSome_iff {needle text : List α} : (search needle text).isSome ↔ needle <:+: text := by
  rw [List.infix_iff_prefix_suffix]
  constructor
  · intro found
    obtain ⟨i, here⟩ := Option.isSome_iff_exists.mp found
    obtain ⟨-, starts, -⟩ := search_some_iff.mp here
    exact ⟨text.drop i, starts, List.drop_suffix i text⟩
  · rintro ⟨tail, starts, ends⟩
    by_cases nonempty : needle = []
    · subst nonempty
      cases text with
      | nil => rfl
      | cons a rest => rfl
    · cases found : search needle text with
      | some i => rfl
      | none =>
        have nowhere := (search_none_iff nonempty).mp found (text.length - tail.length)
        rw [← List.suffix_iff_eq_drop.mp ends] at nowhere
        exact absurd starts nowhere

end Phrase

end XServer.Lib
