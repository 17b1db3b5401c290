import Mathlib.Data.List.Basic

/-!
# Searching a text

The first place where one list occurs in another, and what becomes of it when the text
is cut off or continued.
-/

namespace XServer.Lib

section Search
variable {α : Type}

/-- An occurrence in the beginning of a text ends within it. -/
theorem occurs_take {needle text : List α} {n j : Nat} (nonempty : needle ≠ []) :
    needle <+: (text.take n).drop j ↔ needle <+: text.drop j ∧ j + needle.length ≤ n := by
  have positive : 0 < needle.length := List.length_pos_iff.mpr nonempty
  rw [List.drop_take, List.prefix_take_iff]
  constructor
  · rintro ⟨here, short⟩
    exact ⟨here, by omega⟩
  · rintro ⟨here, short⟩
    exact ⟨here, by omega⟩

variable [DecidableEq α]

/-- Where the first occurrence of `needle` starts. -/
def search (needle : List α) : List α → Option Nat
  | [] => if needle = [] then some 0 else none
  | a :: rest => if needle <+: a :: rest then some 0 else (search needle rest).map (· + 1)

variable {needle text : List α} {i n : Nat}

theorem search_some_iff :
    search needle text = some i ↔
      i ≤ text.length ∧ needle <+: text.drop i ∧ ∀ j < i, ¬ needle <+: text.drop j := by
  induction text generalizing i with
  | nil =>
    unfold search
    constructor
    · intro found
      split at found
      · rename_i empty
        cases found
        exact ⟨Nat.le_refl _, empty ▸ List.nil_prefix, fun j below => absurd below (Nat.not_lt_zero j)⟩
      · cases found
    · rintro ⟨within, here, -⟩
      have zero : i = 0 := Nat.le_zero.mp within
      subst zero
      rw [if_pos (List.prefix_nil.mp here)]
  | cons a rest ih =>
    unfold search
    by_cases here : needle <+: a :: rest
    · rw [if_pos here]
      constructor
      · intro found
        cases found
        exact ⟨Nat.zero_le _, here, fun j below => absurd below (Nat.not_lt_zero j)⟩
      · rintro ⟨-, -, first⟩
        cases i with
        | zero => rfl
        | succ i => exact absurd here (first 0 (Nat.succ_pos i))
    · rw [if_neg here, Option.map_eq_some_iff]
      constructor
      · rintro ⟨k, found, rfl⟩
        obtain ⟨within, there, first⟩ := ih.mp found
        refine ⟨Nat.succ_le_succ within, there, fun j below => ?_⟩
        cases j with
        | zero => exact here
        | succ j => exact first j (Nat.lt_of_succ_lt_succ below)
      · rintro ⟨within, there, first⟩
        cases i with
        | zero => exact absurd there here
        | succ i =>
          exact ⟨i, ih.mpr ⟨Nat.le_of_succ_le_succ within, there, fun j below => first (j + 1) (Nat.succ_lt_succ below)⟩, rfl⟩

theorem search_none_iff (nonempty : needle ≠ []) : search needle text = none ↔ ∀ j, ¬ needle <+: text.drop j := by
  induction text with
  | nil =>
    unfold search
    rw [if_neg nonempty]
    refine iff_of_true rfl fun j here => nonempty ?_
    rw [List.drop_nil] at here
    exact List.prefix_nil.mp here
  | cons a rest ih =>
    unfold search
    by_cases here : needle <+: a :: rest
    · rw [if_pos here]
      exact iff_of_false (fun none => nomatch none) fun nowhere => nowhere 0 here
    · rw [if_neg here, Option.map_eq_none_iff, ih]
      constructor
      · intro nowhere j
        cases j with
        | zero => exact here
        | succ j => exact nowhere j
      · intro nowhere j
        exact nowhere (j + 1)

/-- A found text, split where it was found. -/
theorem search_split (found : search needle text = some i) :
    text = text.take i ++ (needle ++ text.drop (i + needle.length)) := by
  obtain ⟨-, ⟨after, here⟩, -⟩ := search_some_iff.mp found
  have rest : text.drop (i + needle.length) = after := by
    rw [← List.drop_drop, ← here, List.drop_left]
  rw [rest, here, List.take_append_drop]

theorem search_within (found : search needle text = some i) : i + needle.length ≤ text.length := by
  have length := congrArg List.length (search_split found)
  obtain ⟨within, -, -⟩ := search_some_iff.mp found
  simp only [List.length_append, List.length_take, List.length_drop] at length
  omega

/-- What is found in a text is found in what is left of it, if it is left. -/
theorem search_take (nonempty : needle ≠ []) (found : search needle text = some i) :
    search needle (text.take n) = if i + needle.length ≤ n then some i else none := by
  obtain ⟨within, here, first⟩ := search_some_iff.mp found
  split
  · rename_i enough
    refine search_some_iff.mpr ⟨?_, (occurs_take nonempty).mpr ⟨here, enough⟩, fun j below there => ?_⟩
    · rw [List.length_take]
      omega
    · exact first j below ((occurs_take nonempty).mp there).1
  · rename_i short
    refine (search_none_iff nonempty).mpr fun j there => ?_
    obtain ⟨there, end_⟩ := (occurs_take nonempty).mp there
    exact first j (by omega) there

theorem search_take_none (nonempty : needle ≠ []) (absent : search needle text = none) :
    search needle (text.take n) = none := by
  refine (search_none_iff nonempty).mpr fun j there => ?_
  exact (search_none_iff nonempty).mp absent j ((occurs_take nonempty).mp there).1

/-- A line without the first character of what is looked for is skipped. -/
theorem search_skip {a : α} {line rest : List α} (other : a ∉ line) :
    search (a :: needle) (line ++ rest) = (search (a :: needle) rest).map (· + line.length) := by
  induction line with
  | nil => simp
  | cons b line ih =>
    have apart : ¬ a :: needle <+: b :: (line ++ rest) := by
      intro here
      obtain ⟨same, -⟩ := List.cons_prefix_cons.mp here
      exact other (same ▸ List.mem_cons_self)
    rw [List.cons_append, search, if_neg apart, ih fun mem => other (List.mem_cons_of_mem b mem), Option.map_map]
    congr 1

/-! ### One character -/

theorem search_singleton_none {a : α} : search [a] text = none ↔ a ∉ text := by
  rw [search_none_iff (by simp)]
  constructor
  · intro nowhere mem
    obtain ⟨before, after, rfl⟩ := List.append_of_mem mem
    refine nowhere before.length ⟨after, ?_⟩
    rw [List.drop_left]
    rfl
  · rintro absent j ⟨after, here⟩
    have mem : a ∈ text.drop j := by
      rw [← here]
      exact List.mem_cons_self
    exact absent (List.mem_of_mem_drop mem)

/-- What stands before the first one does not have it. -/
theorem search_singleton_take {a : α} (found : search [a] text = some i) : a ∉ text.take i := by
  have cut := @search_take _ _ _ _ _ i (List.cons_ne_nil a []) found
  rw [if_neg (by simp)] at cut
  exact search_singleton_none.mp cut

/-- What a list starts with and what is left of it, cut at the first one. -/
theorem search_singleton_takeWhile {a : α} (found : search [a] text = some i) :
    text.take i = text.takeWhile (· != a) ∧ text.drop (i + 1) = (text.dropWhile (· != a)).drop 1 := by
  have absent := search_singleton_take found
  have split := search_split found
  rw [List.length_singleton] at split
  have others : ∀ b ∈ text.take i, (b != a) = true := fun b mem => bne_iff_ne.mpr fun same => absent (same ▸ mem)
  generalize text.take i = before at split others
  generalize text.drop (i + 1) = after at split
  rw [split, List.takeWhile_append_of_pos others, List.dropWhile_append_of_pos others]
  simp

end Search

end XServer.Lib
