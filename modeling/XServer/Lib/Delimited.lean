import Mathlib.Data.List.Basic
import XServer.Lib.Phrase

/-!
# Texts that come apart in one way

A text that is put together from codes of its symbols, from a word up to a terminator, or
from entries behind separators, is put together so from nothing else. The codes are
`PrefixFree`, which a reader of one code shows; `entries_injective` puts the parts together.
-/

namespace XServer.Lib

section Delimited
variable {α β : Type}

/-- Whatever follows a code, the code can be told from the text. -/
def PrefixFree (code : α → List β) : Prop := ∀ a b rest rest', code a ++ rest = code b ++ rest' → a = b ∧ rest = rest'

/-- A reader of one code tells them apart. -/
theorem PrefixFree.of_read {code : α → List β} (read : List β → Option (α × List β))
    (reads : ∀ a rest, read (code a ++ rest) = some (a, rest)) : PrefixFree code := by
  intro a b rest rest' same
  have h := reads a rest
  rw [same, reads] at h
  cases h
  exact ⟨rfl, rfl⟩

/-- Codes up to a symbol with which no code begins. -/
theorem PrefixFree.terminated {code : α → List β} (free : PrefixFree code) {c : β}
    (apart : ∀ a rest tail, code a ++ rest ≠ c :: tail) {as bs : List α} {rest rest' : List β}
    (same : as.flatMap code ++ c :: rest = bs.flatMap code ++ c :: rest') : as = bs ∧ rest = rest' := by
  induction as generalizing bs with
  | nil =>
    cases bs with
    | nil => exact ⟨rfl, (List.cons.inj same).2⟩
    | cons b bs =>
      rw [List.flatMap_cons, List.append_assoc] at same
      exact absurd same.symm (apart b _ rest)
  | cons a as ih =>
    rw [List.flatMap_cons, List.append_assoc] at same
    cases bs with
    | nil => exact absurd same (apart a _ rest')
    | cons b bs =>
      rw [List.flatMap_cons, List.append_assoc] at same
      obtain ⟨head, later⟩ := free a b _ _ same
      obtain ⟨tail, behind⟩ := ih later
      exact ⟨by rw [head, tail], behind⟩

/-- Nothing, or something behind a separator. -/
def Ends (separator : β) (rest : List β) : Prop := rest = [] ∨ ∃ tail, rest = separator :: tail

/-- A word without the separator up to it, or up to the end. -/
theorem word_ends {separator : β} {word word' rest rest' : List β} (free : separator ∉ word) (free' : separator ∉ word')
    (ends : Ends separator rest) (ends' : Ends separator rest') (same : word ++ rest = word' ++ rest') :
    word = word' ∧ rest = rest' := by
  rcases ends with rfl | ⟨tail, rfl⟩
  · rcases ends' with rfl | ⟨tail', rfl⟩
    · rw [List.append_nil, List.append_nil] at same
      exact ⟨same, rfl⟩
    · rw [List.append_nil] at same
      exact absurd (same ▸ List.mem_append_right word' List.mem_cons_self) free
  · rcases ends' with rfl | ⟨tail', rfl⟩
    · rw [List.append_nil] at same
      exact absurd (same ▸ List.mem_append_right word List.mem_cons_self) free'
    · obtain ⟨words, tails⟩ := split_first free free' same
      exact ⟨words, by rw [tails]⟩

/-- Entries, each behind a separator. -/
def entries (separator : β) (entry : α → List β) (as : List α) : List β := as.flatMap fun a => separator :: entry a

theorem entries_ends {separator : β} {entry : α → List β} (as : List α) :
    Ends separator (entries separator entry as) := by
  cases as with
  | nil => exact .inl rfl
  | cons a as => exact .inr ⟨_, rfl⟩

/-- Entries that can be told up to the next separator can be told in a row. -/
theorem entries_injective {separator : β} {entry : α → List β} {P : α → Prop}
    (told : ∀ a b rest rest', P a → P b → Ends separator rest → Ends separator rest' →
      entry a ++ rest = entry b ++ rest' → a = b ∧ rest = rest')
    {as bs : List α} (all : ∀ a ∈ as, P a) (all' : ∀ b ∈ bs, P b)
    (same : entries separator entry as = entries separator entry bs) : as = bs := by
  induction as generalizing bs with
  | nil =>
    cases bs with
    | nil => rfl
    | cons b bs => cases same
  | cons a as ih =>
    cases bs with
    | nil => cases same
    | cons b bs =>
      have behind : entry a ++ entries separator entry as = entry b ++ entries separator entry bs := (List.cons.inj same).2
      obtain ⟨head, later⟩ := told a b _ _ (all a List.mem_cons_self) (all' b List.mem_cons_self) (entries_ends as)
        (entries_ends bs) behind
      rw [head, ih (fun c listed => all c (List.mem_cons_of_mem a listed))
        (fun c listed => all' c (List.mem_cons_of_mem b listed)) later]

end Delimited

end XServer.Lib
