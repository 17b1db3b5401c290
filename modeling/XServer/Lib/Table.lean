import Std.Data.ExtTreeMap
import Mathlib.Data.List.Forall2

/-!
# Tables and inverse indexes

Finite maps with extensional equality, and the pattern of a table of records
together with an index from one optional field of a record back to its key:
`Inverse table index field` says that the index is exactly the inverse of the
bindings in the table. Each way of changing one record comes with the change of
the index that keeps the correspondence.
-/

namespace XServer.Lib
set_option linter.unusedSectionVars false

/-- A finite map ordered by its key type. -/
abbrev Table (κ ν : Type) [Ord κ] := Std.ExtTreeMap κ ν compare

namespace Table

variable {κ ν : Type} [Ord κ] [Std.TransOrd κ] [Std.LawfulEqOrd κ]

theorem get_insert [DecidableEq κ] (t : Table κ ν) (k a : κ) (v : ν) :
    (t.insert k v)[a]? = if k = a then some v else t[a]? := by
  rw [Std.ExtTreeMap.getElem?_insert]
  by_cases h : k = a
  · simp [h]
  · simp [h]

@[simp] theorem get_insert_self (t : Table κ ν) (k : κ) (v : ν) : (t.insert k v)[k]? = some v := by simp

theorem get_insert_of_ne (t : Table κ ν) {k a : κ} (v : ν) (h : k ≠ a) : (t.insert k v)[a]? = t[a]? := by
  rw [Std.ExtTreeMap.getElem?_insert, if_neg (by simpa [Std.compare_eq_iff_eq] using h)]

theorem insert_of_get {t : Table κ ν} {k : κ} {v : ν} (h : t[k]? = some v) : t.insert k v = t := by
  refine Std.ExtTreeMap.ext_getElem? fun {a} => ?_
  by_cases same : k = a
  · rw [← same, get_insert_self, h]
  · rw [get_insert_of_ne t v same]

@[simp] theorem get_erase_self (t : Table κ ν) (k : κ) : (t.erase k)[k]? = none := by simp

theorem get_erase_of_ne (t : Table κ ν) {k a : κ} (h : k ≠ a) : (t.erase k)[a]? = t[a]? := by
  rw [Std.ExtTreeMap.getElem?_erase, if_neg (by simpa [Std.compare_eq_iff_eq] using h)]

theorem get_erase_some {t : Table κ ν} {k a : κ} {v : ν} (h : (t.erase k)[a]? = some v) :
    k ≠ a ∧ t[a]? = some v := by
  have ne : k ≠ a := by
    rintro rfl
    simp at h
  exact ⟨ne, by rwa [get_erase_of_ne t ne] at h⟩

/-- Keep the entries that satisfy `p`. -/
def keep (t : Table κ ν) (p : κ → ν → Bool) : Table κ ν := t.filter p

theorem get_keep_some {t : Table κ ν} {p : κ → ν → Bool} {k : κ} {v : ν} :
    (t.keep p)[k]? = some v ↔ t[k]? = some v ∧ p k v = true := by
  rw [keep, Std.ExtTreeMap.getElem?_filter', Option.filter_eq_some_iff]

/-- Some entry satisfies `p`. -/
def any (t : Table κ ν) (p : κ → ν → Bool) : Bool := t.toList.any fun e => p e.1 e.2

theorem any_iff {t : Table κ ν} {p : κ → ν → Bool} :
    t.any p = true ↔ ∃ k v, t[k]? = some v ∧ p k v = true := by
  simp only [any, List.any_eq_true, Prod.exists, Std.ExtTreeMap.mem_toList_iff_getElem?_eq_some]

/-- One entry for each listed value that can be made. -/
def insertAll {α : Type} (key : α → κ) (make : α → Option ν) (t : Table κ ν) (as : List α) : Table κ ν :=
  as.foldl (fun t a => match make a with
    | none => t
    | some v => t.insert (key a) v) t

theorem get_insertAll_some {α : Type} {key : α → κ} {make : α → Option ν} {t : Table κ ν} {as : List α} {k : κ} {v : ν}
    (h : (t.insertAll key make as)[k]? = some v) : t[k]? = some v ∨ ∃ a ∈ as, key a = k ∧ make a = some v := by
  induction as generalizing t with
  | nil => exact .inl h
  | cons a as ih =>
    rw [insertAll, List.foldl_cons] at h
    rcases ih h with h | ⟨b, mem, rest⟩
    · split at h
      · exact .inl h
      · rename_i w made
        by_cases same : key a = k
        · subst same
          rw [get_insert_self] at h
          cases h
          exact .inr ⟨a, List.mem_cons_self, rfl, made⟩
        · rw [get_insert_of_ne _ _ same] at h
          exact .inl h
    · exact .inr ⟨b, List.mem_cons_of_mem _ mem, rest⟩

/-- A table of what `make` says of each listed key. -/
def ofKeys (make : κ → ν) (keys : List κ) : Table κ ν := insertAll id (fun k => some (make k)) ∅ keys

theorem get_ofKeys {make : κ → ν} {keys : List κ} {k : κ} {v : ν} :
    (ofKeys make keys)[k]? = some v ↔ k ∈ keys ∧ make k = v := by
  constructor
  · intro h
    rcases get_insertAll_some h with h | ⟨a, mem, rfl, made⟩
    · simp at h
    · exact ⟨mem, Option.some.inj made⟩
  · rintro ⟨mem, rfl⟩
    have kept : ∀ (keys : List κ) (t : Table κ ν), k ∈ keys ∨ t[k]? = some (make k) →
        (t.insertAll id (fun k => some (make k)) keys)[k]? = some (make k) := by
      intro keys
      induction keys with
      | nil =>
        intro t h
        rcases h with h | h
        · cases h
        · exact h
      | cons a keys ih =>
        intro t h
        refine ih (t.insert a (make a)) ?_
        by_cases same : a = k
        · exact .inr (same ▸ get_insert_self t a (make a))
        · rcases h with h | h
          · exact .inl ((List.mem_cons.mp h).resolve_left (Ne.symm same))
          · exact .inr (by rwa [get_insert_of_ne t _ same])
    exact kept keys ∅ (.inl mem)

end Table

/-! ## Updating the first match in a list -/

/-- `std::find_if`, then a change of what was found. -/
def modifyFirst {α : Type} (p : α → Bool) (f : α → α) : List α → List α
  | [] => []
  | a :: as => if p a then f a :: as else a :: modifyFirst p f as

/-- Position by position, an entry is unchanged or was the match. -/
theorem forall₂_modifyFirst {α : Type} {R : α → α → Prop} {p : α → Bool} {f : α → α}
    (refl : ∀ a, R a a) (change : ∀ a, p a = true → R a (f a)) (as : List α) :
    List.Forall₂ R as (modifyFirst p f as) := by
  induction as with
  | nil => exact .nil
  | cons a as ih =>
    unfold modifyFirst
    split
    · rename_i found
      exact .cons (change a found) (List.forall₂_same.mpr fun b _ => refl b)
    · exact .cons (refl a) ih

/-- Seen through `g`, replacing the first match is again that. -/
theorem map_modifyFirst {α β : Type} {p : α → Bool} {q : β → Bool} {g : α → β} {b : α} {as : List α}
    (same : ∀ a ∈ as, p a = q (g a)) :
    (modifyFirst p (fun _ => b) as).map g = modifyFirst q (fun _ => g b) (as.map g) := by
  induction as with
  | nil => rfl
  | cons a as ih =>
    rw [List.map_cons, modifyFirst, modifyFirst, ← same a List.mem_cons_self]
    split
    · rfl
    · rw [List.map_cons, ih fun c mem => same c (List.mem_cons_of_mem _ mem)]

/-- Under distinct keys, the search for a listed entry's key finds that entry. -/
theorem find_of_nodup {α β : Type} [BEq β] [LawfulBEq β] {key : α → β} {as : List α} {a : α}
    (distinct : (as.map key).Nodup) (mem : a ∈ as) : as.find? (fun b => key b == key a) = some a := by
  induction as with
  | nil => cases mem
  | cons b as ih =>
    rw [List.map_cons, List.nodup_cons] at distinct
    rw [List.find?_cons]
    rcases List.mem_cons.mp mem with rfl | later
    · simp
    · have ne : (key b == key a) = false :=
        beq_eq_false_iff_ne.mpr fun same => distinct.1 (same ▸ List.mem_map_of_mem later)
      rw [ne]
      exact ih distinct.2 later

theorem modifyFirst_of_find {α : Type} {p : α → Bool} {as : List α} {a : α} (found : as.find? p = some a) :
    modifyFirst p (fun _ => a) as = as := by
  induction as with
  | nil => rfl
  | cons b as ih =>
    rw [modifyFirst]
    rw [List.find?_cons] at found
    split at found
    · rename_i here
      rw [if_pos here, Option.some.inj found]
    · rename_i later
      rw [if_neg (by simp [later]), ih found]

/-- The first match stands somewhere, and only what stands there changes. -/
theorem modifyFirst_split {α : Type} {p : α → Bool} {as : List α} {a : α} (found : as.find? p = some a) (f : α → α) :
    ∃ front back, as = front ++ a :: back ∧ modifyFirst p f as = front ++ f a :: back := by
  induction as with
  | nil => cases found
  | cons b as ih =>
    rw [modifyFirst]
    rw [List.find?_cons] at found
    split at found
    · rename_i here
      cases found
      rw [if_pos here]
      exact ⟨[], as, rfl, rfl⟩
    · rename_i later
      obtain ⟨front, back, split, changed⟩ := ih found
      rw [if_neg (by simp [later]), changed, split]
      exact ⟨b :: front, back, rfl, rfl⟩

/-- A replacement that still matches is found in the place of the first match. -/
theorem find_modifyFirst {α : Type} {p : α → Bool} {as : List α} {a b : α} (found : as.find? p = some a)
    (matching : p b = true) : (modifyFirst p (fun _ => b) as).find? p = some b := by
  induction as with
  | nil => cases found
  | cons c as ih =>
    rw [modifyFirst]
    rw [List.find?_cons] at found
    split at found
    · rename_i here
      rw [if_pos here, List.find?_cons, matching]
    · rename_i later
      rw [if_neg (by simp [later]), List.find?_cons, later]
      exact ih found

theorem mem_modifyFirst {α : Type} {p : α → Bool} {f : α → α} {as : List α} {b : α}
    (h : b ∈ modifyFirst p f as) : b ∈ as ∨ ∃ a ∈ as, p a = true ∧ b = f a := by
  induction as with
  | nil => cases h
  | cons a as ih =>
    unfold modifyFirst at h
    split at h
    · rename_i found
      rcases List.mem_cons.mp h with rfl | h
      · exact .inr ⟨a, List.mem_cons_self, found, rfl⟩
      · exact .inl (List.mem_cons_of_mem _ h)
    · rcases List.mem_cons.mp h with rfl | h
      · exact .inl List.mem_cons_self
      · rcases ih h with h | ⟨c, mem, found, rfl⟩
        · exact .inl (List.mem_cons_of_mem _ h)
        · exact .inr ⟨c, List.mem_cons_of_mem _ mem, found, rfl⟩

/-- A change that still matches and is its own repetition is made once. -/
theorem modifyFirst_modifyFirst {α : Type} {p : α → Bool} {f : α → α}
    (settled : ∀ a, p a = true → p (f a) = true ∧ f (f a) = f a) (as : List α) :
    modifyFirst p f (modifyFirst p f as) = modifyFirst p f as := by
  induction as with
  | nil => rfl
  | cons a as ih =>
    rw [modifyFirst]
    split
    · rename_i here
      obtain ⟨still, same⟩ := settled a here
      rw [modifyFirst, if_pos still, same]
    · rename_i later
      rw [modifyFirst, if_neg later, ih]

/-- A change that does nothing goes on doing nothing, if another change leaves what
it finds alone and brings nothing before it. -/
theorem modifyFirst_absorbed {α : Type} {p q : α → Bool} {f g : α → α} {as : List α}
    (misses : ∀ a, q a = true → p a = false → p (g a) = false)
    (keeps : ∀ a, q a = true → p a = true → f a = a → p (g a) = true ∧ f (g a) = g a)
    (h : modifyFirst p f as = as) : modifyFirst p f (modifyFirst q g as) = modifyFirst q g as := by
  induction as with
  | nil => rfl
  | cons a as ih =>
    rw [modifyFirst] at h
    rw [modifyFirst]
    split at h
    · rename_i here
      have fixed : f a = a := (List.cons.inj h).1
      split
      · rename_i changed
        obtain ⟨still, same⟩ := keeps a changed here fixed
        rw [modifyFirst, if_pos still, same]
      · rw [modifyFirst, if_pos here, fixed]
    · rename_i later
      have rest : modifyFirst p f as = as := (List.cons.inj h).2
      split
      · rename_i changed
        rw [modifyFirst, misses a changed (Bool.eq_false_iff.mpr later), if_neg Bool.false_ne_true, rest]
      · rw [modifyFirst, if_neg later, ih rest]

/-- Pointwise relations compose. -/
theorem forall₂_trans {α : Type} {R : α → α → Prop} (trans : ∀ {a b c : α}, R a b → R b c → R a c) {as bs cs : List α}
    (ab : List.Forall₂ R as bs) (bc : List.Forall₂ R bs cs) : List.Forall₂ R as cs := by
  induction ab generalizing cs with
  | nil => exact bc
  | cons head _ ih =>
    cases bc with
    | cons head' tail' => exact .cons (trans head head') (ih tail')

/-! ## Inverse indexes -/

section Inverse

variable {κ ρ β : Type} [Ord κ] [Std.TransOrd κ] [Std.LawfulEqOrd κ]
  [Ord β] [Std.TransOrd β] [Std.LawfulEqOrd β]

/-- `index` maps `b` to `k` exactly when record `k` has the field value `b`. -/
def Inverse (table : Table κ ρ) (index : Table β κ) (field : ρ → Option β) : Prop :=
  ∀ b k, index[b]? = some k ↔ ∃ r, table[k]? = some r ∧ field r = some b

namespace Inverse

variable {table : Table κ ρ} {index : Table β κ} {field : ρ → Option β}

theorem empty : Inverse (∅ : Table κ ρ) (∅ : Table β κ) field := by
  intro b k
  simp

/-- A field value belongs to one record. -/
theorem injective (h : Inverse table index field) {k k' : κ} {r r' : ρ} {b : β}
    (hr : table[k]? = some r) (hr' : table[k']? = some r') (hb : field r = some b) (hb' : field r' = some b) :
    k = k' := by
  have one := (h b k).mpr ⟨r, hr, hb⟩
  have two := (h b k').mpr ⟨r', hr', hb'⟩
  exact Option.some.inj (one.symm.trans two)

/-- Replacing a record by one with the same field. -/
theorem touch (h : Inverse table index field) {k : κ} {r r' : ρ} (hr : table[k]? = some r)
    (same : field r' = field r) : Inverse (table.insert k r') index field := by
  intro b a
  by_cases ka : k = a
  · subst ka
    rw [Table.get_insert_self, h b k]
    constructor
    · rintro ⟨x, hx, hb⟩
      rw [hr] at hx
      cases hx
      exact ⟨r', rfl, same.trans hb⟩
    · rintro ⟨x, hx, hb⟩
      cases hx
      exact ⟨r, hr, same.symm.trans hb⟩
  · rw [Table.get_insert_of_ne _ _ ka]
    exact h b a

/-- A new record without a field value. -/
theorem insertFresh (h : Inverse table index field) {k : κ} {r : ρ} (fresh : table[k]? = none)
    (unbound : field r = none) : Inverse (table.insert k r) index field := by
  intro b a
  by_cases ka : k = a
  · subst ka
    rw [Table.get_insert_self, h b k, fresh]
    constructor
    · rintro ⟨x, hx, -⟩
      cases hx
    · rintro ⟨x, hx, hb⟩
      cases hx
      rw [unbound] at hb
      cases hb
  · rw [Table.get_insert_of_ne _ _ ka]
    exact h b a

/-- Giving an unbound record a value that no record has. -/
theorem bind (h : Inverse table index field) {k : κ} {r r' : ρ} {b : β} (hr : table[k]? = some r)
    (unbound : field r = none) (free : index[b]? = none) (bound : field r' = some b) :
    Inverse (table.insert k r') (index.insert b k) field := by
  intro c a
  by_cases bc : b = c
  · subst bc
    rw [Table.get_insert_self]
    constructor
    · intro hk
      cases hk
      exact ⟨r', by simp, bound⟩
    · rintro ⟨x, hx, hb⟩
      by_cases ka : k = a
      · rw [ka]
      · rw [Table.get_insert_of_ne _ _ ka] at hx
        rw [(h b a).mpr ⟨x, hx, hb⟩] at free
        cases free
  · rw [Table.get_insert_of_ne _ _ bc, h c a]
    by_cases ka : k = a
    · subst ka
      rw [Table.get_insert_self, hr]
      constructor
      · rintro ⟨x, hx, hc⟩
        cases hx
        rw [unbound] at hc
        cases hc
      · rintro ⟨x, hx, hc⟩
        cases hx
        rw [bound] at hc
        exact absurd (Option.some.inj hc) bc
    · rw [Table.get_insert_of_ne _ _ ka]

/-- A new record with a value that no record has. -/
theorem insertBound (h : Inverse table index field) {k : κ} {r : ρ} {b : β} (fresh : table[k]? = none)
    (free : index[b]? = none) (bound : field r = some b) : Inverse (table.insert k r) (index.insert b k) field := by
  intro c a
  by_cases ka : k = a
  · subst ka
    rw [Table.get_insert_self]
    by_cases bc : b = c
    · subst bc
      rw [Table.get_insert_self]
      exact ⟨fun _ => ⟨r, rfl, bound⟩, fun _ => rfl⟩
    · rw [Table.get_insert_of_ne _ _ bc, h c k, fresh]
      constructor
      · rintro ⟨x, hx, -⟩
        cases hx
      · rintro ⟨x, hx, hc⟩
        cases hx
        exact absurd (Option.some.inj (bound.symm.trans hc)) bc
  · rw [Table.get_insert_of_ne _ _ ka]
    by_cases bc : b = c
    · subst bc
      rw [Table.get_insert_self, ← h b a, free]
      exact ⟨fun hk => absurd (Option.some.inj hk) ka, nofun⟩
    · rw [Table.get_insert_of_ne _ _ bc]
      exact h c a

/-- A change of every record that keeps its field. -/
theorem map (h : Inverse table index field) {f : ρ → ρ} (same : ∀ r, field (f r) = field r) :
    Inverse (table.map fun _ r => f r) index field := by
  intro b k
  rw [h b k, Std.ExtTreeMap.getElem?_map]
  constructor
  · rintro ⟨r, hr, hb⟩
    exact ⟨f r, by rw [hr]; rfl, (same r).trans hb⟩
  · rintro ⟨r', hr', hb⟩
    obtain ⟨r, hr, rfl⟩ := Option.map_eq_some_iff.mp hr'
    exact ⟨r, hr, (same r).symm.trans hb⟩

/-- Taking a record's value away, together with its index entry. -/
theorem unbind (h : Inverse table index field) {k : κ} {r r' : ρ} {b : β} (hr : table[k]? = some r)
    (bound : field r = some b) (unbound : field r' = none) :
    Inverse (table.insert k r') (index.erase b) field := by
  intro c a
  by_cases ka : k = a
  · subst ka
    rw [Table.get_insert_self]
    constructor
    · intro hc
      obtain ⟨ne, hc⟩ := Table.get_erase_some hc
      obtain ⟨x, hx, hb⟩ := (h c k).mp hc
      rw [hr] at hx
      cases hx
      rw [bound] at hb
      exact absurd (Option.some.inj hb) ne
    · rintro ⟨x, hx, hc⟩
      cases hx
      rw [unbound] at hc
      cases hc
  · rw [Table.get_insert_of_ne _ _ ka]
    by_cases bc : b = c
    · subst bc
      rw [Table.get_erase_self]
      constructor
      · intro hc
        cases hc
      · rintro ⟨x, hx, hb⟩
        exact absurd (h.injective hr hx bound hb) ka
    · rw [Table.get_erase_of_ne _ bc]
      exact h c a

/-- Removing a bound record together with its index entry. -/
theorem eraseBound (h : Inverse table index field) {k : κ} {r : ρ} {b : β} (hr : table[k]? = some r)
    (bound : field r = some b) : Inverse (table.erase k) (index.erase b) field := by
  intro c a
  by_cases bc : b = c
  · subst bc
    rw [Table.get_erase_self]
    constructor
    · intro hc
      cases hc
    · rintro ⟨x, hx, hb⟩
      obtain ⟨ka, hx⟩ := Table.get_erase_some hx
      exact absurd (h.injective hr hx bound hb) ka
  · rw [Table.get_erase_of_ne _ bc, h c a]
    constructor
    · rintro ⟨x, hx, hc⟩
      have ka : k ≠ a := by
        rintro rfl
        rw [hr] at hx
        cases hx
        rw [bound] at hc
        exact bc (Option.some.inj hc)
      exact ⟨x, by rwa [Table.get_erase_of_ne _ ka], hc⟩
    · rintro ⟨x, hx, hc⟩
      exact ⟨x, (Table.get_erase_some hx).2, hc⟩

/-- Removing an unbound record. -/
theorem eraseUnbound (h : Inverse table index field) {k : κ} {r : ρ} (hr : table[k]? = some r)
    (unbound : field r = none) : Inverse (table.erase k) index field := by
  intro c a
  rw [h c a]
  constructor
  · rintro ⟨x, hx, hc⟩
    have ka : k ≠ a := by
      rintro rfl
      rw [hr] at hx
      cases hx
      rw [unbound] at hc
      cases hc
    exact ⟨x, by rwa [Table.get_erase_of_ne _ ka], hc⟩
  · rintro ⟨x, hx, hc⟩
    exact ⟨x, (Table.get_erase_some hx).2, hc⟩

end Inverse

end Inverse

end XServer.Lib
