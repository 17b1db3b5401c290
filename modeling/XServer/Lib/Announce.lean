import Mathlib.Data.List.Induction
import Mathlib.Data.List.Nodup
import Mathlib.Data.List.Perm.Subperm
import XServer.Lib.Table

/-!
# A table that follows announcements

A producer holds a current list of keyed values and announces each once, in
order, over a queue; a consumer keeps a table and stores what it hears, one value
a key. When the producer starts over with new values, the announcements of the
old ones are still in the queue. `Follows` is the invariant: the table holds
exactly the current values as soon as the queue is empty (`drained`), and also
whenever it has one value for each current key (`full`), provided nothing stale
was announced for the last of the current keys.
-/

namespace XServer.Lib

variable {κ ν : Type}

section
variable [DecidableEq κ]

/-- The value of a key is replaced, or a new key is added. -/
def announce (table : List (κ × ν)) (a : κ × ν) : List (κ × ν) :=
  if table.any fun b => decide (b.1 = a.1) then modifyFirst (fun b => decide (b.1 = a.1)) (fun _ => a) table else table ++ [a]

theorem map_fst_modifyFirst {table : List (κ × ν)} {a : κ × ν} :
    (modifyFirst (fun b => decide (b.1 = a.1)) (fun _ => a) table).map Prod.fst = table.map Prod.fst := by
  induction table with
  | nil => rfl
  | cons b table ih =>
    unfold modifyFirst
    split
    · rename_i found
      simp [of_decide_eq_true found]
    · simp [ih]

theorem mem_modifyFirst_fst {table : List (κ × ν)} {a b : κ × ν} (distinct : (table.map Prod.fst).Nodup)
    (found : a.1 ∈ table.map Prod.fst) :
    b ∈ modifyFirst (fun b => decide (b.1 = a.1)) (fun _ => a) table ↔ b = a ∨ b ∈ table ∧ b.1 ≠ a.1 := by
  induction table with
  | nil => cases found
  | cons c table ih =>
    rw [List.map_cons, List.nodup_cons] at distinct
    unfold modifyFirst
    split
    · rename_i here
      rw [decide_eq_true_eq] at here
      have elsewhere : ∀ d ∈ table, d.1 ≠ a.1 := fun d mem same =>
        distinct.1 (here ▸ same ▸ List.mem_map_of_mem mem)
      simp only [List.mem_cons]
      constructor
      · rintro (rfl | mem)
        · exact .inl rfl
        · exact .inr ⟨.inr mem, elsewhere b mem⟩
      · rintro (rfl | ⟨rfl | mem, ne⟩)
        · exact .inl rfl
        · exact absurd here ne
        · exact .inr mem
    · rename_i other
      rw [decide_eq_true_eq] at other
      have found' : a.1 ∈ table.map Prod.fst := by
        rcases List.mem_cons.mp found with same | mem
        · exact absurd same.symm other
        · exact mem
      simp only [List.mem_cons, ih distinct.2 found']
      constructor
      · rintro (rfl | rfl | ⟨mem, ne⟩)
        · exact .inr ⟨.inl rfl, other⟩
        · exact .inl rfl
        · exact .inr ⟨.inr mem, ne⟩
      · rintro (rfl | ⟨rfl | mem, ne⟩)
        · exact .inr (.inl rfl)
        · exact .inl rfl
        · exact .inr (.inr ⟨mem, ne⟩)

theorem any_fst_iff {table : List (κ × ν)} {k : κ} : (table.any fun b => decide (b.1 = k)) = true ↔ k ∈ table.map Prod.fst := by
  simp

theorem map_fst_announce (table : List (κ × ν)) (a : κ × ν) :
    (announce table a).map Prod.fst =
      if a.1 ∈ table.map Prod.fst then table.map Prod.fst else table.map Prod.fst ++ [a.1] := by
  unfold announce
  by_cases found : a.1 ∈ table.map Prod.fst
  · rw [if_pos (any_fst_iff.mpr found), if_pos found, map_fst_modifyFirst]
  · rw [if_neg (fun any => found (any_fst_iff.mp any)), if_neg found]
    simp

theorem nodup_announce {table : List (κ × ν)} (distinct : (table.map Prod.fst).Nodup) (a : κ × ν) :
    ((announce table a).map Prod.fst).Nodup := by
  rw [map_fst_announce]
  split
  · exact distinct
  · rename_i absent
    refine List.nodup_append.mpr ⟨distinct, List.nodup_singleton _, fun k mem k' single same => absent ?_⟩
    rwa [← List.mem_singleton.mp single, ← same]

theorem mem_announce {table : List (κ × ν)} {a b : κ × ν} (distinct : (table.map Prod.fst).Nodup) :
    b ∈ announce table a ↔ b = a ∨ b ∈ table ∧ b.1 ≠ a.1 := by
  unfold announce
  by_cases found : a.1 ∈ table.map Prod.fst
  · rw [if_pos (any_fst_iff.mpr found)]
    exact mem_modifyFirst_fst distinct found
  · rw [if_neg (fun any => found (any_fst_iff.mp any)), List.mem_append, List.mem_singleton]
    constructor
    · rintro (mem | rfl)
      · exact .inr ⟨mem, fun same => found (same ▸ List.mem_map_of_mem mem)⟩
      · exact .inl rfl
    · rintro (rfl | ⟨mem, -⟩)
      · exact .inr rfl
      · exact .inl mem

end

/-- A table of distinct current keys that holds every current value is the
current list, up to order. -/
theorem perm_of_subset {current table : List (κ × ν)} (distinct : (table.map Prod.fst).Nodup)
    (keys : ∀ b ∈ table, b.1 ∈ current.map Prod.fst) (currentDistinct : (current.map Prod.fst).Nodup)
    (all : ∀ a ∈ current, a ∈ table) : table.Perm current := by
  have shorter : table.length ≤ current.length := by
    have sub : (table.map Prod.fst).Subperm (current.map Prod.fst) :=
      List.subperm_of_subset distinct fun k listed => by
        obtain ⟨b, mem, rfl⟩ := List.mem_map.mp listed
        exact keys b mem
    simpa using sub.length_le
  exact ((List.subperm_of_subset (List.Nodup.of_map _ currentDistinct) all).perm_of_length_le shorter).symm

/-- The table follows the announcements in the queue. -/
structure Follows (current queue table : List (κ × ν)) : Prop where
  currentDistinct : (current.map Prod.fst).Nodup
  distinct : (table.map Prod.fst).Nodup
  keys : ∀ b ∈ table, b.1 ∈ current.map Prod.fst
  unheard : ∀ a ∈ queue, a ∉ table
  once : queue.Nodup
  split : ∃ stale delivered pending, queue = stale ++ pending ∧ current = delivered ++ pending ∧
    (stale ≠ [] → delivered = []) ∧ (∀ a ∈ delivered, a ∈ table) ∧
    ∀ last, current.getLast? = some last →
      (∀ a ∈ stale, a.1 ≠ last.1) ∧ ∀ b ∈ table, b.1 = last.1 → b = last

namespace Follows

variable {current queue table : List (κ × ν)}

theorem empty : Follows ([] : List (κ × ν)) [] [] :=
  ⟨.nil, .nil, by simp, by simp, .nil, [], [], [], rfl, rfl, by simp, by simp, by simp⟩

/-- The producer starts over; what is in the queue becomes stale. -/
theorem restart {next : List (κ × ν)} (nextDistinct : (next.map Prod.fst).Nodup) (once : (queue ++ next).Nodup)
    (last : ∀ a ∈ queue, some a.1 ≠ (next.map Prod.fst).getLast?) : Follows next (queue ++ next) [] := by
  refine ⟨nextDistinct, .nil, by simp, by simp, once, queue, [], next, rfl, rfl, fun _ => rfl, by simp, ?_⟩
  intro newest found
  refine ⟨fun a mem same => last a mem ?_, by simp⟩
  rw [List.getLast?_map, found, same]
  rfl

/-- The consumer forgets, before it heard of any current value. -/
theorem clear (h : Follows current queue table) (none : ∀ b ∈ table, b ∉ current) : Follows current queue [] := by
  obtain ⟨stale, delivered, pending, rfl, rfl, early, heard, last⟩ := h.split
  have nothing : delivered = [] := by
    cases delivered with
    | nil => rfl
    | cons a rest => exact absurd (List.mem_append_left _ List.mem_cons_self) (none a (heard a List.mem_cons_self))
  subst nothing
  exact ⟨h.currentDistinct, .nil, by simp, by simp, h.once, stale, [], pending, rfl, rfl, fun _ => rfl, by simp,
    fun newest found => ⟨(last newest found).1, by simp⟩⟩

/-- The consumer hears an announcement and stores it if the key is current. -/
theorem deliver [DecidableEq κ] {a : κ × ν} {rest : List (κ × ν)} (h : Follows current (a :: rest) table) :
    Follows current rest (if a.1 ∈ current.map Prod.fst then announce table a else table) := by
  obtain ⟨stale, delivered, pending, queued, rfl, early, heard, last⟩ := h.split
  have fresh : a ∉ rest := (List.nodup_cons.mp h.once).1
  have once : rest.Nodup := (List.nodup_cons.mp h.once).2
  by_cases known : a.1 ∈ (delivered ++ pending).map Prod.fst
  · rw [if_pos known]
    have keys : ∀ b ∈ announce table a, b.1 ∈ (delivered ++ pending).map Prod.fst := by
      intro b mem
      rcases (mem_announce h.distinct).mp mem with rfl | ⟨mem, -⟩
      · exact known
      · exact h.keys b mem
    have unheard : ∀ b ∈ rest, b ∉ announce table a := by
      intro b mem stored
      rcases (mem_announce h.distinct).mp stored with rfl | ⟨stored, -⟩
      · exact fresh mem
      · exact h.unheard b (List.mem_cons_of_mem _ mem) stored
    refine ⟨h.currentDistinct, nodup_announce h.distinct a, keys, unheard, once, ?_⟩
    cases stale with
    | cons s stale =>
      -- a stale announcement: nothing current was heard yet
      rw [List.cons_append, List.cons.injEq] at queued
      obtain ⟨rfl, rfl⟩ := queued
      have nothing := early (by simp)
      subst nothing
      refine ⟨stale, [], pending, rfl, rfl, fun _ => rfl, by simp, fun newest found => ?_⟩
      obtain ⟨others, stored⟩ := last newest found
      refine ⟨fun b mem => others b (List.mem_cons_of_mem _ mem), fun b mem same => ?_⟩
      rcases (mem_announce h.distinct).mp mem with rfl | ⟨mem, -⟩
      · exact absurd same (others b List.mem_cons_self)
      · exact stored b mem same
    | nil =>
      -- the next current value
      rw [List.nil_append] at queued
      subst queued
      have apart : ∀ b ∈ delivered, b.1 ≠ a.1 := by
        intro b mem same
        have twice := h.currentDistinct
        rw [List.map_append, List.map_cons, List.nodup_append] at twice
        exact twice.2.2 b.1 (List.mem_map_of_mem mem) a.1 List.mem_cons_self same
      refine ⟨[], delivered ++ [a], rest, rfl, by simp, by simp, ?_, fun newest found => ⟨by simp, ?_⟩⟩
      · intro b mem
        rcases List.mem_append.mp mem with mem | mem
        · exact (mem_announce h.distinct).mpr (.inr ⟨heard b mem, apart b mem⟩)
        · exact (mem_announce h.distinct).mpr (.inl (List.mem_singleton.mp mem))
      · intro b mem same
        rcases (mem_announce h.distinct).mp mem with rfl | ⟨mem, -⟩
        · -- two current values of one key are one value
          have here : b ∈ delivered ++ b :: rest := by simp
          exact List.inj_on_of_nodup_map h.currentDistinct here (List.mem_of_getLast? found) same
        · exact (last newest found).2 b mem same
  · rw [if_neg known]
    cases stale with
    | nil =>
      rw [List.nil_append] at queued
      subst queued
      exact absurd (by simp) known
    | cons s stale =>
      rw [List.cons_append, List.cons.injEq] at queued
      obtain ⟨rfl, rfl⟩ := queued
      have nothing := early (by simp)
      subst nothing
      refine ⟨h.currentDistinct, h.distinct, h.keys, fun b mem => h.unheard b (List.mem_cons_of_mem _ mem), once,
        stale, [], pending, rfl, rfl, fun _ => rfl, by simp, fun newest found => ?_⟩
      exact ⟨fun b mem => (last newest found).1 b (List.mem_cons_of_mem _ mem), (last newest found).2⟩

/-- With an empty queue the table is current. -/
theorem drained (h : Follows current [] table) : table.Perm current := by
  obtain ⟨stale, delivered, pending, queued, rfl, -, heard, -⟩ := h.split
  obtain ⟨rfl, rfl⟩ := List.append_eq_nil_iff.mp queued.symm
  rw [List.append_nil] at h ⊢
  exact perm_of_subset h.distinct h.keys h.currentDistinct heard

/-- With a value for each current key the table is current. -/
theorem full (h : Follows current queue table) (count : table.length = current.length) : table.Perm current := by
  obtain ⟨stale, delivered, pending, rfl, rfl, early, heard, last⟩ := h.split
  cases pending using List.reverseRecOn with
  | nil =>
    rw [List.append_nil] at h ⊢
    exact perm_of_subset h.distinct h.keys h.currentDistinct heard
  | append_singleton front newest =>
    -- the last value would be both in the table and still announced
    exfalso
    have found : (delivered ++ (front ++ [newest])).getLast? = some newest := by simp
    have sub : (table.map Prod.fst).Subperm ((delivered ++ (front ++ [newest])).map Prod.fst) :=
      List.subperm_of_subset h.distinct fun k listed => by
        obtain ⟨b, mem, rfl⟩ := List.mem_map.mp listed
        exact h.keys b mem
    have perm := sub.perm_of_length_le (by simp [count])
    have listed : newest.1 ∈ table.map Prod.fst := perm.mem_iff.mpr (by simp)
    obtain ⟨b, mem, same⟩ := List.mem_map.mp listed
    have stored := (last newest found).2 b mem same
    subst stored
    exact h.unheard b (by simp) mem

end Follows

end XServer.Lib
