import XServer.Lib.Wire

/-!
# Readers of a fixed window

`Reads` and `Parses` say what a reader does when it succeeds. For fields of fixed
width it can also be said when it does: `Window r n ok f` holds of a reader that
accepts exactly the inputs with `n` bytes that pass `ok`, takes these bytes and
computes `f` of the input.
-/

namespace XServer.Lib.Wire

section Window

variable {ε ε' α β : Type}

/-- The number in the `size` bytes at an offset. -/
def fieldAt (offset size : Nat) (bs : Bytes) : Nat := ofBigEndian ((bs.drop offset).take size)

@[simp] theorem fieldAt_drop (offset size n : Nat) (bs : Bytes) :
    fieldAt offset size (bs.drop n) = fieldAt (n + offset) size bs := by
  rw [fieldAt, fieldAt, List.drop_drop]

/-- A field of `size` bytes is below the power of 256 that it cannot hold. -/
theorem fieldAt_lt (offset size : Nat) (bs : Bytes) : fieldAt offset size bs < 256 ^ size := by
  have bound := ofBigEndian_lt ((bs.drop offset).take size)
  have short : ((bs.drop offset).take size).length ≤ size := List.length_take_le _ _
  have power : 256 ^ ((bs.drop offset).take size).length ≤ 256 ^ size := Nat.pow_le_pow_right (by decide) short
  rw [fieldAt]
  omega

/-- The reader accepts the inputs of at least `n` bytes that pass `ok`, takes `n` of them and
computes `f` of the input; it refuses all others. -/
structure Window (r : Reader ε α) (n : Nat) (ok : Bytes → Prop) (f : Bytes → α) : Prop where
  accepts : ∀ bs, n ≤ bs.length → ok bs → r bs = .ok (f bs, bs.drop n)
  refuses : ∀ bs, ¬ (n ≤ bs.length ∧ ok bs) → ∃ e, r bs = .error e

/-- The same reader described otherwise. -/
theorem Window.congr {r : Reader ε α} {n n' : Nat} {ok ok' : Bytes → Prop} {f f' : Bytes → α} (whole : Window r n ok f)
    (size : n = n') (passes : ∀ bs, ok bs ↔ ok' bs) (same : ∀ bs, f bs = f' bs) : Window r n' ok' f' := by
  subst size
  have asked : ok = ok' := funext fun bs => propext (passes bs)
  have read : f = f' := funext same
  rwa [← asked, ← read]

/-- Nothing is taken, and nothing is refused. -/
theorem Window.pure (v : α) : Window (pure v : Reader ε α) 0 (fun _ => True) fun _ => v where
  accepts := fun _ _ _ => rfl
  refuses := fun _ refused => absurd ⟨Nat.zero_le _, trivial⟩ refused

/-- The second reader has its own window behind the first, and may ask for more of what it finds there. -/
theorem Window.bind {r : Reader ε α} {k : α → Reader ε β} {n m : Nat} {ok : Bytes → Prop} {f : Bytes → α}
    {ok' : α → Bytes → Prop} {g : α → Bytes → β} (first : Window r n ok f) (next : ∀ a, Window (k a) m (ok' a) (g a)) :
    Window (r >>= k) (n + m) (fun bs => ok bs ∧ ok' (f bs) (bs.drop n)) fun bs => g (f bs) (bs.drop n) := by
  constructor
  · rintro bs enough ⟨here, later⟩
    have rest : m ≤ (bs.drop n).length := by
      rw [List.length_drop]
      omega
    simp only [Bind.bind, StateT.bind]
    rw [first.accepts bs (by omega) here]
    simp only [Except.bind]
    rw [(next (f bs)).accepts _ rest later, List.drop_drop]
  · intro bs refused
    simp only [Bind.bind, StateT.bind]
    by_cases here : n ≤ bs.length ∧ ok bs
    · have later : ¬ (m ≤ (bs.drop n).length ∧ ok' (f bs) (bs.drop n)) := by
        rintro ⟨rest, later⟩
        rw [List.length_drop] at rest
        exact refused ⟨by omega, here.2, later⟩
      obtain ⟨e, failed⟩ := (next (f bs)).refuses _ later
      rw [first.accepts bs here.1 here.2]
      exact ⟨e, failed⟩
    · obtain ⟨e, failed⟩ := first.refuses bs here
      rw [failed]
      exact ⟨e, rfl⟩

/-- How a refusal is named does not matter. -/
theorem Window.mapError {r : Reader ε α} {h : ε → ε'} {n : Nat} {ok : Bytes → Prop} {f : Bytes → α}
    (whole : Window r n ok f) : Window (r.mapError h) n ok f := by
  constructor
  · intro bs enough passes
    unfold Reader.mapError
    rw [whole.accepts bs enough passes]
  · intro bs refused
    obtain ⟨e, failed⟩ := whole.refuses bs refused
    unfold Reader.mapError
    rw [failed]
    exact ⟨h e, rfl⟩

/-- A function of what was read. -/
theorem Window.map {r : Reader ε α} {k : α → β} {n : Nat} {ok : Bytes → Prop} {f : Bytes → α} (whole : Window r n ok f) :
    Window (k <$> r) n ok fun bs => k (f bs) := by
  constructor
  · intro bs enough passes
    simp only [Functor.map, StateT.map, Bind.bind]
    rw [whole.accepts bs enough passes]
    rfl
  · intro bs refused
    obtain ⟨e, failed⟩ := whole.refuses bs refused
    simp only [Functor.map, StateT.map, Bind.bind]
    rw [failed]
    exact ⟨e, rfl⟩

/-- A fixed number of bytes, whatever they are. -/
theorem Window.take (short : ε) (n : Nat) : Window (readTake short n) n (fun _ => True) fun bs => bs.take n := by
  constructor
  · intro bs enough _
    exact if_pos enough
  · intro bs refused
    have missing : ¬ n ≤ bs.length := fun enough => refused ⟨enough, trivial⟩
    exact ⟨short, if_neg missing⟩

/-- A check in between takes no bytes; whether it passes depends on what was read before. -/
theorem Window.check {check : Except ε Unit} {passes : Prop} (accepts : passes → check = .ok ())
    (refuses : ¬ passes → ∃ e, check = .error e) :
    Window (readCheck check) 0 (fun _ => passes) fun _ => () := by
  constructor
  · intro bs _ here
    unfold readCheck
    rw [accepts here]
    rfl
  · intro bs refused
    have failed : ¬ passes := fun here => refused ⟨Nat.zero_le _, here⟩
    obtain ⟨e, same⟩ := refuses failed
    unfold readCheck
    rw [same]
    exact ⟨e, rfl⟩

end Window

end XServer.Lib.Wire
