import Mathlib.Data.List.Basic
import Mathlib.Data.List.Induction
import Mathlib.Tactic.Ring

/-!
# Byte readers and writers

Big-endian integers, a reader that consumes a prefix of its input and a writer
that fills a buffer of fixed capacity. `Reads r bs v` says that `r` reads the
value `v` from exactly the bytes `bs`, whatever follows them, and `Emits w bs`
that `w` appends exactly `bs` wherever they fit; both compose along the monad,
so a format is checked field by field. `Parses r P` is the other direction: what
`r` accepts satisfies `P`. An `ExactCodec` is a format whose size function, writer
and reader agree, a `FixedCodec` one whose values all have the same size.
-/

namespace XServer.Lib.Wire

abbrev Bytes := List UInt8

instance lawfulBEqBytes : LawfulBEq Bytes := inferInstance

/-! ## Big-endian integers -/

/-- The low `n` bytes of `v`, most significant first. -/
def bigEndian : Nat → Nat → Bytes
  | 0, _ => []
  | n + 1, v => bigEndian n (v / 256) ++ [UInt8.ofNat v]

/-- The number written by `bs`, most significant byte first. -/
def ofBigEndian (bs : Bytes) : Nat := bs.foldl (fun acc b => acc * 256 + b.toNat) 0

@[simp] theorem bigEndian_length (n v : Nat) : (bigEndian n v).length = n := by
  induction n generalizing v with
  | zero => rfl
  | succ n ih => simp [bigEndian, ih]

theorem ofBigEndian_snoc (bs : Bytes) (b : UInt8) :
    ofBigEndian (bs ++ [b]) = ofBigEndian bs * 256 + b.toNat := by
  simp [ofBigEndian, List.foldl_append]

theorem ofBigEndian_bigEndian (n v : Nat) (bound : v < 256 ^ n) : ofBigEndian (bigEndian n v) = v := by
  induction n generalizing v with
  | zero => simp only [Nat.pow_zero] at bound; simp [bigEndian, ofBigEndian]; omega
  | succ n ih =>
    have high : v / 256 < 256 ^ n := by
      rw [Nat.div_lt_iff_lt_mul (by decide)]
      rwa [pow_succ] at bound
    have low : (UInt8.ofNat v).toNat = v % 256 := by simp
    rw [bigEndian, ofBigEndian_snoc, ih _ high, low]
    omega

theorem ofBigEndian_lt (bs : Bytes) : ofBigEndian bs < 256 ^ bs.length := by
  induction bs using List.reverseRecOn with
  | nil => decide
  | append_singleton bs b ih =>
    have low := b.toNat_lt
    rw [ofBigEndian_snoc, List.length_append, List.length_singleton, pow_succ]
    omega

theorem bigEndian_ofBigEndian (bs : Bytes) : bigEndian bs.length (ofBigEndian bs) = bs := by
  induction bs using List.reverseRecOn with
  | nil => rfl
  | append_singleton bs b ih =>
    have low := b.toNat_lt
    have high : (ofBigEndian bs * 256 + b.toNat) / 256 = ofBigEndian bs := by omega
    have last : UInt8.ofNat (ofBigEndian bs * 256 + b.toNat) = b := by
      apply UInt8.toNat_inj.mp
      rw [UInt8.toNat_ofNat']
      omega
    rw [ofBigEndian_snoc, List.length_append, List.length_singleton, bigEndian, high, last, ih]

/-! ## Little-endian integers -/

/-- The low `n` bytes of `v`, least significant first. -/
def littleEndian (n v : Nat) : Bytes := (bigEndian n v).reverse

def ofLittleEndian (bs : Bytes) : Nat := ofBigEndian bs.reverse

@[simp] theorem littleEndian_length (n v : Nat) : (littleEndian n v).length = n := by
  rw [littleEndian, List.length_reverse, bigEndian_length]

theorem ofLittleEndian_littleEndian (n v : Nat) (bound : v < 256 ^ n) : ofLittleEndian (littleEndian n v) = v := by
  rw [ofLittleEndian, littleEndian, List.reverse_reverse, ofBigEndian_bigEndian n v bound]

theorem ofLittleEndian_lt (bs : Bytes) : ofLittleEndian bs < 256 ^ bs.length := by
  rw [ofLittleEndian, ← List.length_reverse]
  exact ofBigEndian_lt _

theorem littleEndian_ofLittleEndian (bs : Bytes) : littleEndian bs.length (ofLittleEndian bs) = bs := by
  rw [littleEndian, ofLittleEndian, ← List.length_reverse, bigEndian_ofBigEndian, List.reverse_reverse]

/-! ## Readers -/

/-- Consumes a prefix of the input or fails with an error. -/
abbrev Reader (ε α : Type) := StateT Bytes (Except ε) α

/-- The next `n` bytes, or `short` when the input has fewer. -/
def readTake {ε : Type} (short : ε) (n : Nat) : Reader ε Bytes := fun bs =>
  if n ≤ bs.length then .ok (bs.take n, bs.drop n) else .error short

/-- Rename the errors of a reader. -/
def Reader.mapError {ε ε' α : Type} (f : ε → ε') (r : Reader ε α) : Reader ε' α := fun bs =>
  match r bs with
  | .ok p => .ok p
  | .error e => .error (f e)

/-- Stop with an error unless the check passes. -/
def readCheck {ε : Type} (check : Except ε Unit) : Reader ε Unit := fun bs =>
  match check with
  | .ok () => .ok ((), bs)
  | .error e => .error e

/-- `n` values in a row. -/
def readMany {ε α : Type} (r : Reader ε α) : Nat → Reader ε (List α)
  | 0 => pure []
  | n + 1 => do
    let a ← r
    let as ← readMany r n
    pure (a :: as)

/-- A whole buffer: the body, then a validation of the value, then the check
that nothing is left. -/
def decodeExact {ε α : Type} (body : Reader ε α) (validate : α → Except ε Unit) (trailing : ε)
    (bs : Bytes) : Except ε α :=
  match body bs with
  | .error e => .error e
  | .ok (a, rest) =>
    match validate a with
    | .error e => .error e
    | .ok () => if rest.length ≠ 0 then .error trailing else .ok a

section Reads

variable {ε ε' α β : Type}

/-- `r` reads `v` from exactly the bytes `bs`. -/
def Reads (r : Reader ε α) (bs : Bytes) (v : α) : Prop := ∀ rest, r (bs ++ rest) = .ok (v, rest)

theorem Reads.pure (v : α) : Reads (pure v : Reader ε α) [] v := fun _ => rfl

theorem Reads.bind {r : Reader ε α} {f : α → Reader ε β} {bs cs : Bytes} {a : α} {b : β}
    (first : Reads r bs a) (next : Reads (f a) cs b) : Reads (r >>= f) (bs ++ cs) b := by
  intro rest
  have h := first (cs ++ rest)
  rw [← List.append_assoc] at h
  simp only [Bind.bind, StateT.bind, h, Except.bind]
  exact next rest

/-- The last field of a record. -/
theorem Reads.last {r : Reader ε α} {f : α → β} {bs : Bytes} {a : α} {b : β} (h : Reads r bs a)
    (record : f a = b) : Reads (r >>= fun a => Pure.pure (f a)) bs b := by
  have whole := h.bind (f := fun a => Pure.pure (f a)) (Reads.pure (f a))
  rwa [List.append_nil, record] at whole

theorem Reads.map {r : Reader ε α} {f : α → β} {bs : Bytes} {a : α} (h : Reads r bs a) :
    Reads (f <$> r) bs (f a) := by
  intro rest
  simp only [Functor.map, StateT.map, h rest, Bind.bind, Except.bind]
  rfl

theorem Reads.take (short : ε) (bs : Bytes) : Reads (readTake short bs.length) bs bs := by
  intro rest
  simp [readTake]

theorem Reads.mapError {r : Reader ε α} {f : ε → ε'} {bs : Bytes} {v : α} (h : Reads r bs v) :
    Reads (r.mapError f) bs v := by
  intro rest
  simp only [Reader.mapError, h rest]

theorem Reads.check {check : Except ε Unit} (ok : check = .ok ()) : Reads (readCheck check) [] () := by
  intro rest
  simp [readCheck, ok]

/-- Entries written one after another are read back in order. -/
theorem Reads.many {r : Reader ε α} {f : α → Bytes} (as : List α) (entry : ∀ a ∈ as, Reads r (f a) a) :
    Reads (readMany r as.length) (as.flatMap f) as := by
  induction as with
  | nil => exact Reads.pure []
  | cons a as ih =>
    have head := entry a List.mem_cons_self
    have tail := ih fun b mem => entry b (List.mem_cons_of_mem _ mem)
    have whole : Reads (readMany r (as.length + 1)) (f a ++ (as.flatMap f ++ [])) (a :: as) :=
      head.bind (tail.bind (Reads.pure _))
    simpa using whole

theorem Reads.decodeExact {body : Reader ε α} {validate : α → Except ε Unit} {trailing : ε}
    {bs : Bytes} {v : α} (h : Reads body bs v) (valid : validate v = .ok ()) :
    decodeExact body validate trailing bs = .ok v := by
  have whole := h []
  rw [List.append_nil] at whole
  simp [Wire.decodeExact, whole, valid]

/-- An accepted buffer is a validated value with nothing after it. -/
theorem decodeExact_ok {body : Reader ε α} {validate : α → Except ε Unit} {trailing : ε}
    {bs : Bytes} {v : α} (h : decodeExact body validate trailing bs = .ok v) :
    body bs = .ok (v, []) ∧ validate v = .ok () := by
  unfold Wire.decodeExact at h
  split at h
  · cases h
  · rename_i a rest read
    split at h
    · cases h
    · rename_i valid
      split at h
      · cases h
      · rename_i empty
        cases h
        have : rest = [] := List.length_eq_zero_iff.mp (not_not.mp empty)
        exact ⟨this ▸ read, valid⟩

theorem decodeExact_of {body : Reader ε α} {validate : α → Except ε Unit} {trailing : ε} {bs : Bytes} {v : α}
    (read : body bs = .ok (v, [])) (valid : validate v = .ok ()) : decodeExact body validate trailing bs = .ok v := by
  simp [decodeExact, read, valid]

end Reads

section Parses

variable {ε ε' α β : Type}

/-- Whatever `r` accepts, the value and the bytes consumed for it are related by `P`. -/
def Parses (r : Reader ε α) (P : α → Bytes → Prop) : Prop :=
  ∀ bs v rest, r bs = .ok (v, rest) → ∃ used, bs = used ++ rest ∧ P v used

theorem Parses.pure {P : α → Bytes → Prop} {v : α} (h : P v []) : Parses (pure v : Reader ε α) P := by
  intro bs v rest ok
  cases ok
  exact ⟨[], rfl, h⟩

theorem Parses.bind {r : Reader ε α} {f : α → Reader ε β} {P : α → Bytes → Prop} {Q : β → Bytes → Prop}
    (first : Parses r P) (next : ∀ a used, P a used → Parses (f a) fun b used' => Q b (used ++ used')) :
    Parses (r >>= f) Q := by
  intro bs b rest ok
  simp only [Bind.bind, StateT.bind] at ok
  cases h : r bs with
  | error e => rw [h] at ok; cases ok
  | ok p =>
    obtain ⟨a, mid⟩ := p
    rw [h] at ok
    obtain ⟨used, rfl, taken⟩ := first _ _ _ h
    obtain ⟨used', rfl, taken'⟩ := next a used taken _ _ _ ok
    exact ⟨used ++ used', (List.append_assoc ..).symm, taken'⟩

theorem Parses.mono {r : Reader ε α} {P Q : α → Bytes → Prop} (h : Parses r P) (imp : ∀ a used, P a used → Q a used) :
    Parses r Q := by
  intro bs v rest ok
  obtain ⟨used, split, taken⟩ := h bs v rest ok
  exact ⟨used, split, imp v used taken⟩

theorem Parses.map {r : Reader ε α} {f : α → β} {Q : β → Bytes → Prop} (h : Parses r fun a used => Q (f a) used) :
    Parses (f <$> r) Q := by
  intro bs b rest ok
  simp only [Functor.map, StateT.map, Bind.bind] at ok
  cases read : r bs with
  | error e => rw [read] at ok; cases ok
  | ok p =>
    rw [read] at ok
    cases ok
    exact h _ _ _ read

theorem Parses.take (short : ε) (n : Nat) : Parses (readTake short n) fun v used => used = v ∧ v.length = n := by
  intro bs v rest ok
  unfold readTake at ok
  split at ok
  · rename_i enough
    cases ok
    exact ⟨bs.take n, (List.take_append_drop n bs).symm, rfl, by rw [List.length_take]; omega⟩
  · cases ok

theorem Parses.mapError {r : Reader ε α} {f : ε → ε'} {P : α → Bytes → Prop} (h : Parses r P) :
    Parses (r.mapError f) P := by
  intro bs v rest ok
  unfold Reader.mapError at ok
  split at ok
  · rename_i read
    cases ok
    exact h _ _ _ read
  · cases ok

theorem Parses.check (check : Except ε Unit) : Parses (readCheck check) fun _ used => used = [] ∧ check = .ok () := by
  intro bs v rest ok
  cases check with
  | error e => cases ok
  | ok u =>
    cases ok
    exact ⟨[], rfl, rfl, rfl⟩

/-- Entries are read one after another, each from its own bytes. -/
theorem Parses.many {r : Reader ε α} {f : α → Bytes} {P : α → Prop} (h : Parses r fun a used => used = f a ∧ P a) (n : Nat) :
    Parses (readMany r n) fun as used => as.length = n ∧ used = as.flatMap f ∧ ∀ a ∈ as, P a := by
  induction n with
  | zero => exact Parses.pure (by simp)
  | succ n ih =>
    refine h.bind fun a used taken => ih.bind fun as used' taken' => Parses.pure ?_
    obtain ⟨rfl, head⟩ := taken
    obtain ⟨rfl, rfl, tail⟩ := taken'
    exact ⟨rfl, by simp, List.forall_mem_cons.mpr ⟨head, tail⟩⟩

/-- An accepted buffer holds a validated value and nothing else. -/
theorem Parses.decodeExact {body : Reader ε α} {validate : α → Except ε Unit} {trailing : ε} {P : α → Bytes → Prop}
    (h : Parses body P) {bs : Bytes} {v : α} (ok : decodeExact body validate trailing bs = .ok v) :
    P v bs ∧ validate v = .ok () := by
  obtain ⟨read, valid⟩ := decodeExact_ok ok
  obtain ⟨used, rfl, taken⟩ := h _ _ _ read
  rw [List.append_nil]
  exact ⟨taken, valid⟩

end Parses

/-! ## Readers at an offset -/

section Tracks

variable {ε ε' α α' β β' : Type}

/-- A reader at an offset into a buffer that it is given. -/
abbrev OffsetReader (α : Type) := StateT Nat Option α

/-- `t` reads at its offset what `r` reads from the rest of the buffer, up to `f`, and
stops where `r` stops. -/
def Tracks (r : Reader ε α) (buffer : Bytes) (t : OffsetReader β) (f : α → β) : Prop :=
  ∀ offset ≤ buffer.length,
    match r (buffer.drop offset) with
    | .ok (v, rest) => ∃ next ≤ buffer.length, t offset = some (f v, next) ∧ rest = buffer.drop next
    | .error _ => t offset = none

theorem Tracks.pure {buffer : Bytes} {v : α} {w : β} {f : α → β} (same : f v = w) :
    Tracks (pure v : Reader ε α) buffer (pure w) f := by
  intro offset inside
  exact ⟨offset, inside, by rw [same]; rfl, rfl⟩

theorem Tracks.bind {r : Reader ε α} {k : α → Reader ε β} {buffer : Bytes} {t : OffsetReader α'} {k' : α' → OffsetReader β'}
    {f : α → α'} {g : β → β'} (first : Tracks r buffer t f) (next : ∀ a, Tracks (k a) buffer (k' (f a)) g) :
    Tracks (r >>= k) buffer (t >>= k') g := by
  intro offset inside
  have h := first offset inside
  simp only [Bind.bind, StateT.bind]
  cases read : r (buffer.drop offset) with
  | error e =>
    rw [read] at h
    simp only [Except.bind]
    rw [h]
    rfl
  | ok p =>
    obtain ⟨a, rest⟩ := p
    rw [read] at h
    obtain ⟨mid, inside', moved, rfl⟩ := h
    simp only [Except.bind]
    rw [moved]
    exact next a mid inside'

/-- The last field of a record. -/
theorem Tracks.last {r : Reader ε α} {k : α → β} {buffer : Bytes} {t : OffsetReader α'} {k' : α' → β'} {f : α → α'}
    {g : β → β'} (first : Tracks r buffer t f) (record : ∀ a, g (k a) = k' (f a)) :
    Tracks (r >>= fun a => Pure.pure (k a)) buffer (t >>= fun a => Pure.pure (k' a)) g :=
  first.bind fun a => Tracks.pure (record a)

theorem Tracks.mapError {r : Reader ε α} {h : ε → ε'} {buffer : Bytes} {t : OffsetReader β} {f : α → β}
    (tracks : Tracks r buffer t f) : Tracks (r.mapError h) buffer t f := by
  intro offset inside
  have whole := tracks offset inside
  unfold Reader.mapError
  cases read : r (buffer.drop offset) with
  | error e => rw [read] at whole; exact whole
  | ok p => rw [read] at whole; exact whole

theorem Tracks.map {r : Reader ε α} {g : α → α'} {buffer : Bytes} {t : OffsetReader β} {f : α' → β}
    (tracks : Tracks r buffer t fun a => f (g a)) : Tracks (g <$> r) buffer t f := by
  intro offset inside
  have whole := tracks offset inside
  simp only [Functor.map, StateT.map, Bind.bind]
  cases read : r (buffer.drop offset) with
  | error e => rw [read] at whole; exact whole
  | ok p => rw [read] at whole; exact whole

/-- Taking `n` bytes is a length check and a slice. -/
theorem Tracks.take {short : ε} {n : Nat} {buffer : Bytes} {t : OffsetReader β} {f : Bytes → β}
    (slices : ∀ offset, t offset = if n > buffer.length - offset then none
      else some (f ((buffer.drop offset).take n), offset + n)) :
    Tracks (readTake short n) buffer t f := by
  intro offset inside
  rw [readTake, slices]
  by_cases enough : n ≤ (buffer.drop offset).length
  · rw [if_pos enough]
    rw [List.length_drop] at enough
    exact ⟨offset + n, by omega, by rw [if_neg (by omega)], by rw [List.drop_drop]⟩
  · rw [if_neg enough]
    rw [List.length_drop] at enough
    exact if_pos (by omega)

/-- A reader of the whole buffer, from its start. -/
theorem Tracks.start {r : Reader ε α} {buffer : Bytes} {t : OffsetReader β} {f : α → β} (tracks : Tracks r buffer t f) :
    match r buffer with
    | .ok (v, rest) => ∃ next ≤ buffer.length, t 0 = some (f v, next) ∧ (rest = [] ↔ next = buffer.length)
    | .error _ => t 0 = none := by
  have whole := tracks 0 (Nat.zero_le _)
  rw [List.drop_zero] at whole
  cases read : r buffer with
  | error e => rw [read] at whole; exact whole
  | ok p =>
    obtain ⟨v, rest⟩ := p
    rw [read] at whole
    obtain ⟨next, inside, moved, rfl⟩ := whole
    refine ⟨next, inside, moved, ?_⟩
    rw [List.drop_eq_nil_iff]
    omega

end Tracks

/-! ## Writers -/

/-- A buffer of fixed capacity and the bytes written to its front. -/
structure Sink where
  capacity : Nat
  written : Bytes

/-- Appends to the sink or fails with an error. -/
abbrev Writer (ε α : Type) := StateT Sink (Except ε) α

/-- Append `bs`, or fail with `full` when they do not fit. -/
def writePut {ε : Type} (full : ε) (bs : Bytes) : Writer ε Unit := fun s =>
  if bs.length ≤ s.capacity - s.written.length then
    .ok ((), { s with written := s.written ++ bs })
  else .error full

/-- Rename the errors of a writer. -/
def Writer.mapError {ε ε' α : Type} (f : ε → ε') (w : Writer ε α) : Writer ε' α := fun s =>
  match w s with
  | .ok p => .ok p
  | .error e => .error (f e)

/-- Write one entry after another. -/
def writeMany {ε α : Type} (w : α → Writer ε Unit) : List α → Writer ε Unit
  | [] => pure ()
  | a :: as => do
    w a
    writeMany w as

/-- The bytes a writer leaves in an empty buffer of the given capacity. -/
def encodeInto {ε : Type} (w : Writer ε Unit) (capacity : Nat) : Except ε Bytes :=
  match w ⟨capacity, []⟩ with
  | .ok (_, s) => .ok s.written
  | .error e => .error e

section Emits

variable {ε ε' α : Type}

/-- `w` appends exactly `bs` wherever they fit. -/
def Emits (w : Writer ε Unit) (bs : Bytes) : Prop :=
  ∀ s : Sink, s.written.length + bs.length ≤ s.capacity →
    w s = .ok ((), { s with written := s.written ++ bs })

theorem Emits.pure : Emits (pure () : Writer ε Unit) [] := by
  intro s _
  rw [List.append_nil]
  rfl

theorem Emits.seq {w w' : Writer ε Unit} {bs cs : Bytes} (first : Emits w bs) (next : Emits w' cs) :
    Emits (w >>= fun _ => w') (bs ++ cs) := by
  intro s room
  rw [List.length_append] at room
  have h := first s (by omega)
  have h' := next { s with written := s.written ++ bs } (by simpa [Nat.add_assoc] using room)
  simp only [Bind.bind, StateT.bind, h, Except.bind, h', List.append_assoc]

theorem Emits.put {full : ε} (bs : Bytes) : Emits (writePut full bs) bs := by
  intro s room
  rw [writePut, if_pos (by omega)]

theorem Emits.mapError {w : Writer ε Unit} {f : ε → ε'} {bs : Bytes} (h : Emits w bs) :
    Emits (w.mapError f) bs := by
  intro s room
  simp only [Writer.mapError, h s room]

theorem Emits.many {w : α → Writer ε Unit} {f : α → Bytes} (as : List α)
    (entry : ∀ a ∈ as, Emits (w a) (f a)) : Emits (writeMany w as) (as.flatMap f) := by
  induction as with
  | nil => exact Emits.pure
  | cons a as ih =>
    rw [List.flatMap_cons]
    exact (entry a List.mem_cons_self).seq (ih fun b mem => entry b (List.mem_cons_of_mem _ mem))

/-- A buffer of at least the emitted length receives exactly those bytes. -/
theorem Emits.encodeInto {w : Writer ε Unit} {bs : Bytes} {capacity : Nat} (h : Emits w bs)
    (room : bs.length ≤ capacity) : encodeInto w capacity = .ok bs := by
  have whole := h ⟨capacity, []⟩ (by simpa using room)
  simp [Wire.encodeInto, whole]

end Emits

/-! ## Exact codecs -/

section ExactCodec

variable {ε α : Type} [Inhabited α]

/-- A decoder with an output argument: the code it returns, `none` for success, and
what the argument holds afterwards. The argument is cleared before anything is
read and assigned when every check has passed; without one nothing is read. -/
def decodeInto (body : Reader ε α) (validate : α → Except ε Unit) (trailing noTarget : ε) (bs : Bytes) :
    Option α → Option ε × Option α
  | none => (some noTarget, none)
  | some _ =>
    match body bs with
    | .error e => (some e, some default)
    | .ok (parsed, rest) =>
      match validate parsed with
      | .error e => (some e, some default)
      | .ok () => if rest.length ≠ 0 then (some trailing, some default) else (none, some parsed)

theorem decodeInto_some (body : Reader ε α) (validate : α → Except ε Unit) (trailing noTarget : ε) (bs : Bytes)
    (target : α) :
    decodeInto body validate trailing noTarget bs (some target) =
      match decodeExact body validate trailing bs with
      | .ok v => (none, some v)
      | .error e => (some e, some default) := by
  unfold decodeInto decodeExact
  cases body bs with
  | error e => rfl
  | ok p =>
    obtain ⟨parsed, rest⟩ := p
    cases h : validate parsed with
    | error e => simp only [h]
    | ok u =>
      simp only [h]
      split <;> rfl

/-- Size function, writer and reader of one format, on the values that `fits`: a value
with a wire size is written to exactly that many bytes and read back, a buffer is
accepted only as the writing of a valid value, and a refused one clears the target. -/
structure ExactCodec (wireSize : α → Except ε Nat) (encode : α → Nat → Except ε Bytes)
    (decode : Bytes → Option α → Option ε × Option α) (validate : α → Except ε Unit) (fits : α → Prop) : Prop where
  roundTrip : ∀ v size, fits v → wireSize v = .ok size →
    ∃ bs, encode v size = .ok bs ∧ bs.length = size ∧ ∀ target, decode bs (some target) = (none, some v)
  canonical : ∀ bs target v, decode bs (some target) = (none, some v) →
    fits v ∧ wireSize v = .ok bs.length ∧ encode v bs.length = .ok bs
  valid : ∀ bs target v, decode bs (some target) = (none, some v) → validate v = .ok ()
  cleared : ∀ bs target e left, decode bs (some target) = (some e, left) → left = some default

/-- A format is exact when each of its values has one writing `enc`. -/
theorem ExactCodec.of_writing {wireSize : α → Except ε Nat} {encode : α → Nat → Except ε Bytes} {body : Reader ε α}
    {validate : α → Except ε Unit} {trailing noTarget : ε} {fits : α → Prop} {enc : α → Bytes}
    (size : ∀ v n, wireSize v = .ok n → validate v = .ok () ∧ n = (enc v).length)
    (writes : ∀ v n, wireSize v = .ok n → encode v n = .ok (enc v))
    (reads : ∀ v n, fits v → wireSize v = .ok n → Reads body (enc v) v)
    (parses : Parses body fun v used => used = enc v ∧ (validate v = .ok () → fits v ∧ wireSize v = .ok (enc v).length)) :
    ExactCodec wireSize encode (decodeInto body validate trailing noTarget) validate fits := by
  have accepted : ∀ bs target v, decodeInto body validate trailing noTarget bs (some target) = (none, some v) →
      decodeExact body validate trailing bs = .ok v := by
    intro bs target v ok
    rw [decodeInto_some] at ok
    cases decoded : decodeExact body validate trailing bs with
    | error e => rw [decoded] at ok; cases ok
    | ok w => rw [decoded] at ok; cases ok; rfl
  refine ⟨fun v n small sized => ?_, fun bs target v ok => ?_, fun bs target v ok => ?_, fun bs target e left refused => ?_⟩
  · obtain ⟨valid, rfl⟩ := size v n sized
    refine ⟨enc v, writes v _ sized, rfl, fun target => ?_⟩
    rw [decodeInto_some, (reads v _ small sized).decodeExact valid]
  · obtain ⟨⟨rfl, sized⟩, valid⟩ := parses.decodeExact (accepted bs target v ok)
    obtain ⟨small, sized⟩ := sized valid
    exact ⟨small, sized, writes v _ sized⟩
  · exact (parses.decodeExact (accepted bs target v ok)).2
  · rw [decodeInto_some] at refused
    cases decoded : decodeExact body validate trailing bs with
    | error e => rw [decoded] at refused; cases refused; rfl
    | ok w => rw [decoded] at refused; cases refused

end ExactCodec

/-! ## Codecs of fixed size -/

section FixedCodec

variable {ε α : Type}

/-- Validation first, then the fields. -/
def encodeExact (validate : α → Except ε Unit) (write : α → Writer ε Unit) (v : α) (capacity : Nat) :
    Except ε Bytes :=
  match validate v with
  | .error e => .error e
  | .ok () => encodeInto (write v) capacity

theorem encodeExact_ok {validate : α → Except ε Unit} {write : α → Writer ε Unit} {v : α} {capacity : Nat}
    {bs : Bytes} (h : encodeExact validate write v capacity = .ok bs) : validate v = .ok () := by
  unfold encodeExact at h
  split at h
  · cases h
  · assumption

theorem encodeExact_of_emits {validate : α → Except ε Unit} {write : α → Writer ε Unit} {v : α} {bs : Bytes}
    {capacity : Nat} (emits : Emits (write v) bs) (room : bs.length ≤ capacity) (valid : validate v = .ok ()) :
    encodeExact validate write v capacity = .ok bs := by
  unfold encodeExact
  rw [valid]
  exact emits.encodeInto room

/-- Writer and reader of a format whose values all have the same size: what is written
anywhere is written to a buffer of that size, fills it and is read back, and a buffer is
accepted only if it has that size and is the writing of its value. -/
structure FixedCodec (encode : α → Nat → Except ε Bytes) (decode : Bytes → Except ε α) (size : Nat) : Prop where
  roundTrip : ∀ v capacity written, encode v capacity = .ok written →
    ∃ full, encode v size = .ok full ∧ full.length = size ∧ decode full = .ok v
  canonical : ∀ bs v, decode bs = .ok v → bs.length = size ∧ encode v size = .ok bs

/-- A format is fixed when its fields always write, and only read, `enc`, of one length. -/
theorem FixedCodec.of_fields {encode : α → Nat → Except ε Bytes} {validate : α → Except ε Unit}
    {write : α → Writer ε Unit} {body : Reader ε α} {trailing : ε} {enc : α → Bytes} {size : Nat}
    (encodes : ∀ v capacity, encode v capacity = encodeExact validate write v capacity)
    (emits : ∀ v, Emits (write v) (enc v)) (reads : ∀ v, Reads body (enc v) v)
    (parses : Parses body fun v used => used = enc v) (length : ∀ v, (enc v).length = size) :
    FixedCodec encode (decodeExact body validate trailing) size := by
  have writes : ∀ v, validate v = .ok () → encode v size = .ok (enc v) := by
    intro v valid
    have room := length v
    rw [encodes]
    exact encodeExact_of_emits (emits v) (by omega) valid
  constructor
  · intro v capacity written accepted
    rw [encodes] at accepted
    have valid := encodeExact_ok accepted
    exact ⟨enc v, writes v valid, length v, (reads v).decodeExact valid⟩
  · intro bs v accepted
    obtain ⟨same, valid⟩ := parses.decodeExact accepted
    subst same
    exact ⟨length v, writes v valid⟩

end FixedCodec

end XServer.Lib.Wire
