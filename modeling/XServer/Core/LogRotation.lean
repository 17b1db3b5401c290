import XServer.Core.LogFiles

/-!
# Rotation of the log

The sink of `core/Logging.cpp` over runs: records of any size at any date and restarts. At
every record the four promises of a rotation are compared with the one way in which the
code misses them, a suffix that starts again at zero.
-/

namespace XServer.Core.Logging
open XServer.Lib XServer.Lib.Wire XServer.Net

/-! ## The sink -/

/-- The directory and the members of the sink. Sizes are those of files, far below the
range of `std::uintmax_t`. -/
structure State where
  files : Files
  isOpen : Bool
  currentDate : Option UtcDate
  currentSuffix : UInt64
  currentSize : Nat
  currentPath : Bytes

/-- A sink that is constructed over a directory. -/
def construct (files : Files) : State where
  files := files
  isOpen := false
  currentDate := none
  currentSuffix := 0
  currentSize := 0
  currentPath := []

section Sink
variable (o : Options)

/-- The file is created when it is missing, and its size asked for when none is known. The
write times of the other files are `times`. -/
def openFile (date : UtcDate) (suffix : UInt64) (existingSize : Nat) (times : Bytes → Int) (s : State) : State :=
  let path := buildFilePath o date suffix
  let files := if path ∈ s.files then s.files else s.files.insert path []
  { files := cleanupRetainedFiles o files times path
    isOpen := true
    currentDate := some date
    currentSuffix := suffix
    currentSize := if existingSize = 0 then (files[path]?.getD []).length else existingSize
    currentPath := path }

def targetDate (now : UtcDate) (s : State) : UtcDate :=
  match s.currentDate with
  | none => now
  | some date => if o.rotateDaily then now else date

def dateChanged (now : UtcDate) (s : State) : Bool := s.currentDate ≠ some (targetDate o now s)
def sizeExceeded (nextWriteSize : Nat) (s : State) : Bool :=
  s.isOpen && o.maxFileSizeBytes < s.currentSize + nextWriteSize

/-- The condition under which `EnsureWritableFile` opens a file. -/
def opensFile (now : UtcDate) (nextWriteSize : Nat) (s : State) : Bool :=
  !s.isOpen || dateChanged o now s || sizeExceeded o nextWriteSize s

def forceNewFile (now : UtcDate) (nextWriteSize : Nat) (s : State) : Bool :=
  s.isOpen && !dateChanged o now s && sizeExceeded o nextWriteSize s

def ensureWritableFile (now : UtcDate) (nextWriteSize : Nat) (times : Bytes → Int) (s : State) : State :=
  if opensFile o now nextWriteSize s then
    let date := targetDate o now s
    let selected := selectWritableFile o s.files date nextWriteSize (forceNewFile o now nextWriteSize s)
    openFile o date selected.1 selected.2 times s
  else s

/-- Write to the open file; what is written to a file that is gone is lost. -/
def append (bytes : Bytes) (s : State) : State :=
  match s.files[s.currentPath]? with
  | none => s
  | some contents => { s with files := s.files.insert s.currentPath (contents ++ bytes) }

def sinkIt (payload : Bytes) (now : UtcDate) (times : Bytes → Int) (s : State) : State :=
  let nextWriteSize := payload.length + 1
  let ready := append (payload ++ [10]) (ensureWritableFile o now nextWriteSize times s)
  { ready with currentSize := ready.currentSize + nextWriteSize }

end Sink

/-! ## Runs -/

/-- A record at a date, with the write times that a cleanup would see, or a new sink over
the same directory. -/
inductive Input where
  | record (payload : Bytes) (now : UtcDate) (times : Bytes → Int)
  | restart

/-- A record that reaches the sink. -/
structure Transition where
  before : State
  payload : Bytes
  now : UtcDate
  times : Bytes → Int

def Transition.after (o : Options) (t : Transition) : State := sinkIt o t.payload t.now t.times t.before

/-- The bytes of the record and its newline. -/
def Transition.size (t : Transition) : Nat := t.payload.length + 1

/-- The records of a run. -/
def transitions (o : Options) : List Input → State → List Transition
  | [], _ => []
  | .record payload now times :: inputs, s =>
    ⟨s, payload, now, times⟩ :: transitions o inputs (Transition.after o ⟨s, payload, now, times⟩)
  | .restart :: inputs, s => transitions o inputs (construct s.files)

/-- A directory that the sink finds. -/
structure Directory (o : Options) where
  files : Files
  named : Named o files

/-- A file can take so many bytes more: it is missing, it is empty, or it stays within the limit. -/
def HasRoom (o : Options) (files : Files) (path : Bytes) (size : Nat) : Prop :=
  ∀ contents, files[path]? = some contents → contents ≠ [] → contents.length + size ≤ o.maxFileSizeBytes

/-- What every record promises of the files: it stands at the end of one file, and no other
file holds anything new; a file is opened only together with a cleanup that leaves as many
as are retained; and the open file is there. -/
structure Keeps (o : Options) (t : Transition) : Prop where
  whole : (t.after o).files[(t.after o).currentPath]? =
      some (t.before.files[(t.after o).currentPath]?.getD [] ++ (t.payload ++ [10])) ∧
    ∀ name, name ≠ (t.after o).currentPath →
      (t.after o).files[name]? = none ∨ (t.after o).files[name]? = t.before.files[name]?
  retained : opensFile o t.now t.size t.before = true → (t.after o).files.size ≤ o.maxRetainedFiles.toNat
  current : (t.before.isOpen = true → t.before.currentPath ∈ t.before.files) ∧
    (t.after o).isOpen = true ∧ (t.after o).currentPath ∈ (t.after o).files ∧
    (opensFile o t.now t.size t.before = false → ∀ name, name ∈ t.before.files → name ∈ (t.after o).files)

/-- And the record does not take a file that has something in it over the limit. -/
structure Rotates (o : Options) (t : Transition) : Prop extends Keeps o t where
  limit : HasRoom o t.before.files (t.after o).currentPath t.size

def lastSuffix : UInt64 := 18446744073709551615

/-- The newest file of a day has the last suffix and cannot take a record, and neither can
the first one, where suffixes start again. -/
structure Wraps (o : Options) (files : Files) (date : UtcDate) (size : Nat) (force : Bool) : Prop where
  newest : ∃ contents, files[buildFilePath o date lastSuffix]? = some contents ∧
    (force = true ∨ o.maxFileSizeBytes < contents.length + size)
  first : ∃ contents, files[buildFilePath o date 0]? = some contents ∧ contents ≠ [] ∧
    o.maxFileSizeBytes < contents.length + size

/-- A record opens a file of a day whose suffixes are used up. -/
def Overruns (o : Options) (t : Transition) : Prop :=
  opensFile o t.now t.size t.before = true ∧
    Wraps o t.before.files (targetDate o t.now t.before) t.size (forceNewFile o t.now t.size t.before)

/-! ## The choice of a suffix -/

theorem next_of_last {suffix : UInt64} (last : suffix = lastSuffix) : suffix + 1 = 0 := by
  subst last
  decide

theorem lt_next {suffix : UInt64} (notLast : suffix ≠ lastSuffix) : suffix < suffix + 1 := by
  have bound := suffix.toNat_lt
  have below : suffix.toNat ≠ 18446744073709551615 := fun same => notLast (UInt64.toNat_inj.mp same)
  rw [UInt64.lt_iff_toNat_lt, UInt64.toNat_add]
  show suffix.toNat < (suffix.toNat + 1) % 2 ^ 64
  omega

theorem le_last (suffix : UInt64) : suffix ≤ lastSuffix := by
  have bound := suffix.toNat_lt
  rw [UInt64.le_iff_toNat_le]
  show suffix.toNat ≤ 18446744073709551615
  omega

section Select
variable {o : Options} {files : Files} {date : UtcDate} {size : Nat} {force : Bool}

/-- The size that is counted from is the file's, or is asked for. -/
def Counts (files : Files) (path : Bytes) (existingSize : Nat) : Prop :=
  existingSize = 0 ∨ ∃ contents, files[path]? = some contents ∧ existingSize = contents.length

theorem next_spec {newest : UInt64} {contents : Bytes} (present : files[buildFilePath o date newest]? = some contents)
    (greatest : ∀ suffix contents, files[buildFilePath o date suffix]? = some contents → suffix ≤ newest)
    (full : force = true ∨ o.maxFileSizeBytes < contents.length + size) :
    HasRoom o files (buildFilePath o date (newest + 1)) size ↔ ¬ Wraps o files date size force := by
  by_cases last : newest = lastSuffix
  · rw [next_of_last last]
    subst last
    constructor
    · rintro room ⟨-, first, there, nonempty, tooMuch⟩
      have := room first there nonempty
      omega
    · intro apart first there nonempty
      by_contra tooMuch
      exact apart ⟨⟨contents, present, full⟩, first, there, nonempty, by omega⟩
  · constructor
    · rintro - ⟨⟨other, there, -⟩, -⟩
      exact last (UInt64.le_antisymm (le_last newest) (greatest lastSuffix other there))
    · intro _ next there
      exact absurd (greatest _ next there) (UInt64.not_le.mpr (lt_next last))

theorem select_spec (named : Named o files) :
    Counts files (buildFilePath o date (selectWritableFile o files date size force).1)
        (selectWritableFile o files date size force).2 ∧
      (HasRoom o files (buildFilePath o date (selectWritableFile o files date size force).1) size ↔
        ¬ Wraps o files date size force) := by
  have spec := newest_spec named date
  unfold selectWritableFile
  cases last : (scanDailyFiles o files date).getLast? with
  | none =>
    rw [last] at spec
    refine ⟨.inl rfl, ?_⟩
    constructor
    · rintro - ⟨⟨contents, there, -⟩, -⟩
      rw [spec] at there
      cases there
    · intro _ contents there
      rw [spec] at there
      cases there
  | some newest =>
    rw [last] at spec
    obtain ⟨⟨contents, present, counted⟩, greatest⟩ := spec
    cases force with
    | true => exact ⟨.inl rfl, next_spec present greatest (.inl rfl)⟩
    | false =>
      by_cases fits : newest.size + size ≤ o.maxFileSizeBytes
      · simp only [Bool.false_eq_true, if_false, if_pos fits]
        refine ⟨.inr ⟨contents, present, counted⟩, ?_⟩
        rw [counted] at fits
        constructor
        · rintro - ⟨⟨newest', there, full⟩, -⟩
          have same : newest.suffix = lastSuffix := UInt64.le_antisymm (le_last _) (greatest _ newest' there)
          rw [← same, present] at there
          cases there
          rcases full with forced | tooMuch
          · cases forced
          · omega
        · intro _ contents' there _
          rw [present] at there
          cases there
          exact fits
      · simp only [Bool.false_eq_true, if_false, if_neg fits]
        rw [counted] at fits
        exact ⟨.inl rfl, next_spec present greatest (.inr (by omega))⟩

end Select

/-! ## One record -/

/-- What holds of the sink between records. -/
structure Sound (o : Options) (s : State) : Prop where
  named : Named o s.files
  counted : s.isOpen = true → ∃ contents, s.files[s.currentPath]? = some contents ∧ s.currentSize = contents.length

/-- The sink is open on a file that holds what it held in `files`, or is new, and counts
from its size; no other file of `files` has changed, though some may be gone. -/
structure Ready (o : Options) (files : Files) (s : State) : Prop where
  isOpen : s.isOpen = true
  present : s.files[s.currentPath]? = some (files[s.currentPath]?.getD [])
  counted : s.currentSize = (files[s.currentPath]?.getD []).length
  named : Named o s.files
  others : ∀ name, name ≠ s.currentPath → s.files[name]? = none ∨ s.files[name]? = files[name]?

section Step
variable {o : Options} {s : State}

theorem openFile_spec (named : Named o s.files) {date : UtcDate} {suffix : UInt64} {existingSize : Nat} (times : Bytes → Int)
    (counts : Counts s.files (buildFilePath o date suffix) existingSize) :
    Ready o s.files (openFile o date suffix existingSize times s) ∧
      (openFile o date suffix existingSize times s).files.size ≤ o.maxRetainedFiles.toNat := by
  obtain ⟨path, isPath⟩ : ∃ path, buildFilePath o date suffix = path := ⟨_, rfl⟩
  have fromName : ∃ date suffix, path = buildFilePath o date suffix := ⟨date, suffix, isPath.symm⟩
  unfold openFile
  rw [isPath] at counts ⊢
  -- the directory after `file_.open`, before the cleanup
  obtain ⟨files, opened⟩ : ∃ files, (if path ∈ s.files then s.files else s.files.insert path []) = files := ⟨_, rfl⟩
  have here : files[path]? = some (s.files[path]?.getD []) := by
    subst opened
    by_cases old : path ∈ s.files
    · obtain ⟨contents, there⟩ := Option.isSome_iff_exists.mp (Std.ExtTreeMap.mem_iff_isSome_getElem?.mp old)
      rw [if_pos old, there]
      rfl
    · have missing : s.files[path]? = none := Std.ExtTreeMap.getElem?_eq_none old
      rw [if_neg old, Table.get_insert_self, missing]
      rfl
  have others : ∀ name, name ≠ path → files[name]? = s.files[name]? := by
    intro name other
    subst opened
    by_cases old : path ∈ s.files
    · rw [if_pos old]
    · rw [if_neg old, Table.get_insert_of_ne _ _ fun same => other same.symm]
  have named' : Named o files := by
    intro name contents there
    by_cases same : name = path
    · rw [same]
      exact fromName
    · rw [others name same] at there
      exact named name contents there
  have open_ : path ∈ files := by
    rw [Std.ExtTreeMap.mem_iff_isSome_getElem?, here]
    rfl
  obtain ⟨few, kept, rest⟩ := @cleanup_spec o files times path named' open_
  simp only [opened]
  refine ⟨⟨rfl, kept.trans here, ?_, ?_, ?_⟩, few⟩
  · show (if existingSize = 0 then (files[path]?.getD []).length else existingSize) = (s.files[path]?.getD []).length
    rw [here, Option.getD_some]
    by_cases zero : existingSize = 0
    · rw [if_pos zero]
    · rcases counts with none_ | ⟨contents, there, size⟩
      · exact absurd none_ zero
      · rw [if_neg zero, there, size]
        rfl
  · intro name contents there
    rcases rest name with gone | same
    · exact absurd (there.symm.trans gone) (by simp)
    · exact named' name contents (same.symm.trans there)
  · intro name other
    rcases rest name with gone | same
    · exact .inl gone
    · exact .inr (same.trans (others name other))

/-- What stands between a record and the file it goes to. -/
theorem ensure_spec (sound : Sound o s) (now : UtcDate) (size : Nat) (times : Bytes → Int) :
    Ready o s.files (ensureWritableFile o now size times s) ∧
      (opensFile o now size s = true → (ensureWritableFile o now size times s).files.size ≤ o.maxRetainedFiles.toNat) ∧
      (opensFile o now size s = false → ensureWritableFile o now size times s = s) ∧
      (HasRoom o s.files (ensureWritableFile o now size times s).currentPath size ↔
        ¬ (opensFile o now size s = true ∧ Wraps o s.files (targetDate o now s) size (forceNewFile o now size s))) := by
  unfold ensureWritableFile
  cases opens : opensFile o now size s with
  | true =>
    obtain ⟨counts, room⟩ := @select_spec o s.files (targetDate o now s) size (forceNewFile o now size s) sound.named
    obtain ⟨ready, few⟩ := openFile_spec sound.named times counts
    rw [if_pos rfl]
    refine ⟨ready, fun _ => few, fun closed => Bool.noConfusion closed, ?_⟩
    rw [eq_self, true_and]
    exact room
  | false =>
    rw [if_neg Bool.false_ne_true]
    unfold opensFile at opens
    simp only [Bool.or_eq_false_iff, Bool.not_eq_false'] at opens
    obtain ⟨⟨isOpen, -⟩, within⟩ := opens
    obtain ⟨contents, there, size_⟩ := sound.counted isOpen
    have room : s.currentSize + size ≤ o.maxFileSizeBytes := by
      unfold sizeExceeded at within
      rw [isOpen, Bool.true_and, decide_eq_false_iff_not] at within
      omega
    refine ⟨⟨isOpen, by rw [there]; rfl, by rw [there]; exact size_, sound.named, fun name _ => .inr rfl⟩,
      fun closed => Bool.noConfusion closed, fun _ => rfl, ?_⟩
    constructor
    · rintro - ⟨opened, -⟩
      cases opened
    · intro _ contents' there' _
      rw [there] at there'
      cases there'
      omega

theorem Ready.append_spec {files : Files} (ready : Ready o files s) (bytes : Bytes) :
    (append bytes s).files = s.files.insert s.currentPath (files[s.currentPath]?.getD [] ++ bytes) ∧
      (append bytes s).isOpen = true ∧ (append bytes s).currentPath = s.currentPath ∧
      (append bytes s).currentSize = s.currentSize := by
  unfold append
  rw [ready.present]
  exact ⟨rfl, ready.isOpen, rfl, rfl⟩

/-- The directory and the sink after a record, by the file it went to. -/
theorem after_spec {t : Transition} (sound : Sound o t.before) :
    ∃ m, ensureWritableFile o t.now t.size t.times t.before = m ∧ Ready o t.before.files m ∧
      (t.after o).files = m.files.insert m.currentPath (t.before.files[m.currentPath]?.getD [] ++ (t.payload ++ [10])) ∧
      (t.after o).isOpen = true ∧ (t.after o).currentPath = m.currentPath ∧
      (t.after o).currentSize = (t.before.files[m.currentPath]?.getD []).length + t.size := by
  obtain ⟨ready, -⟩ := ensure_spec sound t.now t.size t.times
  obtain ⟨files, isOpen, path, size⟩ := ready.append_spec (t.payload ++ [10])
  refine ⟨_, rfl, ready, files, isOpen, path, ?_⟩
  rw [← ready.counted, ← size]
  rfl

theorem record_keeps {t : Transition} (sound : Sound o t.before) : Keeps o t := by
  obtain ⟨-, few, same, -⟩ := ensure_spec sound t.now t.size t.times
  obtain ⟨m, made, ready, files, isOpen, path, -⟩ := after_spec sound
  rw [made] at few same
  have there : m.currentPath ∈ m.files := by
    rw [Std.ExtTreeMap.mem_iff_isSome_getElem?, ready.present]
    rfl
  constructor
  · rw [path, files]
    refine ⟨Table.get_insert_self .., fun name other => ?_⟩
    rw [Table.get_insert_of_ne _ _ fun here => other here.symm]
    exact ready.others name other
  · intro opens
    rw [files, Std.ExtTreeMap.size_insert, if_pos (Std.ExtTreeMap.contains_iff_mem.mpr there)]
    exact few opens
  · rw [path, files]
    refine ⟨fun open_ => ?_, isOpen, Std.ExtTreeMap.mem_insert_self, fun closed name old => ?_⟩
    · obtain ⟨contents, present, -⟩ := sound.counted open_
      rw [Std.ExtTreeMap.mem_iff_isSome_getElem?, present]
      rfl
    · rw [same closed]
      exact Std.ExtTreeMap.mem_insert.mpr (.inr old)

/-- A record rotates as promised unless it overruns. -/
theorem record_rotates {t : Transition} (sound : Sound o t.before) : Rotates o t ↔ ¬ Overruns o t := by
  obtain ⟨-, -, -, room⟩ := ensure_spec sound t.now t.size t.times
  obtain ⟨m, made, -, -, -, path, -⟩ := after_spec sound
  rw [made, ← path] at room
  constructor
  · intro rotates
    exact room.mp rotates.limit
  · intro apart
    exact ⟨record_keeps sound, room.mpr apart⟩

theorem record_sound {t : Transition} (sound : Sound o t.before) : Sound o (t.after o) := by
  obtain ⟨m, -, ready, files, -, path, size⟩ := after_spec sound
  constructor
  · intro name contents present
    rw [files] at present
    by_cases here : m.currentPath = name
    · exact ready.named name _ (here ▸ ready.present)
    · rw [Table.get_insert_of_ne _ _ here] at present
      exact ready.named name contents present
  · intro _
    refine ⟨_, by rw [path, files]; exact Table.get_insert_self .., ?_⟩
    rw [size, List.length_append, List.length_append]
    rfl

end Step

/-! ## Every run -/

theorem transitions_sound {o : Options} {inputs : List Input} {s : State} (sound : Sound o s) :
    ∀ t ∈ transitions o inputs s, Sound o t.before := by
  induction inputs generalizing s with
  | nil =>
    intro t listed
    cases listed
  | cons input inputs ih =>
    cases input with
    | record payload now times =>
      intro t listed
      rcases List.mem_cons.mp listed with rfl | later
      · exact sound
      · exact ih (record_sound (t := ⟨s, payload, now, times⟩) sound) t later
    | restart => exact ih ⟨sound.named, fun closed => Bool.noConfusion closed⟩

theorem construct_sound {o : Options} (directory : Directory o) : Sound o (construct directory.files) :=
  ⟨directory.named, fun closed => Bool.noConfusion closed⟩

/-- A run rotates its files as promised exactly when none of its records overruns; what does
not depend on sizes is promised of every run. -/
theorem run_rotates (o : Options) (directory : Directory o) (inputs : List Input) :
    ((∀ t ∈ transitions o inputs (construct directory.files), Rotates o t) ↔
        ∀ t ∈ transitions o inputs (construct directory.files), ¬ Overruns o t) ∧
      ∀ t ∈ transitions o inputs (construct directory.files), Keeps o t := by
  have each := @transitions_sound o inputs _ (construct_sound directory)
  refine ⟨⟨fun all t listed => ?_, fun all t listed => ?_⟩, fun t listed => ?_⟩
  · exact (record_rotates (each t listed)).mp (all t listed)
  · exact (record_rotates (each t listed)).mpr (all t listed)
  · exact record_keeps (each t listed)

/-! ## A day whose suffixes are used up -/

theorem buildFilePath_injective (o : Options) (date : UtcDate) {suffix suffix' : UInt64}
    (same : buildFilePath o date suffix = buildFilePath o date suffix') : suffix = suffix' := by
  have read := tryParseSuffix_same o date suffix
  rw [same, tryParseSuffix_same] at read
  exact (Option.some.inj read).symm

/-- The first and the last file of a day. -/
def usedUp (o : Options) (date : UtcDate) (first last : Bytes) : Directory o where
  files := ((∅ : Files).insert (buildFilePath o date 0) first).insert (buildFilePath o date lastSuffix) last
  named := by
    intro name contents there
    by_cases isLast : buildFilePath o date lastSuffix = name
    · exact ⟨date, lastSuffix, isLast.symm⟩
    · rw [Table.get_insert_of_ne _ _ isLast] at there
      by_cases isFirst : buildFilePath o date 0 = name
      · exact ⟨date, 0, isFirst.symm⟩
      · rw [Table.get_insert_of_ne _ _ isFirst] at there
        simp at there

def gmOptions : Options where
  instanceId := text "GM"
  rotateDaily := true
  maxFileSizeMb := 1
  maxRetainedFiles := 10
  named := by decide
  plain := by decide
  sized := by decide
  retains := by decide

/-- A record of one MiB goes behind what the first file holds already. -/
theorem used_up_overruns :
    ¬ ∀ (o : Options) (directory : Directory o) (inputs : List Input),
      ∀ t ∈ transitions o inputs (construct directory.files), Rotates o t := by
  intro all
  have day : UtcDate := ⟨2026, 7, 30⟩
  have size : (List.replicate 1048576 (97 : UInt8)).length = 1048576 := List.length_replicate
  generalize List.replicate 1048576 (97 : UInt8) = payload at size
  have rotates := all gmOptions (usedUp gmOptions day [71] []) [.record payload day fun _ => 0] _ List.mem_cons_self
  refine (record_rotates (construct_sound _)).mp rotates ⟨rfl, ⟨⟨[], Table.get_insert_self .., .inr ?_⟩,
    ⟨[71], ?_, List.cons_ne_nil 71 [], ?_⟩⟩⟩
  · show 1 * 1024 * 1024 < 0 + (payload.length + 1)
    omega
  · show (((∅ : Files).insert (buildFilePath gmOptions day 0) [71]).insert (buildFilePath gmOptions day lastSuffix) [])[
      buildFilePath gmOptions day 0]? = some [71]
    rw [Table.get_insert_of_ne _ _ fun same => absurd (buildFilePath_injective gmOptions day same) (by decide),
      Table.get_insert_self]
  · show 1 * 1024 * 1024 < 1 + (payload.length + 1)
    omega

end XServer.Core.Logging
