import XServer.Core.JsonText
import XServer.Lib.Phrase
import XServer.Lib.Table
import Mathlib.Data.List.Nodup

/-!
# The files of a log

`DailySizeFileSink` of `core/Logging.cpp`: the names it gives its files and reads suffixes
back from, the choice of the file to write to, and the removal of old files. The directory
is a table from names to contents; file operations succeed and report what is there.
-/

namespace XServer.Core.Logging
open XServer.Lib XServer.Lib.Wire XServer.Net

/-! ## Names -/

structure UtcDate where
  year : Int
  month : Int
  day : Int
  deriving DecidableEq

/-- An `int` behind `std::setw(width)`, filled with zeros. -/
def setw (width : Nat) (value : Int) : Bytes :=
  List.replicate (width - (text value.repr).length) 48 ++ text value.repr

def formatDate (date : UtcDate) : Bytes :=
  setw 4 date.year ++ text "-" ++ setw 2 date.month ++ text "-" ++ setw 2 date.day

/-- What the constructor of the sink and the validation of the configuration let through;
an instance id is a node id, and no node id has a `/`. -/
structure Options where
  instanceId : Bytes
  rotateDaily : Bool
  maxFileSizeMb : UInt32
  maxRetainedFiles : UInt32
  named : instanceId ≠ []
  plain : 47 ∉ instanceId
  sized : 0 < maxFileSizeMb.toNat
  retains : 0 < maxRetainedFiles.toNat

def Options.maxFileSizeBytes (o : Options) : Nat := o.maxFileSizeMb.toNat * 1024 * 1024

section Names
variable (o : Options)

def baseName (date : UtcDate) : Bytes := o.instanceId ++ text "-" ++ formatDate date

/-- The name of a file in the root directory. -/
def buildFilePath (date : UtcDate) (suffix : UInt64) : Bytes :=
  if suffix = 0 then baseName o date ++ text ".log"
  else baseName o date ++ text "." ++ text suffix.toNat.repr ++ text ".log"

/-- The digits of a suffix, in the arithmetic of `std::size_t`. -/
def parseDigits (suffix : UInt64) : Bytes → Option UInt64
  | [] => some suffix
  | ch :: digits => if isDecimalDigit ch then parseDigits (suffix * 10 + UInt64.ofNat (ch.toNat - 48)) digits else none

def tryParseSuffix (fileName baseName : Bytes) : Option UInt64 :=
  if fileName = baseName ++ text ".log" then some 0
  else
    let front := baseName ++ text "."
    if !front.isPrefixOf fileName || !(text ".log").isSuffixOf fileName then none
    else
      let digits := (fileName.drop front.length).take (fileName.length - front.length - 4)
      if digits = [] then none else parseDigits 0 digits

end Names

/-! ## The directory -/

/-- The regular files of the root directory. -/
abbrev Files := Table Bytes Bytes

structure FileCandidate where
  suffix : UInt64
  path : Bytes
  size : Nat

structure RetainedFile where
  path : Bytes
  lastWriteTime : Int

/-- The order by time and then by path. -/
def RetainedFile.older (a b : RetainedFile) : Bool :=
  a.lastWriteTime < b.lastWriteTime || (a.lastWriteTime == b.lastWriteTime && a.path ≤ b.path)

section Directory
variable (o : Options)

def scanDailyFiles (files : Files) (date : UtcDate) : List FileCandidate :=
  (files.toList.filterMap fun entry =>
    (tryParseSuffix entry.1 (baseName o date)).map fun suffix => ⟨suffix, entry.1, entry.2.length⟩).mergeSort
      fun a b => a.suffix ≤ b.suffix

/-- The suffix to write to and the size to count from; the next suffix is that of `std::size_t`. -/
def selectWritableFile (files : Files) (date : UtcDate) (nextWriteSize : Nat) (forceNewFile : Bool) : UInt64 × Nat :=
  match (scanDailyFiles o files date).getLast? with
  | none => (0, 0)
  | some newest =>
    if forceNewFile then (newest.suffix + 1, 0)
    else if newest.size + nextWriteSize ≤ o.maxFileSizeBytes then (newest.suffix, newest.size)
    else (newest.suffix + 1, 0)

/-- The files of the instance but the current one. -/
def retainedFiles (files : Files) (times : Bytes → Int) (currentPath : Bytes) : List RetainedFile :=
  (files.keys.filter fun name =>
    (o.instanceId ++ text "-").isPrefixOf name && (text ".log").isSuffixOf name && name ≠ currentPath).map
      fun name => ⟨name, times name⟩

def cleanupRetainedFiles (files : Files) (times : Bytes → Int) (currentPath : Bytes) : Files :=
  let retained := retainedFiles o files times currentPath
  if retained.length + 1 ≤ o.maxRetainedFiles.toNat then files
  else
    let removableCount := retained.length + 1 - o.maxRetainedFiles.toNat
    ((retained.mergeSort RetainedFile.older).take removableCount).foldl (fun files file => files.erase file.path) files

end Directory

/-! ## Names read back -/

theorem digits_of_repr {value : Int} {ch : UInt8} (listed : ch ∈ text value.repr) :
    isDecimalDigit ch = true ∨ ch = 45 := by
  cases value with
  | ofNat n => exact .inl ((readDecimal_repr n).2.1 ch listed)
  | negSucc n =>
    have split : text (Int.negSucc n).repr = text "-" ++ text (n + 1).repr := text_append ..
    rw [split] at listed
    rcases List.mem_append.mp listed with sign | digit
    · exact .inr (List.mem_singleton.mp sign)
    · exact .inl ((readDecimal_repr (n + 1)).2.1 ch digit)

theorem setw_chars {width : Nat} {value : Int} {ch : UInt8} (listed : ch ∈ setw width value) :
    isDecimalDigit ch = true ∨ ch = 45 := by
  rcases List.mem_append.mp listed with fill | digit
  · rw [List.eq_of_mem_replicate fill]
    exact .inl (by decide)
  · exact digits_of_repr digit

theorem formatDate_chars {date : UtcDate} {ch : UInt8} (listed : ch ∈ formatDate date) :
    isDecimalDigit ch = true ∨ ch = 45 := by
  unfold formatDate at listed
  simp only [List.mem_append] at listed
  have dash : ∀ ch ∈ text "-", ch = 45 := fun _ listed => List.mem_singleton.mp listed
  rcases listed with (((year | sign) | month) | sign) | day
  · exact setw_chars year
  · exact .inr (dash ch sign)
  · exact setw_chars month
  · exact .inr (dash ch sign)
  · exact setw_chars day

/-- A date has no `.`, behind which its suffix stands. -/
theorem formatDate_dotless (date : UtcDate) : 46 ∉ formatDate date := by
  intro listed
  rcases formatDate_chars listed with digit | sign
  · exact absurd digit (by decide)
  · exact absurd sign (by decide)

theorem parseDigits_digits {digits : Bytes} (all : ∀ ch ∈ digits, isDecimalDigit ch = true) (n : Nat) :
    parseDigits (UInt64.ofNat n) digits =
      some (UInt64.ofNat (digits.foldl (fun n ch => n * 10 + (ch.toNat - 48)) n)) := by
  induction digits generalizing n with
  | nil => rfl
  | cons ch digits ih =>
    have next : UInt64.ofNat n * 10 + UInt64.ofNat (ch.toNat - 48) = UInt64.ofNat (n * 10 + (ch.toNat - 48)) := by
      rw [UInt64.ofNat_add, UInt64.ofNat_mul]
      rfl
    rw [parseDigits, if_pos (all ch List.mem_cons_self), next, ih fun c listed => all c (List.mem_cons_of_mem ch listed)]
    rfl

/-- The suffix of a name is the number written in it. -/
theorem parseDigits_repr (suffix : UInt64) : parseDigits 0 (text suffix.toNat.repr) = some suffix := by
  obtain ⟨value, digits, -⟩ := readDecimal_repr suffix.toNat
  have parsed := parseDigits_digits digits 0
  unfold readDecimal at value
  rw [value, UInt64.ofNat_toNat] at parsed
  exact parsed

section Names
variable (o : Options) (date date' : UtcDate)

theorem baseName_eq (same : formatDate date' = formatDate date) : baseName o date' = baseName o date := by
  unfold baseName
  rw [same]

theorem buildFilePath_eq (same : formatDate date' = formatDate date) (suffix : UInt64) :
    buildFilePath o date' suffix = buildFilePath o date suffix := by
  unfold buildFilePath
  rw [baseName_eq o date date' same]

/-- Every name goes on behind its date with a `.`. -/
theorem buildFilePath_dot (suffix : UInt64) :
    ∃ rest, buildFilePath o date suffix = (o.instanceId ++ text "-") ++ (formatDate date ++ 46 :: rest) := by
  unfold buildFilePath baseName
  by_cases first : suffix = 0
  · refine ⟨text "log", ?_⟩
    rw [if_pos first, List.append_assoc]
    rfl
  · refine ⟨text suffix.toNat.repr ++ text ".log", ?_⟩
    rw [if_neg first]
    simp only [List.append_assoc]
    rfl

/-- The files of another day are not taken for this day's. -/
theorem tryParseSuffix_other (other : formatDate date' ≠ formatDate date) (suffix : UInt64) :
    tryParseSuffix (buildFilePath o date' suffix) (baseName o date) = none := by
  obtain ⟨rest, name⟩ := buildFilePath_dot o date' suffix
  have apart : ∀ tail, buildFilePath o date' suffix ≠ baseName o date ++ 46 :: tail := by
    intro tail same
    rw [name, baseName, List.append_assoc _ (formatDate date)] at same
    exact other (split_first (formatDate_dotless date') (formatDate_dotless date) (List.append_cancel_left same)).1
  have notPrimary : buildFilePath o date' suffix ≠ baseName o date ++ text ".log" := apart (text "log")
  have notFront : (baseName o date ++ text ".").isPrefixOf (buildFilePath o date' suffix) = false := by
    rw [Bool.eq_false_iff]
    intro starts
    obtain ⟨tail, same⟩ := List.isPrefixOf_iff_prefix.mp starts
    rw [List.append_assoc] at same
    exact apart tail same.symm
  unfold tryParseSuffix
  rw [if_neg notPrimary]
  simp only [notFront, Bool.not_false, Bool.true_or, if_true]

theorem tryParseSuffix_same (suffix : UInt64) :
    tryParseSuffix (buildFilePath o date suffix) (baseName o date) = some suffix := by
  by_cases first : suffix = 0
  · unfold buildFilePath tryParseSuffix
    rw [if_pos first, if_pos rfl, first]
  · have digits := (readDecimal_repr suffix.toNat).2.2
    have parsed := parseDigits_repr suffix
    have written :
        buildFilePath o date suffix = baseName o date ++ text "." ++ text suffix.toNat.repr ++ text ".log" := by
      unfold buildFilePath
      rw [if_neg first]
    generalize text suffix.toNat.repr = number at digits parsed written
    have longer : 0 < number.length := List.length_pos_iff.mpr digits
    have notPrimary : baseName o date ++ text "." ++ number ++ text ".log" ≠ baseName o date ++ text ".log" := by
      intro same
      have length := congrArg List.length same
      simp only [List.length_append] at length
      omega
    have starts :
        (baseName o date ++ text ".").isPrefixOf (baseName o date ++ text "." ++ number ++ text ".log") = true := by
      rw [List.isPrefixOf_iff_prefix, List.append_assoc]
      exact List.prefix_append ..
    have ends : (text ".log").isSuffixOf (baseName o date ++ text "." ++ number ++ text ".log") = true := by
      rw [List.isSuffixOf_iff_suffix]
      exact List.suffix_append ..
    have between : ((baseName o date ++ text "." ++ number ++ text ".log").drop (baseName o date ++ text ".").length).take
        ((baseName o date ++ text "." ++ number ++ text ".log").length - (baseName o date ++ text ".").length - 4) = number := by
      have tail : (text ".log").length = 4 := by decide
      rw [List.append_assoc _ number, List.drop_left, List.take_left']
      simp only [List.length_append, tail]
      omega
    rw [written]
    unfold tryParseSuffix
    rw [if_neg notPrimary]
    simp only [starts, ends, Bool.not_true, Bool.or_self, Bool.false_eq_true, if_false, between, if_neg digits, parsed]

theorem buildFilePath_front (suffix : UInt64) :
    (o.instanceId ++ text "-").isPrefixOf (buildFilePath o date suffix) = true := by
  obtain ⟨rest, name⟩ := buildFilePath_dot o date suffix
  rw [List.isPrefixOf_iff_prefix, name]
  exact List.prefix_append ..

theorem buildFilePath_extension (suffix : UInt64) : (text ".log").isSuffixOf (buildFilePath o date suffix) = true := by
  rw [List.isSuffixOf_iff_suffix]
  unfold buildFilePath
  by_cases first : suffix = 0
  · rw [if_pos first]
    exact List.suffix_append ..
  · rw [if_neg first]
    exact List.suffix_append ..

end Names

/-! ## What is chosen and what is removed -/

section Directory
variable {o : Options} {files : Files}

/-- The directory has only files that the sink named. -/
def Named (o : Options) (files : Files) : Prop :=
  ∀ name contents, files[name]? = some contents → ∃ date suffix, name = buildFilePath o date suffix

/-- The suffixes that a scan finds are those of the files of the day. -/
theorem mem_scan (named : Named o files) {date : UtcDate} {candidate : FileCandidate} :
    candidate ∈ scanDailyFiles o files date ↔
      candidate.path = buildFilePath o date candidate.suffix ∧
        ∃ contents, files[candidate.path]? = some contents ∧ candidate.size = contents.length := by
  unfold scanDailyFiles
  rw [List.mem_mergeSort, List.mem_filterMap]
  constructor
  · rintro ⟨⟨name, contents⟩, listed, found⟩
    rw [Std.ExtTreeMap.mem_toList_iff_getElem?_eq_some] at listed
    obtain ⟨suffix, parsed, rfl⟩ := Option.map_eq_some_iff.mp found
    obtain ⟨date', suffix', rfl⟩ := named name contents listed
    by_cases same : formatDate date' = formatDate date
    · rw [buildFilePath_eq o date date' same, tryParseSuffix_same] at parsed
      cases parsed
      exact ⟨buildFilePath_eq o date date' same _, contents, listed, rfl⟩
    · rw [tryParseSuffix_other o date date' same] at parsed
      cases parsed
  · rintro ⟨path, contents, present, size⟩
    refine ⟨(candidate.path, contents), Std.ExtTreeMap.mem_toList_iff_getElem?_eq_some.mpr present, ?_⟩
    rw [path, tryParseSuffix_same, Option.map_some, ← path, ← size]

/-- The last one of a scan has the greatest suffix of the day. -/
theorem newest_spec (named : Named o files) (date : UtcDate) :
    match (scanDailyFiles o files date).getLast? with
    | none => ∀ suffix, files[buildFilePath o date suffix]? = none
    | some newest =>
      (∃ contents, files[buildFilePath o date newest.suffix]? = some contents ∧ newest.size = contents.length) ∧
        ∀ suffix contents, files[buildFilePath o date suffix]? = some contents → suffix ≤ newest.suffix := by
  have scanned : ∀ suffix contents, files[buildFilePath o date suffix]? = some contents →
      ⟨suffix, buildFilePath o date suffix, contents.length⟩ ∈ scanDailyFiles o files date :=
    fun suffix contents present => (mem_scan named).mpr ⟨rfl, contents, present, rfl⟩
  cases last : (scanDailyFiles o files date).getLast? with
  | none =>
    intro suffix
    by_contra present
    obtain ⟨contents, present⟩ := Option.ne_none_iff_exists'.mp present
    have listed := scanned suffix contents present
    rw [List.getLast?_eq_none_iff.mp last] at listed
    cases listed
  | some newest =>
    obtain ⟨front, split⟩ := List.getLast?_eq_some_iff.mp last
    have listed : newest ∈ scanDailyFiles o files date := by
      rw [split]
      exact List.mem_append_right front List.mem_cons_self
    obtain ⟨path, contents, present, size⟩ := (mem_scan named).mp listed
    refine ⟨⟨contents, by rw [← path]; exact present, size⟩, fun suffix contents present => ?_⟩
    have sorted : (scanDailyFiles o files date).Pairwise fun a b => decide (a.suffix ≤ b.suffix) = true :=
      List.pairwise_mergeSort (by simp only [decide_eq_true_eq]; exact fun a b c => UInt64.le_trans)
        (by simp only [Bool.or_eq_true, decide_eq_true_eq]; exact fun a b => UInt64.le_total ..) _
    have listed' := scanned suffix contents present
    rw [split] at sorted listed'
    rcases List.mem_append.mp listed' with before | final
    · exact of_decide_eq_true ((List.pairwise_append.mp sorted).2.2 _ before newest List.mem_cons_self)
    · rw [← List.mem_singleton.mp final]
      exact UInt64.le_refl _

/-- Remove files by their paths. -/
theorem get_removed {removed : List RetainedFile} {name : Bytes} :
    (removed.foldl (fun files file => files.erase file.path) files)[name]? =
      if name ∈ removed.map RetainedFile.path then none else files[name]? := by
  induction removed generalizing files with
  | nil => exact (if_neg List.not_mem_nil).symm
  | cons file removed ih =>
    rw [List.foldl_cons, ih]
    simp only [List.map_cons, List.mem_cons]
    by_cases later : name ∈ removed.map RetainedFile.path
    · rw [if_pos later, if_pos (.inr later)]
    · rw [if_neg later]
      by_cases here : name = file.path
      · rw [if_pos (.inl here), here, Table.get_erase_self]
      · rw [if_neg (not_or.mpr ⟨here, later⟩), Table.get_erase_of_ne _ fun same => here same.symm]

theorem size_removed {removed : List RetainedFile} (distinct : (removed.map RetainedFile.path).Nodup)
    (present : ∀ file ∈ removed, file.path ∈ files) :
    (removed.foldl (fun files file => files.erase file.path) files).size + removed.length = files.size := by
  induction removed generalizing files with
  | nil => rfl
  | cons file removed ih =>
    rw [List.map_cons, List.nodup_cons] at distinct
    have here : file.path ∈ files := present file List.mem_cons_self
    have others : ∀ other ∈ removed, other.path ∈ files.erase file.path := by
      intro other listed
      rw [Std.ExtTreeMap.mem_iff_isSome_getElem?, Table.get_erase_of_ne, ← Std.ExtTreeMap.mem_iff_isSome_getElem?]
      · exact present other (List.mem_cons_of_mem file listed)
      · intro same
        exact distinct.1 (same ▸ List.mem_map_of_mem listed)
    have size := @ih (files.erase file.path) distinct.2 others
    have positive : 0 < files.size := by
      have some_ : files.keys ≠ [] := List.ne_nil_of_mem (Std.ExtTreeMap.mem_keys.mpr here)
      rw [← Std.ExtTreeMap.length_keys]
      exact List.length_pos_iff.mpr some_
    rw [Std.ExtTreeMap.size_erase, if_pos (Std.ExtTreeMap.contains_iff_mem.mpr here)] at size
    rw [List.foldl_cons, List.length_cons]
    omega

section Cleanup
variable {times : Bytes → Int} {currentPath : Bytes}

theorem retained_paths (named : Named o files) :
    (retainedFiles o files times currentPath).map RetainedFile.path =
      files.keys.filter fun name => decide (name ≠ currentPath) := by
  unfold retainedFiles
  rw [List.map_map]
  show (files.keys.filter _).map id = _
  rw [List.map_id]
  refine List.filter_congr fun name listed => ?_
  obtain ⟨contents, present⟩ := Option.isSome_iff_exists.mp
    (Std.ExtTreeMap.mem_iff_isSome_getElem?.mp (Std.ExtTreeMap.mem_keys.mp listed))
  obtain ⟨date, suffix, rfl⟩ := named name contents present
  rw [buildFilePath_front, buildFilePath_extension, Bool.true_and, Bool.true_and]

/-- With the current one, the files that a cleanup counts are all there are. -/
theorem retained_length (named : Named o files) (open_ : currentPath ∈ files) :
    (retainedFiles o files times currentPath).length + 1 = files.size := by
  have paths := congrArg List.length (@retained_paths o files times currentPath named)
  have listed : currentPath ∈ files.keys := Std.ExtTreeMap.mem_keys.mpr open_
  have erased : files.keys.erase currentPath = files.keys.filter fun name => decide (name ≠ currentPath) := by
    rw [Std.ExtTreeMap.nodup_keys.erase_eq_filter]
    exact List.filter_congr fun name _ => by simp only [bne, ne_eq, decide_not, Bool.beq_eq_decide_eq]
  rw [List.length_map, ← erased, List.length_erase_of_mem listed] at paths
  have positive : 0 < files.keys.length := List.length_pos_of_mem listed
  rw [← Std.ExtTreeMap.length_keys]
  omega

/-- A cleanup leaves as many files as are retained, and the current one among them as it is. -/
theorem cleanup_spec (named : Named o files) (open_ : currentPath ∈ files) :
    (cleanupRetainedFiles o files times currentPath).size ≤ o.maxRetainedFiles.toNat ∧
      (cleanupRetainedFiles o files times currentPath)[currentPath]? = files[currentPath]? ∧
      ∀ name : Bytes, (cleanupRetainedFiles o files times currentPath)[name]? = none ∨
        (cleanupRetainedFiles o files times currentPath)[name]? = files[name]? := by
  have counted := @retained_length o files times currentPath named open_
  have retains := o.retains
  unfold cleanupRetainedFiles
  by_cases few : (retainedFiles o files times currentPath).length + 1 ≤ o.maxRetainedFiles.toNat
  · simp only [if_pos few]
    exact ⟨by omega, trivial, fun _ => .inr trivial⟩
  · simp only [if_neg few]
    have perm := List.mergeSort_perm (retainedFiles o files times currentPath) RetainedFile.older
    have paths := @retained_paths o files times currentPath named
    have distinct : ((retainedFiles o files times currentPath).map RetainedFile.path).Nodup := by
      rw [paths]
      exact Std.ExtTreeMap.nodup_keys.filter _
    generalize (retainedFiles o files times currentPath).mergeSort RetainedFile.older = sorted at perm
    have removable : ∀ file ∈ sorted.take ((retainedFiles o files times currentPath).length + 1 - o.maxRetainedFiles.toNat),
        file.path ∈ files ∧ file.path ≠ currentPath := by
      intro file listed
      have retained := List.mem_map_of_mem (f := RetainedFile.path) (perm.mem_iff.mp (List.mem_of_mem_take listed))
      rw [paths, List.mem_filter, Std.ExtTreeMap.mem_keys, decide_eq_true_eq] at retained
      exact retained
    have size := size_removed
      (((perm.map RetainedFile.path).nodup_iff.mpr distinct).sublist ((List.take_sublist _ sorted).map RetainedFile.path))
      fun file listed => (removable file listed).1
    rw [List.length_take, perm.length_eq] at size
    refine ⟨by omega, ?_, fun name => ?_⟩
    · rw [get_removed, if_neg]
      intro removed
      obtain ⟨file, listed, same⟩ := List.mem_map.mp removed
      exact (removable file listed).2 same
    · rw [get_removed]
      by_cases removed : name ∈ (sorted.take ((retainedFiles o files times currentPath).length + 1 -
          o.maxRetainedFiles.toNat)).map RetainedFile.path
      · exact .inl (if_pos removed)
      · exact .inr (if_neg removed)

end Cleanup

end Directory

end XServer.Core.Logging
