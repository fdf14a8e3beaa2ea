import Gloss.File.Disk
import Gloss.Proofs.Entries
import Gloss.Proofs.File.Path

/-!
# Disks of the same shape

Writing to a file that is there changes what the file holds and nothing else: paths lead to the same
places, and there are the same files and directories. So disks are compared by their shape, and by
what is at single places.

## Main definitions

* `Disk.SameShape`: two disks have the same files and directories.

## Main results

* `Disk.SameShape.locate?_eq`, `Disk.SameShape.isFile_eq`, `Disk.SameShape.list_eq`: what the shape
  decides.
* `Disk.SameShape.readText?_eq`: a path leads to the same text if its place holds the same.
* `Disk.writeFile_of_readText?`: a file that can be read can be written, where it is.
* `Disk.at?_of_writeFile`: a text that is written is found where it was written.
* `Disk.eq_append_of_locate?`: names behind the path of a directory lead to places below it.
-/

set_option relaxedAutoImplicit false
set_option autoImplicit false

namespace Gloss

/-- It is a file. -/
def DiskEntry.isFile : DiskEntry → Bool
  | .file _ => true
  | .directory => false

namespace Disk

/-- The files and directories of a disk, without what the files hold. -/
def shape (disk : Disk) : List (List Text × Bool) :=
  disk.map fun e => (e.1, e.2.isFile)

/-- Two disks have the same files and directories, whatever the files hold. -/
def SameShape (disk disk' : Disk) : Prop :=
  disk.shape = disk'.shape

/-- The shape of a disk says of a place whether it is a file. -/
lemma lookup_shape (disk : Disk) (names : List Text) :
    disk.shape.lookup names = (disk.lookup names).map DiskEntry.isFile := by
  induction disk with
  | nil => rfl
  | cons e disk ih =>
    obtain ⟨n, e⟩ := e
    rw [shape] at ih
    simp only [shape, List.map_cons, List.lookup_cons, ih]
    split <;> rfl

/-- The shape of a disk knows which places lead to something. -/
lemma any_shape (disk : Disk) (names : List Text) :
    (disk.shape.any fun e => names.isPrefixOf e.1) = disk.any fun e => names.isPrefixOf e.1 := by
  rw [shape, List.any_map]
  rfl

/-- The files below a directory only depend on the shape of the disk. -/
lemma filesBelow_eq (disk : Disk) (dir : List Text) :
    disk.filesBelow dir = disk.shape.filterMap fun e => if e.2 then below? dir e.1 else none := by
  rw [shape, List.filterMap_map, filesBelow]
  refine List.filterMap_congr fun e _ => ?_
  obtain ⟨n, content | _⟩ := e <;> rfl

/-- Whether a file is at a place, if something is. -/
def fileAt? (disk : Disk) (names : List Text) : Option Bool :=
  Option.map DiskEntry.isFile <| disk.atPlace? names

/-- A place is a directory iff something is there that is no file. -/
lemma isDirectoryAt_eq (disk : Disk) (names : List Text) :
    disk.isDirectoryAt names = (disk.fileAt? names == some false) := by
  rw [isDirectoryAt, fileAt?]
  cases disk.atPlace? names with
  | none => rfl
  | some e => cases e <;> rfl

/-- There is a file at the end of a path iff a file is at its place. -/
lemma isFile_eq (disk : Disk) (cwd : List Text) (path : Text) :
    disk.isFile cwd path = ((disk.at? cwd path).map DiskEntry.isFile == some true) := by
  rw [isFile]
  cases disk.at? cwd path with
  | none => rfl
  | some e => cases e <;> rfl

namespace SameShape

variable {disk disk' : Disk} (h : SameShape disk disk')
include h

/-- Files and directories are at the same places. -/
lemma fileAt?_eq (names : List Text) : disk.fileAt? names = disk'.fileAt? names := by
  have hlookup : (disk.lookup names).map DiskEntry.isFile =
      (disk'.lookup names).map DiskEntry.isFile := by
    rw [← lookup_shape, ← lookup_shape, h]
  have hany : (disk.any fun e => names.isPrefixOf e.1) =
      disk'.any fun e => names.isPrefixOf e.1 := by
    rw [← any_shape, ← any_shape, h]
  unfold fileAt? atPlace?
  rw [hany]
  cases hold : disk.lookup names with
  | none =>
    rw [hold, Option.map_none, eq_comm, Option.map_eq_none_iff] at hlookup
    rw [hlookup]
  | some e =>
    rw [hold, Option.map_some, eq_comm, Option.map_eq_some_iff] at hlookup
    obtain ⟨e', hnew, he⟩ := hlookup
    rw [hnew, Option.map_some, Option.map_some, he]

/-- Disks of one shape have the same directories. -/
lemma isDirectoryAt_eq (names : List Text) :
    disk.isDirectoryAt names = disk'.isDirectoryAt names := by
  rw [Disk.isDirectoryAt_eq, Disk.isDirectoryAt_eq, h.fileAt?_eq]

/-- On disks of one shape a path leads to the same place. -/
lemma walk?_eq (names : List Text) (parts : List PathPart) :
    disk.walk? names parts = disk'.walk? names parts := by
  induction parts generalizing names with
  | nil => rfl
  | cons part parts ih => cases part <;> simp only [walk?, ih, h.isDirectoryAt_eq]

/-- Paths lead to the same places. -/
lemma locate?_eq (cwd : List Text) (path : Text) :
    disk.locate? cwd path = disk'.locate? cwd path := by
  simp only [locate?, h.walk?_eq, h.isDirectoryAt_eq]

/-- Paths lead to the same files. -/
lemma isFile_eq (cwd : List Text) (path : Text) : disk.isFile cwd path = disk'.isFile cwd path := by
  have hat : (disk.at? cwd path).map DiskEntry.isFile =
      (disk'.at? cwd path).map DiskEntry.isFile := by
    rw [at?, at?, h.locate?_eq]
    cases disk'.locate? cwd path with
    | none => rfl
    | some place => exact h.fileAt?_eq place
  rw [Disk.isFile_eq, Disk.isFile_eq, hat]

/-- Directories hold the same files. -/
lemma list_eq (cwd : List Text) (path : Text) : disk.list cwd path = disk'.list cwd path := by
  have hbelow : ∀ dir, disk.filesBelow dir = disk'.filesBelow dir := fun dir => by
    rw [filesBelow_eq, filesBelow_eq, h]
  simp only [list, h.locate?_eq, hbelow]

/-- **A path leads to the same text if its place holds the same.** -/
lemma readText?_eq {cwd : List Text} {path : Text}
    (hplace : ∀ place, disk.locate? cwd path = some place →
      disk'.atPlace? place = disk.atPlace? place) :
    disk'.readText? cwd path = disk.readText? cwd path := by
  rw [readText?, readText?, at?, at?, ← h.locate?_eq]
  cases hlocate : disk.locate? cwd path with
  | none => rfl
  | some place => simp only [Option.bind_some, hplace place hlocate]

end SameShape

/-! ## Writing -/

section

variable {disk : Disk} {place : List Text} {old new : Option Text}

/-- A file in the place of a file does not change the shape. -/
lemma sameShape_put (hold : disk.lookup place = some (.file old)) :
    SameShape disk (disk.put place (.file new)) := by
  unfold SameShape shape
  induction disk with
  | nil => simp at hold
  | cons first disk ih =>
    obtain ⟨n, e⟩ := first
    by_cases hn : n = place
    · subst hn
      obtain rfl : e = .file old := by simpa using hold
      simp [put, setEntry, DiskEntry.isFile]
    · have hne : (place == n) = false := beq_eq_false_iff_ne.mpr (Ne.symm hn)
      rw [List.lookup_cons, hne] at hold
      rw [put, setEntry, if_neg hn, List.map_cons, List.map_cons, ← put, ih hold]

/-- Only the place of a file that is written changes. -/
lemma atPlace?_put_of_ne (hold : disk.lookup place = some (.file old)) {names : List Text}
    (hne : names ≠ place) :
    Disk.atPlace? (disk.put place (.file new)) names = disk.atPlace? names := by
  have hshape : SameShape disk (disk.put place (.file new)) := sameShape_put hold
  have hany : (disk.any fun e => names.isPrefixOf e.1) =
      (disk.put place (.file new)).any fun e => names.isPrefixOf e.1 := by
    rw [← any_shape, ← any_shape, hshape]
  unfold atPlace?
  rw [← hany, put, lookup_setEntry, if_neg hne]

end

/-- Files have entries of their own. -/
lemma atPlace?_eq_file_iff {disk : Disk} {names : List Text} {content : Option Text} :
    disk.atPlace? names = some (.file content) ↔ disk.lookup names = some (.file content) := by
  unfold atPlace?
  cases disk.lookup names with
  | some e => rfl
  | none =>
    by_cases h : (names.isEmpty || disk.any fun e => names.isPrefixOf e.1) = true <;> simp [h]

/-- What a path leads to if a text can be read there. -/
lemma locate?_of_readText? {disk : Disk} {cwd : List Text} {path t : Text}
    (h : disk.readText? cwd path = some t) :
    ∃ place, disk.locate? cwd path = some place ∧ disk.lookup place = some (.file (some t)) := by
  rw [readText?] at h
  split at h
  · next content hat =>
    subst h
    obtain ⟨place, hlocate, hentry⟩ := Option.bind_eq_some_iff.mp hat
    exact ⟨place, hlocate, atPlace?_eq_file_iff.mp hentry⟩
  · simp at h

/-- **A file that can be read can be written**, at the place where it is.

**Proof sketch.** The place of the file is no directory and its path is not spelled like one, which
is all that writing asks for. -/
lemma writeFile_of_readText? {disk : Disk} {cwd : List Text} {path t : Text}
    (h : disk.readText? cwd path = some t) {place : List Text}
    (hlocate : disk.locate? cwd path = some place) (content : Text) :
    disk.writeFile cwd path content = .ok (disk.put place (.file (some content))) := by
  obtain ⟨place', hplace', hlookup⟩ := locate?_of_readText? h
  obtain rfl := Option.some.inj (hlocate.symm.trans hplace')
  have hdir : disk.isDirectoryAt place = false := by
    rw [isDirectoryAt, atPlace?, hlookup]
    rfl
  rw [locate?] at hlocate
  split at hlocate
  · simp at hlocate
  · next hne =>
    obtain ⟨names, hwalk, hspelled⟩ := Option.bind_eq_some_iff.mp hlocate
    split at hspelled
    · simp at hspelled
    · next hnot =>
      obtain rfl := Option.some.inj hspelled
      have hspelling : spelledAsDirectory path = false := by simpa [hdir] using hnot
      rw [writeFile, if_neg hne, hwalk]
      simp [hdir, hspelling]

section

variable {disk : Disk} {place names : List Text} {e : DiskEntry}

/-- Directories stay directories if nothing is put in their place. -/
lemma isDirectoryAt_put (hplace : disk.isDirectoryAt place = false)
    (h : disk.isDirectoryAt names = true) : isDirectoryAt (disk.put place e) names = true := by
  have hne : names ≠ place := by
    rintro rfl
    rw [h] at hplace
    exact absurd hplace (by decide)
  rw [isDirectoryAt, beq_iff_eq, atPlace?] at h ⊢
  rw [put, lookup_setEntry, if_neg hne]
  cases hlookup : disk.lookup names with
  | some old => rwa [hlookup] at h
  | none =>
    rw [hlookup] at h
    split_ifs at h with hdir
    · rw [Bool.or_eq_true] at hdir
      exact if_pos (Bool.or_eq_true _ _ ▸ hdir.imp_right (any_setEntry _))

/-- Paths lead where they led if nothing is put in the place of a directory. -/
lemma walk?_put (hplace : disk.isDirectoryAt place = false) {parts : List PathPart}
    {dest : List Text} (h : disk.walk? names parts = some dest) :
    walk? (disk.put place e) names parts = some dest := by
  induction parts generalizing names with
  | nil => exact h
  | cons part parts ih =>
    cases part with
    | root => exact ih h
    | here => exact ih h
    | up =>
      rw [walk?] at h ⊢
      split_ifs at h with hdir
      rw [if_pos (isDirectoryAt_put hplace hdir), ih h]
    | name n =>
      rw [walk?] at h ⊢
      split_ifs at h with hdir
      rw [if_pos (isDirectoryAt_put hplace hdir), ih h]

end

/-- **A text that is written is found where it was written.**

**Proof sketch.** Setting a file leaves the directories on the way to it, so the path still leads to
its place, where the text is. -/
lemma at?_of_writeFile {disk written : Disk} {cwd : List Text} {path content : Text}
    (h : disk.writeFile cwd path content = .ok written) :
    written.at? cwd path = some (.file (some content)) := by
  unfold writeFile at h
  split at h
  · simp at h
  · next hempty =>
    split at h
    · simp at h
    · next place hwalk =>
      split_ifs at h with hdir hspelled
      obtain rfl := Except.ok.inj h
      rw [Bool.not_eq_true] at hdir hspelled
      have hlocate : locate? (disk.put place (.file (some content))) cwd path = some place := by
        rw [locate?, if_neg hempty, walk?_put hdir hwalk, Option.bind_some, hspelled]
        rfl
      rw [at?, hlocate, Option.bind_some, atPlace?, put, lookup_setEntry, if_pos rfl]

/-! ## Places below a directory -/

section

variable {disk : Disk}

/-- The parts of a path are walked one after the other. -/
lemma walk?_append (names : List Text) (parts more : List PathPart) :
    disk.walk? names (parts ++ more) = (disk.walk? names parts).bind (disk.walk? · more) := by
  induction parts generalizing names with
  | nil => rfl
  | cons part parts ih =>
    cases part <;> simp only [List.cons_append, walk?, ih] <;> split <;> rfl

/-- A walk along names goes down. -/
lemma eq_append_of_walk? {dir names place : List Text}
    (h : disk.walk? dir (names.map .name) = some place) : place = dir ++ names := by
  induction names generalizing dir with
  | nil => simpa [walk?] using h.symm
  | cons n names ih =>
    rw [List.map_cons, walk?] at h
    split at h
    · rw [ih h, List.append_assoc, List.singleton_append]
    · simp at h

/-- Where the parts of a path lead that leads somewhere. -/
lemma walk?_of_locate? {cwd place : List Text} {path : Text}
    (h : disk.locate? cwd path = some place) :
    path ≠ [] ∧ disk.walk? cwd (pathParts path) = some place := by
  rw [locate?] at h
  split at h
  · simp at h
  · next hne =>
    obtain ⟨names, hwalk, hnames⟩ := Option.bind_eq_some_iff.mp h
    split at hnames
    · simp at hnames
    · exact ⟨by simpa using hne, by rw [hwalk, hnames]⟩

/-- **Names behind the path of a directory lead to places below it**, however the path is
spelled. -/
lemma eq_append_of_locate? {cwd dir place names : List Text} {root path : Text}
    (hroot : disk.locate? cwd root = some dir)
    (hpath : pathParts path = pathParts root ++ names.map .name)
    (h : disk.locate? cwd path = some place) : place = dir ++ names := by
  have hwalk := (walk?_of_locate? h).2
  rw [hpath, walk?_append, (walk?_of_locate? hroot).2, Option.bind_some] at hwalk
  exact eq_append_of_walk? hwalk

/-- What is below a directory leads from there to its place. -/
lemma below?_eq_some_iff {dir names rest : List Text} :
    below? dir names = some rest ↔ names = dir ++ rest ∧ rest ≠ [] := by
  induction dir generalizing names with
  | nil =>
    cases names with
    | nil => simp [below?]
    | cons n names =>
      simp only [below?, Option.some.injEq, List.nil_append]
      exact ⟨fun h => ⟨h, h ▸ List.cons_ne_nil n names⟩, And.left⟩
  | cons d dir ih =>
    cases names with
    | nil => simp [below?]
    | cons n names =>
      by_cases hn : d = n
      · simp [below?, hn, ih]
      · simp [below?, hn, Ne.symm hn]

end

end Disk

end Gloss
