import SourceLint.Proofs.FileSystem.Order

set_option autoImplicit false

/-!
# Walks with fewer extensions

A walk that looks for fewer extensions lists what the other walk lists, less the files whose
extension it does not look for. The order stays the same: names are sorted within a directory, and
sorting fewer names leaves those that remain in the same order.

## Main definitions

* `FileFilter.wants` — whether a walk looks for the extension of a file.
* `FileFilter.Narrows` — a filter that keeps fewer extensions than another one.

## Main results

* `Text.filter_sortStrings` — sorting and leaving out.
* `FileSystem.walk_narrow` — what the walk with fewer extensions lists.
-/

namespace SourceLint

/-! ### Sorting -/

/-- A text that stands in order among others stays so when some of them are left out. -/
lemma Text.filter_sortStrings (keep : String → Bool) (texts : List String) :
    (sortStrings texts).filter keep = sortStrings (texts.filter keep) := by
  have hsorted : ∀ ss : List String, (sortStrings ss).Pairwise (· ≤ ·) :=
    pairwise_le_mergeSort id
  have hperm : List.Perm ((sortStrings texts).filter keep) (sortStrings (texts.filter keep)) :=
    ((List.mergeSort_perm texts _).filter keep).trans (List.mergeSort_perm _ _).symm
  exact hperm.eq_of_pairwise (fun _ _ _ _ => String.le_antisymm) ((hsorted texts).filter keep)
    (hsorted _)

namespace FileFilter

/-- Whether a walk looks for the extension of a file. -/
def wants (filter : FileFilter) (file : Path) : Bool :=
  filter.extensions.contains (Text.lowerString file.extension)

/-- A filter keeps fewer extensions than another one, and enters the same directories. -/
structure Narrows (narrow wide : FileFilter) : Prop where
  extensions : narrow.extensions ⊆ wide.extensions
  skippedDirectories : narrow.skippedDirectories = wide.skippedDirectories

namespace Narrows

variable {narrow wide : FileFilter}

/-- A narrower filter enters the same directories. -/
lemma entersDirectory_eq (h : narrow.Narrows wide) (name : String) :
    narrow.entersDirectory name = wide.entersDirectory name := by
  rw [entersDirectory, entersDirectory, h.skippedDirectories]

/-- A name is kept when the other filter keeps it and its extension is looked for. -/
lemma keepsFile_eq (h : narrow.Narrows wide) (path : Path) (name : String) :
    narrow.keepsFile name = (wide.keepsFile name && narrow.wants (path.child name)) := by
  have hextension : (path.child name).extension = Path.extensionOf name := by
    simp [Path.extension, Path.lastName, Path.child]
  rw [Bool.eq_iff_iff]
  simp only [keepsFile, wants, hextension, Bool.and_eq_true, List.contains_iff_mem]
  constructor
  · rintro ⟨hhidden, hname⟩
    exact ⟨⟨hhidden, h.extensions hname⟩, hname⟩
  · rintro ⟨⟨hhidden, -⟩, hname⟩
    exact ⟨hhidden, hname⟩

end Narrows

end FileFilter

namespace FileSystem

variable {fs : FileSystem} {narrow wide : FileFilter} {path : Path}
  {entries : List (String × Entry)}

/-! ### One directory -/

/-- The files of a directory with fewer extensions. -/
lemma map_fileNames_narrow (h : narrow.Narrows wide) :
    (fs.fileNames narrow path entries).map path.child =
      ((fs.fileNames wide path entries).map path.child).filter narrow.wants := by
  have hkept : (entries.filter fun entry =>
        narrow.keepsFile entry.1 && fs.countsAsFile (path.child entry.1) entry.2) =
      (entries.filter fun entry =>
        wide.keepsFile entry.1 && fs.countsAsFile (path.child entry.1) entry.2).filter
          fun entry => narrow.wants (path.child entry.1) := by
    rw [List.filter_filter]
    apply List.filter_congr
    intro entry _
    rw [h.keepsFile_eq path, Bool.and_right_comm, Bool.and_comm]
  rw [fileNames, fileNames, hkept, List.filter_map, Text.filter_sortStrings, List.filter_map]
  rfl

/-- Lists put together in the order of their names, each with fewer members. -/
lemma filter_inNameOrder {α : Type} (keep : α → Bool) (lists : List (String × List α)) :
    (inNameOrder lists).filter keep =
      inNameOrder (lists.map fun list => (list.1, list.2.filter keep)) := by
  have hsort : (lists.mergeSort fun s t => decide (s.1 ≤ t.1)).map
        (fun list => (list.1, list.2.filter keep)) =
      (lists.map fun list => (list.1, list.2.filter keep)).mergeSort
        fun s t => decide (s.1 ≤ t.1) :=
    List.map_mergeSort fun _ _ _ _ => rfl
  rw [inNameOrder, inNameOrder, ← hsort, List.filter_flatMap, List.flatMap_map]

/-! ### Walks -/

/-- What is listed below an entry with fewer extensions.

**Proof sketch.** By recursion on the entry. In a directory the names that are kept are sorted as
before, and below each directory that is entered there is what the wider walk lists, less the other
extensions. -/
lemma filesBelow_narrow (h : narrow.Narrows wide) (path : Path) (entry : Entry) :
    fs.filesBelow narrow path entry = (fs.filesBelow wide path entry).filter narrow.wants := by
  induction entry using entryInduction generalizing path with
  | file content => simp [filesBelow]
  | link target => simp [filesBelow]
  | directory entries ih =>
    have heach : fs.filesBelowEach narrow path entries =
        (fs.filesBelowEach wide path entries).map fun list =>
          (list.1, list.2.filter narrow.wants) := by
      rw [filesBelowEach_eq, filesBelowEach_eq, List.map_map]
      simp only [h.entersDirectory_eq]
      apply List.map_congr_left
      rintro ⟨name, entry⟩ hmem
      rw [ih name entry (List.mem_filter.1 hmem).1]
      rfl
    rw [filesBelow, filesBelow]
    split
    · rfl
    · rw [List.filter_append, filter_inNameOrder, ← heach, ← map_fileNames_narrow h]

/-- Leaving out the dots of a listed path leaves its extension as it is. -/
lemma extension_plain_of_lists {filter : FileFilter} {listed : Path} {entry : Entry}
    (h : fs.Lists filter path entry listed) : listed.plain.extension = listed.extension := by
  obtain ⟨directories, name, rfl, -, hkeeps, -⟩ := h.exists_append
  have hname : name ≠ "." := by
    rintro rfl
    exact absurd (FileFilter.isHidden_of_keepsFile hkeeps) (by decide)
  simp [Path.extension, Path.lastName, Path.plain, Path.append, hname]

/-- **What a walk with fewer extensions lists**: what the wider walk lists, in the same order, less
the files whose extension is not looked for. -/
lemma walk_narrow (h : narrow.Narrows wide) (path : Path) (entries : List (String × Entry)) :
    fs.walk narrow path entries = (fs.walk wide path entries).filter narrow.wants := by
  have hwants : ∀ listed ∈ fs.filesBelow wide path.dotted (.directory entries),
      narrow.wants listed = (narrow.wants ∘ Path.plain) listed := by
    intro listed hlisted
    rw [Function.comp_apply, FileFilter.wants, FileFilter.wants,
      extension_plain_of_lists (mem_filesBelow_iff.1 hlisted)]
  rw [walk, walk, filesBelow_narrow h, List.filter_map, List.filter_congr hwants]

end FileSystem

end SourceLint
