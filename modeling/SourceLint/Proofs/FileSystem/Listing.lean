import Mathlib.Algebra.Order.Ring.Nat
import Mathlib.Data.List.Basic
import SourceLint.FileSystem.Walk
import SourceLint.Proofs.FileSystem.Places

set_option autoImplicit false

/-!
# What a walk lists

A walk lists the files of a directory that its filter keeps, and below each directory that it enters
the files that it lists there, as long as the path of the directory is not too long to be opened.
This is put as a relation that has a rule for each of the two, and the walk lists what the relation
says.

So a listed path is made of the path that the walk starts from, names of directories that it enters,
and a name that it keeps; and a file that is reached in this way is listed.

## Main definitions

* `FileSystem.Lists` — the paths that a walk lists below an entry.

## Main results

* `FileSystem.entryInduction` — induction from what a directory holds to the directory.
* `FileSystem.mem_filesBelow_iff` — the walk lists what the relation says.
* `FileSystem.exists_append_of_mem_walk` — the form of listed paths.
* `FileSystem.mem_walk_of_file` — the files that are listed.
-/

namespace SourceLint

namespace FileFilter

variable {filter : FileFilter} {name : String}

/-- No hidden file is listed. -/
lemma isHidden_of_keepsFile (h : filter.keepsFile name = true) : isHidden name = false := by
  simp only [keepsFile, Bool.and_eq_true, Bool.not_eq_true'] at h
  exact h.1

/-- No hidden directory is entered. -/
lemma isHidden_of_entersDirectory (h : filter.entersDirectory name = true) :
    isHidden name = false := by
  simp only [entersDirectory, Bool.and_eq_true, Bool.not_eq_true'] at h
  exact h.1

/-- A dot is a hidden name, so it is neither entered nor kept. -/
lemma ne_dot_of_mem {directories : List String}
    (hdirectories : ∀ directory ∈ directories, filter.entersDirectory directory = true)
    (hkeeps : filter.keepsFile name = true) : ∀ part ∈ directories ++ [name], part ≠ "." := by
  rintro part hpart rfl
  have hhidden : isHidden "." = false := by
    rcases List.mem_append.1 hpart with hdirectory | hname
    · exact isHidden_of_entersDirectory (hdirectories "." hdirectory)
    · rw [List.mem_singleton.1 hname]
      exact isHidden_of_keepsFile hkeeps
  exact absurd hhidden (by decide)

end FileFilter

namespace FileSystem

variable {fs : FileSystem} {filter : FileFilter} {path listed : Path} {name : String}
  {entry : Entry} {entries : List (String × Entry)}

/-- A walk lists a path below an entry, which has a path of its own. -/
inductive Lists (fs : FileSystem) (filter : FileFilter) : Path → Entry → Path → Prop
  | file {path : Path} {name : String} {entry : Entry} {entries : List (String × Entry)} :
      isTooLong path = false → (name, entry) ∈ entries → filter.keepsFile name = true →
      fs.countsAsFile (path.child name) entry = true →
      Lists fs filter path (.directory entries) (path.child name)
  | inside {path listed : Path} {name : String} {entry : Entry} {entries : List (String × Entry)} :
      isTooLong path = false → (name, entry) ∈ entries → filter.entersDirectory name = true →
      Lists fs filter (path.child name) entry listed →
      Lists fs filter path (.directory entries) listed

/-! ### The walk and the relation -/

/-- The names of the files that a walk lists in a directory. -/
lemma mem_fileNames_iff :
    name ∈ fs.fileNames filter path entries ↔
      ∃ entry, (name, entry) ∈ entries ∧ filter.keepsFile name = true ∧
        fs.countsAsFile (path.child name) entry = true := by
  simp [fileNames, Text.mem_sortStrings]

/-- Putting lists in the order of their names keeps what is in them. -/
lemma mem_inNameOrder_iff {α : Type} {x : α} {lists : List (String × List α)} :
    x ∈ inNameOrder lists ↔ ∃ list ∈ lists, x ∈ list.2 := by
  simp [inNameOrder, List.mem_flatMap]

/-- The walk goes below each entry whose name is that of a directory to enter. -/
lemma filesBelowEach_eq :
    fs.filesBelowEach filter path entries =
      (entries.filter fun entry => filter.entersDirectory entry.1).map fun entry =>
        (entry.1, fs.filesBelow filter (path.child entry.1) entry.2) := by
  induction entries with
  | nil => rfl
  | cons first rest ih =>
    obtain ⟨name, entry⟩ := first
    rw [filesBelowEach, ih, List.filter_cons]
    split <;> rfl

/-- One step of a walk: the files of a directory, and what is listed below the directories in it. -/
lemma mem_filesBelow_directory_iff :
    listed ∈ fs.filesBelow filter path (.directory entries) ↔
      isTooLong path = false ∧
        ((∃ name entry, (name, entry) ∈ entries ∧ filter.keepsFile name = true ∧
            fs.countsAsFile (path.child name) entry = true ∧ path.child name = listed) ∨
          ∃ name entry, (name, entry) ∈ entries ∧ filter.entersDirectory name = true ∧
            listed ∈ fs.filesBelow filter (path.child name) entry) := by
  rw [filesBelow]
  split
  · rename_i hlong
    simp [hlong]
  · rename_i hshort
    simp only [hshort, true_and, List.mem_append, List.mem_map, mem_fileNames_iff,
      mem_inNameOrder_iff, filesBelowEach_eq, List.mem_filter]
    grind

/-- Induction over an entry: from what a directory holds to the directory. -/
@[elab_as_elim]
lemma entryInduction {motive : Entry → Prop} (entry : Entry)
    (file : ∀ content, motive (.file content)) (link : ∀ target, motive (.link target))
    (directory : ∀ entries, (∀ name entry, (name, entry) ∈ entries → motive entry) →
      motive (.directory entries)) : motive entry :=
  match entry with
  | .file content => file content
  | .link target => link target
  | .directory entries =>
    directory entries fun _ below _ => entryInduction below file link directory
termination_by sizeOf entry
decreasing_by
  rename_i hmem
  have hlt := List.sizeOf_lt_of_mem hmem
  simp only [Prod.mk.sizeOf_spec] at hlt
  simp only [Entry.directory.sizeOf_spec]
  omega

/-- **The walk lists what the relation says.**

**Proof sketch.** One way by induction on the rules, the other by recursion on the entry: what is
listed below a directory is listed by one step of the walk, either as a file or below a smaller
entry. -/
lemma mem_filesBelow_iff :
    listed ∈ fs.filesBelow filter path entry ↔ fs.Lists filter path entry listed := by
  constructor
  · intro h
    induction entry using entryInduction generalizing path with
    | file content => simp [filesBelow] at h
    | link target => simp [filesBelow] at h
    | directory entries ih =>
      obtain ⟨hshort, hfile | hbelow⟩ := mem_filesBelow_directory_iff.1 h
      · obtain ⟨name, entry, hmem, hkeeps, hcounts, rfl⟩ := hfile
        exact .file hshort hmem hkeeps hcounts
      · obtain ⟨name, entry, hmem, henters, hlisted⟩ := hbelow
        exact .inside hshort hmem henters (ih name entry hmem hlisted)
  · intro h
    induction h with
    | file hshort hmem hkeeps hfile =>
      exact mem_filesBelow_directory_iff.2 ⟨hshort, .inl ⟨_, _, hmem, hkeeps, hfile, rfl⟩⟩
    | inside hshort hmem henters _ ih =>
      exact mem_filesBelow_directory_iff.2 ⟨hshort, .inr ⟨_, _, hmem, henters, ih⟩⟩

/-! ### The form of listed paths -/

/-- A listed path goes down over directories that are entered to a name that is kept. -/
lemma Lists.exists_append (h : fs.Lists filter path entry listed) :
    ∃ directories name, listed = path.append (directories ++ [name]) ∧
      (∀ directory ∈ directories, filter.entersDirectory directory = true) ∧
      filter.keepsFile name = true ∧
      (isProper entry = true → ∀ part ∈ directories ++ [name], isEntryName part = true) := by
  induction h with
  | file hshort hmem hkeeps hfile =>
    refine ⟨[], _, rfl, by simp, hkeeps, ?_⟩
    intro hproper
    simpa using (isEntryName_of_mem hproper hmem).1
  | @inside path listed name entry entries hshort hmem henters _ ih =>
    obtain ⟨directories, last, rfl, hdirectories, hkeeps, hbelow⟩ := ih
    refine ⟨name :: directories, last, (path.append_cons name _).symm,
      List.forall_mem_cons.2 ⟨henters, hdirectories⟩, hkeeps, ?_⟩
    intro hproper
    obtain ⟨hname, hentry⟩ := isEntryName_of_mem hproper hmem
    exact List.forall_mem_cons.2 ⟨hname, hbelow hentry⟩

/-- Dots are left out of the path that a walk starts from; no name below it is one. -/
lemma plain_dotted_append {names : List String} (h : ∀ name ∈ names, name ≠ ".") :
    (path.dotted.append names).plain = path.plain.append names := by
  have hnames : names.filter (· != ".") = names := List.filter_eq_self.2 (by simpa using h)
  obtain ⟨anchor, own⟩ := path
  unfold Path.dotted
  split <;> simp_all [Path.append, Path.plain]

/-- What a walk lists in a directory without directories: the files whose names it keeps. -/
lemma mem_walk_flat_iff (hshort : isTooLong path.dotted = false)
    (hflat : ∀ name below, (name, Entry.directory below) ∉ entries) :
    listed ∈ fs.walk filter path entries ↔
      ∃ name entry, (name, entry) ∈ entries ∧ filter.keepsFile name = true ∧
        fs.countsAsFile (path.dotted.child name) entry = true ∧
        (path.dotted.child name).plain = listed := by
  have hbelow : ∀ {name : String} {entry : Entry} (path written : Path), (name, entry) ∈ entries →
      written ∉ fs.filesBelow filter path entry := by
    intro name entry path written hmem
    cases entry with
    | file content => simp [filesBelow]
    | link target => simp [filesBelow]
    | directory below => exact absurd hmem (hflat name below)
  rw [walk, List.mem_map]
  constructor
  · rintro ⟨written, hwritten, rfl⟩
    obtain ⟨-, ⟨name, entry, hmem, hkeeps, hcounts, rfl⟩ | ⟨name, entry, hmem, -, hinside⟩⟩ :=
      mem_filesBelow_directory_iff.1 hwritten
    · exact ⟨name, entry, hmem, hkeeps, hcounts, rfl⟩
    · exact absurd hinside (hbelow _ _ hmem)
  · rintro ⟨name, entry, hmem, hkeeps, hcounts, rfl⟩
    exact ⟨_, mem_filesBelow_directory_iff.2
      ⟨hshort, .inl ⟨name, entry, hmem, hkeeps, hcounts, rfl⟩⟩, rfl⟩

/-- **The form of listed paths.** They are made of the path that the walk starts from, names of
directories that it enters, and a name that it keeps. -/
lemma exists_append_of_mem_walk (h : listed ∈ fs.walk filter path entries) :
    ∃ directories name, listed = path.plain.append (directories ++ [name]) ∧
      filter.keepsFile name = true ∧
      (areProper entries = true → ∀ part ∈ directories ++ [name], isEntryName part = true) := by
  obtain ⟨written, hwritten, rfl⟩ := List.mem_map.1 h
  obtain ⟨directories, name, rfl, henters, hkeeps, hproper⟩ :=
    (mem_filesBelow_iff.1 hwritten).exists_append
  exact ⟨directories, name, plain_dotted_append (FileFilter.ne_dot_of_mem henters hkeeps), hkeeps,
    hproper⟩

/-! ### The files that are listed -/

/-- A slash stands between neighbouring names. -/
lemma utf8ByteSize_joinWith_slash {names : List String} (h : names ≠ []) :
    (Text.joinWith "/" names).utf8ByteSize + 1 = (names.map (·.utf8ByteSize + 1)).sum := by
  induction names with
  | nil => contradiction
  | cons name names ih =>
    cases names with
    | nil => simp [Text.joinWith]
    | cons next names =>
      have hslash : "/".utf8ByteSize = 1 := by decide
      rw [List.map_cons, List.sum_cons, ← ih (by simp), Text.joinWith]
      · simp only [String.utf8ByteSize_append, hslash]
        omega
      · simp

/-- The length of a written path with names. -/
lemma utf8ByteSize_render (h : path.names ≠ []) :
    path.render.utf8ByteSize + 1 =
      path.anchor.text.utf8ByteSize + (path.names.map (·.utf8ByteSize + 1)).sum := by
  unfold Path.render
  split
  · contradiction
  · rw [String.utf8ByteSize_append, Nat.add_assoc, utf8ByteSize_joinWith_slash h]

/-- How long the text of a path is at most; only that of a path without names needs the one byte
more. -/
lemma utf8ByteSize_render_le (path : Path) :
    path.render.utf8ByteSize ≤
      path.anchor.text.utf8ByteSize + (path.names.map (·.utf8ByteSize + 1)).sum + 1 := by
  by_cases hnames : path.names = []
  · obtain ⟨anchor, names⟩ := path
    obtain rfl := hnames
    cases anchor <;> decide
  · have hsize := utf8ByteSize_render hnames
    omega

/-- A path is no longer than what is below it. -/
lemma isTooLong_of_child {name : String} (hname : name ≠ "")
    (h : isTooLong (path.child name) = false) : isTooLong path = false := by
  have hsize : 0 < name.utf8ByteSize :=
    Nat.pos_of_ne_zero fun hzero => hname (String.utf8ByteSize_eq_zero_iff.1 hzero)
  have hchild := @utf8ByteSize_render (path.child name) (by simp [Path.child])
  have hpath := utf8ByteSize_render_le path
  simp only [Path.child, List.map_append, List.sum_append, List.map_cons, List.map_nil,
    List.sum_cons, List.sum_nil] at hchild
  simp only [isTooLong, decide_eq_false_iff_not] at h ⊢
  simp only [Path.child] at h
  omega

/-- On the way to a file whose path is not too long, every directory can be opened. The dot that a
walk may put in front makes no difference: it takes two characters, and so does what is behind the
directory. -/
lemma isTooLong_dotted_append {front rest : List String} (hname : name ≠ "")
    (h : isTooLong (path.append (front ++ rest ++ [name])) = false) :
    isTooLong (path.dotted.append front) = false := by
  have hsize : 0 < name.utf8ByteSize :=
    Nat.pos_of_ne_zero fun hzero => hname (String.utf8ByteSize_eq_zero_iff.1 hzero)
  have hfile := @utf8ByteSize_render (path.append (front ++ rest ++ [name])) (by simp [Path.append])
  suffices hle : (path.dotted.append front).render.utf8ByteSize ≤
      (path.append (front ++ rest ++ [name])).render.utf8ByteSize by
    simp only [isTooLong, decide_eq_false_iff_not] at h ⊢
    omega
  obtain ⟨anchor, names⟩ := path
  simp only [Path.append, List.map_append, List.sum_append, List.map_cons, List.map_nil,
    List.sum_cons, List.sum_nil] at hfile ⊢
  unfold Path.dotted
  split
  · rename_i hanchor hnames
    have hdotted := @utf8ByteSize_render ⟨anchor, "." :: front⟩ (by simp)
    have hdot : ".".utf8ByteSize = 1 := by decide
    simp only [List.map_cons, List.sum_cons, hdot] at hdotted
    simp only [List.singleton_append]
    omega
  · have hdirectory := utf8ByteSize_render_le ⟨anchor, names ++ front⟩
    simp only [List.map_append, List.sum_append] at hdirectory ⊢
    omega

/-- A file that is reached over directories that the walk enters, and whose name it keeps, is
listed, if its path is not too long. -/
lemma Lists.of_entryBelow? {directories : List String} {content : Except ReadFailure (List UInt8)}
    (hdirectories : ∀ directory ∈ directories, filter.entersDirectory directory = true)
    (hkeeps : filter.keepsFile name = true)
    (hshort : ∀ front, front <+: directories → isTooLong (path.append front) = false)
    (hfile : entryBelow? entries (directories ++ [name]) = some (.file content)) :
    fs.Lists filter path (.directory entries) (path.append (directories ++ [name])) := by
  have hpath : isTooLong path = false := by
    simpa [Path.append] using hshort [] List.nil_prefix
  induction directories generalizing path entries with
  | nil =>
    rcases entryBelow?_cons_eq_some hfile with ⟨-, hname⟩ | ⟨below, -, hbelow⟩
    · exact .file hpath (mem_of_entryOf? hname) hkeeps rfl
    · cases hbelow
  | cons directory directories ih =>
    obtain ⟨henters, hdirectories⟩ := List.forall_mem_cons.1 hdirectories
    rcases entryBelow?_cons_eq_some hfile with ⟨hnil, -⟩ | ⟨below, hdirectory, hbelow⟩
    · simp at hnil
    · refine .inside hpath (mem_of_entryOf? hdirectory) henters ?_
      rw [List.cons_append, Path.append_cons]
      apply ih hdirectories _ hbelow
      · simpa [Path.append, Path.child] using hshort [directory] (by simp)
      · intro front hfront
        rw [← Path.append_cons]
        exact hshort _ (List.cons_prefix_cons.2 ⟨rfl, hfront⟩)

/-- **The files that are listed.** -/
lemma mem_walk_of_file {directories : List String} {content : Except ReadFailure (List UInt8)}
    (hpath : path.plain = path)
    (hdirectories : ∀ directory ∈ directories, filter.entersDirectory directory = true)
    (hkeeps : filter.keepsFile name = true) (hempty : name ≠ "")
    (hshort : isTooLong (path.append (directories ++ [name])) = false)
    (hfile : entryBelow? entries (directories ++ [name]) = some (.file content)) :
    path.append (directories ++ [name]) ∈ fs.walk filter path entries := by
  have hlists : fs.Lists filter path.dotted (.directory entries)
      (path.dotted.append (directories ++ [name])) := by
    refine .of_entryBelow? hdirectories hkeeps ?_ hfile
    rintro front ⟨rest, rfl⟩
    exact isTooLong_dotted_append hempty hshort
  refine List.mem_map.2 ⟨_, mem_filesBelow_iff.2 hlists, ?_⟩
  rw [plain_dotted_append (FileFilter.ne_dot_of_mem hdirectories hkeeps), hpath]

end FileSystem

end SourceLint
