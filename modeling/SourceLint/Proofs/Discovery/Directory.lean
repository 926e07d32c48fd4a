import SourceLint.Proofs.FileSystem.Reached

set_option autoImplicit false

/-!
# Discovery below a directory

Below a link-free directory the walk lists the files that it reaches. It reaches a file unless the
name of the file or of a directory on the way is passed over, or the directory that the file is in
cannot be opened: the walk says nothing of such a directory, and lists nothing below it. Where the
walk can open every directory that it enters, the names of a file below the directory alone tell
whether it is discovered and where it stands in the list.

## Main definitions

* `FileSystem.Reaches` — the files that a walk reaches below a directory.
* `FileSystem.OpensEach` — the walk can open every directory that it enters.

## Main results

* `FileSystem.mem_walk_iff_reaches` — what a walk lists where there are no links.
* `Discovery.discover_directory` — which files are discovered below a directory, and in what order.
-/

namespace SourceLint

/-- In a list that is in order, of two members one stands before the other if the order says so. -/
lemma sublist_pair_iff {α : Type} {R : α → α → Prop} {xs : List α} {x y : α}
    (hpairwise : xs.Pairwise R) (hasymm : ∀ x y, R x y → ¬ R y x) (hx : x ∈ xs) (hy : y ∈ xs) :
    List.Sublist [x, y] xs ↔ R x y := by
  refine ⟨fun hsub => List.pairwise_iff_forall_sublist.1 hpairwise hsub, fun hR => ?_⟩
  have hne : x ≠ y := by
    rintro rfl
    exact hasymm x x hR hR
  obtain ⟨before, after, rfl⟩ := List.append_of_mem hx
  have hafter : y ∈ after := by
    rcases List.mem_append.1 hy with hbefore | hcons
    · exact absurd ((List.pairwise_append.1 hpairwise).2.2 y hbefore x List.mem_cons_self)
        (hasymm x y hR)
    · exact (List.mem_cons.1 hcons).resolve_left hne.symm
  exact ((List.singleton_sublist.2 hafter).cons_cons x).trans (List.sublist_append_right before _)

namespace FileSystem

variable {fs : FileSystem} {filter : FileFilter} {path listed : Path}
  {entries : List (String × Entry)}

/-- On the way to a directory that can be opened, every directory can be opened. -/
lemma isTooLong_of_append {front rest : List String} (hrest : ∀ name ∈ rest, name ≠ "")
    (h : isTooLong (path.append (front ++ rest)) = false) :
    isTooLong (path.append front) = false := by
  induction rest using List.reverseRecOn with
  | nil => simpa using h
  | append_singleton rest name ih =>
    obtain ⟨hrest, hname⟩ := List.forall_mem_append.1 hrest
    refine ih hrest (isTooLong_of_child (hname name (List.mem_singleton_self name)) ?_)
    simpa [Path.append, Path.child] using h

/-- A walk reaches a file below a directory: it keeps the name of the file, enters the directories
on the way, and can open the last one of them. -/
structure Reaches (filter : FileFilter) (path : Path) (entries : List (String × Entry))
    (directories : List String) (name : String) : Prop where
  file : ∃ content, entryBelow? entries (directories ++ [name]) = some (.file content)
  keeps : filter.keepsFile name = true
  enters : ∀ directory ∈ directories, filter.entersDirectory directory = true
  short : isTooLong (path.append directories) = false

/-- What is reached from an entry of a directory is reached from the directory. -/
lemma Reaches.of_child {directories : List String} {name last : String}
    {below : List (String × Entry)}
    (h : Reaches filter (path.child name) below directories last)
    (hname : entryOf? entries name = some (.directory below))
    (henters : filter.entersDirectory name = true) :
    Reaches filter path entries (name :: directories) last where
  file := by
    rw [List.cons_append, entryBelow?, hname]
    exact h.file
  keeps := h.keeps
  enters := List.forall_mem_cons.2 ⟨henters, h.enters⟩
  short := by
    rw [Path.append_cons]
    exact h.short

/-- A listed path is that of a file which the walk reaches. -/
lemma Lists.exists_reaches {entry : Entry} (h : fs.Lists filter path entry listed)
    (hentry : entry = .directory entries) (hproper : areProper entries = true)
    (hlinks : linkCountAll entries = 0) :
    ∃ directories name, listed = path.append (directories ++ [name]) ∧
      Reaches filter path entries directories name := by
  induction h generalizing entries with
  | @file path name entry _ hshort hmem hkeeps hcounts =>
    cases hentry
    have hle := linkCount_le_of_mem hmem
    have hfound := entryOf?_of_mem hproper hmem
    refine ⟨[], name, rfl, ?_, hkeeps, by simp, by simpa [Path.append] using hshort⟩
    cases entry with
    | file content => exact ⟨content, by simp [entryBelow?, hfound]⟩
    | link target =>
      rw [linkCount] at hle
      omega
    | directory below => cases hcounts
  | @inside path listed name entry _ hshort hmem henters hbelow ih =>
    cases hentry
    have hle := linkCount_le_of_mem hmem
    obtain ⟨below, rfl⟩ : ∃ below, entry = .directory below := by
      cases hbelow <;> exact ⟨_, rfl⟩
    rw [linkCount] at hle
    obtain ⟨directories, last, rfl, hreaches⟩ :=
      ih rfl (isEntryName_of_mem hproper hmem).2 (by omega)
    exact ⟨name :: directories, last, (path.append_cons name _).symm,
      hreaches.of_child (entryOf?_of_mem hproper hmem) henters⟩

/-- A file that the walk reaches is listed. -/
lemma Reaches.lists {directories : List String} {name : String}
    (h : Reaches filter path entries directories name) (hproper : areProper entries = true) :
    fs.Lists filter path (.directory entries) (path.append (directories ++ [name])) := by
  obtain ⟨content, hfile⟩ := h.file
  refine .of_entryBelow? h.enters h.keeps ?_ hfile
  rintro front ⟨rest, rfl⟩
  refine isTooLong_of_append (fun part hpart => ?_) h.short
  have hnames := (isEntryName_of_entryBelow? hproper hfile).1 part (by simp [hpart])
  exact (isEntryName_iff.1 hnames).1

/-- **What a walk lists where there are no links**: the files that it reaches. -/
lemma mem_walk_iff_reaches {text : String} (hproper : areProper entries = true)
    (hlinks : linkCountAll entries = 0) :
    listed ∈ fs.walk filter (Path.ofString text) entries ↔
      ∃ directories name, listed = (Path.ofString text).append (directories ++ [name]) ∧
        Reaches filter (Path.ofString text).dotted entries directories name := by
  have hplain : ∀ {directories : List String} {name : String},
      Reaches filter (Path.ofString text).dotted entries directories name →
      ((Path.ofString text).dotted.append (directories ++ [name])).plain =
        (Path.ofString text).append (directories ++ [name]) := by
    intro directories name h
    rw [plain_dotted_append (FileFilter.ne_dot_of_mem h.enters h.keeps), Path.plain_ofString]
  simp only [walk, List.mem_map, mem_filesBelow_iff]
  constructor
  · rintro ⟨_, hlists, rfl⟩
    obtain ⟨directories, name, rfl, hreaches⟩ := hlists.exists_reaches rfl hproper hlinks
    exact ⟨directories, name, hplain hreaches, hreaches⟩
  · rintro ⟨directories, name, rfl, hreaches⟩
    exact ⟨_, hreaches.lists hproper, hplain hreaches⟩

/-- The walk can open the directory that it starts from and every directory that it enters below. A
directory that is there fails to open only where its path, as the walk writes it, is too long. -/
def OpensEach (filter : FileFilter) (path : Path) (entries : List (String × Entry)) : Prop :=
  ∀ directories below, entryBelow? entries directories = some (.directory below) →
    (∀ directory ∈ directories, filter.entersDirectory directory = true) →
      isTooLong (path.append directories) = false

/-- Where every directory can be opened, a file is reached if the names on the way to it are. -/
lemma OpensEach.reaches {directories : List String} {name : String}
    (h : OpensEach filter path entries)
    (hfile : ∃ content, entryBelow? entries (directories ++ [name]) = some (.file content))
    (hkeeps : filter.keepsFile name = true)
    (henters : ∀ directory ∈ directories, filter.entersDirectory directory = true) :
    Reaches filter path entries directories name where
  file := hfile
  keeps := hkeeps
  enters := henters
  short := by
    obtain ⟨content, hcontent⟩ := hfile
    obtain ⟨below, hbelow⟩ := exists_directory_of_append (List.cons_ne_nil name []) hcontent
    exact h directories below hbelow henters

end FileSystem

namespace Discovery

open FileSystem

/-- **Which files are discovered below a directory, and in what order.** The directory is link-free,
whatever its own name, and the walk can open every directory that it enters. No file is discovered
twice. A file below the directory is discovered if its name is not hidden and its extension, in
lower case, is that of an enabled language, and if no directory between them is hidden or one that
is skipped. Of two discovered files that one comes first whose names do so where they first differ:
a file before a directory, otherwise the smaller name.

**Proof sketch.** Nothing that the walk lists is dropped, as different names below a link-free
directory resolve to different paths. What the walk lists and how is told by recursion on the
directory. -/
theorem discover_directory (fs : FileSystem) (settings : Settings) (text : String)
    (place : List String) (entries : List (String × Entry)) (hproper : fs.IsProper)
    (hlinkFree : fs.LinkFree (Path.ofString text) place entries)
    (hopens : OpensEach settings.fileFilter (Path.ofString text).dotted entries) :
    ∃ found, discover fs settings [Path.ofString text] = .ok found ∧ found.value.Nodup ∧
      (∀ file, file ∈ found.value ↔
        ∃ directories name content, file = (Path.ofString text).append (directories ++ [name]) ∧
          entryBelow? entries (directories ++ [name]) = some (.file content) ∧
          isHidden name = false ∧
          Text.lowerString (Path.extensionOf name) ∈
            Language.enabledExtensions settings.languages ∧
          ∀ directory ∈ directories,
            isHidden directory = false ∧ directory ∉ settings.skippedDirectories) ∧
      ∀ names others, (Path.ofString text).append names ∈ found.value →
        (Path.ofString text).append others ∈ found.value →
        (List.Sublist [(Path.ofString text).append names, (Path.ofString text).append others]
            found.value ↔ comesBefore names others = true) := by
  have hentries := hlinkFree.areProper hproper
  obtain ⟨found, hfound, hvalue⟩ := @LinkFree.exists_discover fs settings _ _ _ hlinkFree hproper
  have hkeeps : ∀ name, settings.fileFilter.keepsFile name = true ↔ isHidden name = false ∧
      Text.lowerString (Path.extensionOf name) ∈
        Language.enabledExtensions settings.languages := by
    simp [FileFilter.keepsFile, Settings.fileFilter]
  have henters : ∀ directory, settings.fileFilter.entersDirectory directory = true ↔
      isHidden directory = false ∧ directory ∉ settings.skippedDirectories := by
    simp [FileFilter.entersDirectory, Settings.fileFilter]
  refine ⟨found, hfound, hvalue ▸ nodup_walk hentries, fun file => ?_, ?_⟩
  · rw [hvalue, mem_walk_iff_reaches hentries hlinkFree.links]
    constructor
    · rintro ⟨directories, name, hpath, ⟨content, hfile⟩, hname, hdirectories, -⟩
      obtain ⟨hhidden, hextension⟩ := (hkeeps name).1 hname
      exact ⟨directories, name, content, hpath, hfile, hhidden, hextension,
        fun directory hmem => (henters directory).1 (hdirectories directory hmem)⟩
    · rintro ⟨directories, name, content, hpath, hfile, hhidden, hextension, hdirectories⟩
      exact ⟨directories, name, hpath, hopens.reaches ⟨content, hfile⟩
        ((hkeeps name).2 ⟨hhidden, hextension⟩)
        fun directory hmem => (henters directory).2 (hdirectories directory hmem)⟩
  · intro names others hnames hothers
    have hpairwise : found.value.Pairwise (ListedBefore (Path.ofString text)) := by
      rw [hvalue, ← Path.plain_ofString text]
      nth_rewrite 2 [Path.plain_ofString]
      exact pairwise_walk hentries
    rw [sublist_pair_iff hpairwise (fun _ _ => ListedBefore.asymm) hnames hothers,
      listedBefore_append_iff]

/-! ### A directory with a file and a directory in it -/

/-- The entries of a directory with a file and a directory in it. -/
def burrowEntries : List (String × Entry) :=
  [("subx", .directory [("c.py", .file (.ok [120]))]), ("a.py", .file (.ok [120]))]

/-- A file system with such a directory in the working directory. -/
def burrow : FileSystem :=
  ⟨[("w", .directory [("d", .directory burrowEntries)])], ["w"]⟩

/-- The file system is proper. -/
lemma isProper_burrow : burrow.IsProper :=
  ⟨by decide, _, rfl⟩

/-- The directory is link-free. -/
lemma linkFree_burrow : burrow.LinkFree (Path.ofString "d") ["w", "d"] burrowEntries :=
  linkFree_of_locate isProper_burrow (fun _ => Path.isName_of_mem_ofString) (by decide) (by decide)
    ((locate_name (by decide) (by decide)).trans (locate_nil rfl)) rfl

/-- The walk can open the directory and the one in it. -/
lemma opensEach_burrow (filter : FileFilter) :
    OpensEach filter (Path.ofString "d").dotted burrowEntries := by
  intro directories below hbelow _
  cases directories with
  | nil => decide
  | cons name directories =>
    rcases entryBelow?_cons_eq_some hbelow with ⟨rfl, hname⟩ | ⟨inner, hname, hinner⟩
    · rcases List.mem_pair.1 (mem_of_entryOf? hname) with heq | heq <;> cases heq
      decide
    · rcases List.mem_pair.1 (mem_of_entryOf? hname) with heq | heq <;> cases heq
      obtain rfl := eq_nil_of_entryBelow? (by simp) hinner
      decide

/-- Both files are discovered, that of the directory itself first. -/
theorem discover_directory_burrow :
    burrow.IsProper ∧ burrow.LinkFree (Path.ofString "d") ["w", "d"] burrowEntries ∧
      OpensEach ({} : Settings).fileFilter (Path.ofString "d").dotted burrowEntries ∧
      ∃ found, discover burrow {} [Path.ofString "d"] = .ok found ∧
        Path.ofString "d/a.py" ∈ found.value ∧ Path.ofString "d/subx/c.py" ∈ found.value ∧
        List.Sublist [Path.ofString "d/a.py", Path.ofString "d/subx/c.py"] found.value := by
  have hopens := opensEach_burrow ({} : Settings).fileFilter
  obtain ⟨found, hfound, -, hmem, horder⟩ := discover_directory burrow {} "d" ["w", "d"]
    burrowEntries isProper_burrow linkFree_burrow hopens
  have hfile : Path.ofString "d/a.py" ∈ found.value :=
    (hmem _).2 ⟨[], "a.py", .ok [120], by decide, rfl, by decide, by decide +kernel, by simp⟩
  have hbelow : Path.ofString "d/subx/c.py" ∈ found.value :=
    (hmem _).2 ⟨["subx"], "c.py", .ok [120], by decide, rfl, by decide, by decide +kernel,
      by decide⟩
  exact ⟨isProper_burrow, linkFree_burrow, hopens, found, hfound, hfile, hbelow,
    (horder ["a.py"] ["subx", "c.py"] hfile hbelow).2 (by decide)⟩

end Discovery

end SourceLint
