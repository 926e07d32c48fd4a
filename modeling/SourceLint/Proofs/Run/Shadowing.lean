import SourceLint.Proofs.FileSystem.LinkFree
import SourceLint.Proofs.Run.Accounting

set_option autoImplicit false

/-!
# Files that are shadowed

Of the paths that resolve to the same file only the first is scanned, and whether it is scanned or
skipped goes by its own extension. The file is shadowed when that extension selects nothing: no
result tells anything about it, although a walk listed it under a name that is selected.

Only an argument that names a file shadows another one. A walk lists only files whose extension
selects them, so what comes first from a walk is always scanned.

## Main results

* `Settings.selects_of_mem_walk` — a walk lists only files that are selected.
* `Workspace.scanned_iff_first_selected` — when a listed file is scanned under some name.
-/

namespace SourceLint

/-- **A walk lists only files that are selected.** -/
lemma Settings.selects_of_mem_walk {fs : FileSystem} {settings : Settings} {directory file : Path}
    {entries : List (String × Entry)}
    (hlanguages : ∀ name ∈ settings.languages, name ∈ Language.ids)
    (h : file ∈ fs.walk settings.fileFilter directory entries) : settings.selects file = true := by
  obtain ⟨directories, name, rfl, hkeeps, -⟩ := FileSystem.exists_append_of_mem_walk h
  have hname := Path.extension_append_concat directory.plain directories name
  have hextension : Text.lowerString (Path.extensionOf name) ∈
      Language.enabledExtensions settings.languages := by
    simpa [FileFilter.keepsFile, Settings.fileFilter] using
      (Bool.and_eq_true_iff.1 hkeeps).2
  rw [Settings.selects_iff hlanguages, hname]
  exact (Settings.lower_mem_enabledExtensions_iff.1 hextension).2

namespace Discovery

variable {fs : FileSystem} {settings : Settings} {paths : List Path}

/-- A candidate is selected unless it is an argument that names a file. -/
lemma mem_paths_of_mem_allCandidates {file : Path}
    (hlanguages : ∀ name ∈ settings.languages, name ∈ Language.ids)
    (h : file ∈ allCandidates fs settings paths) (hskipped : settings.selects file = false) :
    file ∈ paths ∧ fs.isFile file = .ok true := by
  obtain ⟨path, hpath, hfile⟩ := List.mem_flatMap.1 h
  unfold candidates at hfile
  split at hfile
  · rename_i place content hlookup
    obtain rfl := List.mem_singleton.1 hfile
    exact ⟨hpath, by rw [FileSystem.isFile, hlookup]⟩
  · rw [Settings.selects_of_mem_walk hlanguages hfile] at hskipped
    cases hskipped
  · simp at hfile

/-- What a walk from an argument lists is a candidate. -/
lemma mem_allCandidates_of_mem_walk {directory file : Path} {entries : List (String × Entry)}
    (hdirectory : directory ∈ paths) (hentries : fs.directory? directory = some entries)
    (h : file ∈ fs.walk settings.fileFilter directory entries) :
    file ∈ allCandidates fs settings paths := by
  refine List.mem_flatMap.2 ⟨directory, hdirectory, ?_⟩
  unfold FileSystem.directory? at hentries
  unfold candidates
  split at hentries
  · rename_i place found hlookup
    obtain rfl := Option.some.inj hentries
    rw [hlookup]
    exact h
  · cases hentries

end Discovery

namespace Workspace

/-- **When a listed file is scanned.** A walk from one of the arguments lists a file, under settings
that come from options, and nothing obstructs the run. What the file resolves to has a result that
is not skipped exactly when the first candidate that resolves to it is selected. A first candidate
that is not selected is an argument that names a file.

**Proof sketch.** The file is a candidate, so there is a first one that resolves to the same path,
and only that one is discovered (`Discovery.mem_discovered_iff`). It is skipped when it is not
selected (`skipped_iff`), and what a walk lists is selected (`Settings.selects_of_mem_walk`). -/
theorem scanned_iff_first_selected (workspace : Workspace) (options : Options)
    (surroundings : Surroundings) (order : Nat → List Nat) (paths : List Path)
    (directory file resolved : Path) (entries : List (String × Entry))
    (hsettings : Settings.ofOptions options surroundings = .ok workspace.settings)
    (horder : ∀ n, ∀ i < n, i ∈ order n)
    (hparser : workspace.ConfinesFailures) (hunobstructed : workspace.Unobstructed paths)
    (hdirectory : directory ∈ paths)
    (hentries : workspace.files.directory? directory = some entries)
    (hfile : file ∈ workspace.files.walk workspace.settings.fileFilter directory entries)
    (hresolved : workspace.files.resolve file = .ok resolved) :
    ∃ logged found first, workspace.runInOrder order paths = .ok logged ∧
      Discovery.discover workspace.files workspace.settings paths = .ok found ∧
      Discovery.IsFirst workspace.files workspace.settings paths resolved first ∧
      ((∃ pair ∈ found.value.zip logged.value.done,
          workspace.files.resolve pair.1 = .ok resolved ∧ pair.2.skipped = false) ↔
        workspace.settings.selects first = true) ∧
      (workspace.settings.selects first = false →
        first ∈ paths ∧ workspace.files.isFile first = .ok true) := by
  have hlanguages := Settings.mem_ids_of_ofOptions hsettings
  obtain ⟨logged, hlogged⟩ := exists_runInOrder_of_unobstructed horder hparser hunobstructed
  obtain ⟨found, hfound, hdone, -, -⟩ := exists_discover_of_runInOrder horder hlogged
  obtain ⟨first, hfirst⟩ := Discovery.exists_isFirst
    (Discovery.mem_allCandidates_of_mem_walk hdirectory hentries hfile) hresolved
  refine ⟨logged, found, first, hlogged, hfound, hfirst, ⟨?_, ?_⟩,
    Discovery.mem_paths_of_mem_allCandidates hlanguages hfirst.mem⟩
  · rintro ⟨⟨path, result⟩, hpair, hpath, hskipped⟩
    obtain ⟨resolved', hpathFirst⟩ :=
      (Discovery.mem_discovered_iff hfound).1 (List.of_mem_zip hpair).1
    obtain rfl : resolved' = resolved := Except.ok.inj (hpathFirst.resolve_eq.symm.trans hpath)
    obtain rfl := hfirst.eq hpathFirst
    have hresult := (List.forall₂_iff_zip.1 hdone).2 hpair
    rw [← Bool.not_eq_false, ← skipped_iff hresult, hskipped]
    simp
  · intro hselects
    obtain ⟨result, hpair, hresult⟩ := Pool.exists_mem_zip hdone
      ((Discovery.mem_discovered_iff hfound).2 ⟨resolved, hfirst⟩)
    refine ⟨(first, result), hpair, hfirst.resolve_eq, ?_⟩
    rw [← Bool.not_eq_true, skipped_iff hresult, hselects]
    simp

/-! ### A link that shadows its target -/

/-- A workspace with a file, and a link to it whose name is not selected. -/
def shadowing : Workspace :=
  sample [("a.txt", "a.py")]

/-- The entries of the working directory. -/
def shadowingEntries : List (String × Entry) :=
  [("a.py", .file (.ok [120])), ("a.txt", .link "a.py")]

/-- A dot leads to the working directory. -/
lemma lookup_shadowing_directory :
    shadowing.files.lookup (Path.ofString ".") = .ok (["w"], .directory shadowingEntries) :=
  FileSystem.locate_nil rfl

/-- The link leads to the file. -/
lemma lookup_shadowing_link :
    shadowing.files.lookup (Path.ofString "a.txt") = .ok (["w", "a.py"], .file (.ok [120])) :=
  (FileSystem.locate_name (by decide) (by decide)).trans
    (FileSystem.locate_name (by decide) (by decide))

/-- The walk lists only the file, as the name of the link is not selected. -/
lemma mem_walk_shadowing {file : Path} :
    file ∈ shadowing.files.walk shadowing.settings.fileFilter (Path.ofString ".")
        shadowingEntries ↔ file = Path.ofString "a.py" := by
  rw [FileSystem.mem_walk_flat_iff (by decide) (by simp [shadowingEntries])]
  constructor
  · rintro ⟨name, entry, hmem, hkeeps, -, rfl⟩
    rcases List.mem_pair.1 hmem with heq | heq <;> cases heq
    · decide
    · exact absurd hkeeps (by decide +kernel)
  · rintro rfl
    exact ⟨"a.py", _, List.mem_cons_self, by decide +kernel, rfl, by decide⟩

/-- The candidates are the link and the file. -/
lemma mem_allCandidates_shadowing {file : Path} :
    file ∈ Discovery.allCandidates shadowing.files shadowing.settings
        [Path.ofString "a.txt", Path.ofString "."] ↔
      file = Path.ofString "a.txt" ∨ file = Path.ofString "a.py" := by
  simp [Discovery.allCandidates, Discovery.candidates, lookup_shadowing_link,
    lookup_shadowing_directory, mem_walk_shadowing]

/-- The link and the file both resolve to the file. -/
lemma resolve_shadowing {file : Path}
    (h : file = Path.ofString "a.txt" ∨ file = Path.ofString "a.py") :
    shadowing.files.resolve file = .ok (Path.ofString "/w/a.py") := by
  rcases h with rfl | rfl
  · have hlink : shadowing.files.linkAt? (Path.child ⟨.relative, []⟩ "a.txt") = some "a.py" := rfl
    have hfile : shadowing.files.linkAt? (Path.child ⟨.relative, []⟩ "a.py") = none := rfl
    obtain ⟨trail, hfollow⟩ :=
      FileSystem.exists_follow_link 5 (by decide) (by decide) hlink hfile
    exact resolve_sample_of_follow hfollow
  · exact resolve_sample_file _

/-- Nothing obstructs a run over the link and the directory. -/
lemma unobstructed_shadowing :
    shadowing.Unobstructed [Path.ofString "a.txt", Path.ofString "."] := by
  refine ⟨?_, ?_, ?_⟩
  · simp [lookup_shadowing_link, lookup_shadowing_directory]
  · intro file hfile
    exact ⟨_, resolve_shadowing (mem_allCandidates_shadowing.1 hfile)⟩
  · intro _ failure hfailure
    cases (resolve_sample_root _).symm.trans hfailure

/-- The entries that the walk starts from. -/
lemma directory?_shadowing :
    shadowing.files.directory? (Path.ofString ".") = some shadowingEntries := by
  rw [FileSystem.directory?, lookup_shadowing_directory]

/-- The file is listed by the walk, but the link to it was named first. -/
theorem scanned_iff_first_selected_shadowing :
    Settings.ofOptions { workers := some 1 } {} = .ok shadowing.settings ∧
      (∀ n, ∀ i < n, i ∈ List.range n) ∧
      shadowing.ConfinesFailures ∧
      shadowing.Unobstructed [Path.ofString "a.txt", Path.ofString "."] ∧
      shadowing.files.directory? (Path.ofString ".") = some shadowingEntries ∧
      Path.ofString "a.py" ∈ shadowing.files.walk shadowing.settings.fileFilter
        (Path.ofString ".") shadowingEntries ∧
      shadowing.files.resolve (Path.ofString "a.py") = .ok (Path.ofString "/w/a.py") ∧
      ∃ logged found first,
        shadowing.runInOrder List.range [Path.ofString "a.txt", Path.ofString "."] = .ok logged ∧
          Discovery.discover shadowing.files shadowing.settings
            [Path.ofString "a.txt", Path.ofString "."] = .ok found ∧
          Discovery.IsFirst shadowing.files shadowing.settings
            [Path.ofString "a.txt", Path.ofString "."] (Path.ofString "/w/a.py") first ∧
          ((∃ pair ∈ found.value.zip logged.value.done,
              shadowing.files.resolve pair.1 = .ok (Path.ofString "/w/a.py") ∧
                pair.2.skipped = false) ↔
            shadowing.settings.selects first = true) ∧
          (shadowing.settings.selects first = false →
            first ∈ [Path.ofString "a.txt", Path.ofString "."] ∧
              shadowing.files.isFile first = .ok true) := by
  have horder : ∀ n, ∀ i < n, i ∈ List.range n := fun n i hi => List.mem_range.2 hi
  have hlisted := mem_walk_shadowing.2 rfl
  have hresolve := resolve_shadowing (.inr rfl)
  exact ⟨rfl, horder, confinesFailures_sample _, unobstructed_shadowing, directory?_shadowing,
    hlisted, hresolve, scanned_iff_first_selected shadowing { workers := some 1 } {} List.range
      [Path.ofString "a.txt", Path.ofString "."] (Path.ofString ".") (Path.ofString "a.py")
      (Path.ofString "/w/a.py") shadowingEntries rfl horder (confinesFailures_sample _)
      unobstructed_shadowing (by simp) directory?_shadowing hlisted hresolve⟩

/-- **A listed file without a result.** The link comes first and is skipped, so nothing is said
about the file that the walk lists. -/
theorem listed_file_shadowed :
    Settings.ofOptions { workers := some 1 } {} = .ok shadowing.settings ∧
      shadowing.files.directory? (Path.ofString ".") = some shadowingEntries ∧
      Path.ofString "a.py" ∈ shadowing.files.walk shadowing.settings.fileFilter
        (Path.ofString ".") shadowingEntries ∧
      shadowing.files.read (Path.ofString "a.py") = .ok [120] ∧
      ∃ logged, shadowing.run [Path.ofString "a.txt", Path.ofString "."] = .ok logged ∧
        ∀ result ∈ logged.value.done, result.skipped = true := by
  have horder : ∀ n, ∀ i < n, i ∈ List.range n := fun n i hi => List.mem_range.2 hi
  obtain ⟨logged, hlogged⟩ := exists_runInOrder_of_unobstructed horder (confinesFailures_sample _)
    unobstructed_shadowing
  have hread : shadowing.files.read (Path.ofString "a.py") = .ok [120] := by
    have hlookup : shadowing.files.lookup (Path.ofString "a.py") =
        .ok (["w", "a.py"], .file (.ok [120])) :=
      FileSystem.locate_name (by decide) (by decide)
    rw [FileSystem.read, hlookup]
  refine ⟨rfl, directory?_shadowing, mem_walk_shadowing.2 rfl, hread, logged, hlogged, ?_⟩
  intro result hresult
  obtain ⟨found, hfound, hdone, -, -⟩ := exists_discover_of_runInOrder horder hlogged
  obtain ⟨path, hpath, hgives⟩ := Pool.exists_gives_of_mem hdone hresult
  obtain ⟨resolved, hfirst⟩ := (Discovery.mem_discovered_iff hfound).1 hpath
  have hlink : Discovery.IsFirst shadowing.files shadowing.settings
      [Path.ofString "a.txt", Path.ofString "."] (Path.ofString "/w/a.py")
      (Path.ofString "a.txt") := by
    refine ⟨[], Discovery.allCandidates shadowing.files shadowing.settings [Path.ofString "."], ?_,
      resolve_shadowing (.inl rfl), by simp⟩
    rw [Discovery.allCandidates, List.flatMap_cons, Discovery.candidates, lookup_shadowing_link]
    rfl
  obtain rfl : resolved = Path.ofString "/w/a.py" := Except.ok.inj
    (hfirst.resolve_eq.symm.trans (resolve_shadowing (mem_allCandidates_shadowing.1 hfirst.mem)))
  obtain rfl := hlink.eq hfirst
  rw [skipped_iff hgives]
  decide +kernel

end Workspace

end SourceLint
