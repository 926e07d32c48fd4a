import SourceLint.Proofs.Discovery.Agreement
import SourceLint.Proofs.FileSystem.Narrowing
import SourceLint.Proofs.FileSystem.NoLinks
import SourceLint.Proofs.Run.Shadowing

set_option autoImplicit false

/-!
# Runs with fewer languages

A selection of languages acts in two places: a walk lists only files whose extension is enabled, and
a scan skips the files of other languages. Where the file system has no links, the two together
amount to a restriction of the results. What a run with fewer languages tells about files that it
does not skip is what the run with all languages tells about the files of these languages.

What has to be shown is that the order of discovery and the dropping of repetitions are not touched.
A path resolves to a path with the same extension, so paths that are dropped for one another are of
one language, and a file that is not of the selection never stands for one that is.

## Main definitions

* `Workspace.withLanguages` — a workspace with another selection of languages.

## Main results

* `Discovery.filter_allCandidates` — candidates under two selections.
* `Discovery.filter_firstOfEach` — dropping repetitions and leaving out.
* `FileSystem.HasNoLinks.exists_discover_iff` — when discovery succeeds without links.
* `Workspace.run_restricts_to_languages` — a run with fewer languages.
-/

namespace SourceLint

/-- Settings with another selection of languages. -/
def Settings.withLanguages (settings : Settings) (names : List String) : Settings :=
  { settings with languages := names }

/-- A workspace with another selection of languages. -/
def Workspace.withLanguages (workspace : Workspace) (names : List String) : Workspace :=
  { workspace with settings := workspace.settings.withLanguages names }

/-! ### Selections -/

namespace Settings

variable {settings : Settings} {names : List String} {path : Path}

/-- Under a selection of languages a file is selected if its language is one of them. -/
lemma selects_withLanguages_iff :
    (settings.withLanguages names).selects path = true ↔
      ∃ language, Language.ofExtension? path.extension = some language ∧ language.id ∈ names := by
  simp [selects, withLanguages, Option.any_eq_true]

/-- Whether a path is selected goes by its extension. -/
lemma selects_congr {other : Path} (h : path.extension = other.extension) :
    settings.selects path = settings.selects other := by
  rw [selects, selects, h]

/-- Fewer languages have fewer extensions. -/
lemma narrows_withLanguages (hnames : ∀ name ∈ names, name ∈ Language.ids) :
    (settings.withLanguages names).fileFilter.Narrows
      (settings.withLanguages Language.ids).fileFilter where
  extensions := by
    intro extension hextension
    obtain ⟨language, hlanguage, hid⟩ := (Language.mem_enabledExtensions_iff hnames).1 hextension
    exact (Language.mem_enabledExtensions_iff fun _ => id).2 ⟨language, hlanguage, hnames _ hid⟩
  skippedDirectories := rfl

/-- Of what a walk lists for all languages, a walk for fewer looks for what is selected. -/
lemma wants_eq_selects {fs : FileSystem} {directory file : Path} {entries : List (String × Entry)}
    (hnames : ∀ name ∈ names, name ∈ Language.ids)
    (hfile : file ∈ fs.walk (settings.withLanguages Language.ids).fileFilter directory entries) :
    (settings.withLanguages names).fileFilter.wants file =
      (settings.withLanguages names).selects file := by
  obtain ⟨directories, name, rfl, hkeeps, -⟩ := FileSystem.exists_append_of_mem_walk hfile
  have hlisted : Text.lowerString (Path.extensionOf name) ∈
      Language.enabledExtensions (settings.withLanguages Language.ids).languages := by
    simpa [FileFilter.keepsFile, Settings.fileFilter] using (Bool.and_eq_true_iff.1 hkeeps).2
  -- a listed extension has no blank at its end, so both look it up in the same form
  have hstrip := (lower_mem_enabledExtensions_iff.1 hlisted).1
  rw [Bool.eq_iff_iff, selects_iff hnames, FileFilter.wants, List.contains_iff_mem,
    Path.extension_append_concat]
  exact lower_mem_enabledExtensions_iff.trans (and_iff_right hstrip)

end Settings

/-! ### Discovery -/

namespace Discovery

variable {fs : FileSystem} {settings : Settings} {names : List String} {paths : List Path}

/-- **Candidates under two selections.** Of the candidates for all languages those that are selected
are the selected ones of the candidates for fewer languages. -/
lemma filter_allCandidates (hnames : ∀ name ∈ names, name ∈ Language.ids) :
    (allCandidates fs (settings.withLanguages Language.ids) paths).filter
        (settings.withLanguages names).selects =
      (allCandidates fs (settings.withLanguages names) paths).filter
        (settings.withLanguages names).selects := by
  rw [allCandidates, allCandidates, List.filter_flatMap, List.filter_flatMap]
  refine List.flatMap_congr fun path _ => ?_
  unfold candidates
  split
  · rfl
  · rename_i place entries hlookup
    have hselected : ∀ file ∈ fs.walk (settings.withLanguages names).fileFilter path entries,
        (settings.withLanguages names).selects file = true :=
      fun file => Settings.selects_of_mem_walk hnames
    rw [List.filter_eq_self.2 hselected,
      FileSystem.walk_narrow (Settings.narrows_withLanguages hnames)]
    exact List.filter_congr fun file hfile => (Settings.wants_eq_selects hnames hfile).symm
  · rfl

/-- **Dropping repetitions and leaving out.** Where a path is kept if what it resolves to is, it
makes no difference which is done first. -/
lemma filter_firstOfEach {keep : Path → Bool} {pairs : List (Path × Path)} (seen : List Path)
    (h : ∀ pair ∈ pairs, keep pair.2 = keep pair.1) :
    (firstOfEach seen pairs).filter keep =
      firstOfEach (seen.filter keep) (pairs.filter fun pair => keep pair.1) := by
  induction pairs generalizing seen with
  | nil => rfl
  | cons pair pairs ih =>
    obtain ⟨path, resolved⟩ := pair
    obtain ⟨hpair, hpairs⟩ := List.forall_mem_cons.1 h
    have hpair : keep resolved = keep path := hpair
    rw [firstOfEach]
    cases hkeep : keep path with
    | false =>
      rw [List.filter_cons_of_neg (by simp [hkeep])]
      split
      · exact ih seen hpairs
      · rw [List.filter_cons_of_neg (by simp [hkeep]), ih _ hpairs,
          List.filter_cons_of_neg (by simp [hpair, hkeep])]
    | true =>
      rw [hkeep] at hpair
      have hseen : (seen.filter keep).contains resolved = seen.contains resolved := by
        rw [Bool.eq_iff_iff]
        simp [hpair]
      have hfront : ((path, resolved) :: pairs).filter (fun pair => keep pair.1) =
          (path, resolved) :: pairs.filter fun pair => keep pair.1 := List.filter_cons_of_pos hkeep
      rw [hfront, firstOfEach, hseen]
      split
      · exact ih seen hpairs
      · rw [List.filter_cons_of_pos hkeep, ih _ hpairs, List.filter_cons_of_pos hpair]

/-- What is left of discovered files is what is discovered of the candidates that are left. -/
lemma exists_filter_discovered {keep : Path → Bool} {found : Logged (List Path)}
    (h : discover fs settings paths = .ok found)
    (hkeep : ∀ file ∈ allCandidates fs settings paths, ∀ resolved,
      fs.resolve file = .ok resolved → keep resolved = keep file) :
    ∃ pairs, withResolved fs ((allCandidates fs settings paths).filter keep) = .ok pairs ∧
      found.value.filter keep = firstOfEach [] pairs := by
  obtain ⟨pairs, hpairs, hfound⟩ := exists_pairs_of_discover h
  obtain ⟨hfst, hresolved⟩ := withResolved_eq_ok_iff.1 hpairs
  have hsame : ∀ pair ∈ pairs, keep pair.2 = keep pair.1 := fun pair hpair =>
    hkeep pair.1 (hfst ▸ List.mem_map_of_mem hpair) pair.2 (hresolved pair hpair)
  refine ⟨pairs.filter fun pair => keep pair.1, withResolved_eq_ok_iff.2 ⟨?_, ?_⟩, ?_⟩
  · rw [← hfst, List.filter_map]
    rfl
  · exact fun pair hpair => hresolved pair (List.mem_filter.1 hpair).1
  · rw [hfound, filter_firstOfEach [] hsame]
    rfl

end Discovery

/-! ### Candidates without links -/

namespace FileSystem.HasNoLinks

variable {fs : FileSystem} {settings : Settings} {texts : List String} {file : Path}

/-- What a walk lists resolves to a path with the same extension. -/
lemma exists_resolve_of_mem_walk {text : String} {place : List String}
    {entries : List (String × Entry)} (h : fs.HasNoLinks) (hproper : fs.IsProper)
    (hlookup : fs.lookup (Path.ofString text) = .ok (place, .directory entries))
    (hfile : file ∈ fs.walk settings.fileFilter (Path.ofString text) entries) :
    ∃ resolved, fs.resolve file = .ok resolved ∧ resolved.extension = file.extension := by
  obtain ⟨hzero, -, hlocate⟩ := lookup_eq_ok_iff.1 hlookup
  have hentries : areProper entries = true :=
    (isEntryName_of_entryBelow? hproper.entries (entryAt?_of_locate hlocate)).2
  obtain ⟨directories, name, rfl, hkeeps, hbelow⟩ := exists_append_of_mem_walk hfile
  have hbelow := hbelow hentries
  obtain ⟨-, hdots⟩ := ne_dots_of_isHidden_eq_false (FileFilter.isHidden_of_keepsFile hkeeps)
  rw [Path.plain_ofString]
  refine h.exists_resolve hproper (List.append_assoc _ _ _).symm ?_ ?_ hdots
  · exact List.forall_mem_append.2 ⟨fun _ => Path.isName_of_mem_ofString,
      fun part hpart => isName_of_isEntryName (hbelow part hpart)⟩
  · rw [Path.holdsZero, Path.append, List.any_append, Bool.or_eq_false_iff]
    refine ⟨hzero, List.any_eq_false.2 fun part hpart => ?_⟩
    obtain ⟨-, -, -, -, hpartZero⟩ := isEntryName_iff.1 (hbelow part hpart)
    simp [hpartZero]

/-- **Every candidate resolves to a path with the same extension.** -/
lemma exists_resolve_of_mem_allCandidates (h : fs.HasNoLinks) (hproper : fs.IsProper)
    (hfile : file ∈ Discovery.allCandidates fs settings (texts.map Path.ofString)) :
    ∃ resolved, fs.resolve file = .ok resolved ∧ resolved.extension = file.extension := by
  obtain ⟨path, hpath, hfile⟩ := List.mem_flatMap.1 hfile
  obtain ⟨text, -, rfl⟩ := List.mem_map.1 hpath
  unfold Discovery.candidates at hfile
  split at hfile
  · rename_i place content hlookup
    obtain rfl := List.mem_singleton.1 hfile
    obtain ⟨hzero, -, hlocate⟩ := lookup_eq_ok_iff.1 hlookup
    obtain ⟨entries, hstart⟩ := hproper.exists_directory_startOf (Path.ofString text)
    obtain ⟨front, name, hlast, hdots⟩ := h.exists_concat_of_locate hstart hlocate
    exact h.exists_resolve hproper hlast (fun _ => Path.isName_of_mem_ofString) hzero hdots
  · rename_i place entries hlookup
    exact h.exists_resolve_of_mem_walk hproper hlookup hfile
  · simp at hfile

/-- **When discovery succeeds without links**: when no argument is too long, whatever the
settings. -/
lemma exists_discover_iff (h : fs.HasNoLinks) (hproper : fs.IsProper) :
    (∃ found, Discovery.discover fs settings (texts.map Path.ofString) = .ok found) ↔
      ∀ text ∈ texts, fs.lookup (Path.ofString text) ≠ .error .nameTooLong := by
  rw [Discovery.exists_discover_iff, List.forall_mem_map, and_iff_left]
  intro file hfile
  obtain ⟨resolved, hresolved, -⟩ := h.exists_resolve_of_mem_allCandidates hproper hfile
  exact ⟨resolved, hresolved⟩

/-- Without links a discovered file has a name in reports, whatever the root is. -/
lemma exists_displayPath (h : fs.HasNoLinks) {paths : List Path} {found : Logged (List Path)}
    (hfound : Discovery.discover fs settings paths = .ok found) (hfile : file ∈ found.value)
    (root : Path) : ∃ name, fs.displayPath root file = .ok name := by
  obtain ⟨resolved, hfirst⟩ := (Discovery.mem_discovered_iff hfound).1 hfile
  exact (FileSystem.exists_displayPath_iff hfirst.resolve_eq).2
    fun _ => h.eq_zeroCharacter_of_resolve

end FileSystem.HasNoLinks

namespace Workspace

variable {workspace : Workspace} {names texts : List String} {path : Path}

/-- The same files of a selection are discovered under the selection and under all languages. -/
lemma filter_discovered_withLanguages (hproper : workspace.files.IsProper)
    (hlinks : workspace.files.HasNoLinks) (hnames : ∀ name ∈ names, name ∈ Language.ids)
    {full part : Logged (List Path)}
    (hfull : Discovery.discover workspace.files (workspace.withLanguages Language.ids).settings
      (texts.map Path.ofString) = .ok full)
    (hpart : Discovery.discover workspace.files (workspace.withLanguages names).settings
      (texts.map Path.ofString) = .ok part) :
    full.value.filter (workspace.withLanguages names).settings.selects =
      part.value.filter (workspace.withLanguages names).settings.selects := by
  have hkeep : ∀ settings,
      ∀ file ∈ Discovery.allCandidates workspace.files settings (texts.map Path.ofString),
      ∀ resolved, workspace.files.resolve file = .ok resolved →
        (workspace.withLanguages names).settings.selects resolved =
          (workspace.withLanguages names).settings.selects file := by
    intro settings file hfile resolved hresolved
    obtain ⟨reached, hreached, hextension⟩ :=
      hlinks.exists_resolve_of_mem_allCandidates hproper hfile
    obtain rfl : reached = resolved := Except.ok.inj (hreached.symm.trans hresolved)
    exact Settings.selects_congr hextension
  obtain ⟨pairs, hpairs, hfullPairs⟩ := Discovery.exists_filter_discovered hfull (hkeep _)
  obtain ⟨pairs', hpairs', hpartPairs⟩ := Discovery.exists_filter_discovered hpart (hkeep _)
  have hsame : pairs = pairs' := by
    apply Except.ok.inj (ε := Failure)
    rw [← hpairs, ← hpairs']
    exact congrArg _ (Discovery.filter_allCandidates hnames)
  rw [hfullPairs, hpartPairs, hsame]

/-! ### Results -/

/-- The result of a text that was scanned names its language. -/
lemma language_of_scanText {file : String} {language : Language} {text : String}
    {logged : Logged FileResult} (h : workspace.scanText file language text = .ok logged) :
    logged.value.language = some language.id := by
  unfold scanText at h
  simp only at h
  split at h
  · cases h
    rfl
  · cases h
    rfl
  · cases h

/-- The language of a file that is not skipped is that of its extension. -/
lemma language_of_gives {result : FileResult} (h : Pool.Gives workspace.scanFile path result)
    (hskipped : result.skipped = false) :
    result.language = (Language.ofExtension? path.extension).map (·.id) := by
  obtain ⟨events, h⟩ := h
  obtain ⟨name, -, h⟩ := bind_eq_ok_iff.1 h
  split at h
  · cases h
    cases hskipped
  · rename_i language hlanguage
    rw [hlanguage, Option.map_some]
    split at h
    · cases h
      cases hskipped
    · split at h
      · cases h
        rfl
      · exact language_of_scanText h

/-- A file of a selection has the same result as under all languages. -/
lemma scanFile_withLanguages (hnames : ∀ name ∈ names, name ∈ Language.ids)
    (h : (workspace.withLanguages names).settings.selects path = true) :
    (workspace.withLanguages names).scanFile path =
      (workspace.withLanguages Language.ids).scanFile path := by
  obtain ⟨language, hlanguage, hid⟩ := Settings.selects_withLanguages_iff.1 h
  have henabled : (workspace.withLanguages names).settings.languages.contains language.id = true :=
    List.contains_iff_mem.2 hid
  have hsupported : (workspace.withLanguages Language.ids).settings.languages.contains
      language.id = true := List.contains_iff_mem.2 (hnames _ hid)
  unfold scanFile
  simp only [hlanguage, henabled, hsupported]
  rfl

/-- Which results under all languages are those of files of a selection. -/
lemma selects_iff_of_gives {result : FileResult} (hnames : ∀ name ∈ names, name ∈ Language.ids)
    (h : Pool.Gives (workspace.withLanguages Language.ids).scanFile path result) :
    (workspace.withLanguages names).settings.selects path = true ↔
      (!result.skipped && result.language.any names.contains) = true := by
  have hskipped : result.skipped = false ↔ (workspace.withLanguages Language.ids).settings.selects
      path = true := by
    rw [← Bool.not_eq_true, skipped_iff h, Bool.not_eq_false]
  rw [Bool.and_eq_true, Bool.not_eq_true', Option.any_eq_true]
  constructor
  · intro hselects
    obtain ⟨language, hlanguage, hid⟩ := Settings.selects_withLanguages_iff.1 hselects
    have hkept := hskipped.2 (Settings.selects_withLanguages_iff.2
      ⟨language, hlanguage, hnames _ hid⟩)
    refine ⟨hkept, language.id, ?_, List.contains_iff_mem.2 hid⟩
    rw [language_of_gives h hkept, hlanguage, Option.map_some]
  · rintro ⟨hkept, id, hid, hmem⟩
    rw [language_of_gives h hkept] at hid
    obtain ⟨language, hlanguage, rfl⟩ := Option.map_eq_some_iff.1 hid
    exact Settings.selects_withLanguages_iff.2
      ⟨language, hlanguage, List.contains_iff_mem.1 hmem⟩

/-- A file that is not selected has a result when it has a name. -/
lemma exists_gives_of_not_selects
    (hselects : workspace.settings.selects path = false)
    (hname : ∃ name, workspace.files.displayPath workspace.root path = .ok name) :
    ∃ result, Pool.Gives workspace.scanFile path result := by
  obtain ⟨name, hname⟩ := hname
  unfold Pool.Gives scanFile
  simp only [hname, bind, Except.bind]
  split
  · exact ⟨_, _, rfl⟩
  · rename_i language hlanguage
    rw [Settings.selects, hlanguage, Option.any_some] at hselects
    rw [hselects]
    exact ⟨_, _, rfl⟩

/-- The results that are not skipped are those of the selected files. -/
lemma forall₂_filter_skipped {files : List Path} {results : List FileResult}
    (h : List.Forall₂ (Pool.Gives workspace.scanFile) files results) :
    List.Forall₂ (Pool.Gives workspace.scanFile) (files.filter workspace.settings.selects)
      (results.filter fun result => !result.skipped) := by
  apply List.rel_filter _ h
  intro path result hgives
  change workspace.settings.selects path = true ↔ (!result.skipped) = true
  rw [Bool.not_eq_true', ← Bool.not_eq_true result.skipped, skipped_iff hgives, Bool.not_eq_false]

/-- Every file that is discovered under a selection has a result if the files of the selection have
one under all languages. -/
lemma exists_gives_withLanguages (hlinks : workspace.files.HasNoLinks)
    (hnames : ∀ name ∈ names, name ∈ Language.ids) {paths : List Path} {found : Logged (List Path)}
    (hfound : Discovery.discover workspace.files (workspace.withLanguages names).settings paths =
      .ok found)
    (hresults : ∀ path ∈ found.value.filter (workspace.withLanguages names).settings.selects,
      ∃ result, Pool.Gives (workspace.withLanguages Language.ids).scanFile path result) :
    ∀ path ∈ found.value,
      ∃ result, Pool.Gives (workspace.withLanguages names).scanFile path result := by
  intro path hpath
  cases hselects : (workspace.withLanguages names).settings.selects path with
  | false =>
    exact exists_gives_of_not_selects hselects
      (hlinks.exists_displayPath hfound hpath workspace.root)
  | true =>
    obtain ⟨result, hresult⟩ := hresults path (List.mem_filter.2 ⟨hpath, hselects⟩)
    exact ⟨result, by rwa [Pool.Gives, scanFile_withLanguages hnames hselects]⟩

/-- The results under a selection are those under all languages that are of the selection. -/
lemma filter_results_withLanguages (hnames : ∀ name ∈ names, name ∈ Language.ids)
    {full part : List Path} {fullResults partResults : List FileResult}
    (hsame : full.filter (workspace.withLanguages names).settings.selects =
      part.filter (workspace.withLanguages names).settings.selects)
    (hfull : List.Forall₂ (Pool.Gives (workspace.withLanguages Language.ids).scanFile) full
      fullResults)
    (hpart : List.Forall₂ (Pool.Gives (workspace.withLanguages names).scanFile) part
      partResults) :
    partResults.filter (fun result => !result.skipped) =
      fullResults.filter fun result => !result.skipped && result.language.any names.contains := by
  have hfull : List.Forall₂ (Pool.Gives (workspace.withLanguages Language.ids).scanFile)
      (full.filter (workspace.withLanguages names).settings.selects)
      (fullResults.filter fun result =>
        !result.skipped && result.language.any names.contains) :=
    List.rel_filter (fun _ _ hgives => selects_iff_of_gives hnames hgives) hfull
  have hselected := (List.forall₂_and_left _ _).2
    ⟨fun path hpath => (List.mem_filter.1 hpath).2, hfull⟩
  have hfull : List.Forall₂ (Pool.Gives (workspace.withLanguages names).scanFile)
      (full.filter (workspace.withLanguages names).settings.selects)
      (fullResults.filter fun result =>
        !result.skipped && result.language.any names.contains) := by
    refine hselected.imp fun path result h => ?_
    rw [Pool.Gives, scanFile_withLanguages hnames h.1]
    exact h.2
  refine List.right_unique_forall₂' ?_ (hsame ▸ forall₂_filter_skipped hpart) hfull
  rintro path result other ⟨events, hresult⟩ ⟨events', hother⟩
  rw [hresult] at hother
  cases hother
  rfl

/-- **A run with fewer languages.** In a file system without links, if the run with all languages
ends, then so does the run with a selection of them, and its results of files that are not skipped
are the results of the run with all languages that are of the selection, in the same order. If the
failures of parsers are confined, a run ends whatever the selection, as long as no argument is too
long to be looked up.

**Proof sketch.** The same files of the selection are discovered in both runs
(`filter_discovered_withLanguages`), and each of them has the same result in both. The other files
of the second run are skipped. -/
theorem run_restricts_to_languages (workspace : Workspace) (names : List String)
    (order order' : Nat → List Nat) (texts : List String)
    (hproper : workspace.files.IsProper) (hlinks : workspace.files.HasNoLinks)
    (hnames : ∀ name ∈ names, name ∈ Language.ids)
    (horder : ∀ n, ∀ i < n, i ∈ order n) (horder' : ∀ n, ∀ i < n, i ∈ order' n) :
    (∀ full, (workspace.withLanguages Language.ids).runInOrder order
          (texts.map Path.ofString) = .ok full →
        ∃ part, (workspace.withLanguages names).runInOrder order'
            (texts.map Path.ofString) = .ok part ∧
          part.value.done.filter (fun result => !result.skipped) =
            full.value.done.filter fun result =>
              !result.skipped && result.language.any names.contains) ∧
      (workspace.ConfinesFailures →
        ∀ selection, (∃ logged, (workspace.withLanguages selection).runInOrder order
            (texts.map Path.ofString) = .ok logged) ↔
          ∀ text ∈ texts, workspace.files.lookup (Path.ofString text) ≠ .error .nameTooLong) := by
  constructor
  · intro full hfull
    obtain ⟨found, hfound, hdone, -⟩ := exists_discover_of_runInOrder horder hfull
    have harguments := (hlinks.exists_discover_iff hproper).1 ⟨found, hfound⟩
    obtain ⟨partFound, hpartFound⟩ :=
      (@FileSystem.HasNoLinks.exists_discover_iff _ (workspace.withLanguages names).settings _
        hlinks hproper).2 harguments
    have hsame := filter_discovered_withLanguages hproper hlinks hnames hfound hpartFound
    have hresults : ∀ path ∈ partFound.value,
        ∃ result, Pool.Gives (workspace.withLanguages names).scanFile path result := by
      refine exists_gives_withLanguages hlinks hnames hpartFound fun path hpath => ?_
      rw [← hsame] at hpath
      obtain ⟨result, -, hresult⟩ := Pool.exists_mem_zip hdone (List.mem_filter.1 hpath).1
      exact ⟨result, hresult⟩
    obtain ⟨part, hpart⟩ := exists_runInOrder horder' hpartFound hresults
    obtain ⟨partFound', hpartFound', hpartDone, -⟩ := exists_discover_of_runInOrder horder' hpart
    obtain rfl : partFound = partFound' := Except.ok.inj (hpartFound.symm.trans hpartFound')
    exact ⟨part, hpart, filter_results_withLanguages hnames hsame hdone hpartDone⟩
  · intro hparser selection
    rw [← @FileSystem.HasNoLinks.exists_discover_iff _ (workspace.withLanguages selection).settings
      _ hlinks hproper]
    constructor
    · rintro ⟨logged, hlogged⟩
      obtain ⟨found, hfound, -⟩ := exists_discover_of_runInOrder horder hlogged
      exact ⟨found, hfound⟩
    · rintro ⟨found, hfound⟩
      have hresults : ∀ path ∈ found.value,
          ∃ result, Pool.Gives (workspace.withLanguages selection).scanFile path result :=
        fun path hpath => (@exists_gives_scanFile_iff (workspace.withLanguages selection) path
          ⟨hparser.building, hparser.parsing⟩).2
            (hlinks.exists_displayPath hfound hpath workspace.root)
      exact @exists_runInOrder (workspace.withLanguages selection) _ _ horder _ hfound hresults

/-- A workspace with files of two languages. -/
def mixed : Workspace where
  files := ⟨[("w", .directory [("a.py", .file (.ok [120])),
    ("d", .directory [("b.go", .file (.ok [121]))])])], ["w"]⟩
  supply := {}
  parser _ _ := .tree ⟨"module", true, 0, 1, 0, 0, none, []⟩ false
  settings := {}
  root := Path.ofString "/w"

/-- A file is named, and a directory above it as well. -/
theorem run_restricts_to_languages_mixed :
    mixed.files.IsProper ∧ mixed.files.HasNoLinks ∧ "python" ∈ Language.ids ∧
      (∀ n, ∀ i < n, i ∈ List.range n) ∧ (∀ n, ∀ i < n, i ∈ (List.range n).reverse) ∧
      ∃ full part,
        (mixed.withLanguages Language.ids).runInOrder List.range
          ([".", "d/b.go", "./a.py"].map Path.ofString) = .ok full ∧
        (mixed.withLanguages ["python"]).runInOrder (fun n => (List.range n).reverse)
          ([".", "d/b.go", "./a.py"].map Path.ofString) = .ok part ∧
        part.value.done.filter (fun result => !result.skipped) =
          full.value.done.filter fun result =>
            !result.skipped && result.language.any ["python"].contains := by
  have hproper : mixed.files.IsProper := ⟨by decide, _, rfl⟩
  have hnames : ∀ name ∈ ["python"], name ∈ Language.ids := by decide
  have horder : ∀ n, ∀ i < n, i ∈ List.range n := fun n i hi => List.mem_range.2 hi
  have horder' : ∀ n, ∀ i < n, i ∈ (List.range n).reverse :=
    fun n i hi => List.mem_reverse.2 (List.mem_range.2 hi)
  have hparser : mixed.ConfinesFailures := ⟨fun _ _ => nofun, fun _ _ _ => nofun⟩
  have hlookup : ∀ text ∈ [".", "d/b.go", "./a.py"],
      mixed.files.lookup (Path.ofString text) ≠ .error .nameTooLong := by
    have hworking : mixed.files.lookup (Path.ofString ".") = .ok (["w"], .directory _) :=
      FileSystem.locate_nil rfl
    have hgo : mixed.files.lookup (Path.ofString "d/b.go") =
        .ok (["w", "d", "b.go"], .file (.ok [121])) :=
      (FileSystem.locate_name (by decide) (by decide)).trans
        (FileSystem.locate_name (by decide) (by decide))
    have hpython : mixed.files.lookup (Path.ofString "./a.py") =
        .ok (["w", "a.py"], .file (.ok [120])) :=
      FileSystem.locate_name (by decide) (by decide)
    simp [hworking, hgo, hpython]
  obtain ⟨hrestricts, hends⟩ := run_restricts_to_languages mixed ["python"] List.range
    (fun n => (List.range n).reverse) [".", "d/b.go", "./a.py"] hproper rfl hnames horder horder'
  obtain ⟨full, hfull⟩ := (hends hparser Language.ids).2 hlookup
  obtain ⟨part, hpart, hsame⟩ := hrestricts full hfull
  exact ⟨hproper, rfl, by decide, horder, horder', full, part, hfull, hpart, hsame⟩

end Workspace

end SourceLint
