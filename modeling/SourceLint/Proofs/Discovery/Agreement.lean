import SourceLint.Proofs.FileSystem.LinkFree
import SourceLint.Proofs.FileSystem.Order
import SourceLint.Proofs.Run.Accounting

set_option autoImplicit false

/-!
# Walks and scans agree on files

A file below a directory is selected twice: a walk from the directory discovers it or not, and a
scan of its path skips it or not. Below a link-free directory nothing is discovered under another
name, so a file that the walk can reach is discovered exactly when the walk keeps its name.

The two agree on every file whose extension has no blank at its end. Of the other files the walk
discovers none, while the scan looks at the extension without the blank.

## Main results

* `FileSystem.LinkFree.entryBelow?_of_read` — a readable file is where its names say.
* `FileSystem.LinkFree.mem_walk_iff` — a walk lists a file that it reaches if it keeps its name.
* `FileSystem.LinkFree.exists_discover` — below a link-free directory nothing listed is dropped.
* `Workspace.walk_agrees_with_scan_iff` — when a walk and a scan agree on a file.
-/

namespace SourceLint

/-- A path that is read has no dots among its names. -/
lemma Path.isName_of_mem_ofString {text name : String} (h : name ∈ (ofString text).names) :
    isName name = true :=
  (List.mem_filter.1 h).2

/-- A path that was read has no dot in front. -/
lemma Path.plain_ofString (text : String) : (ofString text).plain = ofString text := by
  have hnames : ∀ name ∈ (ofString text).names, (name != ".") = true := by
    intro name hname
    exact (Bool.and_eq_true_iff.1 (isName_of_mem_ofString hname)).2
  rw [plain, List.filter_eq_self.2 hnames]

/-- A name that is not hidden is neither a dot nor a double dot. -/
lemma ne_dots_of_isHidden_eq_false {name : String} (h : isHidden name = false) :
    name ≠ "." ∧ name ≠ ".." := by
  constructor <;> (rintro rfl; exact absurd h (by decide))

namespace FileSystem.LinkFree

variable {fs : FileSystem} {settings : Settings} {text : String} {place : List String}
  {entries : List (String × Entry)} {file : Path}

/-- At the place of a link-free directory are its entries. -/
lemma entryAt?_eq {directory : Path} (h : fs.LinkFree directory place entries) :
    fs.entryAt? place = some (.directory entries) :=
  entryAt?_of_locate (lookup_eq_ok_iff.1 h.lookup).2.2

/-- The entries of a directory of a proper file system are proper. -/
lemma areProper {directory : Path} (h : fs.LinkFree directory place entries)
    (hproper : fs.IsProper) : FileSystem.areProper entries = true :=
  (isEntryName_of_entryBelow? hproper.entries h.entryAt?_eq).2

/-- **A readable file is where its names say.**

**Proof sketch.** The names are looked up from the place of the directory. No link stands below it,
so they lead down the tree. -/
lemma entryBelow?_of_read {directory : Path} {names : List String} {bytes : List UInt8}
    (h : fs.LinkFree directory place entries) (hnames : ∀ name ∈ names, name ≠ "." ∧ name ≠ "..")
    (hread : fs.read (directory.append names) = .ok bytes) :
    isTooLong (directory.append names) = false ∧
      entryBelow? entries names = some (.file (.ok bytes)) := by
  unfold read at hread
  split at hread
  · rename_i reached content hlookup
    obtain ⟨-, hshort, hlocate⟩ := lookup_eq_ok_iff.1 hlookup
    obtain ⟨left, hleft⟩ := exists_locate_append (lookup_eq_ok_iff.1 h.lookup).2.2
    have hbelow : fs.locate left place names = .ok (reached, .file content) :=
      (hleft names).symm.trans hlocate
    obtain rfl := eq_append_of_locate hnames (fun front target => by
      rw [entryAt?_append h.entryAt?_eq]
      exact entryBelow?_ne_link h.links) hbelow
    have hentry := entryAt?_of_locate hbelow
    rw [entryAt?_append h.entryAt?_eq, hread] at hentry
    exact ⟨hshort, hentry⟩
  · cases hread
  · cases hread

/-- What a walk lists below a link-free directory resolves to where it is. -/
lemma exists_of_mem_walk (h : fs.LinkFree (Path.ofString text) place entries)
    (hproper : fs.IsProper)
    (hfile : file ∈ fs.walk settings.fileFilter (Path.ofString text) entries) :
    ∃ directories name, file = (Path.ofString text).append (directories ++ [name]) ∧
      settings.fileFilter.keepsFile name = true ∧
      fs.resolve file = .ok ⟨.root, place ++ (directories ++ [name])⟩ := by
  obtain ⟨directories, name, rfl, hkeeps, hnames⟩ := exists_append_of_mem_walk hfile
  rw [Path.plain_ofString]
  exact ⟨directories, name, rfl, hkeeps,
    h.resolve_append hproper (fun _ => Path.isName_of_mem_ofString) (hnames (h.areProper hproper))⟩

/-- A walk from a link-free directory lists a readable file that it reaches if it keeps its name. -/
lemma mem_walk_iff {directories : List String} {name : String} {bytes : List UInt8}
    (h : fs.LinkFree (Path.ofString text) place entries) (hproper : fs.IsProper)
    (hdirectories : ∀ directory ∈ directories, settings.fileFilter.entersDirectory directory = true)
    (hhidden : isHidden name = false)
    (hread : fs.read ((Path.ofString text).append (directories ++ [name])) = .ok bytes) :
    (Path.ofString text).append (directories ++ [name]) ∈
        fs.walk settings.fileFilter (Path.ofString text) entries ↔
      settings.fileFilter.keepsFile name = true := by
  constructor
  · intro hfile
    obtain ⟨directories', name', heq, hkeeps, -⟩ := h.exists_of_mem_walk hproper hfile
    have hnames : directories ++ [name] = directories' ++ [name'] := by
      simpa [Path.append] using heq
    obtain ⟨-, hname⟩ := List.append_inj' hnames rfl
    rwa [List.singleton_inj.1 hname]
  · intro hkeeps
    have hdots : ∀ part ∈ directories ++ [name], part ≠ "." ∧ part ≠ ".." := by
      intro part hpart
      apply ne_dots_of_isHidden_eq_false
      rcases List.mem_append.1 hpart with hdirectory | hname
      · exact FileFilter.isHidden_of_entersDirectory (hdirectories part hdirectory)
      · rwa [List.mem_singleton.1 hname]
    obtain ⟨hshort, hentry⟩ := h.entryBelow?_of_read hdots hread
    have hentryName := (isEntryName_of_entryBelow? (h.areProper hproper) hentry).1 name (by simp)
    exact mem_walk_of_file (Path.plain_ofString text) hdirectories hkeeps
      (isEntryName_iff.1 hentryName).1 hshort hentry

/-- The candidates of a link-free directory are what the walk lists. -/
lemma allCandidates_eq (h : fs.LinkFree (Path.ofString text) place entries) :
    Discovery.allCandidates fs settings [Path.ofString text] =
      fs.walk settings.fileFilter (Path.ofString text) entries := by
  simp [Discovery.allCandidates, Discovery.candidates, h.lookup]

/-- **Below a link-free directory nothing listed is dropped.** Every listed file can be resolved,
and no two of them resolve to the same path. -/
lemma exists_discover (h : fs.LinkFree (Path.ofString text) place entries) (hproper : fs.IsProper) :
    ∃ found, Discovery.discover fs settings [Path.ofString text] = .ok found ∧
      found.value = fs.walk settings.fileFilter (Path.ofString text) entries := by
  have hresolve : ∀ file ∈ Discovery.allCandidates fs settings [Path.ofString text],
      ∃ resolved, fs.resolve file = .ok resolved := by
    rw [h.allCandidates_eq]
    intro file hfile
    obtain ⟨directories, name, -, -, hresolved⟩ := h.exists_of_mem_walk hproper hfile
    exact ⟨_, hresolved⟩
  obtain ⟨found, hfound⟩ := Discovery.exists_discover_iff.2 ⟨by simp [h.lookup], hresolve⟩
  obtain ⟨pairs, hpairs, hvalue⟩ := Discovery.exists_pairs_of_discover hfound
  obtain ⟨hfst, hsnd⟩ := Discovery.withResolved_eq_ok_iff.1 hpairs
  rw [h.allCandidates_eq] at hfst
  have hdistinct : pairs.Pairwise fun pair other => pair.1 ≠ other.1 :=
    List.pairwise_map.1 (hfst ▸ nodup_walk (h.areProper hproper))
  have hnodup : (pairs.map Prod.snd).Nodup := by
    refine List.pairwise_map.2 (hdistinct.imp_of_mem fun {pair other} hpair hother hne heq => ?_)
    -- two listed files that resolve to the same path have the same names
    obtain ⟨directories, name, hfile, -, hresolved⟩ :=
      h.exists_of_mem_walk hproper (hfst ▸ List.mem_map_of_mem hpair)
    obtain ⟨directories', name', hfile', -, hresolved'⟩ :=
      h.exists_of_mem_walk hproper (hfst ▸ List.mem_map_of_mem hother)
    have hsame : directories ++ [name] = directories' ++ [name'] := by
      rw [hsnd pair hpair, heq, ← hsnd other hother, hresolved'] at hresolved
      simpa using hresolved.symm
    exact hne (by rw [hfile, hfile', hsame])
  refine ⟨found, hfound, ?_⟩
  rw [hvalue, Discovery.firstOfEach_of_nodup hnodup (by simp), hfst]

end FileSystem.LinkFree

namespace Workspace

/-- **When a walk and a scan agree on a file.** The file is a readable one that is not hidden, below
a link-free directory and reached over directories that a walk enters, under settings that come from
options. The walk discovers it if its extension, in lower case, is that of an enabled language. A
scan does not skip it if that is so of the extension without blanks at its ends. So they agree
unless the extension has such a blank and is that of an enabled language without it.

**Proof sketch.** Discovery drops nothing that the walk lists, and the walk lists the file if it
keeps its name. No extension of a language holds a blank, so a walk goes by extensions without
blanks at their ends, and a scan by extensions that are rid of them. -/
theorem walk_agrees_with_scan_iff (workspace : Workspace) (options : Options)
    (surroundings : Surroundings) (text : String) (place : List String)
    (entries : List (String × Entry)) (directories : List String) (name : String) (file : Path)
    (bytes : List UInt8)
    (hsettings : Settings.ofOptions options surroundings = .ok workspace.settings)
    (hproper : workspace.files.IsProper)
    (hlinkFree : workspace.files.LinkFree (Path.ofString text) place entries)
    (hdirectories : ∀ directory ∈ directories,
      workspace.settings.fileFilter.entersDirectory directory = true)
    (hhidden : isHidden name = false)
    (hfile : file = (Path.ofString text).append (directories ++ [name]))
    (hread : workspace.files.read file = .ok bytes) :
    ∃ found,
      Discovery.discover workspace.files workspace.settings [Path.ofString text] = .ok found ∧
        (file ∈ found.value ↔ Text.lowerString file.extension ∈
          Language.enabledExtensions workspace.settings.languages) ∧
        (workspace.settings.selects file = true ↔ Language.normalized file.extension ∈
          Language.enabledExtensions workspace.settings.languages) ∧
        (∀ result, Pool.Gives workspace.scanFile file result →
          (result.skipped = false ↔ workspace.settings.selects file = true)) ∧
        ((file ∈ found.value ↔ workspace.settings.selects file = true) ↔
          (Text.stripString file.extension = file.extension ∨
            Language.normalized file.extension ∉
              Language.enabledExtensions workspace.settings.languages)) := by
  subst hfile
  have hextension := Path.extension_append_concat (Path.ofString text) directories name
  obtain ⟨found, hfound, hlisted⟩ := hlinkFree.exists_discover hproper
  have hwalk : (Path.ofString text).append (directories ++ [name]) ∈ found.value ↔
      Text.lowerString (Path.extensionOf name) ∈
        Language.enabledExtensions workspace.settings.languages := by
    rw [hlisted, hlinkFree.mem_walk_iff hproper hdirectories hhidden hread, FileFilter.keepsFile,
      hhidden]
    simp [Settings.fileFilter]
  have hscan := Settings.selects_iff (Settings.mem_ids_of_ofOptions hsettings)
    ((Path.ofString text).append (directories ++ [name]))
  rw [hextension] at hscan ⊢
  refine ⟨found, hfound, hwalk, hscan, ?_, ?_⟩
  · intro result hresult
    rw [← Bool.not_eq_true, skipped_iff hresult, Bool.not_eq_false]
  · rw [hwalk, hscan, Settings.lower_mem_enabledExtensions_iff, and_iff_right_iff_imp,
      imp_iff_or_not]

/-! ### A file with a blank at the end of its name -/

/-- The entries of a directory below which there is a file with a blank at the end of its name. -/
def paddedEntries : List (String × Entry) :=
  [("e", .directory [("x.py ", .file (.ok [120]))])]

/-- A workspace with such a directory. -/
def padded : Workspace where
  files := ⟨[("w", .directory [("d", .directory paddedEntries)])], ["w"]⟩
  supply := {}
  parser _ _ := .tree ⟨"module", true, 0, 1, 0, 0, none, []⟩ false
  settings := {}
  root := Path.ofString "/w"

/-- The file system is proper. -/
lemma isProper_padded : padded.files.IsProper :=
  ⟨by decide, _, rfl⟩

/-- The directory is link-free. -/
lemma linkFree_padded : padded.files.LinkFree (Path.ofString "d") ["w", "d"] paddedEntries :=
  FileSystem.linkFree_of_locate isProper_padded (fun _ => Path.isName_of_mem_ofString) (by decide)
    (by decide)
    ((FileSystem.locate_name (by decide) (by decide)).trans (FileSystem.locate_nil rfl)) rfl

/-- The working directory is link-free. -/
lemma linkFree_padded_root :
    padded.files.LinkFree padded.root ["w"] [("d", .directory paddedEntries)] :=
  FileSystem.linkFree_of_locate isProper_padded (fun _ => Path.isName_of_mem_ofString) (by decide)
    (by decide)
    ((FileSystem.locate_name (by decide) (by decide)).trans (FileSystem.locate_nil rfl)) rfl

/-- The file can be read. -/
lemma read_padded : padded.files.read (Path.ofString "d/e/x.py ") = .ok [120] := by
  have hlookup : padded.files.lookup (Path.ofString "d/e/x.py ") =
      .ok (["w", "d", "e", "x.py "], .file (.ok [120])) :=
    (FileSystem.locate_name (by decide) (by decide)).trans <|
      (FileSystem.locate_name (by decide) (by decide)).trans
        (FileSystem.locate_name (by decide) (by decide))
  rw [FileSystem.read, hlookup]

/-- A file whose name ends in a blank, in a directory of the root. -/
theorem walk_agrees_with_scan_iff_padded :
    Settings.ofOptions { workers := some 1 } {} = .ok padded.settings ∧
      padded.files.IsProper ∧
      padded.files.LinkFree (Path.ofString "d") ["w", "d"] paddedEntries ∧
      padded.settings.fileFilter.entersDirectory "e" = true ∧ isHidden "x.py " = false ∧
      padded.files.read (Path.ofString "d/e/x.py ") = .ok [120] ∧
      ∃ found, Discovery.discover padded.files padded.settings [Path.ofString "d"] = .ok found ∧
        ((Path.ofString "d/e/x.py " ∈ found.value ↔
            padded.settings.selects (Path.ofString "d/e/x.py ") = true) ↔
          (Text.stripString ".py " = ".py " ∨ Language.normalized ".py " ∉
            Language.enabledExtensions padded.settings.languages)) := by
  obtain ⟨found, hfound, -, -, -, hagree⟩ := walk_agrees_with_scan_iff padded { workers := some 1 }
    {} "d" ["w", "d"] paddedEntries ["e"] "x.py " (Path.ofString "d/e/x.py ") [120] rfl
    isProper_padded linkFree_padded (by decide) (by decide) (by decide) read_padded
  exact ⟨rfl, isProper_padded, linkFree_padded, by decide, by decide, read_padded, found, hfound,
    hagree⟩

/-- **A file that is scanned but not discovered.** The walk looks for the extension as it is, the
scan for the extension without the blank. -/
theorem padded_file_not_discovered :
    Settings.ofOptions { workers := some 1 } {} = .ok padded.settings ∧
      padded.files.LinkFree (Path.ofString "d") ["w", "d"] paddedEntries ∧
      padded.settings.fileFilter.entersDirectory "e" = true ∧ isHidden "x.py " = false ∧
      padded.files.read (Path.ofString "d/e/x.py ") = .ok [120] ∧
      (∃ found, Discovery.discover padded.files padded.settings [Path.ofString "d"] = .ok found ∧
        Path.ofString "d/e/x.py " ∉ found.value) ∧
      ∃ result, Pool.Gives padded.scanFile (Path.ofString "d/e/x.py ") result ∧
        result.skipped = false := by
  refine ⟨rfl, linkFree_padded, by decide, by decide, read_padded, ?_, ?_⟩
  · obtain ⟨found, hfound, hlisted⟩ := linkFree_padded.exists_discover isProper_padded
    have hwalk : Path.ofString "d/e/x.py " ∈ padded.files.walk padded.settings.fileFilter
          (Path.ofString "d") paddedEntries ↔
        padded.settings.fileFilter.keepsFile "x.py " = true :=
      @FileSystem.LinkFree.mem_walk_iff _ _ "d" _ _ ["e"] _ _ linkFree_padded isProper_padded
        (by decide) (by decide) read_padded
    refine ⟨found, hfound, ?_⟩
    rw [hlisted, hwalk]
    decide +kernel
  · have hparser : padded.ConfinesFailures := ⟨fun _ _ => nofun, fun _ _ _ => nofun⟩
    have hresolve : padded.files.resolve (Path.ofString "d/e/x.py ") =
        .ok ⟨.root, ["w", "d", "e", "x.py "]⟩ :=
      linkFree_padded.resolve_append isProper_padded (fun _ => Path.isName_of_mem_ofString)
        (by decide)
    obtain ⟨result, hresult⟩ := (exists_gives_scanFile_iff hparser).2
      ((FileSystem.exists_displayPath_iff hresolve).2 fun failure hfailure => by
        cases linkFree_padded_root.resolve.symm.trans hfailure)
    refine ⟨result, hresult, ?_⟩
    rw [← Bool.not_eq_true, skipped_iff hresult]
    decide +kernel

end Workspace

end SourceLint
