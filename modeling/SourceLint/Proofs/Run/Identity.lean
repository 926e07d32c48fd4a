import SourceLint.Proofs.FileSystem.Reached
import SourceLint.Proofs.Run.Shadowing

set_option autoImplicit false

/-!
# The names of files in reports

In a report a file below the working directory has the name that leads to it from there, once all
links are replaced; any other file is called as it was given. Both kinds of names are texts, so one
file may take the name of another: the first resolves to a place below the working directory, and
the second is given as what leads to that place but resolves to somewhere else.

That is possible only when resolving the first file has left a link where it was. A link is left
where it leads back to itself, or where the path to it is too long to be looked at. If no discovered
file leaves a link, then every file has a name of its own, and its diagnostics stand together in the
summary.

## Main definitions

* `FileSystem.TakesNameOf` — one file has the name of another.
* `RunOutcome.Separates` — the diagnostics of every file stand together.

## Main results

* `FileSystem.displayPath_eq_iff` — when two files have the same name.
* `FileSystem.TakesNameOf.not_followsEveryLink` — only a file that leaves a link takes a name.
* `Workspace.names_identify_files` — the names of discovered files, and their diagnostics.
-/

namespace SourceLint

namespace FileSystem

variable {fs : FileSystem} {file other path resolved root : Path} {names : List String}

/-! ### Below the working directory -/

/-- The names behind those of a root. -/
lemma namesBelow?_eq_some_iff {root below : List String} :
    namesBelow? root names = some below ↔ names = root ++ below := by
  induction root generalizing names with
  | nil => simp [namesBelow?]
  | cons name root ih =>
    cases names with
    | nil => simp [namesBelow?]
    | cons next names =>
      rw [namesBelow?]
      split
      · rename_i hname
        simp [ih, hname]
      · rename_i hname
        simp [Ne.symm hname]

/-- The names of a path below a root. -/
lemma below?_eq_some_iff :
    below? root path = some names ↔ path = root.append names := by
  obtain ⟨anchor, front⟩ := root
  obtain ⟨anchor', whole⟩ := path
  unfold below?
  split
  · rename_i hanchor
    simp only at hanchor
    simp [namesBelow?_eq_some_iff, Path.append, hanchor]
  · rename_i hanchor
    simp only at hanchor
    simp [Path.append, Ne.symm hanchor]

/-- What a file is called that resolves to a path. -/
lemma displayPath_of_resolve (hroot : fs.resolve root = .ok fs.working)
    (h : fs.resolve path = .ok resolved) :
    fs.displayPath root path =
      match below? fs.working resolved with
      | some names => .ok (Path.render ⟨.relative, names⟩)
      | none => .ok path.render := by
  cases hbelow : below? fs.working resolved <;> simp only [displayPath, h, hroot, hbelow]

/-! ### Files with the same name -/

/-- A file has the name of another one: it resolves to where the path of the other one seems to
lead, and the other one leads out of the working directory. -/
def TakesNameOf (fs : FileSystem) (file other : Path) : Prop :=
  ∃ names, fs.resolve file = .ok (fs.working.append names) ∧ other = ⟨.relative, names⟩ ∧
    ∀ below, fs.resolve other ≠ .ok (fs.working.append below)

/-- The names of a file from the working directory down are written ones. -/
lemma isWritten_below (hproper : fs.IsProper) (hpath : path.IsWritten)
    (h : fs.resolve path = .ok (fs.working.append names)) :
    Path.IsWritten ⟨.relative, names⟩ ∧ ∀ name ∈ names, isEntryName name = true := by
  have hnames : ∀ name ∈ names, isEntryName name = true := fun name hname =>
    isEntryName_of_resolve hproper hpath h name (List.mem_append_right _ hname)
  refine ⟨fun name hname => ?_, hnames⟩
  obtain ⟨-, -, -, hslash, -⟩ := isEntryName_iff.1 (hnames name hname)
  exact ⟨isName_of_isEntryName (hnames name hname), hslash⟩

/-- A file that takes the name of another one is called like it. -/
lemma displayPath_of_takesNameOf (hroot : fs.resolve root = .ok fs.working)
    {resolvedOther : Path} (hother : fs.resolve other = .ok resolvedOther)
    (h : fs.TakesNameOf file other) :
    fs.displayPath root file = fs.displayPath root other := by
  obtain ⟨names, hfile, rfl, houtside⟩ := h
  have hnone : below? fs.working resolvedOther = none := by
    rw [Option.eq_none_iff_forall_ne_some]
    intro below hbelow
    rw [below?_eq_some_iff.1 hbelow] at hother
    exact houtside below hother
  rw [displayPath_of_resolve hroot hfile, displayPath_of_resolve hroot hother, hnone,
    below?_eq_some_iff.2 rfl]

/-- A file is called by a written path: by the one that leads to it from the working directory, or
by the one that it was given as. -/
lemma exists_displayName (hproper : fs.IsProper) (hroot : fs.resolve root = .ok fs.working)
    (hpath : path.IsWritten) (h : fs.resolve path = .ok resolved) :
    ∃ name : Path, fs.displayPath root path = .ok name.render ∧ name.IsWritten ∧
      ((∃ names, name = ⟨.relative, names⟩ ∧ resolved = fs.working.append names) ∨
        (name = path ∧ ∀ below, fs.resolve path ≠ .ok (fs.working.append below))) := by
  rw [displayPath_of_resolve hroot h]
  cases hbelow : below? fs.working resolved with
  | some names =>
    obtain rfl := below?_eq_some_iff.1 hbelow
    exact ⟨_, rfl, (isWritten_below hproper hpath h).1, .inl ⟨names, rfl, rfl⟩⟩
  | none =>
    refine ⟨path, rfl, hpath, .inr ⟨rfl, fun below hreached => ?_⟩⟩
    obtain rfl := Except.ok.inj (h.symm.trans hreached)
    rw [below?_eq_some_iff.2 rfl] at hbelow
    cases hbelow

/-- **When two files have the same name.** Of files that resolve to different paths, one takes the
name of the other.

**Proof sketch.** The paths by which the files are called can be read back from their texts. If both
lead from the working directory, or both are as given, equal ones would make the files resolve to
the same path. -/
lemma displayPath_eq_iff (hproper : fs.IsProper) (hroot : fs.resolve root = .ok fs.working)
    (hfile : file.IsWritten) (hother : other.IsWritten) {resolvedOther : Path}
    (hresolved : fs.resolve file = .ok resolved)
    (hresolvedOther : fs.resolve other = .ok resolvedOther) (hne : resolved ≠ resolvedOther) :
    fs.displayPath root file = fs.displayPath root other ↔
      fs.TakesNameOf file other ∨ fs.TakesNameOf other file := by
  constructor
  · intro heq
    obtain ⟨name, hname, hwritten, hkind⟩ := exists_displayName hproper hroot hfile hresolved
    obtain ⟨nameOther, hnameOther, hwrittenOther, hkindOther⟩ :=
      exists_displayName hproper hroot hother hresolvedOther
    rw [hname, hnameOther] at heq
    obtain rfl := hwritten.eq_of_render hwrittenOther (Except.ok.inj heq)
    rcases hkind with ⟨names, rfl, rfl⟩ | ⟨rfl, houtside⟩
    · rcases hkindOther with ⟨names', hnames, rfl⟩ | ⟨hgiven, houtside⟩
      · cases hnames
        exact absurd rfl hne
      · exact .inl ⟨names, hresolved, hgiven.symm, houtside⟩
    · rcases hkindOther with ⟨names, hnames, rfl⟩ | ⟨rfl, -⟩
      · exact .inr ⟨names, hresolvedOther, hnames, houtside⟩
      · exact absurd (Except.ok.inj (hresolved.symm.trans hresolvedOther)) hne
  · rintro (htakes | htakes)
    · exact displayPath_of_takesNameOf hroot hresolvedOther htakes
    · exact (displayPath_of_takesNameOf hroot hresolved htakes).symm

/-- **Only a file that leaves a link takes a name.** Otherwise no link stands on what the file
resolves to, so the other file resolves to the same path. -/
lemma TakesNameOf.not_followsEveryLink (h : fs.TakesNameOf file other) (hproper : fs.IsProper)
    (hfile : file.IsWritten) : ¬ fs.FollowsEveryLink file := by
  intro hfollows
  obtain ⟨names, hresolved, rfl, houtside⟩ := h
  obtain ⟨-, hnames⟩ := isWritten_below hproper hfile hresolved
  exact houtside names (resolve_of_noLinkOn hproper hnames
    (hfollows.noLinkOn hproper hfile hresolved))

end FileSystem

/-! ### Discovered files -/

namespace Discovery

variable {fs : FileSystem} {settings : Settings} {texts : List String} {file : Path}

/-- What path arguments stand for can be read back from its text. -/
lemma isWritten_of_mem_allCandidates (hproper : fs.IsProper)
    (h : file ∈ allCandidates fs settings (texts.map Path.ofString)) : file.IsWritten := by
  obtain ⟨path, hpath, hfile⟩ := List.mem_flatMap.1 h
  obtain ⟨text, -, rfl⟩ := List.mem_map.1 hpath
  unfold candidates at hfile
  split at hfile
  · obtain rfl := List.mem_singleton.1 hfile
    exact Path.isWritten_ofString text
  · rename_i place entries hlookup
    obtain ⟨-, -, hlocate⟩ := FileSystem.lookup_eq_ok_iff.1 hlookup
    have hentries : FileSystem.areProper entries = true :=
      (FileSystem.isEntryName_of_entryBelow? hproper.entries
        (FileSystem.entryAt?_of_locate hlocate)).2
    obtain ⟨directories, name, rfl, -, hbelow⟩ := FileSystem.exists_append_of_mem_walk hfile
    rw [Path.plain_ofString]
    refine List.forall_mem_append.2 ⟨Path.isWritten_ofString text, fun part hpart => ?_⟩
    have hpart := hbelow hentries part hpart
    obtain ⟨-, -, -, hslash, -⟩ := FileSystem.isEntryName_iff.1 hpart
    exact ⟨FileSystem.isName_of_isEntryName hpart, hslash⟩
  · simp at hfile

end Discovery

/-! ### Diagnostics -/

/-- A diagnostic is in the file of its source. -/
lemma Scan.file_of_mem_diagnostics {faults : RuleFaults} {source : Source} {tree : Node}
    {diagnostic : Diagnostic} (h : diagnostic ∈ diagnostics faults source tree) :
    diagnostic.file = source.file := by
  have hfound : diagnostic ∈ found faults source tree := by
    unfold diagnostics at h
    simp only at h
    split at h
    · exact h
    · exact (List.mem_filter.1 h).1
  obtain ⟨trial, -, htrial⟩ := List.mem_filterMap.1 hfound
  unfold tryRule at htrial
  split at htrial
  · cases htrial
  · obtain ⟨finding, -, rfl⟩ := Option.map_eq_some_iff.1 htrial
    rfl

/-- The diagnostics that carry one file name come from one result and stand together. -/
def RunOutcome.Separates (outcome : RunOutcome) : Prop :=
  ∀ diagnostic ∈ outcome.summary.diagnostics, ∃ result ∈ outcome.done, ∃ before after,
    outcome.summary.diagnostics = before ++ result.diagnostics ++ after ∧
      diagnostic ∈ result.diagnostics ∧
      (∀ own ∈ result.diagnostics, own.file = diagnostic.file) ∧
      ∀ foreign ∈ before ++ after, foreign.file ≠ diagnostic.file

/-- Where every result has a name of its own, the diagnostics of a name stand together. -/
lemma RunOutcome.separates_of_nodup {outcome : RunOutcome}
    (hsummary : outcome.summary = .ofResults outcome.done)
    (hnodup : (outcome.done.map (·.file)).Nodup)
    (hfiles : ∀ result ∈ outcome.done, ∀ diagnostic ∈ result.diagnostics,
      diagnostic.file = result.file) : outcome.Separates := by
  intro diagnostic hdiagnostic
  rw [hsummary, Summary.ofResults_eq] at hdiagnostic ⊢
  obtain ⟨result, hresult, hown⟩ := List.mem_flatMap.1 hdiagnostic
  obtain ⟨front, back, hscanned⟩ := List.append_of_mem hresult
  have hmem := (List.mem_filter.1 hresult).1
  have hname : diagnostic.file = result.file := hfiles result hmem diagnostic hown
  have hdistinct : ∀ other ∈ front ++ back, other ∈ outcome.done ∧ other.file ≠ result.file := by
    have hsub : ((front ++ result :: back).map (·.file)).Nodup := by
      rw [← hscanned]
      exact hnodup.sublist (List.filter_sublist.map _)
    rw [List.map_append, List.map_cons, List.nodup_middle, ← List.map_append] at hsub
    intro other hother
    refine ⟨List.mem_of_mem_filter (p := fun result => result.isScanned) ?_, ?_⟩
    · rw [hscanned]
      rcases List.mem_append.1 hother with hother | hother
      · exact List.mem_append_left _ hother
      · exact List.mem_append_right _ (List.mem_cons_of_mem _ hother)
    · exact fun heq => (List.nodup_cons.1 hsub).1 (heq ▸ List.mem_map_of_mem hother)
  refine ⟨result, hmem, front.flatMap (·.diagnostics), back.flatMap (·.diagnostics), ?_, hown, ?_,
    ?_⟩
  · simp only [hscanned, List.flatMap_append, List.flatMap_cons, List.append_assoc]
  · exact fun own howned => (hfiles result hmem own howned).trans hname.symm
  · rw [← List.flatMap_append]
    intro foreign hforeign
    obtain ⟨other, hother, hforeign⟩ := List.mem_flatMap.1 hforeign
    obtain ⟨hdone, hne⟩ := hdistinct other hother
    rw [hfiles other hdone foreign hforeign, hname]
    exact hne

/-! ### Runs -/

namespace Workspace

variable {workspace : Workspace} {path : Path} {result : FileResult}

/-- What the scan of a text gives carries the name of the file throughout. -/
lemma file_of_scanText {file : String} {language : Language} {text : String}
    {logged : Logged FileResult} (h : workspace.scanText file language text = .ok logged) :
    logged.value.file = file ∧ ∀ diagnostic ∈ logged.value.diagnostics, diagnostic.file = file := by
  unfold scanText at h
  simp only at h
  split at h
  · rename_i diagnostics hscan
    cases h
    refine ⟨rfl, fun diagnostic hdiagnostic => ?_⟩
    unfold Scan.scan at hscan
    simp only at hscan
    split at hscan
    · cases hscan
      exact Scan.file_of_mem_diagnostics hdiagnostic
    · cases hscan
    · cases hscan
  · cases h
    simp
  · cases h

/-- The result of a file carries the name of the file throughout. -/
lemma file_of_gives (h : Pool.Gives workspace.scanFile path result) :
    workspace.files.displayPath workspace.root path = .ok result.file ∧
      ∀ diagnostic ∈ result.diagnostics, diagnostic.file = result.file := by
  obtain ⟨events, h⟩ := h
  obtain ⟨name, hname, h⟩ := bind_eq_ok_iff.1 h
  suffices hfile : result.file = name ∧ ∀ diagnostic ∈ result.diagnostics,
      diagnostic.file = name by
    exact ⟨hfile.1 ▸ hname, hfile.1 ▸ hfile.2⟩
  split at h
  · cases h
    simp
  · split at h
    · cases h
      simp
    · split at h
      · cases h
        simp
      · exact file_of_scanText h

/-- Results have different names where their files have. -/
lemma nodup_of_displayPath {fs : FileSystem} {root : Path} {files : List Path}
    {results : List FileResult}
    (hnames : List.Forall₂ (fun file (result : FileResult) =>
      fs.displayPath root file = .ok result.file) files results)
    (hdistinct : files.Pairwise fun file other =>
      fs.displayPath root file ≠ fs.displayPath root other) :
    (results.map (·.file)).Nodup := by
  have hmap : files.map (fs.displayPath root) = (results.map (·.file)).map .ok := by
    rw [← List.forall₂_eq_eq_eq, List.map_map, List.forall₂_map_left_iff,
      List.forall₂_map_right_iff]
    exact hnames
  refine List.Nodup.of_map (.ok : String → Except Failure String) ?_
  rw [← hmap]
  exact List.pairwise_map.2 hdistinct

/-- **The names of discovered files.** In a run that ends and whose root resolves to the working
directory, the discovered files all resolve to different paths, and two of them have the same name
exactly when one takes the name of the other. A file takes a name only if resolving it leaves a
link. So if no discovered file leaves a link, the results all have different names, and the
diagnostics of each stand together in the summary.

**Proof sketch.** Names are read back from their texts (`FileSystem.displayPath_eq_iff`). Where no
link is left on what a file resolves to, the same names given from the working directory resolve to
the same path (`FileSystem.TakesNameOf.not_followsEveryLink`), so the file that is given by them is
the same one. -/
theorem names_identify_files (workspace : Workspace) (order : Nat → List Nat) (texts : List String)
    (logged : Logged RunOutcome) (hproper : workspace.files.IsProper)
    (hroot : workspace.files.resolve workspace.root = .ok workspace.files.working)
    (horder : ∀ n, ∀ i < n, i ∈ order n)
    (hrun : workspace.runInOrder order (texts.map Path.ofString) = .ok logged) :
    ∃ found, Discovery.discover workspace.files workspace.settings (texts.map Path.ofString) =
        .ok found ∧
      List.Forall₂ (fun file (result : FileResult) =>
          workspace.files.displayPath workspace.root file = .ok result.file)
        found.value logged.value.done ∧
      found.value.Pairwise (fun file other =>
        workspace.files.resolve file ≠ workspace.files.resolve other) ∧
      (∀ file ∈ found.value, ∀ other ∈ found.value,
        workspace.files.resolve file ≠ workspace.files.resolve other →
          (workspace.files.displayPath workspace.root file =
              workspace.files.displayPath workspace.root other ↔
            workspace.files.TakesNameOf file other ∨ workspace.files.TakesNameOf other file)) ∧
      (∀ file ∈ found.value, ∀ other, workspace.files.TakesNameOf file other →
        ¬ workspace.files.FollowsEveryLink file) ∧
      ((∀ file ∈ found.value, workspace.files.FollowsEveryLink file) →
        (logged.value.done.map (·.file)).Nodup ∧ logged.value.Separates) := by
  obtain ⟨found, hfound, hdone, -, hsummary⟩ := exists_discover_of_runInOrder horder hrun
  obtain ⟨pairs, hpairs, hvalue⟩ := Discovery.exists_pairs_of_discover hfound
  obtain ⟨hpairwise, -⟩ :=
    Discovery.pairwise_firstOfEach [] (Discovery.withResolved_eq_ok_iff.1 hpairs).2
  rw [← hvalue] at hpairwise
  have hfile : ∀ file ∈ found.value,
      file.IsWritten ∧ ∃ resolved, workspace.files.resolve file = .ok resolved := by
    intro file hfile
    obtain ⟨resolved, hfirst⟩ := (Discovery.mem_discovered_iff hfound).1 hfile
    exact ⟨Discovery.isWritten_of_mem_allCandidates hproper hfirst.mem, resolved,
      hfirst.resolve_eq⟩
  have hnames : List.Forall₂ (fun file (result : FileResult) =>
      workspace.files.displayPath workspace.root file = .ok result.file)
      found.value logged.value.done := hdone.imp fun _ _ hgives => (file_of_gives hgives).1
  have hsame : ∀ file ∈ found.value, ∀ other ∈ found.value,
      workspace.files.resolve file ≠ workspace.files.resolve other →
        (workspace.files.displayPath workspace.root file =
            workspace.files.displayPath workspace.root other ↔
          workspace.files.TakesNameOf file other ∨ workspace.files.TakesNameOf other file) := by
    intro file hmem other hmemOther hne
    obtain ⟨hwritten, resolved, hresolved⟩ := hfile file hmem
    obtain ⟨hwrittenOther, resolvedOther, hresolvedOther⟩ := hfile other hmemOther
    refine FileSystem.displayPath_eq_iff hproper hroot hwritten hwrittenOther hresolved
      hresolvedOther ?_
    rintro rfl
    exact hne (hresolved.trans hresolvedOther.symm)
  have htakes : ∀ file ∈ found.value, ∀ other, workspace.files.TakesNameOf file other →
      ¬ workspace.files.FollowsEveryLink file :=
    fun file hmem other h => h.not_followsEveryLink hproper (hfile file hmem).1
  refine ⟨found, hfound, hnames, hpairwise, hsame, htakes, fun hfollows => ?_⟩
  have hnodup : (logged.value.done.map (·.file)).Nodup := by
    have hdistinct : found.value.Pairwise fun file other =>
        workspace.files.displayPath workspace.root file ≠
          workspace.files.displayPath workspace.root other := by
      refine hpairwise.imp_of_mem fun hmem hmemOther hne heq => ?_
      rcases (hsame _ hmem _ hmemOther hne).1 heq with h | h
      · exact htakes _ hmem _ h (hfollows _ hmem)
      · exact htakes _ hmemOther _ h (hfollows _ hmemOther)
    exact nodup_of_displayPath hnames hdistinct
  refine ⟨hnodup, RunOutcome.separates_of_nodup hsummary hnodup fun result hresult => ?_⟩
  obtain ⟨file, -, hgives⟩ := Pool.exists_gives_of_mem hdone hresult
  exact (file_of_gives hgives).2

/-- A link is named, and the directory of its target. -/
theorem names_identify_files_shadowing :
    shadowing.files.IsProper ∧
      shadowing.files.resolve shadowing.root = .ok shadowing.files.working ∧
      (∀ n, ∀ i < n, i ∈ List.range n) ∧
      ∃ logged, shadowing.runInOrder List.range (["a.txt", "."].map Path.ofString) = .ok logged ∧
        (logged.value.done.map (·.file)).Nodup ∧ logged.value.Separates := by
  have hproper : shadowing.files.IsProper := ⟨by decide, _, rfl⟩
  have horder : ∀ n, ∀ i < n, i ∈ List.range n := fun n i hi => List.mem_range.2 hi
  obtain ⟨logged, hlogged⟩ :=
    exists_runInOrder_of_unobstructed horder (confinesFailures_sample _) unobstructed_shadowing
  obtain ⟨found, hfound, -, -, -, -, hnames⟩ := names_identify_files shadowing List.range
    ["a.txt", "."] logged hproper (resolve_sample_root _) horder hlogged
  refine ⟨hproper, resolve_sample_root _, horder, logged, hlogged, hnames fun file hfile => ?_⟩
  obtain ⟨resolved, hfirst⟩ := (Discovery.mem_discovered_iff hfound).1 hfile
  have hshort : FileSystem.isTooLong (Path.ofString "a.py") = false := by decide
  rcases mem_allCandidates_shadowing.1 hfirst.mem with rfl | rfl
  · obtain ⟨trail, hfollow⟩ := @FileSystem.exists_follow_link shadowing.files ⟨.relative, []⟩
      "a.txt" "a.py" 5 (by decide) (by decide) rfl rfl
    exact ⟨_, hfollow, rfl, hshort⟩
  · exact ⟨_, FileSystem.follow_singleton (by decide) rfl, rfl, hshort⟩

/-! ### A file that takes the name of another -/

/-- The entries of a working directory with a link that leads to itself, a link over it, and a link
out of the directory. -/
def loopedEntries : List (String × Entry) :=
  [("loop", .link "loop"), ("p.py", .link "loop/../x.py"), ("x.py", .link "../o.py")]

/-- A workspace with such a directory. -/
def looped : Workspace where
  files := ⟨[("o.py", .file (.ok [120])), ("w", .directory loopedEntries)], ["w"]⟩
  supply := {}
  parser _ _ := .tree ⟨"module", true, 0, 1, 0, 0, none, []⟩ false
  settings := {}
  root := Path.ofString "."

/-- The file system is proper. -/
lemma isProper_looped : looped.files.IsProper :=
  ⟨by decide, _, rfl⟩

/-- A dot leads to the working directory. -/
lemma lookup_looped_working :
    looped.files.lookup (Path.ofString ".") = .ok (["w"], .directory loopedEntries) :=
  FileSystem.locate_nil rfl

/-- What a link out of the directory leads to. -/
lemma locate_looped_link (links : Nat) :
    looped.files.locate (links + 1) ["w"] ["x.py"] = .ok (["o.py"], .file (.ok [120])) :=
  (FileSystem.locate_name (by decide) (by decide)).trans <|
    (FileSystem.locate_doubleDot _ _ _).trans (FileSystem.locate_name (by decide) (by decide))

/-- The link over the one that leads to itself cannot be followed. -/
lemma locate_looped_circle :
    looped.files.locate FileSystem.maxLinks ["w"] ["p.py"] = .error .tooManyLinks :=
  (FileSystem.locate_name (by decide) (by decide)).trans
    (FileSystem.locate_of_self_link (by decide) (by decide) rfl _)

/-- The link that leads to itself is left where it is, with what stands behind it. -/
lemma exists_follow_looped (depth : Nat) {trail : FileSystem.LinkTrail}
    (htrail : trail.lookup (Path.child ⟨.relative, []⟩ "loop") = none) :
    ∃ trail', looped.files.follow (depth + 1) trail ⟨.relative, []⟩ ["loop", "..", "x.py"] =
      some ⟨⟨.relative, ["loop", "..", "x.py"]⟩, false, trail'⟩ := by
  have hlink : looped.files.linkAt? (Path.child ⟨.relative, []⟩ "loop") = some "loop" := rfl
  have hzero : Path.isZeroName "loop" = false := by decide
  have hparts : Path.partsOf "loop" = ["loop"] := by decide
  have hstart : FileSystem.targetStart ⟨.relative, []⟩ "loop" = ⟨.relative, []⟩ := by decide
  have hself : looped.files.follow depth ((Path.child ⟨.relative, []⟩ "loop", none) :: trail)
      ⟨.relative, []⟩ ["loop"] = some ⟨Path.child ⟨.relative, []⟩ "loop", false,
        (Path.child ⟨.relative, []⟩ "loop", none) :: trail⟩ := by
    rw [FileSystem.follow_name (by decide) (by decide) (by decide), hlink, hzero,
      List.lookup_cons_self]
    rfl
  rw [FileSystem.follow_name (by decide) (by decide) (by decide), hlink, hzero, htrail]
  simp only [hparts, hstart, hself]
  exact ⟨_, rfl⟩

/-- The link that cannot be followed resolves to the place of the other link. -/
lemma resolve_looped_circle :
    looped.files.resolve (Path.ofString "p.py") = .ok (Path.ofString "/w/x.py") := by
  have hlink : looped.files.linkAt? (Path.child ⟨.relative, []⟩ "p.py") = some "loop/../x.py" := rfl
  have hparts : Path.partsOf "loop/../x.py" = ["loop", "..", "x.py"] := by decide
  have hstart : FileSystem.targetStart ⟨.relative, []⟩ "loop/../x.py" = ⟨.relative, []⟩ := by decide
  have hzero : Path.isZeroName "p.py" = false := by decide
  obtain ⟨trail, htarget⟩ := @exists_follow_looped 10
    [(Path.child ⟨.relative, []⟩ "p.py", none)] (by decide)
  have hfollow : looped.files.follow 12 [] ⟨.relative, []⟩ ["p.py"] =
      some ⟨⟨.relative, ["loop", "..", "x.py"]⟩, false, trail⟩ := by
    rw [FileSystem.follow_name (by decide) (by decide) (by decide), hlink, hzero]
    simp only [List.lookup_nil, hparts, hstart, htarget]
    rfl
  have hlookup : looped.files.lookup (Path.ofString "/w/x.py") =
      .ok (["o.py"], .file (.ok [120])) :=
    (FileSystem.locate_name (by decide) (by decide)).trans (locate_looped_link _)
  have habsolute : looped.files.absolute ⟨.relative, ["loop", "..", "x.py"]⟩ =
      Path.ofString "/w/x.py" := by decide
  exact FileSystem.resolve_eq_ok_iff.2 ⟨_, hfollow, habsolute, by decide, by simp [hlookup]⟩

/-- The link out of the directory resolves to what it leads to. -/
lemma resolve_looped_link :
    looped.files.resolve (Path.ofString "x.py") = .ok (Path.ofString "/o.py") := by
  have hlink : looped.files.linkAt? (Path.child ⟨.relative, []⟩ "x.py") = some "../o.py" := rfl
  have hparts : Path.partsOf "../o.py" = ["..", "o.py"] := by decide
  have hstart : FileSystem.targetStart ⟨.relative, []⟩ "../o.py" = ⟨.relative, []⟩ := by decide
  have hzero : Path.isZeroName "x.py" = false := by decide
  have htarget : ∀ trail, looped.files.follow 11 trail ⟨.relative, []⟩ ["..", "o.py"] =
      some ⟨⟨.relative, ["..", "o.py"]⟩, true, trail⟩ := by
    intro trail
    rw [FileSystem.follow]
    exact FileSystem.follow_singleton (by decide) rfl
  have hfollow : ∃ trail, looped.files.follow 12 [] ⟨.relative, []⟩ ["x.py"] =
      some ⟨⟨.relative, ["..", "o.py"]⟩, true, trail⟩ := by
    rw [FileSystem.follow_name (by decide) (by decide) (by decide), hlink, hzero]
    simp only [List.lookup_nil, hparts, hstart, htarget, FileSystem.follow_nil]
    exact ⟨_, rfl⟩
  obtain ⟨trail, hfollow⟩ := hfollow
  have hlookup : looped.files.lookup (Path.ofString "/o.py") = .ok (["o.py"], .file (.ok [120])) :=
    FileSystem.locate_name (by decide) (by decide)
  have habsolute : looped.files.absolute ⟨.relative, ["..", "o.py"]⟩ = Path.ofString "/o.py" := by
    decide
  exact FileSystem.resolve_eq_ok_iff.2 ⟨_, hfollow, habsolute, by decide, by simp [hlookup]⟩

/-- A walk lists both links. -/
lemma mem_allCandidates_looped {file : Path} :
    file ∈ Discovery.allCandidates looped.files looped.settings (["."].map Path.ofString) ↔
      file = Path.ofString "p.py" ∨ file = Path.ofString "x.py" := by
  have hcircle : looped.files.countsAsFile ⟨.relative, [".", "p.py"]⟩ (.link "loop/../x.py") =
      true := by
    have hlookup : looped.files.lookup ⟨.relative, [".", "p.py"]⟩ = .error .tooManyLinks :=
      (FileSystem.locate_dot _ _ _).trans locate_looped_circle
    rw [FileSystem.countsAsFile, hlookup]
  have hlink : looped.files.countsAsFile ⟨.relative, [".", "x.py"]⟩ (.link "../o.py") = true := by
    have hlookup : looped.files.lookup ⟨.relative, [".", "x.py"]⟩ =
        .ok (["o.py"], .file (.ok [120])) :=
      (FileSystem.locate_dot _ _ _).trans (locate_looped_link _)
    rw [FileSystem.countsAsFile, hlookup]
  rw [List.map_singleton, Discovery.allCandidates, List.flatMap_singleton, Discovery.candidates,
    lookup_looped_working]
  rw [FileSystem.mem_walk_flat_iff (by decide) (by simp [loopedEntries])]
  constructor
  · rintro ⟨name, entry, hmem, hkeeps, -, rfl⟩
    rcases List.mem_cons.1 hmem with heq | hmem
    · cases heq
      exact absurd hkeeps (by decide +kernel)
    · rcases List.mem_pair.1 hmem with heq | heq <;> cases heq <;> decide
  · rintro (rfl | rfl)
    · exact ⟨"p.py", _, .tail _ (.head _), by decide +kernel, hcircle, by decide⟩
    · exact ⟨"x.py", _, .tail _ (.tail _ (.head _)), by decide +kernel, hlink, by decide⟩

/-- Nothing obstructs a run over the directory. -/
lemma unobstructed_looped : looped.Unobstructed (["."].map Path.ofString) := by
  refine ⟨by simp [lookup_looped_working], ?_, ?_⟩
  · intro file hfile
    rcases mem_allCandidates_looped.1 hfile with rfl | rfl
    · exact ⟨_, resolve_looped_circle⟩
    · exact ⟨_, resolve_looped_link⟩
  · intro _ failure hfailure
    cases (FileSystem.resolve_working isProper_looped).symm.trans hfailure

/-- **Two files with one name.** A link over a link that leads to itself resolves to the place of
another link, which leads out of the working directory and is called as it is given. -/
theorem name_taken_by_looped_link :
    looped.files.IsProper ∧ looped.root = Path.ofString "." ∧
      ∃ found logged,
        Discovery.discover looped.files looped.settings (["."].map Path.ofString) = .ok found ∧
        looped.run (["."].map Path.ofString) = .ok logged ∧
        Path.ofString "p.py" ∈ found.value ∧ Path.ofString "x.py" ∈ found.value ∧
        looped.files.resolve (Path.ofString "p.py") = .ok (Path.ofString "/w/x.py") ∧
        looped.files.resolve (Path.ofString "x.py") = .ok (Path.ofString "/o.py") ∧
        looped.files.displayPath looped.root (Path.ofString "p.py") = .ok "x.py" ∧
        looped.files.displayPath looped.root (Path.ofString "x.py") = .ok "x.py" := by
  have horder : ∀ n, ∀ i < n, i ∈ List.range n := fun n i hi => List.mem_range.2 hi
  have hparser : looped.ConfinesFailures := ⟨fun _ _ => nofun, fun _ _ _ => nofun⟩
  obtain ⟨logged, hlogged⟩ :=
    exists_runInOrder_of_unobstructed horder hparser unobstructed_looped
  obtain ⟨found, hfound, -⟩ := exists_discover_of_runInOrder horder hlogged
  have hmem : ∀ file, file = Path.ofString "p.py" ∨ file = Path.ofString "x.py" →
      file ∈ found.value := by
    intro file hfile
    obtain ⟨resolved, hresolved⟩ := unobstructed_looped.candidates file
      (mem_allCandidates_looped.2 hfile)
    obtain ⟨first, hfirst⟩ := Discovery.exists_isFirst (mem_allCandidates_looped.2 hfile) hresolved
    -- the two links resolve to different paths, so neither is dropped for the other
    have heq : first = file := by
      have hsame := hfirst.resolve_eq.trans hresolved.symm
      rcases mem_allCandidates_looped.1 hfirst.mem with rfl | rfl <;> rcases hfile with rfl | rfl
      · rfl
      · rw [resolve_looped_circle, resolve_looped_link] at hsame
        exact absurd hsame (by decide)
      · rw [resolve_looped_circle, resolve_looped_link] at hsame
        exact absurd hsame (by decide)
      · rfl
    exact (Discovery.mem_discovered_iff hfound).2 ⟨resolved, heq ▸ hfirst⟩
  have hroot := FileSystem.resolve_working isProper_looped
  refine ⟨isProper_looped, rfl, found, logged, hfound, hlogged, hmem _ (.inl rfl),
    hmem _ (.inr rfl), resolve_looped_circle, resolve_looped_link, ?_, ?_⟩
  · exact (FileSystem.displayPath_of_resolve hroot resolve_looped_circle).trans (by decide)
  · exact (FileSystem.displayPath_of_resolve hroot resolve_looped_link).trans (by decide)

end Workspace

end SourceLint
