import Mathlib.Algebra.GroupWithZero.Nat
import Mathlib.Data.List.SplitBy
import Mathlib.Data.List.TakeWhile
import SourceLint.Proofs.Text.Mentions
import SourceLint.Report.Terminal

set_option autoImplicit false

/-!
# Diagnostics by file

A report for the terminal puts the diagnostics of a file under its name. They may come in any order,
those of one file between those of others. Grouping loses none and doubles none, and it keeps the
order in two ways: files are listed as they first come up, and the diagnostics of a file stay as
they were. What it changes is the order between files, and even that stays when the diagnostics of
each file stand together, as those of a scan do.

Groups can be made a diagnostic at a time, or in two passes: neighbours of one file are taken
together in runs, and then the runs are put into groups. A file whose diagnostics do not stand
together has several runs, which meet again in its group, so both ways give the same groups.

In a report, every diagnostic has one line that says what was found where. It is the only kind of
line with several runs of text, so the diagnostics of a report can be counted in its lines.

## Main definitions

* `Report.groupRuns` — groups that are made a run at a time.
* `Report.IsContiguous` — the diagnostics of each file stand together.
* `Report.findingLine` — the line that says what was found where.

## Main results

* `Report.groupByFile_eq` — the groups, told without the loop.
* `Report.perm_groupByFile` — nothing is lost or doubled.
* `Report.groupRuns_eq` — runs of neighbours give the same groups.
* `Report.groupByFile_append` — the diagnostics of a file that stand together make up its group.
* `Report.groups_keep_diagnostics` — files, groups, reports and contiguous diagnostics.
-/

namespace SourceLint.Report

variable {diagnostics : List Diagnostic} {diagnostic : Diagnostic} {file : String}

/-! ### Groups -/

/-- One more diagnostic of a file that has a group is put at the end of that group. -/
lemma addToGroups_of_mem {files : List String} (hfiles : files.Nodup)
    (h : diagnostic.file ∈ files) (group : String → List Diagnostic) :
    addToGroups (files.map fun file => (file, group file)) diagnostic =
      files.map fun file =>
        (file, if file = diagnostic.file then group file ++ [diagnostic] else group file) := by
  induction files with
  | nil => simp at h
  | cons file files ih =>
    obtain ⟨hnew, hfiles⟩ := List.nodup_cons.1 hfiles
    rw [List.map_cons, List.map_cons, addToGroups]
    by_cases hfile : file = diagnostic.file
    · -- the other files are different ones
      have hothers : ∀ other ∈ files, other ≠ diagnostic.file := by
        rintro other hother rfl
        exact hnew (hfile ▸ hother)
      rw [if_pos hfile, if_pos hfile]
      refine congrArg _ (List.map_congr_left fun other hother => ?_)
      rw [if_neg (hothers other hother)]
    · have hrest : diagnostic.file ∈ files :=
        (List.mem_cons.1 h).resolve_left fun heq => hfile heq.symm
      rw [if_neg hfile, if_neg hfile, ih hfiles hrest]

/-- One more diagnostic of another file makes a group of its own, behind the others. -/
lemma addToGroups_of_not_mem {groups : List (String × List Diagnostic)}
    (h : ∀ group ∈ groups, group.1 ≠ diagnostic.file) :
    addToGroups groups diagnostic = groups ++ [(diagnostic.file, [diagnostic])] := by
  induction groups with
  | nil => rfl
  | cons group groups ih =>
    obtain ⟨hgroup, hgroups⟩ := List.forall_mem_cons.1 h
    rw [addToGroups, if_neg hgroup, ih hgroups, List.cons_append]

/-- The groups of diagnostics and one more. -/
lemma groupByFile_concat (diagnostics : List Diagnostic) (diagnostic : Diagnostic) :
    groupByFile (diagnostics ++ [diagnostic]) =
      addToGroups (groupByFile diagnostics) diagnostic := by
  rw [groupByFile, List.foldl_append]
  rfl

/-- **The groups, told without the loop**: the files as they first come up, each with those of the
diagnostics that are its own.

**Proof sketch.** Induction from the end of the diagnostics. One more diagnostic goes to the group
of its file if that has been mentioned, and makes a new group otherwise; in the same way it is taken
up by the list of its file's diagnostics, or makes up all of it. -/
lemma groupByFile_eq (diagnostics : List Diagnostic) :
    groupByFile diagnostics = (diagnostics.map (·.file)).eraseDups.map fun file =>
      (file, diagnostics.filter (·.file == file)) := by
  induction diagnostics using List.reverseRecOn with
  | nil => rfl
  | append_singleton diagnostics diagnostic ih =>
    rw [groupByFile_concat, ih, List.map_append, List.map_singleton]
    by_cases hfile : diagnostic.file ∈ diagnostics.map (·.file)
    · rw [Text.eraseDups_concat_of_mem hfile,
        addToGroups_of_mem (Text.nodup_eraseDups _) (List.mem_eraseDups.2 hfile)]
      refine List.map_congr_left fun file _ => ?_
      by_cases heq : file = diagnostic.file
      · simp [heq]
      · simp [heq, Ne.symm heq]
    · have hothers : ∀ file ∈ (diagnostics.map (·.file)).eraseDups, file ≠ diagnostic.file := by
        rintro file hmem rfl
        exact hfile (List.mem_eraseDups.1 hmem)
      have hnone : diagnostics.filter (·.file == diagnostic.file) = [] := by
        rw [List.filter_eq_nil_iff]
        intro other hother heq
        exact hfile (List.mem_map.2 ⟨other, hother, by simpa using heq⟩)
      rw [Text.eraseDups_concat_of_not_mem hfile, addToGroups_of_not_mem, List.map_append]
      · congr 1
        · refine List.map_congr_left fun file hmem => ?_
          simp [Ne.symm (hothers file hmem)]
        · simp [hnone]
      · simpa using hothers

/-! ### Nothing is lost or doubled -/

/-- One more diagnostic is put somewhere among the others. -/
lemma perm_addToGroups (groups : List (String × List Diagnostic)) (diagnostic : Diagnostic) :
    ((addToGroups groups diagnostic).flatMap (·.2)).Perm
      (groups.flatMap (·.2) ++ [diagnostic]) := by
  induction groups with
  | nil => exact .refl _
  | cons group groups ih =>
    rw [addToGroups]
    split
    · simp only [List.flatMap_cons, List.append_assoc]
      exact List.perm_append_comm.append_left _
    · simp only [List.flatMap_cons, List.append_assoc]
      exact ih.append_left _

/-- **Nothing is lost or doubled** when diagnostics are grouped. -/
lemma perm_groupByFile (diagnostics : List Diagnostic) :
    ((groupByFile diagnostics).flatMap (·.2)).Perm diagnostics := by
  induction diagnostics using List.reverseRecOn with
  | nil => exact .refl _
  | append_singleton diagnostics diagnostic ih =>
    rw [groupByFile_concat]
    exact (perm_addToGroups _ _).trans (ih.append_right _)

/-- The sizes of the groups add up to the number of diagnostics. -/
lemma sum_length_groupByFile (diagnostics : List Diagnostic) :
    ((groupByFile diagnostics).map (·.2.length)).sum = diagnostics.length := by
  rw [← List.length_flatMap]
  exact (perm_groupByFile diagnostics).length_eq

/-! ### Runs of neighbours -/

/-- A group that gets no more diagnostics stays in front of the others. -/
lemma foldl_addToGroups_of_ne {group : String × List Diagnostic}
    {groups : List (String × List Diagnostic)}
    (h : ∀ diagnostic ∈ diagnostics, diagnostic.file ≠ group.1) :
    diagnostics.foldl addToGroups (group :: groups) =
      group :: diagnostics.foldl addToGroups groups := by
  induction diagnostics generalizing groups with
  | nil => rfl
  | cons diagnostic diagnostics ih =>
    obtain ⟨hfirst, hothers⟩ := List.forall_mem_cons.1 h
    rw [List.foldl_cons, List.foldl_cons, addToGroups, if_neg hfirst.symm, ih hothers]

/-- Diagnostics of the file of the first group are kept in that group. -/
lemma foldl_addToGroups_of_eq {group : List Diagnostic} {groups : List (String × List Diagnostic)}
    (h : ∀ diagnostic ∈ diagnostics, diagnostic.file = file) :
    diagnostics.foldl addToGroups ((file, group) :: groups) =
      (file, group ++ diagnostics) :: groups := by
  induction diagnostics generalizing group with
  | nil => simp
  | cons diagnostic diagnostics ih =>
    obtain ⟨hfirst, hothers⟩ := List.forall_mem_cons.1 h
    rw [List.foldl_cons, addToGroups, if_pos hfirst.symm, ih hothers, List.append_assoc,
      List.singleton_append]

/-- Groups with one more run of diagnostics of a file: behind those in the group of that file, or in
a new group behind the others. -/
def addRun (file : String) (run : List Diagnostic) :
    List (String × List Diagnostic) → List (String × List Diagnostic)
  | [] => [(file, run)]
  | group :: groups =>
    if group.1 = file then (group.1, group.2 ++ run) :: groups
    else group :: addRun file run groups

/-- A run is added as its diagnostics are, one after the other.

**Proof sketch.** Induction on the groups. The run goes past a group of another file as each of its
diagnostics does, and ends in the group of its own file, or in one that its first diagnostic
makes. -/
lemma addRun_eq_foldl {run : List Diagnostic} {groups : List (String × List Diagnostic)}
    (hne : run ≠ []) (hrun : ∀ diagnostic ∈ run, diagnostic.file = file) :
    addRun file run groups = run.foldl addToGroups groups := by
  induction groups with
  | nil =>
    obtain ⟨first, run, rfl⟩ := List.exists_cons_of_ne_nil hne
    obtain ⟨hfirst, hrun⟩ := List.forall_mem_cons.1 hrun
    rw [addRun, List.foldl_cons, addToGroups, hfirst, foldl_addToGroups_of_eq hrun,
      List.singleton_append]
  | cons group groups ih =>
    rw [addRun]
    split
    · rename_i hfile
      rw [hfile, ← foldl_addToGroups_of_eq hrun, ← hfile]
    · rename_i hfile
      have hothers : ∀ diagnostic ∈ run, diagnostic.file ≠ group.1 :=
        fun diagnostic hmem heq => hfile (heq.symm.trans (hrun diagnostic hmem))
      rw [ih, foldl_addToGroups_of_ne hothers]

/-- The diagnostics in runs, neighbours of one file in the same run. -/
def runsByFile (diagnostics : List Diagnostic) : List (List Diagnostic) :=
  diagnostics.splitBy fun diagnostic next => diagnostic.file == next.file

/-- Diagnostics by file, a run at a time. -/
def groupRuns (diagnostics : List Diagnostic) : List (String × List Diagnostic) :=
  (runsByFile diagnostics).foldl (fun groups run =>
    match run with
    | [] => groups
    | first :: _ => addRun first.file run groups) []

/-- In a run there are diagnostics of one file only. -/
lemma file_eq_of_mem_runsByFile {first : Diagnostic} {run : List Diagnostic}
    (h : first :: run ∈ runsByFile diagnostics) :
    ∀ diagnostic ∈ first :: run, diagnostic.file = first.file := by
  have hchain := List.isChain_of_mem_splitBy h
  simp only [beq_iff_eq] at hchain
  have hsame : ((first :: run).map (·.file)).IsChain (· = ·) := (List.isChain_map _).2 hchain
  refine List.forall_mem_cons.2 ⟨rfl, fun diagnostic hmem => ?_⟩
  exact (hsame.rel_cons (List.mem_map_of_mem hmem)).symm

/-- **Groups a run at a time** are the groups.

**Proof sketch.** Runs are not empty and of one file each, so adding them is adding what is in them,
which is all diagnostics in their order. -/
lemma groupRuns_eq (diagnostics : List Diagnostic) :
    groupRuns diagnostics = groupByFile diagnostics := by
  have hruns : (runsByFile diagnostics).flatten = diagnostics := List.flatten_splitBy _ _
  rw [groupByFile, ← hruns, List.foldl_flatten, groupRuns, hruns]
  refine List.foldl_ext _ _ _ fun groups run hrun => ?_
  cases run with
  | nil => rfl
  | cons first run =>
    exact addRun_eq_foldl (List.cons_ne_nil _ _) (file_eq_of_mem_runsByFile hrun)

/-! ### Diagnostics that stand together -/

/-- The diagnostics of each file stand together: between two of them there are no others. -/
def IsContiguous (diagnostics : List Diagnostic) : Prop :=
  ∀ before first between last after,
    diagnostics = before ++ first :: (between ++ last :: after) → first.file = last.file →
      ∀ diagnostic ∈ between, diagnostic.file = first.file

/-- **The diagnostics of a file that stand together** at the front, with none of them further on,
make up its group. -/
lemma groupByFile_append {own others : List Diagnostic} (hne : own ≠ [])
    (hown : ∀ diagnostic ∈ own, diagnostic.file = file)
    (hothers : ∀ diagnostic ∈ others, diagnostic.file ≠ file) :
    groupByFile (own ++ others) = (file, own) :: groupByFile others := by
  obtain ⟨first, own, rfl⟩ := List.exists_cons_of_ne_nil hne
  obtain ⟨hfirst, hown⟩ := List.forall_mem_cons.1 hown
  rw [groupByFile, List.foldl_append, List.foldl_cons, addToGroups, hfirst,
    foldl_addToGroups_of_eq hown, foldl_addToGroups_of_ne hothers]
  rfl

/-- What stands behind others stands together as before. -/
lemma IsContiguous.of_append {front back : List Diagnostic} (h : IsContiguous (front ++ back)) :
    IsContiguous back := by
  rintro before first between last after rfl
  exact h (front ++ before) first between last after (by simp)

/-- Of diagnostics that stand together, those of the first file come first, and none of them comes
further on. -/
lemma IsContiguous.exists_append {first : Diagnostic} (h : IsContiguous (first :: diagnostics)) :
    ∃ own others, diagnostics = own ++ others ∧
      (∀ diagnostic ∈ own, diagnostic.file = first.file) ∧
      ∀ diagnostic ∈ others, diagnostic.file ≠ first.file := by
  obtain ⟨own, others, rfl, hown, hhead⟩ : ∃ own others, diagnostics = own ++ others ∧
      (∀ diagnostic ∈ own, diagnostic.file = first.file) ∧
      ∀ next ∈ others.head?, next.file ≠ first.file := by
    refine ⟨diagnostics.takeWhile (·.file == first.file),
      diagnostics.dropWhile (·.file == first.file), List.takeWhile_append_dropWhile.symm, ?_, ?_⟩
    · intro diagnostic hmem
      simpa using List.mem_takeWhile_imp hmem
    · intro next hnext
      have hnot := List.head?_dropWhile_not (·.file == first.file) diagnostics
      rw [Option.mem_def.1 hnext] at hnot
      simpa using hnot
  refine ⟨own, others, rfl, hown, fun diagnostic hmem hfile => ?_⟩
  obtain ⟨between, after, rfl⟩ := List.append_of_mem hmem
  cases between with
  | nil => exact hhead diagnostic rfl hfile
  | cons next between =>
    -- the first file would come up again behind the next one
    have hnext := h [] first (own ++ next :: between) diagnostic after (by simp) hfile.symm next
      (by simp)
    exact hhead next rfl hnext

/-- **Groups of diagnostics that stand together**, put behind each other, are the diagnostics.

**Proof sketch.** The diagnostics of the first file make up the first group, and the groups of the
others are taken care of by induction on the number of diagnostics. -/
lemma IsContiguous.flatMap_groupByFile (h : IsContiguous diagnostics) :
    (groupByFile diagnostics).flatMap (·.2) = diagnostics := by
  induction hlength : diagnostics.length using Nat.strongRecOn generalizing diagnostics with
  | ind length ih =>
    cases diagnostics with
    | nil => rfl
    | cons first rest =>
      obtain ⟨own, others, rfl, hown, hothers⟩ := h.exists_append
      have hlt : others.length < length := by
        rw [← hlength, List.length_cons, List.length_append]
        omega
      rw [← List.cons_append] at h ⊢
      rw [groupByFile_append (List.cons_ne_nil _ _) (List.forall_mem_cons.2 ⟨rfl, hown⟩) hothers,
        List.flatMap_cons, ih _ hlt h.of_append rfl]

/-! ### The lines of a report -/

/-- The line that says what was found where. -/
def findingLine (diagnostic : Diagnostic) : List StyledRun :=
  [.plain "  ", .styled .gray (Text.decimal diagnostic.line ++ ":" ++ Text.decimal diagnostic.column),
    .plain "  ", .styled .yellow "warning", .plain ("  " ++ diagnostic.message ++ "  "),
    .styled .cyan diagnostic.rule]

/-- Whether a line has several runs. -/
def isFindingLine (line : List StyledRun) : Bool :=
  1 < line.length

/-- Among the lines of a diagnostic there is one that says what was found where. -/
lemma filter_diagnosticLines (notes : Bool) (diagnostic : Diagnostic) :
    (diagnosticLines notes diagnostic).filter isFindingLine = [findingLine diagnostic] := by
  have htext : (if diagnostic.text.isEmpty then []
      else [[.styled .gray ("  > " ++ diagnostic.text)]] : List (List StyledRun)).filter
        isFindingLine = [] := by
    split <;> simp [isFindingLine]
  rw [diagnosticLines, List.filter_append, List.filter_append, htext]
  cases diagnostic.note with
  | none => rfl
  | some note =>
    simp only
    split <;> rfl

/-- The lines of a report that say what was found where, group by group. -/
lemma filter_terminalLines (notes : Bool) (diagnostics : List Diagnostic) :
    (terminalLines notes diagnostics).filter isFindingLine =
      ((groupByFile diagnostics).flatMap (·.2)).map findingLine := by
  have hfile (group : String × List Diagnostic) :
      (fileLines notes group).filter isFindingLine = group.2.map findingLine := by
    rw [fileLines, List.filter_append, List.filter_flatMap]
    simp [filter_diagnosticLines, isFindingLine, ← List.map_eq_flatMap]
  unfold terminalLines
  split
  · rename_i hempty
    rw [List.isEmpty_iff.1 hempty]
    rfl
  · rw [List.filter_append, List.filter_flatMap, List.map_flatMap]
    simp [hfile, isFindingLine]

/-- **Grouping keeps the diagnostics.** For diagnostics in any order:

* each file has one group, and files are listed in the order of first mention;
* the group of a file are the diagnostics of that file, in their order;
* the groups are the same when they are made of runs of neighbours, however many runs a file has;
* the sizes of the groups add up to the number of diagnostics, which is the number in the last line
  of a report;
* a report has one line for every diagnostic that says what was found where;
* where the diagnostics of each file stand together, the groups put behind each other are the
  diagnostics.

**Proof sketch.** The groups are told without the loop (`groupByFile_eq`), by first mentions and by
filters. That each diagnostic is in one group is seen in the loop itself, which puts one after the
other somewhere among those before it (`perm_groupByFile`), and so is that a run is added as its
diagnostics are (`addRun_eq_foldl`). -/
theorem groups_keep_diagnostics (diagnostics : List Diagnostic) :
    ((groupByFile diagnostics).map (·.1)).Nodup ∧
    Text.IsFirstMentions (diagnostics.map (·.file)) ((groupByFile diagnostics).map (·.1)) ∧
    (∀ group ∈ groupByFile diagnostics, group.2 = diagnostics.filter (·.file == group.1)) ∧
    groupRuns diagnostics = groupByFile diagnostics ∧
    ((groupByFile diagnostics).map (·.2.length)).sum = diagnostics.length ∧
    (∀ notes, diagnostics ≠ [] →
      (terminalLines notes diagnostics).getLast? = some
        [.styled .boldYellow (countText ((groupByFile diagnostics).map (·.2.length)).sum)]) ∧
    (∀ notes, ((terminalLines notes diagnostics).filter isFindingLine).Perm
      (diagnostics.map findingLine)) ∧
    (IsContiguous diagnostics → (groupByFile diagnostics).flatMap (·.2) = diagnostics) := by
  have hfiles : (groupByFile diagnostics).map (·.1) = (diagnostics.map (·.file)).eraseDups := by
    rw [groupByFile_eq, List.map_map]
    exact List.map_id' _
  have hsum := sum_length_groupByFile diagnostics
  refine ⟨?_, ?_, ?_, groupRuns_eq diagnostics, hsum, ?_, ?_, IsContiguous.flatMap_groupByFile⟩
  · rw [hfiles]
    exact Text.nodup_eraseDups _
  · rw [hfiles]
    exact Text.isFirstMentions_eraseDups _
  · intro group hgroup
    rw [groupByFile_eq] at hgroup
    obtain ⟨file, -, rfl⟩ := List.mem_map.1 hgroup
    rfl
  · intro notes hne
    rw [terminalLines, if_neg (by simpa using hne), hsum]
    simp
  · intro notes
    rw [filter_terminalLines]
    exact (perm_groupByFile diagnostics).map findingLine

/-- A diagnostic in a file. -/
def sampleIn (file : String) (line : Int) : Diagnostic where
  rule := "step-comment"
  message := "m"
  note := none
  file := file
  line := line
  column := 1
  text := ""

/-- Three diagnostics, those of one file on both sides of that of another one; and three that stand
together. -/
theorem groups_keep_diagnostics_interleaved :
    (groupByFile [sampleIn "b.py" 1, sampleIn "a.py" 1, sampleIn "b.py" 2]).map (·.1) =
        ["b.py", "a.py"] ∧
      [sampleIn "b.py" 1, sampleIn "a.py" 1, sampleIn "b.py" 2] ≠ [] ∧
      (terminalLines true [sampleIn "b.py" 1, sampleIn "a.py" 1, sampleIn "b.py" 2]).getLast? =
        some [.styled .boldYellow (countText 3)] ∧
      IsContiguous [sampleIn "b.py" 1, sampleIn "a.py" 1, sampleIn "a.py" 2] ∧
      (groupByFile [sampleIn "b.py" 1, sampleIn "a.py" 1, sampleIn "a.py" 2]).flatMap (·.2) =
        [sampleIn "b.py" 1, sampleIn "a.py" 1, sampleIn "a.py" 2] := by
  have hcontiguous : IsContiguous [sampleIn "b.py" 1, sampleIn "a.py" 1, sampleIn "a.py" 2] := by
    intro before first between last after h hfile
    cases between with
    | nil => simp
    | cons next between =>
      -- the first and the last one would be of the same file
      have hlength := congrArg List.length h
      simp only [List.length_append, List.length_cons, List.length_nil] at hlength
      obtain rfl := List.eq_nil_of_length_eq_zero (by omega : before.length = 0)
      obtain rfl := List.eq_nil_of_length_eq_zero (by omega : between.length = 0)
      simp only [List.nil_append, List.cons_append, List.cons.injEq] at h
      rw [← h.1, ← h.2.2.1] at hfile
      exact absurd hfile (by decide)
  obtain ⟨-, -, -, -, -, hlast, -, -⟩ :=
    groups_keep_diagnostics [sampleIn "b.py" 1, sampleIn "a.py" 1, sampleIn "b.py" 2]
  obtain ⟨-, -, -, -, -, -, -, htogether⟩ :=
    groups_keep_diagnostics [sampleIn "b.py" 1, sampleIn "a.py" 1, sampleIn "a.py" 2]
  exact ⟨by decide, by simp, hlast true (by simp), hcontiguous, htogether hcontiguous⟩

end SourceLint.Report
