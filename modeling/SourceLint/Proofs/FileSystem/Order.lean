import SourceLint.Proofs.FileSystem.Listing

set_option autoImplicit false

/-!
# The order of a walk

A walk lists the files of a directory before what is below the directories in it, and goes through
both in ascending order of their names. Of two listed files, the names below the start of the walk
therefore tell which one comes first: they are compared where they first differ. A name that ends
its path is that of a file, any other one that of a directory.

Names differ within a directory, so a walk lists no path twice, and what is compared in this way is
never in doubt.

## Main definitions

* `FileSystem.comesBefore` — whether names come before other names in a walk.
* `FileSystem.ListedBefore` — this order for paths below a directory.

## Main results

* `FileSystem.comesBefore_asymm` — of two paths only one comes before the other.
* `FileSystem.pairwise_walk` — a walk lists paths in this order.
* `FileSystem.nodup_walk` — it lists no path twice.
-/

namespace SourceLint

/-! ### Sorting -/

/-- What is sorted by texts is in ascending order. -/
lemma Text.pairwise_le_mergeSort {α : Type} (key : α → String) (xs : List α) :
    (xs.mergeSort fun x y => decide (key x ≤ key y)).Pairwise fun x y => key x ≤ key y := by
  have hsorted := @List.pairwise_mergeSort α (fun x y => decide (key x ≤ key y))
    (fun x y z => by simpa using @String.le_trans (key x) (key y) (key z))
    (fun x y => by simpa using String.le_total (key x) (key y)) xs
  exact hsorted.imp of_decide_eq_true

/-- What is sorted by texts that are all different is in strictly ascending order. -/
lemma Text.pairwise_lt_mergeSort {α : Type} (key : α → String) {xs : List α}
    (h : (xs.map key).Nodup) :
    (xs.mergeSort fun x y => decide (key x ≤ key y)).Pairwise fun x y => key x < key y := by
  have hperm := List.mergeSort_perm xs fun x y => decide (key x ≤ key y)
  have hdistinct := List.pairwise_map.1 ((hperm.map key).nodup_iff.2 h)
  refine (pairwise_le_mergeSort key xs).imp₂ (fun x y hle hne => ?_) hdistinct
  rw [← String.not_le]
  exact fun hge => hne (String.le_antisymm hle hge)

namespace FileSystem

variable {fs : FileSystem} {filter : FileFilter} {path : Path} {name other : String}
  {names others : List String} {entry : Entry} {entries : List (String × Entry)}

/-! ### Comparing names -/

/-- Whether a walk comes to what some names lead to before it comes to what others do. Where they
first differ, files come before directories, and what is of the same sort comes in ascending
order. -/
def comesBefore : List String → List String → Bool
  | name :: names, other :: others =>
    if name = other then comesBefore names others
    else if names.isEmpty = others.isEmpty then decide (name < other)
    else names.isEmpty
  | _, _ => false

/-- Names that start alike are compared by what follows. -/
@[simp]
lemma comesBefore_cons_self :
    comesBefore (name :: names) (name :: others) = comesBefore names others := by
  simp [comesBefore]

/-- Names that differ are compared by their sort, then in ascending order. -/
lemma comesBefore_cons_of_ne (h : name ≠ other) :
    comesBefore (name :: names) (other :: others) =
      if names.isEmpty = others.isEmpty then decide (name < other) else names.isEmpty := by
  simp [comesBefore, h]

/-- What is of the same sort comes in ascending order. -/
lemma comesBefore_of_lt (hlt : name < other) (hsort : names.isEmpty = others.isEmpty) :
    comesBefore (name :: names) (other :: others) = true := by
  rw [comesBefore_cons_of_ne (String.ne_of_lt hlt), if_pos hsort]
  exact decide_eq_true hlt

/-- Files come before directories. -/
lemma comesBefore_of_ne {next : String} (hne : name ≠ other) :
    comesBefore [name] (other :: next :: others) = true := by
  rw [comesBefore_cons_of_ne hne]
  rfl

/-- **Of two paths only one comes before the other.** -/
lemma comesBefore_asymm (h : comesBefore names others = true) :
    comesBefore others names = false := by
  fun_induction comesBefore names others with
  | case1 name names others ih => simpa using ih h
  | case2 name names other others hne hsort =>
    have hlt : name < other := of_decide_eq_true h
    rw [comesBefore_cons_of_ne (Ne.symm hne), if_pos hsort.symm, decide_eq_false_iff_not]
    exact String.lt_asymm hlt
  | case3 name names other others hne hsort =>
    rw [comesBefore_cons_of_ne (Ne.symm hne), if_neg (Ne.symm hsort)]
    simpa [h] using Ne.symm hsort
  | case4 => cases h

/-- Of two paths below a directory, the names behind its path put one before the other. -/
def ListedBefore (path listed other : Path) : Prop :=
  ∃ names others, listed = path.append names ∧ other = path.append others ∧
    comesBefore names others = true

/-- What is in order below a directory is so below the directory above it. -/
lemma ListedBefore.of_child {listed next : Path} (h : ListedBefore (path.child name) listed next) :
    ListedBefore path listed next := by
  obtain ⟨names, others, rfl, rfl, hbefore⟩ := h
  exact ⟨name :: names, name :: others, (path.append_cons name names).symm,
    (path.append_cons name others).symm, by simpa using hbefore⟩

/-- Of two files below a path the names tell which one is listed before the other. -/
lemma listedBefore_append_iff :
    ListedBefore path (path.append names) (path.append others) ↔
      comesBefore names others = true := by
  constructor
  · rintro ⟨names', others', hnames, hothers, hbefore⟩
    obtain rfl : names = names' := by simpa [Path.append] using hnames
    obtain rfl : others = others' := by simpa [Path.append] using hothers
    exact hbefore
  · intro hbefore
    exact ⟨names, others, rfl, rfl, hbefore⟩

/-- Two files are not each listed before the other. -/
lemma ListedBefore.asymm {listed next : Path} (h : ListedBefore path listed next) :
    ¬ ListedBefore path next listed := by
  obtain ⟨names, others, rfl, rfl, hbefore⟩ := h
  rw [listedBefore_append_iff, comesBefore_asymm hbefore]
  exact Bool.false_ne_true

/-- No file is listed before itself. -/
lemma ListedBefore.ne {listed next : Path} (h : ListedBefore path listed next) : listed ≠ next := by
  rintro rfl
  exact h.asymm h

/-! ### Names of one directory -/

/-- The entries of a directory have different names. -/
lemma nodup_names (h : areProper entries = true) : (entries.map Prod.fst).Nodup := by
  induction entries with
  | nil => simp
  | cons first rest ih =>
    obtain ⟨name, entry⟩ := first
    simp only [areProper, Bool.and_eq_true, Bool.not_eq_true', List.any_eq_false, beq_iff_eq] at h
    refine List.nodup_cons.2 ⟨fun hmem => ?_, ih h.2⟩
    obtain ⟨same, hsame, heq⟩ := List.mem_map.1 hmem
    exact h.1.1.2 same hsame heq

/-- An entry of a directory is found by its name. -/
lemma entryOf?_of_mem (h : areProper entries = true) (hmem : (name, entry) ∈ entries) :
    entryOf? entries name = some entry := by
  induction entries with
  | nil => simp at hmem
  | cons first rest ih =>
    obtain ⟨hnew, -⟩ := List.nodup_cons.1 (nodup_names h)
    rcases List.mem_cons.1 hmem with rfl | hrest
    · simp [entryOf?]
    · have hne : first.1 ≠ name := fun heq => hnew (heq ▸ List.mem_map_of_mem hrest)
      simp only [areProper, Bool.and_eq_true] at h
      have hfound := ih h.2 hrest
      simpa [entryOf?, hne] using hfound

/-- What a walk lists below an entry is below a directory, with a name behind that of the entry. -/
lemma exists_append_of_mem_filesBelow {listed : Path}
    (h : listed ∈ fs.filesBelow filter (path.child name) entry) :
    (∃ below, entry = .directory below) ∧
      ∃ next names, listed = path.append (name :: next :: names) := by
  have hlists := mem_filesBelow_iff.1 h
  refine ⟨by cases hlists <;> exact ⟨_, rfl⟩, ?_⟩
  obtain ⟨directories, last, rfl, -⟩ := hlists.exists_append
  obtain ⟨next, names, hnames⟩ := List.exists_cons_of_ne_nil
    (List.append_ne_nil_of_right_ne_nil directories (List.cons_ne_nil last []))
  exact ⟨next, names, by rw [hnames, ← Path.append_cons]⟩

/-! ### The walk -/

/-- The names of the files that are listed in a directory are in strictly ascending order. -/
lemma pairwise_fileNames (h : areProper entries = true) :
    (fs.fileNames filter path entries).Pairwise (· < ·) := by
  have hnodup := (nodup_names h).sublist ((List.filter_sublist
    (p := fun entry => filter.keepsFile entry.1 &&
      fs.countsAsFile (path.child entry.1) entry.2)).map Prod.fst)
  exact Text.pairwise_lt_mergeSort id (by simpa using hnodup)

/-- Lists put together in the order of their names are in order, if each of them is and if any two
of them are. -/
lemma pairwise_inNameOrder {α : Type} {R : α → α → Prop} {lists : List (String × List α)}
    (hnames : (lists.map Prod.fst).Nodup) (hown : ∀ list ∈ lists, list.2.Pairwise R)
    (hbetween : ∀ list ∈ lists, ∀ later ∈ lists, list.1 < later.1 →
      ∀ x ∈ list.2, ∀ y ∈ later.2, R x y) : (inNameOrder lists).Pairwise R := by
  have hsorted := Text.pairwise_lt_mergeSort Prod.fst hnames
  refine List.pairwise_flatMap.2 ⟨fun list hlist => hown list (List.mem_mergeSort.1 hlist), ?_⟩
  refine hsorted.imp_of_mem fun hlist hlater hlt => ?_
  exact hbetween _ (List.mem_mergeSort.1 hlist) _ (List.mem_mergeSort.1 hlater) hlt

/-- One step of a walk: what is listed below a directory is in order, if what is listed below each
of its entries is. -/
lemma pairwise_filesBelow_directory (hproper : areProper entries = true)
    (hbelow : ∀ name entry, (name, entry) ∈ entries →
      (fs.filesBelow filter (path.child name) entry).Pairwise (ListedBefore (path.child name))) :
    (fs.filesBelow filter path (.directory entries)).Pairwise (ListedBefore path) := by
  rw [filesBelow]
  split
  · exact List.Pairwise.nil
  rw [filesBelowEach_eq]
  refine List.pairwise_append.2 ⟨?_, pairwise_inNameOrder ?_ ?_ ?_, ?_⟩
  · refine List.pairwise_map.2 ((pairwise_fileNames hproper).imp fun {name other} hlt => ?_)
    exact ⟨[name], [other], rfl, rfl, comesBefore_of_lt hlt rfl⟩
  · rw [List.map_map]
    exact (nodup_names hproper).sublist (List.filter_sublist.map Prod.fst)
  · intro list hlist
    obtain ⟨⟨name, entry⟩, hmem, rfl⟩ := List.mem_map.1 hlist
    exact (hbelow name entry (List.mem_filter.1 hmem).1).imp ListedBefore.of_child
  · intro list hlist later hlater hlt listed hlisted next hnext
    obtain ⟨⟨name, entry⟩, -, rfl⟩ := List.mem_map.1 hlist
    obtain ⟨⟨other, entry'⟩, -, rfl⟩ := List.mem_map.1 hlater
    obtain ⟨-, _, names, rfl⟩ := exists_append_of_mem_filesBelow hlisted
    obtain ⟨-, _, others, rfl⟩ := exists_append_of_mem_filesBelow hnext
    exact ⟨_, _, rfl, rfl, comesBefore_of_lt hlt rfl⟩
  · intro listed hlisted next hnext
    obtain ⟨name, hname, rfl⟩ := List.mem_map.1 hlisted
    obtain ⟨entry, hmem, -, hcounts⟩ := mem_fileNames_iff.1 hname
    obtain ⟨list, hlist, hnext⟩ := mem_inNameOrder_iff.1 hnext
    obtain ⟨⟨other, entry'⟩, hmem', rfl⟩ := List.mem_map.1 hlist
    obtain ⟨⟨below, rfl⟩, next, names, rfl⟩ := exists_append_of_mem_filesBelow hnext
    -- a name that is listed as that of a file is not that of a directory
    have hne : name ≠ other := by
      rintro rfl
      have hsame := (entryOf?_of_mem hproper hmem).symm.trans
        (entryOf?_of_mem hproper (List.mem_filter.1 hmem').1)
      cases Option.some.inj hsame
      cases hcounts
    exact ⟨[name], _, rfl, rfl, comesBefore_of_ne hne⟩

/-- **What is listed below an entry is in order.** -/
lemma pairwise_filesBelow (hproper : isProper entry = true) :
    (fs.filesBelow filter path entry).Pairwise (ListedBefore path) := by
  induction entry using entryInduction generalizing path with
  | file content => simp [filesBelow]
  | link target => simp [filesBelow]
  | directory entries ih =>
    refine pairwise_filesBelow_directory hproper fun name entry hmem => ?_
    exact ih name entry hmem (isEntryName_of_mem hproper hmem).2

/-- **A walk lists paths in order.** -/
lemma pairwise_walk (hproper : areProper entries = true) :
    (fs.walk filter path entries).Pairwise (ListedBefore path.plain) := by
  have hbelow : (fs.filesBelow filter path.dotted (.directory entries)).Pairwise
      (ListedBefore path.dotted) := pairwise_filesBelow hproper
  refine List.pairwise_map.2 (hbelow.imp_of_mem fun {listed other} hlisted hother hbefore => ?_)
  obtain ⟨names, others, rfl, rfl, hbefore⟩ := hbefore
  have hplain : ∀ names, path.dotted.append names ∈
      fs.filesBelow filter path.dotted (.directory entries) →
      (path.dotted.append names).plain = path.plain.append names := by
    intro names hmem
    obtain ⟨directories, name, heq, henters, hkeeps, -⟩ := (mem_filesBelow_iff.1 hmem).exists_append
    obtain rfl : names = directories ++ [name] := by simpa [Path.append] using heq
    exact plain_dotted_append (FileFilter.ne_dot_of_mem henters hkeeps)
  exact ⟨names, others, hplain names hlisted, hplain others hother, hbefore⟩

/-- A walk lists no path twice. -/
lemma nodup_walk (hproper : areProper entries = true) : (fs.walk filter path entries).Nodup :=
  (pairwise_walk hproper).imp ListedBefore.ne

end FileSystem

end SourceLint
