import SourceLint.Proofs.FileSystem.Places

set_option autoImplicit false

/-!
# Directories without links

A directory is link-free when nothing below it is a link, and the path to it resolves to the place
where it is. The file system may have links elsewhere, and the path to the directory may lead over
them. Names below such a directory resolve to its place with these names behind it, so different
names resolve to different paths.

## Main definitions

* `FileSystem.NoLinkOn` — no link stands on the way to a place.
* `FileSystem.LinkFree` — a path to a directory without links.

## Main results

* `FileSystem.follow_append` — links are replaced from the front.
* `FileSystem.linkFree_of_locate` — a path that leads over no link to a directory without links.
* `FileSystem.LinkFree.resolve_append` — what names below a link-free directory resolve to.
-/

namespace SourceLint

namespace Path

variable {path : Path} {name : String} {names : List String}

/-- No dot stands in a path, and a double dot only in a relative one. -/
def IsOrderly (path : Path) : Prop :=
  ∀ name ∈ path.names, name ≠ "." ∧ (name = ".." → path.anchor = .relative)

/-- A path stays orderly when a name is put behind it that is no dot, and is no double dot below a
root. -/
lemma IsOrderly.child (h : path.IsOrderly) (hdot : name ≠ ".")
    (hdots : name = ".." → path.anchor = .relative) : (path.child name).IsOrderly := by
  intro other hother
  rcases List.mem_append.1 hother with hother | hother
  · exact h other hother
  · obtain rfl := List.mem_singleton.1 hother
    exact ⟨hdot, hdots⟩

/-- The parent of an orderly path is orderly. -/
lemma IsOrderly.parent (h : path.IsOrderly) : path.parent.IsOrderly := by
  unfold Path.parent
  split
  · rename_i hanchor _
    exact h.child (by decide) fun _ => hanchor
  · rename_i hanchor _
    exact h.child (by decide) fun _ => hanchor
  · intro other hother
    exact h other ((List.dropLast_sublist _).subset hother)

/-- A path and its parent have the same anchor. -/
lemma anchor_parent : path.parent.anchor = path.anchor := by
  unfold parent
  split <;> rfl

/-- Where all parts count, the rest of a written path is put behind a path. -/
lemma join_of_isName (h : ∀ name ∈ names, isName name = true) :
    path.join names = path.append names := by
  unfold join
  split
  · exact absurd (h "" (by simp)) (by decide)
  · rw [List.filter_eq_self.2 h]

/-- Names can be put behind a path in two steps. -/
lemma append_append (more : List String) :
    (path.append names).append more = path.append (names ++ more) := by
  simp [append]

end Path

namespace FileSystem

variable {fs : FileSystem} {path reached : Path} {name : String} {names : List String}
  {depth : Nat} {trail trail' : LinkTrail}

/-- A path keeps the names that entries can have. -/
lemma isName_of_isEntryName (h : isEntryName name = true) : Path.isName name = true := by
  obtain ⟨hempty, hdot, -⟩ := isEntryName_iff.1 h
  simp [Path.isName, hempty, hdot]

/-! ### The place of a path -/

/-- One more name leads one step down. -/
lemma placeOf_child (hdot : name ≠ ".") (hdots : name ≠ "..") :
    fs.placeOf (path.child name) = fs.placeOf path ++ [name] := by
  have henter : ∀ place, enter place name = name :: place := by
    intro place
    unfold enter
    split <;> first | contradiction | rfl
  simp [placeOf, collapse, Path.child, startOf, henter]

/-- A double dot leads one step up. -/
lemma placeOf_child_doubleDot : fs.placeOf (path.child "..") = (fs.placeOf path).dropLast := by
  simp [placeOf, collapse, Path.child, startOf, enter, List.dropLast_reverse]

/-- The path one step up leads one step up. -/
lemma placeOf_parent (h : path.IsOrderly) :
    fs.placeOf path.parent = (fs.placeOf path).dropLast := by
  unfold Path.parent
  split
  · exact placeOf_child_doubleDot
  · exact placeOf_child_doubleDot
  · rename_i hnone hdots
    obtain ⟨anchor, names⟩ := path
    rcases List.eq_nil_or_concat names with rfl | ⟨front, last, rfl⟩
    · cases anchor with
      | relative => exact absurd rfl (hnone rfl)
      | root | doubleRoot => rfl
    · obtain ⟨hdot, hrelative⟩ := h last (by simp)
      have hlast : last ≠ ".." := by
        rintro rfl
        exact hdots (hrelative rfl) (by simp)
      have hchild : (⟨anchor, front.concat last⟩ : Path) = (⟨anchor, front⟩ : Path).child last := by
        simp [Path.child]
      rw [hchild, placeOf_child hdot hlast]
      simp [Path.child]

/-- More names lead to the place behind that of the path. -/
lemma placeOf_append (h : ∀ name ∈ names, isEntryName name = true) :
    fs.placeOf (path.append names) = fs.placeOf path ++ names := by
  induction names generalizing path with
  | nil => simp [Path.append]
  | cons name names ih =>
    obtain ⟨hname, hnames⟩ := List.forall_mem_cons.1 h
    obtain ⟨-, hdot, hdots, -⟩ := isEntryName_iff.1 hname
    rw [Path.append_cons, ih hnames, placeOf_child hdot hdots, List.append_assoc]
    rfl

/-- More names stay behind a path from the root down. -/
lemma absolute_append (h : ∀ name ∈ names, isEntryName name = true) :
    fs.absolute (path.append names) = (fs.absolute path).append names := by
  rw [absolute, placeOf_append h]
  rfl

/-! ### Following names -/

/-- Following a name that is no dot and no double dot. -/
lemma follow_name (hempty : name ≠ "") (hdot : name ≠ ".") (hdots : name ≠ "..") :
    fs.follow depth trail path (name :: names) =
      if Path.isZeroName name then none
      else
        match fs.linkAt? (path.child name), trail.lookup (path.child name) with
        | none, _ => fs.follow depth trail (path.child name) names
        | some _, some (some reached) => fs.follow depth trail reached names
        | some _, some none => some ⟨(path.child name).join names, false, trail⟩
        | some target, none =>
          match depth with
          | 0 => some ⟨(path.child name).join names, false, trail⟩
          | depth + 1 =>
            match fs.follow depth ((path.child name, none) :: trail) (targetStart path target)
                (Path.partsOf target) with
            | none => none
            | some ⟨reached, true, trail⟩ =>
              fs.follow (depth + 1) ((path.child name, some reached) :: trail) reached names
            | some ⟨reached, false, trail⟩ => some ⟨reached.join names, false, trail⟩ :=
  follow.eq_5 fs depth trail path name names hempty hdot hdots

/-- A name that is not that of a link leads one step down. -/
lemma follow_of_linkAt?_eq_none (hempty : name ≠ "") (hdot : name ≠ ".") (hdots : name ≠ "..")
    (hzero : Path.isZeroName name = false) (hlink : fs.linkAt? (path.child name) = none) :
    fs.follow depth trail path (name :: names) = fs.follow depth trail (path.child name) names := by
  rw [follow_name hempty hdot hdots, hzero, hlink]
  rfl

/-- A path is followed to itself when no name is left. -/
lemma follow_nil : fs.follow depth trail path [] = some ⟨path, true, trail⟩ := by
  rw [follow]

/-- A name on which there is no link is followed to the path behind it. -/
lemma follow_singleton (hname : isEntryName name = true)
    (hlink : fs.linkAt? (path.child name) = none) :
    fs.follow depth trail path [name] = some ⟨path.child name, true, trail⟩ := by
  obtain ⟨hempty, hdot, hdots, -, hzero⟩ := isEntryName_iff.1 hname
  rw [follow_of_linkAt?_eq_none hempty hdot hdots hzero hlink, follow_nil]

/-- A link to a name beside it is replaced by that name. -/
lemma exists_follow_link {target : String} (depth : Nat) (hname : isEntryName name = true)
    (htarget : isEntryName target = true) (hlink : fs.linkAt? (path.child name) = some target)
    (hfile : fs.linkAt? (path.child target) = none) :
    ∃ trail, fs.follow (depth + 1) [] path [name] = some ⟨path.child target, true, trail⟩ := by
  obtain ⟨hempty, hdot, hdots, -, hzero⟩ := isEntryName_iff.1 hname
  obtain ⟨-, -, -, hslash, -⟩ := isEntryName_iff.1 htarget
  have hparts : Path.partsOf target = [target] := by
    rw [Path.partsOf, Text.splitString_of_not_mem hslash]
  have hstart : targetStart path target = path := by
    rw [targetStart, if_neg]
    rw [beq_iff_eq]
    exact fun hhead => hslash (List.mem_of_head? hhead)
  rw [follow_name hempty hdot hdots, hzero, hlink]
  simp only [List.lookup_nil, hparts, hstart, follow_nil, follow_singleton htarget hfile]
  exact ⟨_, rfl⟩

/-- **Links are replaced from the front.** What stands behind followed names is followed from where
these lead, or put there as it is when a link led back to itself.

**Proof sketch.** By induction on the names. The target of a link is followed on its own, so names
behind the link have no influence on it. -/
lemma follow_append {complete : Bool} {more : List String}
    (hnames : ∀ name ∈ names, Path.isName name = true)
    (hmore : ∀ name ∈ more, Path.isName name = true)
    (h : fs.follow depth trail path names = some ⟨reached, complete, trail'⟩) :
    fs.follow depth trail path (names ++ more) =
      if complete then fs.follow depth trail' reached more
      else some ⟨reached.append more, false, trail'⟩ := by
  induction names generalizing trail path with
  | nil =>
    rw [follow_nil] at h
    cases h
    rfl
  | cons name names ih =>
    obtain ⟨hname, hrest⟩ := List.forall_mem_cons.1 hnames
    have hjoin : ∀ path : Path, path.join (names ++ more) = (path.join names).append more := by
      intro path
      rw [Path.join_of_isName hrest, Path.append_append,
        Path.join_of_isName (List.forall_mem_append.2 ⟨hrest, hmore⟩)]
    have hempty : name ≠ "" := by
      rintro rfl
      exact absurd hname (by decide)
    have hdot : name ≠ "." := by
      rintro rfl
      exact absurd hname (by decide)
    rw [List.cons_append]
    by_cases hdots : name = ".."
    · subst hdots
      rw [follow] at h ⊢
      exact ih hrest h
    · rw [follow_name hempty hdot hdots] at h ⊢
      split at h
      · cases h
      · rename_i hzero
        rw [if_neg hzero]
        split at h
        · exact ih hrest h
        · exact ih hrest h
        · cases h
          rw [hjoin]
          rfl
        · split at h
          · cases h
            rw [hjoin]
            rfl
          · split at h
            · cases h
            · exact ih hrest h
            · cases h
              rw [hjoin]
              rfl

/-- Names on which no link stands are put behind a path. -/
lemma follow_of_isEntryName (hnames : ∀ name ∈ names, isEntryName name = true)
    (hlinks : ∀ front, front <+: names → ∀ target,
      fs.entryAt? (fs.placeOf path ++ front) ≠ some (.link target)) :
    fs.follow depth trail path names = some ⟨path.append names, true, trail⟩ := by
  induction names generalizing path with
  | nil => simp [follow_nil, Path.append]
  | cons name names ih =>
    obtain ⟨hname, hnames⟩ := List.forall_mem_cons.1 hnames
    obtain ⟨hempty, hdot, hdots, -, hzero⟩ := isEntryName_iff.1 hname
    have hchild : fs.placeOf (path.child name) = fs.placeOf path ++ [name] :=
      placeOf_child hdot hdots
    have hlink : fs.linkAt? (path.child name) = none := by
      unfold linkAt?
      split
      · rename_i target htarget
        rw [hchild] at htarget
        exact absurd htarget (hlinks [name] (by simp) target)
      · rfl
    rw [follow_of_linkAt?_eq_none hempty hdot hdots hzero hlink, ih hnames]
    · simp [Path.append, Path.child]
    · intro front hfront
      rw [hchild, List.append_assoc]
      exact hlinks _ (List.cons_prefix_cons.2 ⟨rfl, hfront⟩)

/-- Names that lead over no link to a directory are followed to its place. -/
lemma exists_follow_of_locate {place : List String} {entries : List (String × Entry)}
    (hpath : path.IsOrderly)
    (hnames : ∀ name ∈ names, Path.isName name = true ∧ Path.isZeroName name = false)
    (h : fs.locate 0 (fs.placeOf path) names = .ok (place, .directory entries)) :
    ∃ reached, fs.follow depth trail path names = some ⟨reached, true, trail⟩ ∧
      fs.placeOf reached = place ∧ reached.anchor = path.anchor := by
  generalize hlinks : 0 = links at h
  generalize hdirectory : fs.placeOf path = directory at h
  fun_induction locate fs links directory names generalizing path with
  | case1 links directory found hfound =>
    cases h
    exact ⟨path, follow_nil, hdirectory, rfl⟩
  | case3 => exact absurd (List.forall_mem_cons.1 hnames).1.1 (by decide)
  | case4 links directory names ih =>
    obtain ⟨reached, hreached, hplace, hanchor⟩ := ih hpath.parent
      (List.forall_mem_cons.1 hnames).2 hlinks (by rw [placeOf_parent hpath, hdirectory]) h
    exact ⟨reached, by rw [follow, hreached], hplace, hanchor.trans Path.anchor_parent⟩
  | case7 links directory name names hdot hdots hshort below hbelow ih =>
    obtain ⟨⟨hname, hzero⟩, hrest⟩ := List.forall_mem_cons.1 hnames
    have hempty : name ≠ "" := by
      rintro rfl
      exact absurd hname (by decide)
    have hplace : fs.placeOf (path.child name) = directory ++ [name] := by
      rw [placeOf_child hdot hdots, hdirectory]
    have hlink : fs.linkAt? (path.child name) = none := by
      rw [linkAt?, hplace, hbelow]
    rw [follow_of_linkAt?_eq_none hempty hdot hdots hzero hlink]
    exact ih (hpath.child hdot fun h => absurd h hdots) hrest hlinks hplace h
  | case11 => cases hlinks
  | case2 | case5 | case6 | case8 | case9 | case10 => cases h

/-! ### Resolving -/

/-- A path resolves to where its names are followed to, unless that holds a zero character or leads
over too many links. -/
lemma resolve_eq_ok_iff {resolved : Path} :
    fs.resolve path = .ok resolved ↔
      ∃ followed, fs.follow fs.followDepth [] (origin path) path.names = some followed ∧
        fs.absolute followed.path = resolved ∧ resolved.holdsZero = false ∧
        fs.lookup resolved ≠ .error .tooManyLinks := by
  unfold resolve realPath?
  cases hfollow : fs.follow fs.followDepth [] (origin path) path.names with
  | none => simp
  | some followed =>
    simp only [Option.map_some, Option.some.injEq, exists_eq_left']
    constructor
    · intro h
      split at h
      · cases h
      · rename_i hzero
        split at h
        · cases h
        · rename_i hlinks
          cases h
          exact ⟨rfl, by simpa using hzero, hlinks⟩
    · rintro ⟨rfl, hzero, hlinks⟩
      rw [hzero]
      simp only [Bool.false_eq_true, if_false]

/-! ### Places without links on the way -/

/-- No link stands on the way to a place, nor at the place itself. -/
def NoLinkOn (fs : FileSystem) (place : List String) : Prop :=
  ∀ front, front <+: place → ∀ target, fs.entryAt? front ≠ some (.link target)

/-- No link stands on the way to a directory. -/
lemma noLinkOn_of_directory {place : List String} {entries : List (String × Entry)}
    (h : fs.entryAt? place = some (.directory entries)) : fs.NoLinkOn place := by
  rintro front ⟨rest, rfl⟩ target hlink
  by_cases hrest : rest = []
  · rw [hrest, List.append_nil, hlink] at h
    cases h
  · obtain ⟨inner, hinner⟩ := exists_directory_of_append hrest h
    rw [entryAt?, hinner] at hlink
    cases hlink

/-- A place without links on the way does not lead over too many links. -/
lemma lookup_of_noLinkOn {place : List String} (hnames : ∀ name ∈ place, isEntryName name = true)
    (h : fs.NoLinkOn place) :
    Path.holdsZero ⟨.root, place⟩ = false ∧ fs.lookup ⟨.root, place⟩ ≠ .error .tooManyLinks := by
  have hzero : Path.holdsZero ⟨.root, place⟩ = false := by
    rw [Path.holdsZero, List.any_eq_false]
    intro name hname
    obtain ⟨-, -, -, -, hzero⟩ := isEntryName_iff.1 (hnames name hname)
    simp [hzero]
  refine ⟨hzero, ?_⟩
  rw [lookup, hzero]
  split
  · contradiction
  · split
    · simp
    · exact locate_ne_tooManyLinks hnames h

/-! ### Link-free directories -/

/-- A path to a directory without links: it leads to the directory and resolves to its place, and
nothing below the directory is a link. -/
structure LinkFree (fs : FileSystem) (directory : Path) (place : List String)
    (entries : List (String × Entry)) : Prop where
  lookup : fs.lookup directory = .ok (place, .directory entries)
  resolve : fs.resolve directory = .ok ⟨.root, place⟩
  links : linkCountAll entries = 0

variable {directory : Path} {place : List String} {entries : List (String × Entry)}

/-- No link stands on the way to a directory without links, nor below it. -/
lemma noLinkOn_append (hplace : fs.entryAt? place = some (.directory entries))
    (hlinks : linkCountAll entries = 0) : fs.NoLinkOn (place ++ names) := by
  intro front hfront target
  rcases List.prefix_or_prefix_of_prefix hfront (List.prefix_append place names) with
    hfront | ⟨below, rfl⟩
  · exact noLinkOn_of_directory hplace front hfront target
  · rw [entryAt?_append hplace]
    exact entryBelow?_ne_link hlinks

/-- The place of a directory without links, with names behind it, is a path that can be resolved. -/
lemma lookup_root_ne_tooManyLinks (hproper : fs.IsProper)
    (hplace : fs.entryAt? place = some (.directory entries)) (hlinks : linkCountAll entries = 0)
    (hnames : ∀ name ∈ names, isEntryName name = true) :
    Path.holdsZero ⟨.root, place ++ names⟩ = false ∧
      fs.lookup ⟨.root, place ++ names⟩ ≠ .error .tooManyLinks :=
  lookup_of_noLinkOn
    (List.forall_mem_append.2 ⟨(isEntryName_of_entryBelow? hproper.entries hplace).1, hnames⟩)
    (noLinkOn_append hplace hlinks)

/-- A path that leads over no link to a directory without links is link-free. -/
lemma linkFree_of_locate (hproper : fs.IsProper)
    (hnames : ∀ name ∈ directory.names, Path.isName name = true)
    (hzero : directory.holdsZero = false) (hshort : isTooLong directory = false)
    (h : fs.locate 0 (fs.startOf directory) directory.names = .ok (place, .directory entries))
    (hlinks : linkCountAll entries = 0) : fs.LinkFree directory place entries := by
  have hplace := entryAt?_of_locate h
  have hstart : fs.placeOf (origin directory) = fs.startOf directory := by
    obtain ⟨anchor, names⟩ := directory
    cases anchor <;> simp [placeOf, origin, startOf, collapse]
  have horderly : (origin directory).IsOrderly := by
    obtain ⟨anchor, names⟩ := directory
    cases anchor <;> simp [Path.IsOrderly, origin]
  have hclean : ∀ name ∈ directory.names,
      Path.isName name = true ∧ Path.isZeroName name = false := by
    intro name hname
    exact ⟨hnames name hname, by simpa using List.any_eq_false.1 hzero name hname⟩
  obtain ⟨reached, hreached, hreachedPlace, hanchor⟩ :=
    exists_follow_of_locate horderly hclean (hstart ▸ h)
  have hresolved : Path.holdsZero ⟨.root, place⟩ = false ∧
      fs.lookup ⟨.root, place⟩ ≠ .error .tooManyLinks := by
    simpa using lookup_root_ne_tooManyLinks hproper hplace hlinks (List.forall_mem_nil _)
  refine ⟨lookup_eq_ok_iff.2 ⟨hzero, hshort, locate_of_locate_zero _ h⟩,
    resolve_eq_ok_iff.2 ⟨_, hreached, ?_, hresolved⟩, hlinks⟩
  rw [absolute, hreachedPlace, hanchor]
  obtain ⟨anchor, names⟩ := directory
  cases anchor <;> rfl

/-- **Below a link-free directory, names resolve to themselves.**

**Proof sketch.** The names of the directory are followed to a path whose place is that of the
directory. No link stands behind that place, so the names below are put behind the path. -/
lemma LinkFree.resolve_append (h : fs.LinkFree directory place entries) (hproper : fs.IsProper)
    (hdirectory : ∀ name ∈ directory.names, Path.isName name = true)
    (hnames : ∀ name ∈ names, isEntryName name = true) :
    fs.resolve (directory.append names) = .ok ⟨.root, place ++ names⟩ := by
  have hplace : fs.entryAt? place = some (.directory entries) :=
    entryAt?_of_locate (lookup_eq_ok_iff.1 h.lookup).2.2
  obtain ⟨⟨reached, complete, trail⟩, hfollow, habsolute, -, -⟩ := resolve_eq_ok_iff.1 h.resolve
  have hreached : fs.placeOf reached = place := congrArg Path.names habsolute
  have hisName : ∀ name ∈ names, Path.isName name = true :=
    fun name hname => isName_of_isEntryName (hnames name hname)
  obtain ⟨followed, hfollowed, hpath⟩ : ∃ followed, fs.follow fs.followDepth [] (origin directory)
      (directory.names ++ names) = some followed ∧ followed.path = reached.append names := by
    rw [follow_append hdirectory hisName hfollow]
    cases complete with
    | false => exact ⟨_, rfl, rfl⟩
    | true =>
      refine ⟨_, follow_of_isEntryName hnames ?_, rfl⟩
      intro front _ target
      rw [hreached]
      exact noLinkOn_append hplace h.links _ (List.prefix_refl _) target
  refine resolve_eq_ok_iff.2 ⟨followed, hfollowed, ?_,
    lookup_root_ne_tooManyLinks hproper hplace h.links hnames⟩
  rw [hpath, absolute_append hnames, habsolute]
  rfl

end FileSystem

end SourceLint
