import SourceLint.Proofs.Discovery.Agreement
import SourceLint.Proofs.FileSystem.NoLinks

set_option autoImplicit false

/-!
# What resolved paths look like

A path that is read, resolved or listed is made of names that hold no slash, so that it can be read
back from its text. The names of a resolved path can moreover be names of entries.

On the way to a resolved path no link is left, unless a link led back to itself or the path was too
long to be looked at. A path on which there is no link resolves to itself. So what is once resolved
without such a remainder stays as it is.

## Main definitions

* `Path.IsWritten` — the names of a path can be told apart in its text.
* `FileSystem.FollowKeeps` — what is kept on the way along the names of a path.
* `FileSystem.FollowsEveryLink` — no link is left when a path is resolved.

## Main results

* `Path.ofString_render` — a path is read back from its text.
* `FileSystem.isEntryName_of_resolve` — the names of a resolved path.
* `FileSystem.FollowsEveryLink.noLinkOn` — where every link is followed, none is left.
* `FileSystem.resolve_of_noLinkOn` — a path without links resolves to itself.
-/

namespace SourceLint

/-! ### Written paths -/

/-- Strings without the separator are found again in what they are put together to. -/
lemma Text.splitString_joinWith {names : List String} (hne : names ≠ [])
    (h : ∀ name ∈ names, '/' ∉ name.toList) :
    splitString '/' (joinWith "/" names) = names := by
  induction names with
  | nil => exact absurd rfl hne
  | cons name names ih =>
    obtain ⟨hname, hnames⟩ := List.forall_mem_cons.1 h
    cases names with
    | nil => exact splitString_of_not_mem hname
    | cons next names =>
      have ih := ih (List.cons_ne_nil _ _) hnames
      have hown := splitString_of_not_mem hname
      rw [splitString] at ih hown ⊢
      have hslash : (joinWith "/" (name :: next :: names)).toList =
          name.toList ++ '/' :: (joinWith "/" (next :: names)).toList := by
        simp [joinWith]
      rw [hslash, splitWhere_append_cons (by simp), List.map_append, hown, ih]
      rfl

namespace Path

/-- Which names a path keeps. -/
lemma isName_iff {name : String} : isName name = true ↔ name ≠ "" ∧ name ≠ "." := by
  simp [isName]

/-- The names of a path can be told apart in its text: they are neither empty nor dots, and hold no
slash. -/
def IsWritten (path : Path) : Prop :=
  ∀ name ∈ path.names, isName name = true ∧ '/' ∉ name.toList

/-- The parts of a text hold no slash. -/
lemma slash_not_mem_of_mem_partsOf {text part : String} (h : part ∈ partsOf text) :
    '/' ∉ part.toList := by
  obtain ⟨piece, hpiece, rfl⟩ := List.mem_map.1 h
  rw [String.toList_ofList]
  intro hslash
  simpa using Text.not_mem_of_mem_splitWhere hpiece hslash

/-- A path that was read is a written one. -/
lemma isWritten_ofString (text : String) : (ofString text).IsWritten := fun _ hname =>
  ⟨isName_of_mem_ofString hname, slash_not_mem_of_mem_partsOf (List.mem_filter.1 hname).1⟩

/-- What names are put together to starts with the first of them, so with no slash. -/
lemma exists_joinWith_cons {name : String} (names : List String) (hname : isName name = true)
    (hslash : '/' ∉ name.toList) :
    ∃ c cs, c ≠ '/' ∧ (Text.joinWith "/" (name :: names)).toList = c :: cs := by
  obtain ⟨more, hmore⟩ : ∃ more, (Text.joinWith "/" (name :: names)).toList =
      name.toList ++ more := by
    cases names with
    | nil => exact ⟨[], by simp [Text.joinWith]⟩
    | cons next names =>
      exact ⟨"/".toList ++ (Text.joinWith "/" (next :: names)).toList, by simp [Text.joinWith]⟩
  cases hchars : name.toList with
  | nil =>
    obtain rfl : name = "" := String.toList_eq_nil_iff.1 hchars
    exact absurd hname (by decide)
  | cons c cs =>
    refine ⟨c, cs ++ more, ?_, by rw [hmore, hchars]; rfl⟩
    rintro rfl
    exact hslash (by simp [hchars])

/-- **A path is read back from its text.** -/
lemma ofString_render {path : Path} (h : path.IsWritten) : ofString path.render = path := by
  obtain ⟨anchor, names⟩ := path
  cases names with
  | nil => cases anchor <;> rfl
  | cons name names =>
    obtain ⟨hname, -⟩ := List.forall_mem_cons.1 h
    obtain ⟨c, cs, hc, hchars⟩ := exists_joinWith_cons names hname.1 hname.2
    have hparts : (Text.splitWhere (· == '/') (c :: cs)).map String.ofList = name :: names := by
      have hsplit := Text.splitString_joinWith (List.cons_ne_nil name names) fun other hother =>
        (h other hother).2
      rwa [Text.splitString, hchars] at hsplit
    have hkept : (name :: names).filter isName = name :: names :=
      List.filter_eq_self.2 fun other hother => (h other hother).1
    have hrender : (render ⟨anchor, name :: names⟩).toList = anchor.text.toList ++ c :: cs := by
      rw [← hchars, ← String.toList_append]
      cases anchor <;> rfl
    have hslash : ∀ cs, Text.splitWhere (· == '/') ('/' :: cs) =
        [] :: Text.splitWhere (· == '/') cs := fun _ => rfl
    have hempty : isName (String.ofList []) = false := rfl
    have hnames : (ofString (render ⟨anchor, name :: names⟩)).names = name :: names := by
      rw [ofString, partsOf, Text.splitString, hrender]
      cases anchor <;> simp [Anchor.text, hslash, hparts, hkept, hempty]
    have hanchor : (ofString (render ⟨anchor, name :: names⟩)).anchor = anchor := by
      rw [ofString, hrender]
      cases anchor <;> simp [Anchor.text, anchorOf, hc]
    exact congrArg₂ Path.mk hanchor hnames

/-- Paths with the same text are the same. -/
lemma IsWritten.eq_of_render {path other : Path} (h : path.IsWritten) (hother : other.IsWritten)
    (heq : path.render = other.render) : path = other := by
  rw [← ofString_render h, heq, ofString_render hother]

/-- The parent of a written path is a written one. -/
lemma IsWritten.parent {path : Path} (h : path.IsWritten) : path.parent.IsWritten := by
  intro name hname
  rcases mem_parent hname with hname | rfl
  · exact h name hname
  · decide

/-- A name without a slash can be put behind a written path. -/
lemma IsWritten.child {path : Path} {name : String} (h : path.IsWritten)
    (hname : isName name = true) (hslash : '/' ∉ name.toList) : (path.child name).IsWritten :=
  List.forall_mem_append.2 ⟨h, by simpa using ⟨hname, hslash⟩⟩

/-- The rest of a written path can be put behind a path. -/
lemma IsWritten.join {path : Path} {parts : List String} (h : path.IsWritten)
    (hparts : ∀ part ∈ parts, '/' ∉ part.toList) : (path.join parts).IsWritten := by
  unfold Path.join
  split
  · exact isWritten_ofString _
  · refine List.forall_mem_append.2 ⟨h, fun part hpart => ?_⟩
    obtain ⟨hpart, hname⟩ := List.mem_filter.1 hpart
    exact ⟨hname, hparts part hpart⟩

end Path

namespace FileSystem

variable {fs : FileSystem} {path resolved : Path} {names : List String} {depth : Nat}
  {trail : LinkTrail} {followed : Followed} {P R : Path → Prop}

/-! ### What following names keeps -/

/-- What holds of every path on the way is kept by following names, and something weaker by leaving
the rest as it is where a link leads back to itself. -/
structure FollowKeeps (fs : FileSystem) (P R : Path → Prop) : Prop where
  root : P ⟨.root, []⟩
  parent : ∀ path, P path → P path.parent
  child : ∀ path name, Path.isName name = true → name ≠ ".." → '/' ∉ name.toList → P path →
    fs.linkAt? (path.child name) = none → P (path.child name)
  whole : ∀ path, P path → R path
  stuck : ∀ path name, Path.isName name = true → '/' ∉ name.toList → P path → R (path.child name)
  rest : ∀ path parts, (∀ part ∈ parts, '/' ∉ part.toList) → R path → R (path.join parts)

/-- What holds of every path that links on a trail were replaced by. -/
def TrailKeeps (P : Path → Prop) (trail : LinkTrail) : Prop :=
  ∀ link reached, (link, some reached) ∈ trail → P reached

/-- A link that is being followed adds nothing to what is kept. -/
lemma TrailKeeps.cons_none (h : TrailKeeps P trail) (here : Path) :
    TrailKeeps P ((here, none) :: trail) := by
  intro link reached hmem
  exact h link reached (by simpa using hmem)

/-- A link that was followed adds the path it was replaced by. -/
lemma TrailKeeps.cons_some {reached : Path} (h : TrailKeeps P trail) (here : Path)
    (hreached : P reached) : TrailKeeps P ((here, some reached) :: trail) := by
  intro link other hmem
  rcases List.mem_cons.1 hmem with heq | hmem
  · cases heq
    exact hreached
  · exact h link other hmem

/-- What is found on a trail is on it. -/
lemma mem_of_lookup {here : Path} {answer : Option Path} (h : trail.lookup here = some answer) :
    (here, answer) ∈ trail := by
  obtain ⟨before, after, rfl, -⟩ := List.lookup_eq_some_iff.1 h
  simp

/-- **What holds on the way holds in the end.**

**Proof sketch.** By the recursion of `follow`. The target of a link is followed from a path on the
way, and what it leads to is such a path again. -/
lemma FollowKeeps.follow (h : fs.FollowKeeps P R) {parts : List String}
    (htrail : TrailKeeps P trail) (hpath : P path) (hparts : ∀ part ∈ parts, '/' ∉ part.toList)
    (hfollow : fs.follow depth trail path parts = some followed) :
    (followed.complete = true → P followed.path) ∧ R followed.path ∧
      TrailKeeps P followed.trail := by
  have hstart : ∀ path target, P path → P (targetStart path target) := by
    intro path target hpath
    unfold targetStart
    split
    · exact h.root
    · exact hpath
  fun_induction FileSystem.follow fs depth trail path parts generalizing followed with
  | case1 depth trail path =>
    cases hfollow
    exact ⟨fun _ => hpath, h.whole path hpath, htrail⟩
  | case2 depth trail path rest ih | case3 depth trail path rest ih =>
    exact ih htrail hpath (List.forall_mem_cons.1 hparts).2 hfollow
  | case4 depth trail path rest ih =>
    exact ih htrail (h.parent path hpath) (List.forall_mem_cons.1 hparts).2 hfollow
  | case6 depth trail path name rest hempty hdot hdots here hzero hlink =>
    rename_i ih
    obtain ⟨hname, hrest⟩ := List.forall_mem_cons.1 hparts
    exact ih htrail (h.child path name (Path.isName_iff.2 ⟨hempty, hdot⟩) hdots hname hpath hlink)
      hrest hfollow
  | case7 depth trail path name rest hempty hdot hdots here hzero target reached hseen hlink =>
    rename_i ih
    exact ih htrail (htrail _ _ (mem_of_lookup hseen)) (List.forall_mem_cons.1 hparts).2 hfollow
  | case8 depth trail path name rest hempty hdot hdots here hzero target hseen
  | case9 trail path name rest hempty hdot hdots here hzero target hseen =>
    obtain ⟨hname, hrest⟩ := List.forall_mem_cons.1 hparts
    cases hfollow
    exact ⟨by simp, h.rest _ _ hrest
      (h.stuck path name (Path.isName_iff.2 ⟨hempty, hdot⟩) hname hpath), htrail⟩
  | case11 trail path name rest hempty hdot hdots here hzero target hseen hlink depth reached
      trail' hinner ihTarget =>
    rename_i ihRest
    obtain ⟨hreached, -, htrail'⟩ := ihTarget (htrail.cons_none _) (hstart path target hpath)
      (fun _ => Path.slash_not_mem_of_mem_partsOf) hinner
    exact ihRest (htrail'.cons_some _ (hreached rfl)) (hreached rfl)
      (List.forall_mem_cons.1 hparts).2 hfollow
  | case12 trail path name rest hempty hdot hdots here hzero target hseen hlink depth reached
      trail' hinner =>
    rename_i ih
    obtain ⟨-, hreached, htrail'⟩ := ih (htrail.cons_none _) (hstart path target hpath)
      (fun _ => Path.slash_not_mem_of_mem_partsOf) hinner
    cases hfollow
    exact ⟨by simp, h.rest _ _ (List.forall_mem_cons.1 hparts).2 hreached, htrail'⟩
  | case5 | case10 => cases hfollow

/-! ### Names of resolved paths -/

/-- Written paths stay written. -/
lemma followKeeps_isWritten (fs : FileSystem) :
    fs.FollowKeeps Path.IsWritten Path.IsWritten where
  root := List.forall_mem_nil _
  parent _ h := h.parent
  child _ _ hname _ hslash h _ := h.child hname hslash
  whole _ h := h
  stuck _ _ hname hslash h := h.child hname hslash
  rest _ _ hparts h := h.join hparts

/-- The path that names are followed from has no names. -/
lemma names_origin (path : Path) : (origin path).names = [] := by
  unfold origin
  split <;> rfl

/-- **The names of a resolved path can be names of entries.** -/
lemma isEntryName_of_resolve (hproper : fs.IsProper) (hpath : path.IsWritten)
    (h : fs.resolve path = .ok resolved) : ∀ name ∈ resolved.names, isEntryName name = true := by
  obtain ⟨followed, hfollow, rfl, hzero, -⟩ := resolve_eq_ok_iff.1 h
  obtain ⟨-, hwritten, -⟩ := fs.followKeeps_isWritten.follow (by simp [TrailKeeps])
    (by simp [Path.IsWritten, names_origin]) (fun name hname => (hpath name hname).2) hfollow
  intro name hname
  rcases mem_placeOf hname with hstart | ⟨hmem, hdot, hdots⟩
  · exact hproper.isEntryName_of_mem_startOf hstart
  · obtain ⟨hisName, hslash⟩ := hwritten name hmem
    exact isEntryName_iff.2 ⟨(Path.isName_iff.1 hisName).1, hdot, hdots, hslash,
      by simpa using List.any_eq_false.1 hzero name hname⟩

/-! ### Links that are left -/

/-- No link stands on a path that can be looked at, apart from what leads up. -/
def IsClear (fs : FileSystem) (path : Path) : Prop :=
  ∀ front name, front ++ [name] <+: path.names → name ≠ ".." →
    fs.linkAt? ⟨path.anchor, front ++ [name]⟩ = none

/-- A clear path stays clear when a name is put behind it on which there is no link. -/
lemma IsClear.child {name : String} (h : fs.IsClear path)
    (hname : name ≠ ".." → fs.linkAt? (path.child name) = none) :
    fs.IsClear (path.child name) := by
  intro front last hfront hlast
  rcases List.prefix_concat_iff.1 hfront with heq | hfront
  · obtain ⟨rfl, hname'⟩ := List.append_inj' heq rfl
    obtain rfl := List.singleton_inj.1 hname'
    exact hname hlast
  · exact h front last hfront hlast

/-- The parent of a clear path is clear. -/
lemma IsClear.parent (h : fs.IsClear path) : fs.IsClear path.parent := by
  unfold Path.parent
  split
  · exact h.child fun hdots => absurd rfl hdots
  · exact h.child fun hdots => absurd rfl hdots
  · exact fun front name hfront => h front name (hfront.trans (List.dropLast_prefix _))

/-- A path on the way stays clear. Where a link leads back to itself, nothing is kept. -/
lemma followKeeps_isClear (fs : FileSystem) : fs.FollowKeeps fs.IsClear fun _ => True where
  root front name hfront := by simp at hfront
  parent _ h := h.parent
  child _ _ _ _ _ h hlink := h.child fun _ => hlink
  whole _ _ := trivial
  stuck _ _ _ _ _ := trivial
  rest _ _ _ _ := trivial

/-- No link stands on the way to the place of a clear path that is not too long.

**Proof sketch.** By induction on the names from the end. A double dot leads to a place that is on
the way already. -/
lemma IsClear.noLinkOn_placeOf (hproper : fs.IsProper) (hwritten : path.IsWritten)
    (h : fs.IsClear path) (hshort : isTooLong path = false) : fs.NoLinkOn (fs.placeOf path) := by
  obtain ⟨anchor, names⟩ := path
  induction names using List.reverseRecOn with
  | nil =>
    obtain ⟨entries, hentries⟩ := hproper.exists_directory_startOf ⟨anchor, []⟩
    have hplace : fs.placeOf ⟨anchor, []⟩ = fs.startOf ⟨anchor, []⟩ := by
      simp [placeOf, collapse]
    rw [hplace]
    exact noLinkOn_of_directory hentries
  | append_singleton names name ih =>
    obtain ⟨hfront, hown⟩ := List.forall_mem_append.1 hwritten
    obtain ⟨hempty, hdot⟩ := Path.isName_iff.1 (hown name (List.mem_singleton_self name)).1
    have hclear : fs.IsClear ⟨anchor, names⟩ := fun front last hlast =>
      h front last (hlast.trans (List.prefix_append names [name]))
    have hbefore := ih hfront hclear (isTooLong_of_child hempty hshort)
    have hchild : (⟨anchor, names ++ [name]⟩ : Path) = (⟨anchor, names⟩ : Path).child name := rfl
    by_cases hdots : name = ".."
    · subst hdots
      rw [hchild, placeOf_child_doubleDot]
      exact fun front hfront => hbefore front (hfront.trans (List.dropLast_prefix _))
    · intro front hprefix target hlink
      have hplace : fs.placeOf ⟨anchor, names ++ [name]⟩ = fs.placeOf ⟨anchor, names⟩ ++ [name] :=
        @placeOf_child fs ⟨anchor, names⟩ name hdot hdots
      rw [hplace] at hprefix
      rcases List.prefix_concat_iff.1 hprefix with rfl | hprefix
      · have hnone := h names name (List.prefix_refl _) hdots
        rw [linkAt?, hplace, hlink] at hnone
        simp [hshort] at hnone
      · exact hbefore front hprefix target hlink

/-- No link is left when a path is resolved: none leads back to itself, and what they are replaced
by is not too long to be looked at. -/
def FollowsEveryLink (fs : FileSystem) (path : Path) : Prop :=
  ∃ followed, fs.follow fs.followDepth [] (origin path) path.names = some followed ∧
    followed.complete = true ∧ isTooLong followed.path = false

/-- **Where every link is followed, none is left** on the way to what a path resolves to. -/
lemma FollowsEveryLink.noLinkOn (h : fs.FollowsEveryLink path) (hproper : fs.IsProper)
    (hpath : path.IsWritten) (hresolved : fs.resolve path = .ok resolved) :
    fs.NoLinkOn resolved.names := by
  obtain ⟨followed, hfollow, rfl, -, -⟩ := resolve_eq_ok_iff.1 hresolved
  obtain ⟨followed', hfollow', hcomplete, hshort⟩ := h
  obtain rfl : followed = followed' := Option.some.inj (hfollow.symm.trans hfollow')
  have hparts : ∀ name ∈ path.names, '/' ∉ name.toList := fun name hname => (hpath name hname).2
  obtain ⟨-, hwritten, -⟩ := fs.followKeeps_isWritten.follow (by simp [TrailKeeps])
    (by simp [Path.IsWritten, names_origin]) hparts hfollow
  obtain ⟨hclear, -, -⟩ := fs.followKeeps_isClear.follow (by simp [TrailKeeps])
    (by simp [IsClear, names_origin]) hparts hfollow
  exact (hclear hcomplete).noLinkOn_placeOf hproper hwritten hshort

/-- **A path without links on it resolves to itself.** -/
lemma resolve_of_noLinkOn (hproper : fs.IsProper)
    (hnames : ∀ name ∈ names, isEntryName name = true)
    (h : fs.NoLinkOn (fs.workingPlace ++ names)) :
    fs.resolve ⟨.relative, names⟩ = .ok ⟨.root, fs.workingPlace ++ names⟩ := by
  obtain ⟨entries, hworking⟩ := hproper.working
  have hstart : fs.placeOf ⟨.relative, []⟩ = fs.workingPlace := by
    simp [placeOf, collapse, startOf]
  have hfollow : fs.follow fs.followDepth [] ⟨.relative, []⟩ names =
      some ⟨⟨.relative, names⟩, true, []⟩ := by
    rw [follow_of_isEntryName hnames]
    · simp [Path.append]
    · intro front hfront
      rw [hstart]
      exact h _ ((List.prefix_append_right_inj _).2 hfront)
  refine resolve_eq_ok_iff.2 ⟨_, hfollow, ?_, lookup_of_noLinkOn ?_ h⟩
  · have hplace := @placeOf_append fs ⟨.relative, []⟩ names hnames
    rw [hstart] at hplace
    rw [absolute]
    exact congrArg _ hplace
  · exact List.forall_mem_append.2
      ⟨(isEntryName_of_entryBelow? hproper.entries hworking).1, hnames⟩

/-- The path of the working directory from the root down. -/
def working (fs : FileSystem) : Path :=
  ⟨.root, fs.workingPlace⟩

/-- A dot resolves to the working directory. -/
lemma resolve_working (hproper : fs.IsProper) :
    fs.resolve (Path.ofString ".") = .ok fs.working := by
  obtain ⟨entries, hentries⟩ := hproper.working
  have hresolve := resolve_of_noLinkOn hproper (List.forall_mem_nil _)
    (by rw [List.append_nil]; exact noLinkOn_of_directory hentries)
  rwa [List.append_nil] at hresolve

end FileSystem

end SourceLint
