import SourceLint.Proofs.FileSystem.LinkFree

set_option autoImplicit false

/-!
# File systems without links

Where a file system has no links at all, resolving a path is going up and down the tree along its
names. It fails only for a zero character. The last name of a path stays the last name of what the
path resolves to, unless it leads up, so both have the same extension; and the last name of a path
to a file never leads up.

## Main definitions

* `FileSystem.HasNoLinks` — no entry is a link.

## Main results

* `FileSystem.HasNoLinks.eq_zeroCharacter_of_resolve` — the only way in which resolving fails.
* `FileSystem.HasNoLinks.exists_resolve` — what a path with a last name resolves to.
* `FileSystem.HasNoLinks.exists_concat_of_locate` — a path to a file has a last name.
-/

namespace SourceLint

/-- The path one step up has the names of the path, and perhaps a double dot. -/
lemma Path.mem_parent {path : Path} {name : String} (h : name ∈ path.parent.names) :
    name ∈ path.names ∨ name = ".." := by
  unfold parent at h
  split at h
  · simpa [child] using h
  · simpa [child] using h
  · exact .inl ((List.dropLast_sublist _).subset h)

namespace FileSystem

variable {fs : FileSystem} {path : Path} {name : String} {names : List String}

/-! ### Places -/

/-- What a path leads to without regard to links is made of its names, other than dots, and of those
that it starts from. -/
lemma mem_placeOf (h : name ∈ fs.placeOf path) :
    name ∈ fs.startOf path ∨ name ∈ path.names ∧ name ≠ "." ∧ name ≠ ".." := by
  have hfold : ∀ (names reversed : List String), name ∈ names.foldl enter reversed →
      name ∈ reversed ∨ name ∈ names ∧ name ≠ "." ∧ name ≠ ".." := by
    intro names
    induction names with
    | nil => exact fun _ h => .inl h
    | cons next names ih =>
      intro reversed hmem
      rcases ih _ hmem with henter | ⟨hnames, hdots⟩
      · unfold enter at henter
        split at henter
        · exact .inl henter
        · exact .inl (List.mem_of_mem_tail henter)
        · rename_i hdot hdots
          rcases List.mem_cons.1 henter with rfl | hreversed
          · exact .inr ⟨List.mem_cons_self, hdot, hdots⟩
          · exact .inl hreversed
      · exact .inr ⟨List.mem_cons_of_mem _ hnames, hdots⟩
  rw [placeOf, collapse, List.mem_reverse] at h
  simpa using hfold _ _ h

/-- The directory above a directory is a directory. -/
lemma exists_directory_dropLast {place : List String} {entries : List (String × Entry)}
    (h : fs.entryAt? place = some (.directory entries)) :
    ∃ above, fs.entryAt? place.dropLast = some (.directory above) := by
  rcases List.eq_nil_or_concat place with rfl | ⟨front, last, rfl⟩
  · exact ⟨entries, h⟩
  · rw [List.concat_eq_append] at h
    rw [List.concat_eq_append, List.dropLast_concat]
    exact exists_directory_of_append (by simp) h

/-- The names of the working place can be names of entries. -/
lemma IsProper.isEntryName_of_mem_startOf (h : fs.IsProper) (hname : name ∈ fs.startOf path) :
    isEntryName name = true := by
  obtain ⟨entries, hworking⟩ := h.working
  unfold startOf at hname
  split at hname
  · exact (isEntryName_of_entryBelow? h.entries hworking).1 name hname
  · simp at hname

/-- A path starts from a directory. -/
lemma IsProper.exists_directory_startOf (h : fs.IsProper) (path : Path) :
    ∃ entries, fs.entryAt? (fs.startOf path) = some (.directory entries) := by
  unfold startOf
  split
  · exact h.working
  · exact ⟨fs.entries, rfl⟩

/-! ### No links anywhere -/

/-- No entry of the file system is a link. -/
def HasNoLinks (fs : FileSystem) : Prop :=
  linkCountAll fs.entries = 0

namespace HasNoLinks

/-- Without links there is a link at no place. -/
lemma entryAt?_ne_link (h : fs.HasNoLinks) (place : List String) (target : String) :
    fs.entryAt? place ≠ some (.link target) :=
  entryBelow?_ne_link h

/-- Without links no path leads to one. -/
lemma linkAt?_eq_none (h : fs.HasNoLinks) (path : Path) : fs.linkAt? path = none := by
  unfold linkAt?
  split
  · rename_i target htarget
    exact absurd htarget (h.entryAt?_ne_link _ target)
  · rfl

/-- Without links there are not too many on any way. -/
lemma locate_ne_tooManyLinks (h : fs.HasNoLinks) (links : Nat) (directory names : List String) :
    fs.locate links directory names ≠ .error .tooManyLinks := by
  fun_induction locate fs links directory names with
  | case3 _ _ _ ih | case4 _ _ _ ih => exact ih
  | case7 _ _ _ _ _ _ _ _ _ ih => exact ih
  | case10 _ _ _ _ _ _ target htarget => exact absurd htarget (h.entryAt?_ne_link _ target)
  | case11 _ _ _ _ _ _ target htarget => exact absurd htarget (h.entryAt?_ne_link _ target)
  | case1 | case2 | case5 | case6 | case8 | case9 => simp

/-- Without links no path is looked up over too many. -/
lemma lookup_ne_tooManyLinks (h : fs.HasNoLinks) (path : Path) :
    fs.lookup path ≠ .error .tooManyLinks := by
  unfold lookup
  split
  · simp
  · split
    · simp
    · exact h.locate_ne_tooManyLinks _ _ _

/-- **Resolving fails only for a zero character.** -/
lemma eq_zeroCharacter_of_resolve {failure : Failure} (h : fs.HasNoLinks)
    (hfailure : fs.resolve path = .error failure) : failure = .zeroCharacter := by
  unfold resolve at hfailure
  split at hfailure
  · cases hfailure
    rfl
  · split at hfailure
    · cases hfailure
      rfl
    · split at hfailure
      · rename_i hlookup
        exact absurd hlookup (h.lookup_ne_tooManyLinks _)
      · cases hfailure

/-- Names are followed to their end, and no zero character comes in. -/
lemma exists_follow (h : fs.HasNoLinks) (depth : Nat) (trail : LinkTrail)
    (hnames : ∀ name ∈ names, Path.isName name = true ∧ Path.isZeroName name = false)
    (hpath : ∀ name ∈ path.names, Path.isZeroName name = false) :
    ∃ reached, fs.follow depth trail path names = some ⟨reached, true, trail⟩ ∧
      ∀ name ∈ reached.names, Path.isZeroName name = false := by
  induction names generalizing path with
  | nil => exact ⟨path, follow_nil, hpath⟩
  | cons name names ih =>
    obtain ⟨⟨hname, hzero⟩, hrest⟩ := List.forall_mem_cons.1 hnames
    obtain ⟨hempty, hdot⟩ : name ≠ "" ∧ name ≠ "." := by simpa [Path.isName] using hname
    by_cases hdots : name = ".."
    · subst hdots
      have hparent : ∀ name ∈ path.parent.names, Path.isZeroName name = false := by
        intro name hname
        rcases Path.mem_parent hname with hname | rfl
        · exact hpath name hname
        · exact hzero
      obtain ⟨reached, hreached, hclean⟩ := ih hrest hparent
      exact ⟨reached, by rw [follow, hreached], hclean⟩
    · have hchild : ∀ other ∈ (path.child name).names, Path.isZeroName other = false :=
        List.forall_mem_append.2 ⟨hpath, by simpa using hzero⟩
      obtain ⟨reached, hreached, hclean⟩ := ih hrest hchild
      refine ⟨reached, ?_, hclean⟩
      rw [follow_of_linkAt?_eq_none hempty hdot hdots hzero (h.linkAt?_eq_none _), hreached]

/-- **What a path with a last name resolves to** has the same last name.

**Proof sketch.** The names in front are followed to a path, and the last name is put behind it. The
result holds no zero character, as neither the path nor the place that it starts from does. -/
lemma exists_resolve (h : fs.HasNoLinks) (hproper : fs.IsProper)
    (hlast : path.names = names ++ [name])
    (hnames : ∀ name ∈ path.names, Path.isName name = true) (hzero : path.holdsZero = false)
    (hdots : name ≠ "..") :
    ∃ resolved, fs.resolve path = .ok resolved ∧ resolved.extension = path.extension := by
  have hclean : ∀ name ∈ path.names, Path.isName name = true ∧ Path.isZeroName name = false :=
    fun name hname => ⟨hnames name hname, by simpa using List.any_eq_false.1 hzero name hname⟩
  have horigin : (origin path).names = [] := by
    unfold origin
    split <;> rfl
  rw [hlast] at hclean
  obtain ⟨hfront, hown⟩ := List.forall_mem_append.1 hclean
  obtain ⟨hname, hnameZero⟩ := hown name (List.mem_singleton_self name)
  obtain ⟨hempty, hdot⟩ : name ≠ "" ∧ name ≠ "." := by simpa [Path.isName] using hname
  obtain ⟨reached, hreached, hreachedZero⟩ :=
    @h.exists_follow _ (origin path) names fs.followDepth [] hfront (by simp [horigin])
  have hfollow : fs.follow fs.followDepth [] (origin path) path.names =
      some ⟨reached.child name, true, []⟩ := by
    rw [hlast, follow_append (fun _ hn => (hfront _ hn).1) (fun _ hn => (hown _ hn).1) hreached]
    rw [if_pos rfl, follow_of_linkAt?_eq_none hempty hdot hdots hnameZero (h.linkAt?_eq_none _),
      follow_nil]
  have hplace : (fs.absolute (reached.child name)).names = fs.placeOf reached ++ [name] :=
    placeOf_child hdot hdots
  refine ⟨_, resolve_eq_ok_iff.2 ⟨_, hfollow, rfl, ?_, h.lookup_ne_tooManyLinks _⟩, ?_⟩
  · rw [Path.holdsZero, List.any_eq_false, hplace]
    intro other hother
    rw [Bool.not_eq_true]
    rcases List.mem_append.1 hother with hplace | hother
    · rcases mem_placeOf hplace with hstart | ⟨hother, -⟩
      · obtain ⟨-, -, -, -, hother⟩ :=
          isEntryName_iff.1 (hproper.isEntryName_of_mem_startOf hstart)
        exact hother
      · exact hreachedZero other hother
    · rwa [List.mem_singleton.1 hother]
  · simp [Path.extension, Path.lastName, hplace, hlast]

/-- **A path to a file has a last name**, which does not lead up. -/
lemma exists_concat_of_locate (h : fs.HasNoLinks) {links : Nat} {directory place : List String}
    {entries : List (String × Entry)} {content : Except ReadFailure (List UInt8)}
    (hdirectory : fs.entryAt? directory = some (.directory entries))
    (hfile : fs.locate links directory names = .ok (place, .file content)) :
    ∃ front name, names = front ++ [name] ∧ name ≠ ".." := by
  fun_induction locate fs links directory names generalizing entries with
  | case1 links directory found hfound =>
    cases hfile
    rw [hdirectory] at hfound
    cases hfound
  | case3 links directory names ih =>
    obtain ⟨front, name, rfl, hname⟩ := ih hdirectory hfile
    exact ⟨"." :: front, name, rfl, hname⟩
  | case4 links directory names ih =>
    obtain ⟨above, habove⟩ := exists_directory_dropLast hdirectory
    obtain ⟨front, name, rfl, hname⟩ := ih habove hfile
    exact ⟨".." :: front, name, rfl, hname⟩
  | case7 links directory name names hdot hdots hshort below hbelow ih =>
    obtain ⟨front, last, rfl, hlast⟩ := ih hbelow hfile
    exact ⟨name :: front, last, rfl, hlast⟩
  | case8 links directory name names hdot hdots hshort content hfile hlast =>
    exact ⟨[], name, by rw [List.isEmpty_iff.1 hlast]; rfl, hdots⟩
  | case11 _ _ _ _ _ _ target htarget => exact absurd htarget (h.entryAt?_ne_link _ target)
  | case2 | case5 | case6 | case9 | case10 => cases hfile

end HasNoLinks

end FileSystem

end SourceLint
