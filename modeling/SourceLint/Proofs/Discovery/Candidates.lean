import Mathlib.Data.List.Basic
import SourceLint.Run.Discovery

set_option autoImplicit false

/-!
# Which files are discovered

Every path argument stands for some candidates: a path to a file for itself, a path to a directory
for the files that a walk lists, any other path for none. Discovery goes through the candidates of
all arguments in order, resolves each of them, and keeps the first one of those that resolve to the
same path.

So a path is discovered exactly when it is the first candidate of what it resolves to, and discovery
fails exactly when an argument is too long to be looked up or a candidate cannot be resolved.

## Main definitions

* `Discovery.candidates` — the files that a path argument stands for.
* `Discovery.allCandidates` — those of several arguments.
* `Discovery.IsFirst` — the first candidate that resolves to a path.

## Main results

* `Discovery.exists_discover_iff` — when discovery succeeds.
* `Discovery.exists_isFirst`, `Discovery.IsFirst.eq` — there is one first candidate.
* `Discovery.mem_discovered_iff` — what it discovers.
-/

namespace SourceLint

/-- A computation in two steps succeeds when both steps do. -/
lemma bind_eq_ok_iff {ε α β : Type} {x : Except ε α} {f : α → Except ε β} {b : β} :
    x >>= f = .ok b ↔ ∃ a, x = .ok a ∧ f a = .ok b := by
  cases x with
  | error e => simp [bind, Except.bind]
  | ok a => simp [bind, Except.bind]

namespace Discovery

/-- The files that a path argument stands for. -/
def candidates (fs : FileSystem) (settings : Settings) (path : Path) : List Path :=
  match fs.lookup path with
  | .ok (_, .file _) => [path]
  | .ok (_, .directory entries) => fs.walk settings.fileFilter path entries
  | _ => []

/-- The files that path arguments stand for, in order and with repetitions. -/
def allCandidates (fs : FileSystem) (settings : Settings) (paths : List Path) : List Path :=
  paths.flatMap (candidates fs settings)

/-- A path is the first candidate that resolves to a path. -/
def IsFirst (fs : FileSystem) (settings : Settings) (paths : List Path) (resolved first : Path) :
    Prop :=
  ∃ before after, allCandidates fs settings paths = before ++ first :: after ∧
    fs.resolve first = .ok resolved ∧ ∀ other ∈ before, fs.resolve other ≠ .ok resolved

variable {fs : FileSystem} {settings : Settings} {path : Path} {paths : List Path}

/-! ### Expanding arguments -/

/-- An argument that is too long cannot be expanded. -/
lemma expand_of_tooLong (h : fs.lookup path = .error .nameTooLong) :
    expand fs settings path = .error (.nameTooLong path.render) := by
  simp [expand, FileSystem.isFile, h, bind, Except.bind]

/-- Any other argument is expanded to its candidates. -/
lemma exists_expand (settings : Settings) (h : fs.lookup path ≠ .error .nameTooLong) :
    ∃ events, expand fs settings path = .ok ⟨events, candidates fs settings path⟩ := by
  unfold expand FileSystem.isFile FileSystem.directory? candidates
  cases hlookup : fs.lookup path with
  | error failure =>
    cases failure with
    | nameTooLong => exact absurd hlookup h
    | notFound | notDirectory | tooManyLinks => exact ⟨[.pathMissing path.render], rfl⟩
  | ok found =>
    obtain ⟨place, entry⟩ := found
    cases entry with
    | file content => exact ⟨[], rfl⟩
    | link target => exact ⟨[.pathMissing path.render], rfl⟩
    | directory entries => exact ⟨[], rfl⟩

/-! ### Resolving candidates -/

/-- Paths are listed with what they resolve to. -/
lemma withResolved_eq_ok_iff {pairs : List (Path × Path)} :
    withResolved fs paths = .ok pairs ↔
      pairs.map Prod.fst = paths ∧ ∀ pair ∈ pairs, fs.resolve pair.1 = .ok pair.2 := by
  induction paths generalizing pairs with
  | nil =>
    rw [withResolved, List.map_eq_nil_iff]
    constructor
    · rintro ⟨⟩
      simp
    · rintro ⟨rfl, -⟩
      rfl
  | cons path paths ih =>
    rw [withResolved, List.map_eq_cons_iff]
    simp only [bind_eq_ok_iff, ih, pure, Except.pure, Except.ok.injEq]
    constructor
    · rintro ⟨resolved, hpath, rest, ⟨hfst, hrest⟩, rfl⟩
      exact ⟨⟨(path, resolved), rest, rfl, rfl, hfst⟩, List.forall_mem_cons.2 ⟨hpath, hrest⟩⟩
    · rintro ⟨⟨⟨first, resolved⟩, rest, rfl, rfl, hfst⟩, hall⟩
      obtain ⟨hpath, hrest⟩ := List.forall_mem_cons.1 hall
      exact ⟨resolved, hpath, rest, ⟨hfst, hrest⟩, rfl⟩

/-- Paths can be listed with what they resolve to when each of them can be resolved. -/
lemma exists_withResolved (h : ∀ path ∈ paths, ∃ resolved, fs.resolve path = .ok resolved) :
    ∃ pairs, withResolved fs paths = .ok pairs := by
  induction paths with
  | nil => exact ⟨[], rfl⟩
  | cons path paths ih =>
    obtain ⟨⟨resolved, hpath⟩, hrest⟩ := List.forall_mem_cons.1 h
    obtain ⟨rest, hrest⟩ := ih hrest
    exact ⟨(path, resolved) :: rest, by rw [withResolved, hpath, hrest]; rfl⟩

/-- Arguments are expanded to their candidates, with what these resolve to. -/
lemma expandAll_eq_ok {found : Logged (List (Path × Path))}
    (h : expandAll fs settings paths = .ok found) :
    (∀ path ∈ paths, fs.lookup path ≠ .error .nameTooLong) ∧
      found.value.map Prod.fst = allCandidates fs settings paths ∧
      ∀ pair ∈ found.value, fs.resolve pair.1 = .ok pair.2 := by
  induction paths generalizing found with
  | nil =>
    cases h
    simp [allCandidates, Logged.value_pure]
  | cons path paths ih =>
    rw [expandAll] at h
    obtain ⟨files, hfiles, h⟩ := bind_eq_ok_iff.1 h
    obtain ⟨pairs, hpairs, h⟩ := bind_eq_ok_iff.1 h
    obtain ⟨rest, hrest, h⟩ := bind_eq_ok_iff.1 h
    cases h
    obtain ⟨hlong, hfst, hresolved⟩ := ih hrest
    have hpath : fs.lookup path ≠ .error .nameTooLong := by
      intro hpath
      rw [expand_of_tooLong hpath] at hfiles
      cases hfiles
    obtain ⟨events, hexpand⟩ := exists_expand settings hpath
    obtain rfl : files = ⟨events, candidates fs settings path⟩ := by
      rw [hexpand] at hfiles
      exact (Except.ok.inj hfiles).symm
    obtain ⟨hown, hpairs⟩ := withResolved_eq_ok_iff.1 hpairs
    refine ⟨List.forall_mem_cons.2 ⟨hpath, hlong⟩, ?_, ?_⟩
    · rw [List.map_append, hown, hfst, allCandidates, allCandidates, List.flatMap_cons]
    · intro pair hpair
      exact (List.mem_append.1 hpair).elim (hpairs pair) (hresolved pair)

/-- Arguments can be expanded when none is too long and every candidate can be resolved. -/
lemma exists_expandAll (hlong : ∀ path ∈ paths, fs.lookup path ≠ .error .nameTooLong)
    (hresolve : ∀ file ∈ allCandidates fs settings paths,
      ∃ resolved, fs.resolve file = .ok resolved) :
    ∃ found, expandAll fs settings paths = .ok found := by
  induction paths with
  | nil => exact ⟨_, rfl⟩
  | cons path paths ih =>
    obtain ⟨hpath, hlong⟩ := List.forall_mem_cons.1 hlong
    rw [allCandidates, List.flatMap_cons] at hresolve
    obtain ⟨hown, hrest⟩ := List.forall_mem_append.1 hresolve
    obtain ⟨events, hexpand⟩ := exists_expand settings hpath
    obtain ⟨pairs, hpairs⟩ := exists_withResolved hown
    obtain ⟨rest, hrest⟩ := ih hlong hrest
    exact ⟨⟨events ++ rest.events, pairs ++ rest.value⟩, by
      rw [expandAll, hexpand]
      simp only [bind, Except.bind, hpairs, hrest]
      rfl⟩

/-! ### Dropping repetitions -/

/-- A pair stands at the front of a list or behind its first pair. -/
lemma exists_split_cons_iff {pair : Path × Path} {pairs : List (Path × Path)}
    {P : List (Path × Path) → Path → Prop} :
    (∃ before resolved after, pair :: pairs = before ++ (path, resolved) :: after ∧
        P before resolved) ↔
      (path = pair.1 ∧ P [] pair.2) ∨
        ∃ before resolved after, pairs = before ++ (path, resolved) :: after ∧
          P (pair :: before) resolved := by
  constructor
  · rintro ⟨before, resolved, after, hpairs, hP⟩
    rcases List.cons_eq_append_iff.1 hpairs with ⟨rfl, hcons⟩ | ⟨others, rfl, rfl⟩
    · cases hcons
      exact .inl ⟨rfl, hP⟩
    · exact .inr ⟨others, resolved, after, rfl, hP⟩
  · rintro (⟨rfl, hP⟩ | ⟨before, resolved, after, rfl, hP⟩)
    · exact ⟨[], pair.2, pairs, rfl, hP⟩
    · exact ⟨pair :: before, resolved, after, rfl, hP⟩

/-- A path is kept when what it resolves to has not been seen, and nothing before it resolves to the
same path. -/
lemma mem_firstOfEach_iff {seen : List Path} {pairs : List (Path × Path)} :
    path ∈ firstOfEach seen pairs ↔
      ∃ before resolved after, pairs = before ++ (path, resolved) :: after ∧
        resolved ∉ seen ∧ resolved ∉ before.map Prod.snd := by
  induction pairs generalizing seen with
  | nil => simp [firstOfEach]
  | cons pair pairs ih =>
    obtain ⟨first, reached⟩ := pair
    rw [firstOfEach, exists_split_cons_iff]
    by_cases hseen : reached ∈ seen
    · -- nothing unseen resolves to what the first pair does
      have hother : ∀ resolved, resolved ∉ seen → resolved ≠ reached :=
        fun resolved hnew heq => hnew (heq ▸ hseen)
      rw [if_pos (List.contains_iff_mem.2 hseen), ih]
      simp only [hseen, not_true_eq_false, false_and, and_false, false_or, List.map_cons,
        List.mem_cons, not_or]
      grind
    · rw [if_neg (by simpa using hseen), List.mem_cons, ih]
      simp only [hseen, not_false_eq_true, List.map_nil, List.not_mem_nil, and_self, and_true,
        List.map_cons, List.mem_cons, not_or]
      grind

/-- Discovered files resolve to different paths. -/
lemma pairwise_firstOfEach (seen : List Path) {pairs : List (Path × Path)}
    (h : ∀ pair ∈ pairs, fs.resolve pair.1 = .ok pair.2) :
    (firstOfEach seen pairs).Pairwise (fun file other => fs.resolve file ≠ fs.resolve other) ∧
      ∀ file ∈ firstOfEach seen pairs, ∀ resolved ∈ seen, fs.resolve file ≠ .ok resolved := by
  induction pairs generalizing seen with
  | nil => simp [firstOfEach]
  | cons pair pairs ih =>
    obtain ⟨path, resolved⟩ := pair
    obtain ⟨hpath, hpairs⟩ := List.forall_mem_cons.1 h
    have hpath : fs.resolve path = .ok resolved := hpath
    rw [firstOfEach]
    split
    · exact ih seen hpairs
    · rename_i hseen
      obtain ⟨hpairwise, hrest⟩ := ih (resolved :: seen) hpairs
      refine ⟨List.pairwise_cons.2 ⟨fun file hfile heq => ?_, hpairwise⟩, ?_⟩
      · exact hrest file hfile resolved List.mem_cons_self (heq.symm.trans hpath)
      · intro file hfile other hother heq
        rcases List.mem_cons.1 hfile with rfl | hfile
        · obtain rfl := Except.ok.inj (hpath.symm.trans heq)
          exact hseen (List.contains_iff_mem.2 hother)
        · exact hrest file hfile other (List.mem_cons_of_mem _ hother) heq

/-- Nothing is dropped where all resolve to something new and different. -/
lemma firstOfEach_of_nodup {seen : List Path} {pairs : List (Path × Path)}
    (hnodup : (pairs.map Prod.snd).Nodup) (hnew : ∀ pair ∈ pairs, pair.2 ∉ seen) :
    firstOfEach seen pairs = pairs.map Prod.fst := by
  induction pairs generalizing seen with
  | nil => rfl
  | cons pair pairs ih =>
    obtain ⟨path, resolved⟩ := pair
    obtain ⟨hfirst, hnodup⟩ := List.nodup_cons.1 hnodup
    obtain ⟨hown, hnew⟩ := List.forall_mem_cons.1 hnew
    rw [firstOfEach, if_neg (by simpa using hown), List.map_cons, ih hnodup]
    intro pair hpair hseen
    rcases List.mem_cons.1 hseen with heq | hseen
    · exact hfirst (List.mem_map.2 ⟨pair, hpair, heq⟩)
    · exact hnew pair hpair hseen

/-! ### First candidates -/

/-- The first candidate that resolves to a path is the one that a search finds. -/
lemma isFirst_iff_find? {resolved first : Path} :
    IsFirst fs settings paths resolved first ↔
      (allCandidates fs settings paths).find?
        (fun path => (fs.resolve path).toOption == some resolved) = some first := by
  have hresolve : ∀ path, ((fs.resolve path).toOption == some resolved) = true ↔
      fs.resolve path = .ok resolved := by
    intro path
    cases fs.resolve path <;> simp [Except.toOption]
  simp only [List.find?_eq_some_iff_append, IsFirst, hresolve, Bool.not_eq_true', Bool.eq_false_iff,
    ne_eq]
  grind

/-- Where a candidate resolves to a path, there is a first one that does. -/
lemma exists_isFirst {resolved : Path} (hmem : path ∈ allCandidates fs settings paths)
    (hpath : fs.resolve path = .ok resolved) :
    ∃ first, IsFirst fs settings paths resolved first := by
  simp only [isFirst_iff_find?, ← Option.isSome_iff_exists, List.find?_isSome]
  exact ⟨path, hmem, by simp [hpath, Except.toOption]⟩

/-- There is only one first candidate that resolves to a path. -/
lemma IsFirst.eq {resolved first other : Path} (h : IsFirst fs settings paths resolved first)
    (hother : IsFirst fs settings paths resolved other) : other = first :=
  Option.some.inj ((isFirst_iff_find?.1 hother).symm.trans (isFirst_iff_find?.1 h))

/-- The first candidate that resolves to a path does so. -/
lemma IsFirst.resolve_eq {resolved first : Path} (h : IsFirst fs settings paths resolved first) :
    fs.resolve first = .ok resolved := by
  obtain ⟨-, -, -, hresolve, -⟩ := h
  exact hresolve

/-- The first candidate that resolves to a path is a candidate. -/
lemma IsFirst.mem {resolved first : Path} (h : IsFirst fs settings paths resolved first) :
    first ∈ allCandidates fs settings paths := by
  obtain ⟨before, after, hcandidates, -⟩ := h
  simp [hcandidates]

/-! ### Discovery -/

/-- **When discovery succeeds.** No argument is too long, and every candidate can be resolved. -/
lemma exists_discover_iff :
    (∃ found, discover fs settings paths = .ok found) ↔
      (∀ path ∈ paths, fs.lookup path ≠ .error .nameTooLong) ∧
        ∀ file ∈ allCandidates fs settings paths, ∃ resolved, fs.resolve file = .ok resolved := by
  constructor
  · rintro ⟨found, hfound⟩
    obtain ⟨expanded, hexpanded, -⟩ := bind_eq_ok_iff.1 hfound
    obtain ⟨hlong, hfst, hresolved⟩ := expandAll_eq_ok hexpanded
    refine ⟨hlong, ?_⟩
    rw [← hfst]
    intro file hfile
    obtain ⟨pair, hpair, rfl⟩ := List.mem_map.1 hfile
    exact ⟨pair.2, hresolved pair hpair⟩
  · rintro ⟨hlong, hresolve⟩
    obtain ⟨expanded, hexpanded⟩ := exists_expandAll hlong hresolve
    exact ⟨_, by rw [discover, hexpanded]; rfl⟩

/-- What is discovered is what is left of the candidates once repetitions are dropped. -/
lemma exists_pairs_of_discover {found : Logged (List Path)}
    (h : discover fs settings paths = .ok found) :
    ∃ pairs, withResolved fs (allCandidates fs settings paths) = .ok pairs ∧
      found.value = firstOfEach [] pairs := by
  obtain ⟨expanded, hexpanded, hfound⟩ := bind_eq_ok_iff.1 h
  cases hfound
  obtain ⟨-, hfst, hresolved⟩ := expandAll_eq_ok hexpanded
  exact ⟨expanded.value, withResolved_eq_ok_iff.2 ⟨hfst, hresolved⟩, rfl⟩

/-- **What is discovered.** A path is discovered when it is the first candidate of what it resolves
to.

**Proof sketch.** The candidates come in pairs with what they resolve to, so to say that nothing
before a candidate was seen is to say that none before it resolves to the same path. -/
lemma mem_discovered_iff {found : Logged (List Path)}
    (h : discover fs settings paths = .ok found) :
    path ∈ found.value ↔ ∃ resolved, IsFirst fs settings paths resolved path := by
  obtain ⟨expanded, hexpanded, hfound⟩ := bind_eq_ok_iff.1 h
  cases hfound
  obtain ⟨-, hfst, hresolved⟩ := expandAll_eq_ok hexpanded
  rw [mem_firstOfEach_iff]
  constructor
  · rintro ⟨before, resolved, after, hpairs, -, hbefore⟩
    refine ⟨resolved, before.map Prod.fst, after.map Prod.fst, ?_, ?_, ?_⟩
    · simp [← hfst, hpairs]
    · exact hresolved (path, resolved) (by simp [hpairs])
    · intro other hother hsame
      obtain ⟨pair, hpair, rfl⟩ := List.mem_map.1 hother
      have hpairResolved := hresolved pair (by simp [hpairs, hpair])
      rw [hsame] at hpairResolved
      exact hbefore (List.mem_map.2 ⟨pair, hpair, (Except.ok.inj hpairResolved).symm⟩)
  · rintro ⟨resolved, before, after, hcandidates, hpath, hbefore⟩
    rw [hcandidates] at hfst
    obtain ⟨front, back, hvalue, hfront, hback⟩ := List.map_eq_append_iff.1 hfst
    obtain ⟨⟨first, reached⟩, rest, rfl, rfl, -⟩ := List.map_eq_cons_iff.1 hback
    have hreached : fs.resolve first = .ok reached := hresolved (first, reached) (by simp [hvalue])
    obtain rfl : reached = resolved := by
      rw [hpath] at hreached
      exact (Except.ok.inj hreached).symm
    refine ⟨front, reached, rest, hvalue, by simp, ?_⟩
    intro hmem
    obtain ⟨pair, hpair, rfl⟩ := List.mem_map.1 hmem
    apply hbefore pair.1 (hfront ▸ List.mem_map_of_mem hpair)
    exact hresolved pair (by simp [hvalue, hpair])

end Discovery

end SourceLint
