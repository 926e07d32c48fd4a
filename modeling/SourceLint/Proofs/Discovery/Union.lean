import SourceLint.Proofs.Discovery.Candidates
import SourceLint.Proofs.Run.Shadowing

set_option autoImplicit false

/-!
# Discovery from several lists of arguments

What has been seen is shared by all arguments of a discovery, so the arguments of a second list are
expanded as if they were alone, and then lose the files that the first list has led to already.
Discovery from two lists is therefore discovery from the first one, followed by what the second one
adds to it. This holds of failures as well: the first one ends the discovery.

Nothing is added by arguments that are repeated, and the paths that are resolved to are those of all
candidates, in whatever order the arguments stand.

## Main definitions

* `Discovery.additions` — the files that resolve to something new.

## Main results

* `Discovery.firstOfEach_append` — dropping repetitions from two lists.
* `Discovery.discover_append` — discovery from two lists.
* `Discovery.exists_mem_discovered_iff` — the paths that are resolved to.
* `Discovery.discovery_unites` — discovery from two lists, and what follows from it.
-/

namespace SourceLint

namespace Discovery

variable {fs : FileSystem} {settings : Settings} {paths more : List Path}
  {pairs others : List (Path × Path)}

/-- The files that resolve to something that none of the known ones resolves to. -/
def additions (fs : FileSystem) (known files : List Path) : List Path :=
  files.filter fun file => known.all fun other => decide (fs.resolve other ≠ fs.resolve file)

/-- Files are added that resolve to no path which a known file resolves to. -/
lemma mem_additions_iff {known files : List Path} {file : Path} :
    file ∈ additions fs known files ↔
      file ∈ files ∧ ∀ other ∈ known, fs.resolve other ≠ fs.resolve file := by
  simp [additions]

/-! ### Dropping repetitions -/

/-- What has been seen counts, not in which order. -/
lemma firstOfEach_congr {seen seen' : List Path} (h : ∀ path, path ∈ seen ↔ path ∈ seen')
    (pairs : List (Path × Path)) : firstOfEach seen pairs = firstOfEach seen' pairs := by
  induction pairs generalizing seen seen' with
  | nil => rfl
  | cons pair pairs ih =>
    obtain ⟨path, resolved⟩ := pair
    have hcontains : seen.contains resolved = seen'.contains resolved := by
      rw [Bool.eq_iff_iff, List.contains_iff_mem, List.contains_iff_mem, h]
    have hcons : ∀ other, other ∈ resolved :: seen ↔ other ∈ resolved :: seen' := by simp [h]
    rw [firstOfEach, firstOfEach, hcontains, ih h, ih hcons]

/-- Having seen more means to leave out the files that resolve to it. -/
lemma firstOfEach_append_seen (extra seen : List Path)
    (h : ∀ pair ∈ pairs, fs.resolve pair.1 = .ok pair.2) :
    firstOfEach (extra ++ seen) pairs =
      (firstOfEach seen pairs).filter fun file =>
        extra.all fun resolved => decide (.ok resolved ≠ fs.resolve file) := by
  induction pairs generalizing seen with
  | nil => rfl
  | cons pair pairs ih =>
    obtain ⟨path, resolved⟩ := pair
    obtain ⟨hpath, hpairs⟩ := List.forall_mem_cons.1 h
    have hpath : fs.resolve path = .ok resolved := hpath
    rw [firstOfEach, firstOfEach]
    by_cases hseen : resolved ∈ seen
    · rw [if_pos (by simp [hseen]), if_pos (by simp [hseen]), ih seen hpairs]
    · have hnew : seen.contains resolved = false := by simpa using hseen
      rw [hnew, if_neg Bool.false_ne_true, List.filter_cons, ← ih (resolved :: seen) hpairs]
      by_cases hextra : resolved ∈ extra
      · -- the path itself is left out, and nothing behind it resolves to something unknown
        rw [if_pos (by simp [hextra]), if_neg (by simpa [hpath] using hextra)]
        refine firstOfEach_congr (fun other => ?_) pairs
        by_cases hother : other = resolved <;> simp [hother, hextra]
      · rw [if_neg (by simp [hextra, hseen]), if_pos (by simp [hpath]; grind)]
        refine congrArg (path :: ·) (firstOfEach_congr (fun other => ?_) pairs)
        simp only [List.mem_cons, List.mem_append]
        tauto

/-- The files that are kept resolve to all that the pairs resolve to, except for what has been seen
before. -/
lemma exists_mem_firstOfEach_iff (seen : List Path) (resolved : Path)
    (h : ∀ pair ∈ pairs, fs.resolve pair.1 = .ok pair.2) :
    (resolved ∈ seen ∨ ∃ file ∈ firstOfEach seen pairs, fs.resolve file = .ok resolved) ↔
      resolved ∈ seen ∨ resolved ∈ pairs.map Prod.snd := by
  induction pairs generalizing seen with
  | nil => simp [firstOfEach]
  | cons pair pairs ih =>
    obtain ⟨path, reached⟩ := pair
    obtain ⟨hpath, hpairs⟩ := List.forall_mem_cons.1 h
    have hpath : fs.resolve path = .ok reached := hpath
    rw [firstOfEach]
    split
    · rename_i hseen
      have hseen : reached ∈ seen := List.contains_iff_mem.1 hseen
      rw [ih seen hpairs]
      by_cases hresolved : resolved = reached <;> simp [hresolved, hseen]
    · have hrest := ih (reached :: seen) hpairs
      simp only [List.mem_cons, List.map_cons, exists_eq_or_imp, hpath, Except.ok.injEq,
        eq_comm (a := reached)] at hrest ⊢
      rw [or_left_comm, ← or_assoc, hrest, or_assoc, or_left_comm]

/-- The pairs of a second list are looked at after those of the first one have been seen. -/
lemma firstOfEach_append_pairs (seen : List Path) (pairs others : List (Path × Path)) :
    firstOfEach seen (pairs ++ others) =
      firstOfEach seen pairs ++ firstOfEach (pairs.map Prod.snd ++ seen) others := by
  induction pairs generalizing seen with
  | nil => rfl
  | cons pair pairs ih =>
    obtain ⟨path, resolved⟩ := pair
    rw [List.cons_append, firstOfEach, firstOfEach, List.map_cons]
    split
    · rename_i hseen
      have hseen : resolved ∈ seen := List.contains_iff_mem.1 hseen
      rw [ih seen]
      refine congrArg _ (firstOfEach_congr (fun other => ?_) others)
      by_cases hother : other = resolved <;> simp [hother, hseen]
    · rw [ih (resolved :: seen), List.cons_append]
      refine congrArg (path :: firstOfEach (resolved :: seen) pairs ++ ·)
        (firstOfEach_congr (fun other => ?_) others)
      simp only [List.mem_append, List.mem_cons]
      tauto

/-- **Dropping repetitions from two lists**: the second one loses what the first one resolves to. -/
lemma firstOfEach_append (hpairs : ∀ pair ∈ pairs, fs.resolve pair.1 = .ok pair.2)
    (hothers : ∀ pair ∈ others, fs.resolve pair.1 = .ok pair.2) :
    firstOfEach [] (pairs ++ others) =
      firstOfEach [] pairs ++ additions fs (firstOfEach [] pairs) (firstOfEach [] others) := by
  rw [firstOfEach_append_pairs, firstOfEach_append_seen _ [] hothers, additions]
  congr 1
  apply List.filter_congr
  intro file hfile
  -- what the pairs resolve to is what the files that are kept of them resolve to
  have hkept : ∀ resolved, (∃ other ∈ firstOfEach [] pairs, fs.resolve other = .ok resolved) ↔
      resolved ∈ pairs.map Prod.snd := by
    intro resolved
    simpa using exists_mem_firstOfEach_iff [] resolved hpairs
  obtain ⟨resolved, hresolved⟩ : ∃ resolved, fs.resolve file = .ok resolved := by
    obtain ⟨before, resolved, after, rfl, -⟩ := mem_firstOfEach_iff.1 hfile
    exact ⟨resolved, hothers (file, resolved) (by simp)⟩
  rw [Bool.eq_iff_iff]
  simp only [hresolved, List.all_eq_true, decide_eq_true_eq, ne_eq, Except.ok.injEq]
  constructor
  · intro hnew other hother heq
    exact hnew resolved ((hkept resolved).1 ⟨other, hother, heq⟩) rfl
  · rintro hnew other hother rfl
    obtain ⟨kept, hmem, heq⟩ := (hkept other).2 hother
    exact hnew kept hmem heq

/-! ### Discovery -/

/-- Arguments are expanded one after the other. -/
lemma expandAll_append :
    expandAll fs settings (paths ++ more) = do
      let first ← expandAll fs settings paths
      let second ← expandAll fs settings more
      return ⟨first.events ++ second.events, first.value ++ second.value⟩ := by
  induction paths with
  | nil =>
    rw [List.nil_append, expandAll]
    cases expandAll fs settings more <;> rfl
  | cons path paths ih =>
    rw [List.cons_append, expandAll, expandAll, ih]
    cases expand fs settings path with
    | error failure => rfl
    | ok files =>
      simp only [bind, Except.bind]
      cases withResolved fs files.value with
      | error failure => rfl
      | ok resolved =>
        cases expandAll fs settings paths with
        | error failure => rfl
        | ok first =>
          cases expandAll fs settings more with
          | error failure => rfl
          | ok second => simp [pure, Except.pure]

/-- **Discovery from two lists.** -/
lemma discover_append :
    discover fs settings (paths ++ more) = do
      let first ← discover fs settings paths
      let second ← discover fs settings more
      return ⟨first.events ++ second.events,
        first.value ++ additions fs first.value second.value⟩ := by
  simp only [discover, expandAll_append]
  cases hpaths : expandAll fs settings paths with
  | error failure => rfl
  | ok first =>
    cases hmore : expandAll fs settings more with
    | error failure => rfl
    | ok second =>
      have hvalue := firstOfEach_append (expandAll_eq_ok hpaths).2.2 (expandAll_eq_ok hmore).2.2
      exact congrArg (fun value => Except.ok (Logged.mk (first.events ++ second.events) value))
        hvalue

/-- **The paths that are resolved to** are those that the candidates resolve to. -/
lemma exists_mem_discovered_iff {found : Logged (List Path)} {resolved : Path}
    (h : discover fs settings paths = .ok found) :
    (∃ file ∈ found.value, fs.resolve file = .ok resolved) ↔
      ∃ file ∈ allCandidates fs settings paths, fs.resolve file = .ok resolved := by
  constructor
  · rintro ⟨file, hfile, hresolved⟩
    obtain ⟨_, hfirst⟩ := (mem_discovered_iff h).1 hfile
    exact ⟨file, hfirst.mem, hresolved⟩
  · rintro ⟨file, hfile, hresolved⟩
    obtain ⟨first, hfirst⟩ := exists_isFirst hfile hresolved
    exact ⟨first, (mem_discovered_iff h).2 ⟨resolved, hfirst⟩, hfirst.resolve_eq⟩

/-- **Discovery from two lists of arguments** is discovery from the first one, followed by the files
of the second one, in their order, that resolve to something new; if discovery from one of them
fails, the first failure is that of both. So discovered files resolve to different paths, repeated
arguments add no file, and arguments in another order lead to files that resolve to the same paths.

**Proof sketch.** The pairs of candidates and what they resolve to are put together in the order of
the arguments. To have seen the first list when the second one is gone through is to leave out of
the second one what resolves to something seen. -/
theorem discovery_unites (fs : FileSystem) (settings : Settings) (paths more : List Path) :
    (discover fs settings (paths ++ more) = do
      let first ← discover fs settings paths
      let second ← discover fs settings more
      return ⟨first.events ++ second.events, first.value ++ second.value.filter fun file =>
        first.value.all fun other => decide (fs.resolve other ≠ fs.resolve file)⟩) ∧
      ∀ found, discover fs settings paths = .ok found →
        found.value.Pairwise (fun file other => fs.resolve file ≠ fs.resolve other) ∧
        (∃ twice, discover fs settings (paths ++ paths) = .ok twice ∧
          twice.value = found.value) ∧
        ∀ order : List Path, order.Perm paths →
          ∃ other, discover fs settings order = .ok other ∧
            ∀ resolved, (∃ file ∈ other.value, fs.resolve file = .ok resolved) ↔
              ∃ file ∈ found.value, fs.resolve file = .ok resolved := by
  refine ⟨discover_append, fun found hfound => ⟨?_, ?_, fun order horder => ?_⟩⟩
  · obtain ⟨pairs, hpairs, hvalue⟩ := exists_pairs_of_discover hfound
    rw [hvalue]
    exact (pairwise_firstOfEach [] (withResolved_eq_ok_iff.1 hpairs).2).1
  · refine ⟨_, by rw [discover_append, hfound]; rfl, ?_⟩
    have hnone : additions fs found.value found.value = [] := by
      refine List.eq_nil_iff_forall_not_mem.2 fun file hfile => ?_
      obtain ⟨hmem, hnew⟩ := mem_additions_iff.1 hfile
      exact hnew file hmem rfl
    rw [hnone, List.append_nil]
  · have hcandidates : ∀ file, file ∈ allCandidates fs settings order ↔
        file ∈ allCandidates fs settings paths := by
      intro file
      simp only [allCandidates, List.mem_flatMap, horder.mem_iff]
    obtain ⟨hlong, hresolve⟩ := exists_discover_iff.1 ⟨found, hfound⟩
    obtain ⟨other, hother⟩ := (@exists_discover_iff fs settings order).2
      ⟨fun path hpath => hlong path (horder.mem_iff.1 hpath),
        fun file hfile => hresolve file ((hcandidates file).1 hfile)⟩
    refine ⟨other, hother, fun resolved => ?_⟩
    simp only [exists_mem_discovered_iff hother, exists_mem_discovered_iff hfound, hcandidates]

/-- A link and the directory of its target, in both orders. -/
theorem discovery_unites_shadowing :
    ∃ found, discover Workspace.shadowing.files Workspace.shadowing.settings
        [Path.ofString "a.txt", Path.ofString "."] = .ok found ∧
      found.value.Pairwise (fun file other =>
        Workspace.shadowing.files.resolve file ≠ Workspace.shadowing.files.resolve other) ∧
      [Path.ofString ".", Path.ofString "a.txt"].Perm [Path.ofString "a.txt", Path.ofString "."] ∧
      ∃ other, discover Workspace.shadowing.files Workspace.shadowing.settings
          [Path.ofString ".", Path.ofString "a.txt"] = .ok other ∧
        ∀ resolved, (∃ file ∈ other.value, Workspace.shadowing.files.resolve file = .ok resolved) ↔
          ∃ file ∈ found.value, Workspace.shadowing.files.resolve file = .ok resolved := by
  obtain ⟨hlong, hresolve, -⟩ := Workspace.unobstructed_shadowing
  obtain ⟨found, hfound⟩ := exists_discover_iff.2 ⟨hlong, hresolve⟩
  have hperm := List.Perm.swap (Path.ofString "a.txt") (Path.ofString ".") []
  obtain ⟨-, hunites⟩ := discovery_unites Workspace.shadowing.files
    Workspace.shadowing.settings [Path.ofString "a.txt", Path.ofString "."] []
  obtain ⟨hpairwise, -, horder⟩ := hunites found hfound
  exact ⟨found, hfound, hpairwise, hperm, horder _ hperm⟩

end Discovery

end SourceLint
