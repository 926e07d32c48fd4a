import Mathlib.Data.List.Basic
import SourceLint.FileSystem.Resolve

set_option autoImplicit false

/-!
# Places of a file system

A file system is proper when its entries have names that an entry can have, no two of one directory
the same, and when the working directory is there. A place of a proper file system is then made of
such names only.

Looking up names leads to what is at the place that is reached, and names behind a directory are
looked up from the place of that directory. Where no links are met, looking up names is going down
the tree.

## Main definitions

* `FileSystem.isEntryName` — the names that an entry can have.
* `FileSystem.IsProper` — what every file system keeps to.

## Main results

* `FileSystem.entryAt?_append` — the entries below a directory.
* `FileSystem.entryAt?_of_locate` — what a look-up finds is at its place.
* `FileSystem.exists_locate_append` — looking up names behind a directory.
* `FileSystem.eq_append_of_locate` — looking up names where there are no links.
-/

namespace SourceLint

/-- A string without the separator is one piece. -/
lemma Text.splitString_of_not_mem {separator : Char} {s : String} (h : separator ∉ s.toList) :
    splitString separator s = [s] := by
  rw [splitString, splitWhere_eq_singleton, List.map_singleton, String.ofList_toList]
  intro c hc
  simpa using fun heq : c = separator => h (heq ▸ hc)

/-- Names are put behind a path one after the other. -/
lemma Path.append_cons (path : Path) (name : String) (names : List String) :
    path.append (name :: names) = (path.child name).append names := by
  simp [append, child]

namespace FileSystem

/-- Whether an entry can have a name: it is not empty, no dot or double dot, and holds neither a
slash nor a zero character. -/
def isEntryName (name : String) : Bool :=
  name != "" && name != "." && name != ".." && !name.toList.contains '/' && !Path.isZeroName name

mutual

/-- Whether what is below an entry has proper names. -/
def isProper : Entry → Bool
  | .directory entries => areProper entries
  | _ => true

/-- Whether entries have proper names, all different, and so has what is below them. -/
def areProper : List (String × Entry) → Bool
  | [] => true
  | (name, entry) :: rest =>
    isEntryName name && !(rest.any (·.1 == name)) && isProper entry && areProper rest

end

/-- What every file system keeps to: proper names, and a working directory that is there. -/
structure IsProper (fs : FileSystem) : Prop where
  entries : areProper fs.entries = true
  working : ∃ entries, fs.entryAt? fs.workingPlace = some (.directory entries)

variable {fs : FileSystem} {entries : List (String × Entry)} {name : String} {entry : Entry}

/-! ### Names -/

/-- Which names entries can have. -/
lemma isEntryName_iff :
    isEntryName name = true ↔
      name ≠ "" ∧ name ≠ "." ∧ name ≠ ".." ∧ '/' ∉ name.toList ∧ Path.isZeroName name = false := by
  simp [isEntryName, and_assoc]

/-- An entry of proper entries has a proper name, and so has what is below it. -/
lemma isEntryName_of_mem (hproper : areProper entries = true) (hmem : (name, entry) ∈ entries) :
    isEntryName name = true ∧ isProper entry = true := by
  induction entries with
  | nil => simp at hmem
  | cons first rest ih =>
    obtain ⟨name', entry'⟩ := first
    simp only [areProper, Bool.and_eq_true] at hproper
    rcases List.mem_cons.1 hmem with heq | hrest
    · cases heq
      exact ⟨hproper.1.1.1, hproper.1.2⟩
    · exact ih hproper.2 hrest

/-- An entry has no more links than all entries together. -/
lemma linkCount_le_of_mem (hmem : (name, entry) ∈ entries) :
    linkCount entry ≤ linkCountAll entries := by
  induction entries with
  | nil => simp at hmem
  | cons first rest ih =>
    obtain ⟨name', entry'⟩ := first
    rw [linkCountAll]
    rcases List.mem_cons.1 hmem with heq | hrest
    · cases heq
      omega
    · have hle := ih hrest
      omega

/-! ### Going down the tree -/

/-- The entry of a name is one of the entries. -/
lemma mem_of_entryOf? (h : entryOf? entries name = some entry) : (name, entry) ∈ entries := by
  obtain ⟨⟨name', entry'⟩, hfind, rfl⟩ := Option.map_eq_some_iff.1 h
  obtain rfl : name' = name := by simpa using List.find?_some hfind
  exact List.mem_of_find?_eq_some hfind

/-- What a name and further names lead to: the entry of the name, or what is below it. -/
lemma entryBelow?_cons_eq_some {names : List String}
    (h : entryBelow? entries (name :: names) = some entry) :
    (names = [] ∧ entryOf? entries name = some entry) ∨
      ∃ below, entryOf? entries name = some (.directory below) ∧
        entryBelow? below names = some entry := by
  rw [entryBelow?] at h
  split at h
  · rename_i below hbelow
    exact .inr ⟨below, hbelow, h⟩
  · split at h
    · rename_i hnames
      exact .inl ⟨List.isEmpty_iff.1 hnames, h⟩
    · simp at h

/-- What is below a directory is found by the names behind its place. -/
lemma entryBelow?_append {place names : List String} {below : List (String × Entry)}
    (h : entryBelow? entries place = some (.directory below)) :
    entryBelow? entries (place ++ names) = entryBelow? below names := by
  induction place generalizing entries with
  | nil =>
    cases h
    rfl
  | cons name place ih =>
    rw [List.cons_append]
    rcases entryBelow?_cons_eq_some h with ⟨rfl, hname⟩ | ⟨inner, hname, hinner⟩
    · simp [entryBelow?, hname]
    · rw [entryBelow?, hname]
      exact ih hinner

/-- Whatever is below a place, the place is that of a directory. -/
lemma exists_directory_of_append {place names : List String} (hnames : names ≠ [])
    (h : entryBelow? entries (place ++ names) = some entry) :
    ∃ below, entryBelow? entries place = some (.directory below) := by
  induction place generalizing entries with
  | nil => exact ⟨entries, rfl⟩
  | cons name place ih =>
    rw [List.cons_append] at h
    rcases entryBelow?_cons_eq_some h with ⟨hnil, -⟩ | ⟨below, hname, hbelow⟩
    · simp [hnames] at hnil
    · obtain ⟨inner, hinner⟩ := ih hbelow
      exact ⟨inner, by rw [entryBelow?, hname]; exact hinner⟩

/-- A directory without directories in it holds no other. -/
lemma eq_nil_of_entryBelow? {names : List String} {below : List (String × Entry)}
    (hflat : ∀ name inner, (name, .directory inner) ∉ entries)
    (h : entryBelow? entries names = some (.directory below)) : names = [] := by
  cases names with
  | nil => rfl
  | cons name names =>
    rcases entryBelow?_cons_eq_some h with ⟨-, hname⟩ | ⟨inner, hname, -⟩
    · exact absurd (mem_of_entryOf? hname) (hflat name below)
    · exact absurd (mem_of_entryOf? hname) (hflat name inner)

/-- A place of proper entries has proper names, and so has what is below it. -/
lemma isEntryName_of_entryBelow? {names : List String} (hproper : areProper entries = true)
    (h : entryBelow? entries names = some entry) :
    (∀ name ∈ names, isEntryName name = true) ∧ isProper entry = true := by
  induction names generalizing entries with
  | nil =>
    cases h
    exact ⟨by simp, hproper⟩
  | cons name names ih =>
    rcases entryBelow?_cons_eq_some h with ⟨rfl, hname⟩ | ⟨below, hname, hbelow⟩
    · obtain ⟨hown, hentry⟩ := isEntryName_of_mem hproper (mem_of_entryOf? hname)
      exact ⟨by simpa using hown, hentry⟩
    · obtain ⟨hown, hdirectory⟩ := isEntryName_of_mem hproper (mem_of_entryOf? hname)
      obtain ⟨hnames, hentry⟩ := ih hdirectory hbelow
      exact ⟨List.forall_mem_cons.2 ⟨hown, hnames⟩, hentry⟩

/-- Below entries without links there is no link. -/
lemma entryBelow?_ne_link {names : List String} {target : String}
    (hlinks : linkCountAll entries = 0) : entryBelow? entries names ≠ some (.link target) := by
  induction names generalizing entries with
  | nil =>
    intro h
    cases h
  | cons name names ih =>
    intro h
    rcases entryBelow?_cons_eq_some h with ⟨-, hname⟩ | ⟨below, hname, hbelow⟩
    · have hle := linkCount_le_of_mem (mem_of_entryOf? hname)
      rw [linkCount] at hle
      omega
    · have hle := linkCount_le_of_mem (mem_of_entryOf? hname)
      rw [linkCount] at hle
      exact ih (by omega) hbelow

/-- The entries below a directory. -/
lemma entryAt?_append {place names : List String}
    (h : fs.entryAt? place = some (.directory entries)) :
    fs.entryAt? (place ++ names) = entryBelow? entries names :=
  entryBelow?_append h

/-! ### Looking up names -/

/-- No further names lead to what is at the place. -/
lemma locate_nil {links : Nat} {directory : List String}
    (h : fs.entryAt? directory = some entry) :
    fs.locate links directory [] = .ok (directory, entry) := by
  rw [locate, h]

/-- A dot leads to where one is. -/
lemma locate_dot (links : Nat) (directory names : List String) :
    fs.locate links directory ("." :: names) = fs.locate links directory names := by
  rw [locate]

/-- A double dot leads one place up. -/
lemma locate_doubleDot (links : Nat) (directory names : List String) :
    fs.locate links directory (".." :: names) = fs.locate links directory.dropLast names := by
  rw [locate]

/-- What a name leads to that is no dot and no double dot. -/
lemma locate_name {links : Nat} {directory names : List String} (hdot : name ≠ ".")
    (hdots : name ≠ "..") :
    fs.locate links directory (name :: names) =
      if maxNameBytes < name.utf8ByteSize then .error .nameTooLong
      else
        match fs.entryAt? (directory ++ [name]) with
        | none => .error .notFound
        | some (.directory _) => fs.locate links (directory ++ [name]) names
        | some (.file content) =>
          if names.isEmpty then .ok (directory ++ [name], .file content) else .error .notDirectory
        | some (.link target) =>
          match links with
          | 0 => .error .tooManyLinks
          | links + 1 =>
            fs.locate links (targetBase directory target) (targetNames target ++ names) :=
  locate.eq_4 fs links directory name names hdot hdots

/-- What names lead to is at its place. -/
lemma entryAt?_of_locate {links : Nat} {directory names place : List String}
    (h : fs.locate links directory names = .ok (place, entry)) :
    fs.entryAt? place = some entry := by
  fun_induction locate fs links directory names with
  | case1 links directory found hfound =>
    cases h
    exact hfound
  | case8 links directory name names hdot hdots hshort content hfile =>
    cases h
    exact hfile
  | case2 | case5 | case6 | case9 | case10 => cases h
  | case3 _ _ _ ih | case4 _ _ _ ih => exact ih h
  | case7 _ _ _ _ _ _ _ _ _ ih => exact ih h
  | case11 _ _ _ _ _ _ _ _ _ ih => exact ih h

/-- What is reached over no link is found with any number of links. -/
lemma locate_of_locate_zero {directory names place : List String} (links : Nat)
    (h : fs.locate 0 directory names = .ok (place, entry)) :
    fs.locate links directory names = .ok (place, entry) := by
  generalize hnone : 0 = none at h
  fun_induction locate fs none directory names with
  | case1 none directory found hfound => exact (locate_nil hfound).trans h
  | case3 none directory names ih =>
    rw [locate_dot]
    exact ih hnone h
  | case4 none directory names ih =>
    rw [locate_doubleDot]
    exact ih hnone h
  | case7 none directory name names hdot hdots hshort below hbelow ih =>
    rw [locate_name hdot hdots, if_neg hshort, hbelow]
    exact ih hnone h
  | case8 none directory name names hdot hdots hshort content hfile hlast =>
    rw [locate_name hdot hdots, if_neg hshort, hfile]
    exact (if_pos hlast).trans h
  | case11 => cases hnone
  | case2 | case5 | case6 | case9 | case10 => cases h

/-- Names behind a directory are looked up from its place, with the links that are left. -/
lemma exists_locate_append {links : Nat} {directory names place : List String}
    (h : fs.locate links directory names = .ok (place, .directory entries)) :
    ∃ left, ∀ more, fs.locate links directory (names ++ more) = fs.locate left place more := by
  fun_induction locate fs links directory names with
  | case1 links directory found hfound =>
    cases h
    exact ⟨links, fun more => rfl⟩
  | case3 links directory names ih =>
    obtain ⟨left, hleft⟩ := ih h
    exact ⟨left, fun more => by rw [List.cons_append, locate_dot, hleft]⟩
  | case4 links directory names ih =>
    obtain ⟨left, hleft⟩ := ih h
    exact ⟨left, fun more => by rw [List.cons_append, locate_doubleDot, hleft]⟩
  | case7 links directory name names hdot hdots hshort below hbelow ih =>
    obtain ⟨left, hleft⟩ := ih h
    refine ⟨left, fun more => ?_⟩
    rw [List.cons_append, locate_name hdot hdots, if_neg hshort, hbelow]
    exact hleft more
  | case11 directory name names hdot hdots hshort target htarget links ih =>
    obtain ⟨left, hleft⟩ := ih h
    refine ⟨left, fun more => ?_⟩
    rw [List.cons_append, locate_name hdot hdots, if_neg hshort, htarget]
    simpa only [List.append_assoc] using hleft more
  | case2 | case5 | case6 | case8 | case9 | case10 => cases h

/-- Names on which no link stands lead to the place behind them. -/
lemma eq_append_of_locate {links : Nat} {directory names place : List String}
    (hnames : ∀ name ∈ names, name ≠ "." ∧ name ≠ "..")
    (hlinks : ∀ front target, fs.entryAt? (directory ++ front) ≠ some (.link target))
    (h : fs.locate links directory names = .ok (place, entry)) : place = directory ++ names := by
  fun_induction locate fs links directory names with
  | case1 links directory found hfound =>
    cases h
    simp
  | case8 links directory name names hdot hdots hshort content hfile hlast =>
    cases h
    rw [List.isEmpty_iff.1 hlast]
  | case7 links directory name names hdot hdots hshort below hbelow ih =>
    rw [List.append_cons]
    apply ih (List.forall_mem_cons.1 hnames).2 _ h
    intro front
    rw [List.append_assoc]
    exact hlinks _
  | case11 directory name names hdot hdots hshort target htarget =>
    exact absurd htarget (hlinks [name] target)
  | case3 | case4 => exact absurd (List.forall_mem_cons.1 hnames).1 (by decide)
  | case2 | case5 | case6 | case9 | case10 => cases h

/-- Names on which no link stands never lead over too many links. -/
lemma locate_ne_tooManyLinks {links : Nat} {directory names : List String}
    (hnames : ∀ name ∈ names, isEntryName name = true)
    (hlinks : ∀ front, front <+: names → ∀ target,
      fs.entryAt? (directory ++ front) ≠ some (.link target)) :
    fs.locate links directory names ≠ .error .tooManyLinks := by
  fun_induction locate fs links directory names with
  | case7 links directory name names hdot hdots hshort below hbelow ih =>
    apply ih (List.forall_mem_cons.1 hnames).2
    intro front hfront
    rw [List.append_assoc]
    exact hlinks _ (List.cons_prefix_cons.2 ⟨rfl, hfront⟩)
  | case10 directory name names hdot hdots hshort target htarget =>
    exact absurd htarget (hlinks [name] (by simp) target)
  | case11 directory name names hdot hdots hshort target htarget =>
    exact absurd htarget (hlinks [name] (by simp) target)
  | case3 | case4 => exact absurd (List.forall_mem_cons.1 hnames).1 (by decide)
  | case1 | case2 | case5 | case6 | case8 | case9 => simp

/-! ### Looking up links -/

/-- A target without slashes is one name. -/
lemma targetNames_of_not_mem {target : String} (hslash : '/' ∉ target.toList)
    (hempty : target ≠ "") : targetNames target = [target] := by
  have hlast : (target.toList.getLast? == some '/') = false := by
    rw [beq_eq_false_iff_ne]
    exact fun hlast => hslash (List.mem_of_getLast? hlast)
  simp [targetNames, Text.splitString_of_not_mem hslash, hlast, hempty]

/-- A target without slashes leads on from the directory of its link. -/
lemma targetBase_of_not_mem {target : String} (hslash : '/' ∉ target.toList)
    (directory : List String) : targetBase directory target = directory := by
  rw [targetBase, if_neg]
  rw [beq_iff_eq]
  exact fun hhead => hslash (List.mem_of_head? hhead)

/-- A link to a name that is too long cannot be followed. -/
lemma locate_of_tooLong_target {links : Nat} {directory : List String} {target : String}
    (hname : isEntryName name = true) (hshort : name.utf8ByteSize ≤ maxNameBytes)
    (hlink : fs.entryAt? (directory ++ [name]) = some (.link target))
    (hslash : '/' ∉ target.toList) (hlong : maxNameBytes < target.utf8ByteSize) :
    fs.locate (links + 1) directory [name] = .error .nameTooLong := by
  obtain ⟨-, hdot, hdots, -⟩ := isEntryName_iff.1 hname
  have hne : ∀ other : String, other.utf8ByteSize ≤ maxNameBytes → target ≠ other := by
    rintro other hother rfl
    omega
  rw [locate_name hdot hdots, if_neg (by omega), hlink]
  simp only [targetNames_of_not_mem hslash (hne "" (by decide)), List.append_nil]
  rw [locate_name (hne "." (by decide)) (hne ".." (by decide)), if_pos hlong]

/-- A link that leads to itself is followed too often, whatever stands behind it. -/
lemma locate_of_self_link {directory names : List String} (hname : isEntryName name = true)
    (hshort : name.utf8ByteSize ≤ maxNameBytes)
    (hlink : fs.entryAt? (directory ++ [name]) = some (.link name)) (links : Nat) :
    fs.locate links directory (name :: names) = .error .tooManyLinks := by
  obtain ⟨hempty, hdot, hdots, hslash, -⟩ := isEntryName_iff.1 hname
  induction links with
  | zero => rw [locate_name hdot hdots, if_neg (by omega), hlink]
  | succ links ih =>
    rw [locate_name hdot hdots, if_neg (by omega), hlink]
    simp only [targetNames_of_not_mem hslash hempty, targetBase_of_not_mem hslash]
    exact ih

/-! ### Looking up paths -/

/-- A path leads where its names do, unless it holds a zero character or is too long. -/
lemma lookup_eq_ok_iff {path : Path} {found : List String × Entry} :
    fs.lookup path = .ok found ↔
      path.holdsZero = false ∧ isTooLong path = false ∧
        fs.locate maxLinks (fs.startOf path) path.names = .ok found := by
  unfold lookup
  cases path.holdsZero <;> cases isTooLong path <;> simp

end FileSystem

end SourceLint
