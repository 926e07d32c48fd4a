import SourceLint.Text.Blank
import SourceLint.Text.Case
import SourceLint.Text.Split

set_option autoImplicit false

/-!
# Inline directives

A line of a comment may mute rules by a directive: the name of this tool and a colon, a keyword, an
equals sign and the ids of the rules. Blanks may stand around the keyword. The ids end at the first
character that is neither a letter, digit, hyphen or underscore nor a comma or blank; they are
separated by commas and blanks and are lower-cased. A line may hold several directives, and each
search goes on behind the ids of the directive before.

Everything is read in any letter case, which includes the forms of a letter in other scripts. The
scope of a directive, however, is decided by its lower-cased keyword: `disable` mutes the line it
stands on, `disable-next-line` the line after it, and every other spelling the whole file.

## Main definitions

* `Directive` — the keyword as it is written, and the ids.
* `Directive.scope` — what the directive covers.
* `Directive.read?` — reads a directive at the start of a text.
* `Directive.findAll` — the directives of a line, from left to right.

## Main results

* `Directive.length_lt_of_read?` — a directive takes up at least one character.
-/

namespace SourceLint

/-- What a directive covers. -/
inductive Scope
  /-- The line that the directive stands on. -/
  | line
  /-- The line after it. -/
  | nextLine
  /-- The whole file. -/
  | file
deriving DecidableEq, Repr

/-- The scope that a keyword asks for. -/
def Scope.ofKeyword (keyword : List Char) : Scope :=
  if Text.lower keyword = "disable-next-line".toList then .nextLine
  else if Text.lower keyword = "disable".toList then .line
  else .file

/-- An inline directive: its keyword as it is written, and the ids of the rules that it mutes. -/
structure Directive where
  keyword : List Char
  ids : List String
deriving DecidableEq, Repr

namespace Directive

/-- What the directive covers. -/
def scope (directive : Directive) : Scope :=
  .ofKeyword directive.keyword

/-- What every directive starts with. -/
def opening : String := "sloplint:"

/-- The keywords, each before those that it continues. -/
def keywords : List String :=
  ["disable-next-line", "disable-file", "disable_file", "disablefile", "disable"]

/-- Reads a text in any letter case: the characters as they stand, and the rest. -/
def readText? : List Char → List Char → Option (List Char × List Char)
  | [], cs => some ([], cs)
  | _ :: _, [] => none
  | x :: xs, c :: cs =>
    if Text.sameLetter x c then (readText? xs cs).map fun read => (c :: read.1, read.2) else none

/-- Reads the equals sign and the blanks before it. -/
def readEquals? (cs : List Char) : Option (List Char) :=
  match cs.dropWhile Text.isBlank with
  | '=' :: rest => some rest
  | _ => none

/-- Reads a keyword with its equals sign: the keyword as it stands, and the rest. -/
def readKeyword? (cs : List Char) : Option (List Char × List Char) :=
  keywords.findSome? fun keyword => do
    let (written, rest) ← readText? keyword.toList cs
    let rest ← readEquals? rest
    some (written, rest)

/-- A separator of ids. -/
def isIdSeparator (c : Char) : Bool :=
  c == ',' || Text.isBlank c

/-- A character of the part of a directive that lists the ids. -/
def isIdListChar (c : Char) : Bool :=
  isIdSeparator c || c.isAlphanum || c == '_' || c == '-' ||
    Text.sameLetter 's' c || Text.sameLetter 'k' c || Text.sameLetter 'i' c

/-- The ids of the part of a directive that lists them. -/
def idsOf (cs : List Char) : List String :=
  (Text.wordsWhere isIdSeparator cs).map fun word => String.ofList (Text.lower word)

/-- Reads a directive at the start of a text; the rest starts behind its ids. -/
def read? (cs : List Char) : Option (Directive × List Char) := do
  let (_, rest) ← readText? opening.toList cs
  let (keyword, rest) ← readKeyword? (rest.dropWhile Text.isBlank)
  let ids := rest.takeWhile isIdListChar
  if ids.isEmpty then none
  else some (⟨keyword, idsOf ids⟩, rest.dropWhile isIdListChar)

/-- What was read stands at the start of the text and is as long as what was looked for. -/
theorem eq_append_of_readText? {xs cs written rest : List Char}
    (h : readText? xs cs = some (written, rest)) :
    cs = written ++ rest ∧ written.length = xs.length := by
  induction xs generalizing cs written with
  | nil =>
    simp only [readText?, Option.some.injEq, Prod.mk.injEq] at h
    obtain ⟨rfl, rfl⟩ := h
    simp
  | cons x xs ih =>
    cases cs with
    | nil => simp [readText?] at h
    | cons c cs =>
      rw [readText?] at h
      split at h
      · obtain ⟨⟨w, r⟩, hread, heq⟩ := Option.map_eq_some_iff.1 h
        simp only [Prod.mk.injEq] at heq
        obtain ⟨rfl, rfl⟩ := heq
        obtain ⟨rfl, hlen⟩ := ih hread
        simp [hlen]
      · simp at h

/-- Reading an equals sign leaves no more than there was. -/
theorem length_le_of_readEquals? {cs rest : List Char} (h : readEquals? cs = some rest) :
    rest.length ≤ cs.length := by
  unfold readEquals? at h
  split at h
  · rename_i tail htail
    simp only [Option.some.injEq] at h
    have hlen := (List.dropWhile_suffix (l := cs) Text.isBlank).length_le
    rw [htail, h, List.length_cons] at hlen
    omega
  · simp at h

/-- Reading a keyword leaves no more than there was. -/
theorem length_le_of_readKeyword? {cs keyword rest : List Char}
    (h : readKeyword? cs = some (keyword, rest)) : rest.length ≤ cs.length := by
  obtain ⟨word, _, hword⟩ := List.exists_of_findSome?_eq_some h
  simp only [Option.bind_eq_bind, Option.bind_eq_some_iff, Option.some.injEq, Prod.mk.injEq] at hword
  obtain ⟨⟨written, tail⟩, hread, tail', hequals, _, rfl⟩ := hword
  have hsplit := (eq_append_of_readText? hread).1
  have hlen := length_le_of_readEquals? hequals
  subst hsplit
  simp only [List.length_append] at hlen ⊢
  omega

/-- A directive takes up at least one character. -/
theorem length_lt_of_read? {cs rest : List Char} {directive : Directive}
    (h : read? cs = some (directive, rest)) : rest.length < cs.length := by
  simp only [read?, Option.bind_eq_bind, Option.bind_eq_some_iff] at h
  obtain ⟨⟨written, tail⟩, hopen, ⟨keyword, tail'⟩, hkeyword, hids⟩ := h
  split at hids
  · simp at hids
  · simp only [Option.some.injEq, Prod.mk.injEq] at hids
    obtain ⟨_, rfl⟩ := hids
    obtain ⟨rfl, hlen⟩ := eq_append_of_readText? hopen
    have h1 := length_le_of_readKeyword? hkeyword
    have h2 := (List.dropWhile_suffix (l := tail) Text.isBlank).length_le
    have h3 := (List.dropWhile_suffix (l := tail') isIdListChar).length_le
    have hopening : opening.toList.length = 9 := by decide
    simp only [List.length_append] at h1 ⊢
    omega

/-- The directives of a line, from left to right and without overlap. -/
def findAll (cs : List Char) : List Directive :=
  match cs with
  | [] => []
  | c :: rest =>
    match _hread : read? (c :: rest) with
    | some (directive, behind) => directive :: findAll behind
    | none => findAll rest
termination_by cs.length
decreasing_by
  · exact length_lt_of_read? (by assumption)
  · simp

end Directive

end SourceLint
