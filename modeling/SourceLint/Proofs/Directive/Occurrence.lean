import SourceLint.Proofs.Text.Letters
import SourceLint.Suppression.Directive

set_option autoImplicit false

/-!
# Where directives stand in a line

The reader of directives is a chain of small readers. This module says in one piece what it reads:
a directive stands at the start of a text when the text is the opening, blanks, a keyword, blanks,
an equals sign and a list of ids, the list being as long as possible. The directives of a line are
found from left to right. Each one starts where no earlier one could, and the search goes on behind
it.

The scope of an occurrence is the one that its keyword stands for, whatever letters the keyword is
written with. It is recorded beside the directive that the reader gives, whose scope is decided
later and from the letters.

## Main definitions

* `Scope.keywords` — the keywords that stand for a scope.
* `Directive.Occurrence` — a directive with the scope of its keyword, which can be told from the
  keyword's length (`Directive.occurrence`).
* `Directive.Stands` — an occurrence at the start of a text.
* `Directive.Found` — the occurrences of a line, from left to right.
* `Directive.HoldsOpening` — the opening of a directive stands in a text.

## Main results

* `Directive.read?_eq_some_iff` — the reader reads exactly what stands at the start of a text.
* `Directive.found_iff` — every line has its occurrences, which are those that the search finds.
-/

namespace SourceLint

/-- The keywords that stand for a scope. -/
def Scope.keywords : Scope → List String
  | .line => ["disable"]
  | .nextLine => ["disable-next-line"]
  | .file => ["disable-file", "disable_file", "disablefile"]

/-- The scope that a keyword of a length stands for; no two scopes have keywords of one length. -/
def Scope.ofLength : Nat → Scope
  | 7 => .line
  | 17 => .nextLine
  | _ => .file

/-- The length of a keyword tells its scope. -/
lemma Scope.ofLength_of_mem_keywords {scope : Scope} {word : String}
    (h : word ∈ scope.keywords) : ofLength word.toList.length = scope := by
  have hall : ∀ word ∈ scope.keywords, ofLength word.toList.length = scope := by
    cases scope <;> decide
  exact hall word h

namespace Directive

/-- A directive in a text, with the scope that its keyword stands for. -/
structure Occurrence where
  asked : Scope
  directive : Directive
deriving DecidableEq, Repr

/-- A directive with the scope that a keyword of its length stands for. -/
def occurrence (directive : Directive) : Occurrence where
  asked := .ofLength directive.keyword.length
  directive := directive

/-- An occurrence stands at the start of a text and a rest follows it. Blanks behind the equals sign
belong to the list of ids, where they separate nothing. -/
inductive Stands : List Char → Occurrence → List Char → Prop
  | intro {asked : Scope} {word : String} {start margin keyword gap list rest : List Char}
      (hstart : Text.Spells opening.toList start)
      (hmargin : ∀ c ∈ margin, Text.isBlank c = true)
      (hword : word ∈ asked.keywords)
      (hkeyword : Text.Spells word.toList keyword)
      (hgap : ∀ c ∈ gap, Text.isBlank c = true)
      (hlist : list ≠ [])
      (hids : ∀ c ∈ list, isIdListChar c = true)
      (hrest : ∀ c ∈ rest.head?, isIdListChar c = false) :
      Stands (start ++ (margin ++ (keyword ++ (gap ++ '=' :: (list ++ rest)))))
        ⟨asked, ⟨keyword, idsOf list⟩⟩ rest

/-- The occurrences of a line from left to right: the first one stands where no earlier one does,
and the search goes on behind it. -/
inductive Found : List Char → List Occurrence → Prop
  | none {line : List Char}
      (hnone : ∀ before text, line = before ++ text → ∀ o rest, ¬ Stands text o rest) :
      Found line []
  | next {before text rest : List Char} {o : Occurrence} {others : List Occurrence}
      (hfirst : ∀ earlier text', before ++ text = earlier ++ text' →
        earlier.length < before.length → ∀ o rest, ¬ Stands text' o rest)
      (hstands : Stands text o rest)
      (hothers : Found rest others) :
      Found (before ++ text) (o :: others)

/-! ### The keywords -/

/-- The keywords are those of the three scopes, the longest ones first. -/
lemma keywords_eq : keywords = [Scope.nextLine, .file, .line].flatMap Scope.keywords := rfl

/-- The keywords are those of the three scopes. -/
lemma mem_keywords_iff {word : String} :
    word ∈ keywords ↔ ∃ scope : Scope, word ∈ scope.keywords := by
  rw [keywords_eq, List.mem_flatMap]
  constructor
  · rintro ⟨scope, -, hword⟩
    exact ⟨scope, hword⟩
  · rintro ⟨scope, hword⟩
    exact ⟨scope, by cases scope <;> simp, hword⟩

/-- The characters of the keywords. -/
lemma isKeywordChar_of_mem_keywords :
    ∀ word ∈ keywords, ∀ x ∈ word.toList, Text.isKeywordChar x = true := by
  have hall : keywords.all (fun word => word.toList.all Text.isKeywordChar) = true := by decide
  intro word hword
  exact List.all_eq_true.1 (List.all_eq_true.1 hall word hword)

/-! ### The parts of a directive -/

/-- Reading a text gives a spelling of it at the start of what is read. -/
lemma readText?_eq_some_iff {word cs written rest : List Char} :
    readText? word cs = some (written, rest) ↔ cs = written ++ rest ∧ Text.Spells word written := by
  constructor
  · intro h
    refine ⟨(eq_append_of_readText? h).1, ?_⟩
    induction word generalizing cs written with
    | nil =>
      simp only [readText?, Option.some.injEq, Prod.mk.injEq] at h
      rw [← h.1]
      exact .nil
    | cons x word ih =>
      cases cs with
      | nil => simp [readText?] at h
      | cons c cs =>
        rw [readText?] at h
        split at h
        · rename_i hsame
          obtain ⟨⟨w, r⟩, hread, heq⟩ := Option.map_eq_some_iff.1 h
          simp only [Prod.mk.injEq] at heq
          obtain ⟨rfl, rfl⟩ := heq
          exact .cons hsame (ih hread)
        · simp at h
  · rintro ⟨rfl, hspells⟩
    induction hspells with
    | nil => rfl
    | cons hsame _ ih => simp [readText?, hsame, ih]

/-- Blanks before something that is no blank are dropped. -/
lemma dropWhile_isBlank_append {blanks cs : List Char}
    (hblanks : ∀ c ∈ blanks, Text.isBlank c = true) (hcs : ∀ c ∈ cs.head?, Text.isBlank c = false) :
    (blanks ++ cs).dropWhile Text.isBlank = cs := by
  rw [List.dropWhile_append_of_pos hblanks]
  cases cs with
  | nil => rfl
  | cons c cs => rw [List.dropWhile_cons_of_neg (by simpa using hcs c rfl)]

/-- Reading the equals sign passes over blanks only. -/
lemma readEquals?_eq_some_iff {cs rest : List Char} :
    readEquals? cs = some rest ↔
      ∃ gap, (∀ c ∈ gap, Text.isBlank c = true) ∧ cs = gap ++ '=' :: rest := by
  constructor
  · intro h
    unfold readEquals? at h
    split at h
    · rename_i tail htail
      obtain rfl : tail = rest := by simpa using h
      refine ⟨cs.takeWhile Text.isBlank, fun c hc => List.mem_takeWhile_imp hc, ?_⟩
      rw [← htail, List.takeWhile_append_dropWhile]
    · simp at h
  · rintro ⟨gap, hgap, rfl⟩
    have hequals : ∀ c ∈ ('=' :: rest).head?, Text.isBlank c = false := by
      simp only [List.head?_cons, Option.mem_def, Option.some.injEq, forall_eq']
      decide
    simp [readEquals?, dropWhile_isBlank_append hgap hequals]

/-- A character that a keyword can hold, in whatever letters: neither a blank nor an equals sign. -/
def isKeywordPart (c : Char) : Bool :=
  !Text.isBlank c && c != '='

/-- What spells a keyword is made of parts of keywords. -/
lemma isKeywordPart_of_spells {word : String} {keyword : List Char} (hword : word ∈ keywords)
    (h : Text.Spells word.toList keyword) : ∀ c ∈ keyword, isKeywordPart c = true := by
  intro c hc
  obtain ⟨x, hx, hsame⟩ := h.exists_sameLetter hc
  have hchar := isKeywordChar_of_mem_keywords word hword x hx
  have hequals : c ≠ '=' := by
    rintro rfl
    rcases Text.cases_of_sameLetter_keywordChar hchar hsame with rfl | h | h | h
    · exact absurd hchar (by decide)
    · exact absurd h (by decide)
    · exact absurd h (by decide)
    · exact absurd h (by decide)
  simp [isKeywordPart, Text.isBlank_of_sameLetter_keywordChar hchar hsame, hequals]

/-- The keyword and what follows the equals sign can be told from the text alone. -/
lemma eq_of_keyword_append_eq {w₁ w₂ gap₁ gap₂ r₁ r₂ : List Char}
    (hw₁ : ∀ c ∈ w₁, isKeywordPart c = true) (hw₂ : ∀ c ∈ w₂, isKeywordPart c = true)
    (hgap₁ : ∀ c ∈ gap₁, Text.isBlank c = true) (hgap₂ : ∀ c ∈ gap₂, Text.isBlank c = true)
    (h : w₁ ++ (gap₁ ++ '=' :: r₁) = w₂ ++ (gap₂ ++ '=' :: r₂)) : w₁ = w₂ ∧ r₁ = r₂ := by
  have htake : ∀ {w gap r : List Char}, (∀ c ∈ w, isKeywordPart c = true) →
      (∀ c ∈ gap, Text.isBlank c = true) →
      (w ++ (gap ++ '=' :: r)).takeWhile isKeywordPart = w := by
    intro w gap r hw hgap
    rw [List.takeWhile_append_of_pos hw]
    cases gap with
    | nil => simp [isKeywordPart]
    | cons c gap => simp [isKeywordPart, hgap c List.mem_cons_self]
  have hw : w₁ = w₂ := by
    rw [← htake hw₁ hgap₁, ← htake hw₂ hgap₂, h]
  subst hw
  have hequals : readEquals? (gap₁ ++ '=' :: r₁) = readEquals? (gap₂ ++ '=' :: r₂) :=
    congrArg readEquals? (List.append_cancel_left h)
  rw [readEquals?_eq_some_iff.2 ⟨gap₁, hgap₁, rfl⟩,
    readEquals?_eq_some_iff.2 ⟨gap₂, hgap₂, rfl⟩] at hequals
  exact ⟨rfl, Option.some.inj hequals⟩

/-- Reading one keyword with the equals sign behind it. -/
lemma readText?_bind_readEquals?_eq_some_iff {word : String} {cs keyword rest : List Char} :
    (do
      let (written, tail) ← readText? word.toList cs
      let tail ← readEquals? tail
      some (written, tail)) = some (keyword, rest) ↔
    ∃ gap, Text.Spells word.toList keyword ∧ (∀ c ∈ gap, Text.isBlank c = true) ∧
      cs = keyword ++ (gap ++ '=' :: rest) := by
  simp only [Option.bind_eq_bind, Option.bind_eq_some_iff, Option.some.injEq, Prod.mk.injEq]
  constructor
  · rintro ⟨⟨written, tail⟩, hread, tail', hequals, rfl, rfl⟩
    obtain ⟨rfl, hspells⟩ := readText?_eq_some_iff.1 hread
    obtain ⟨gap, hgap, rfl⟩ := readEquals?_eq_some_iff.1 hequals
    exact ⟨gap, hspells, hgap, rfl⟩
  · rintro ⟨gap, hspells, hgap, rfl⟩
    exact ⟨(keyword, gap ++ '=' :: rest), readText?_eq_some_iff.2 ⟨rfl, hspells⟩, rest,
      readEquals?_eq_some_iff.2 ⟨gap, hgap, rfl⟩, rfl, rfl⟩

/-- Reading a keyword gives the one keyword that an equals sign follows.

**Proof sketch.** The keyword that comes first in the list and can be read might not be the one at
hand, since one keyword can begin another. But every keyword ends where a blank or the equals sign
stands, so all that can be read agree (`eq_of_keyword_append_eq`). -/
lemma readKeyword?_eq_some_iff {cs keyword rest : List Char} :
    readKeyword? cs = some (keyword, rest) ↔
      ∃ word ∈ keywords, ∃ gap, Text.Spells word.toList keyword ∧
        (∀ c ∈ gap, Text.isBlank c = true) ∧ cs = keyword ++ (gap ++ '=' :: rest) := by
  constructor
  · intro h
    obtain ⟨word, hword, hread⟩ := List.exists_of_findSome?_eq_some h
    exact ⟨word, hword, readText?_bind_readEquals?_eq_some_iff.1 hread⟩
  · rintro ⟨word, hword, hgap⟩
    have hread := readText?_bind_readEquals?_eq_some_iff.2 hgap
    -- some keyword is read, though perhaps by another word of the list
    obtain ⟨⟨keyword', rest'⟩, hfirst⟩ : ∃ read, readKeyword? cs = some read := by
      rw [← Option.isSome_iff_exists]
      exact List.findSome?_isSome_iff.2 ⟨word, hword, by rw [hread]; rfl⟩
    obtain ⟨word', hword', hread'⟩ := List.exists_of_findSome?_eq_some hfirst
    obtain ⟨gap, hspells, hblank, heq⟩ := hgap
    obtain ⟨gap', hspells', hblank', heq'⟩ := readText?_bind_readEquals?_eq_some_iff.1 hread'
    obtain ⟨rfl, rfl⟩ := eq_of_keyword_append_eq (isKeywordPart_of_spells hword hspells)
      (isKeywordPart_of_spells hword' hspells') hblank hblank' (heq.symm.trans heq')
    exact hfirst

/-! ### A directive at the start of a text -/

/-- A keyword starts with something that is no blank. -/
lemma head?_keyword_append {word : String} {keyword : List Char} (hword : word ∈ keywords)
    (h : Text.Spells word.toList keyword) (cs : List Char) :
    ∀ c ∈ (keyword ++ cs).head?, Text.isBlank c = false := by
  intro c hc
  have hne : keyword ≠ [] := by
    have hlen : ∀ word ∈ keywords, word.toList.length ≠ 0 := by decide
    rw [← List.length_pos_iff, h.length_eq]
    exact Nat.pos_of_ne_zero (hlen word hword)
  rw [List.head?_append_of_ne_nil _ hne] at hc
  have hpart := isKeywordPart_of_spells hword h c (List.mem_of_mem_head? hc)
  simp only [isKeywordPart, Bool.and_eq_true, Bool.not_eq_true'] at hpart
  exact hpart.1

/-- The list of ids ends before the first character that it cannot hold. -/
lemma takeWhile_isIdListChar_append {list rest : List Char}
    (hlist : ∀ c ∈ list, isIdListChar c = true) (hrest : ∀ c ∈ rest.head?, isIdListChar c = false) :
    (list ++ rest).takeWhile isIdListChar = list ∧
      (list ++ rest).dropWhile isIdListChar = rest := by
  rw [List.takeWhile_append_of_pos hlist, List.dropWhile_append_of_pos hlist]
  cases rest with
  | nil => simp
  | cons c rest =>
    have hc := hrest c rfl
    simp [hc]

/-- What is read stands at the start of the text. -/
lemma exists_stands_of_read? {text rest : List Char} {directive : Directive}
    (h : read? text = some (directive, rest)) : ∃ asked, Stands text ⟨asked, directive⟩ rest := by
  simp only [read?, Option.bind_eq_bind, Option.bind_eq_some_iff] at h
  obtain ⟨⟨start, tail⟩, hopening, ⟨keyword, list⟩, hkeyword, hids⟩ := h
  obtain ⟨rfl, hstart⟩ := readText?_eq_some_iff.1 hopening
  obtain ⟨word, hword, gap, hspells, hgap, htail⟩ := readKeyword?_eq_some_iff.1 hkeyword
  obtain ⟨asked, hasked⟩ := mem_keywords_iff.1 hword
  split at hids
  · simp at hids
  · rename_i hlist
    simp only [Option.some.injEq, Prod.mk.injEq] at hids
    obtain ⟨rfl, rfl⟩ := hids
    refine ⟨asked, ?_⟩
    have hparts : tail = tail.takeWhile Text.isBlank ++ (keyword ++ (gap ++ '=' ::
        (list.takeWhile isIdListChar ++ list.dropWhile isIdListChar))) := by
      rw [List.takeWhile_append_dropWhile, ← htail, List.takeWhile_append_dropWhile]
    rw [hparts]
    refine .intro hstart (fun c hc => List.mem_takeWhile_imp hc) hasked hspells hgap
      (by simpa using hlist) (fun c hc => List.mem_takeWhile_imp hc) ?_
    intro c hc
    have hhead := List.head?_dropWhile_not isIdListChar list
    rw [hc] at hhead
    simpa using hhead

/-- What stands at the start of a text is read. -/
lemma Stands.read?_eq {text rest : List Char} {o : Occurrence} (h : Stands text o rest) :
    read? text = some (o.directive, rest) := by
  cases h with
  | @intro asked word start margin keyword gap list _ hstart hmargin hasked hspells hgap hlist hids
      hrest =>
    have hword := mem_keywords_iff.2 ⟨asked, hasked⟩
    have hopening : ∀ tail, readText? opening.toList (start ++ tail) = some (start, tail) :=
      fun tail => readText?_eq_some_iff.2 ⟨rfl, hstart⟩
    have hkeyword : ∀ tail, readKeyword? (keyword ++ (gap ++ '=' :: tail)) = some (keyword, tail) :=
      fun tail => readKeyword?_eq_some_iff.2 ⟨word, hword, gap, hspells, hgap, rfl⟩
    obtain ⟨htake, hdrop⟩ := takeWhile_isIdListChar_append hids hrest
    simp only [read?, hopening, Option.bind_eq_bind, Option.bind_some,
      dropWhile_isBlank_append hmargin (head?_keyword_append hword hspells _), hkeyword, htake,
      hdrop]
    rw [if_neg (by simpa using hlist)]

/-- **The reader reads exactly the directives that stand at the start of a text.** -/
theorem read?_eq_some_iff {text rest : List Char} {directive : Directive} :
    read? text = some (directive, rest) ↔ ∃ asked, Stands text ⟨asked, directive⟩ rest := by
  constructor
  · exact exists_stands_of_read?
  · rintro ⟨asked, hstands⟩
    exact hstands.read?_eq

/-- Nothing is read where no directive stands. -/
lemma read?_eq_none_iff {text : List Char} :
    read? text = none ↔ ∀ o rest, ¬ Stands text o rest := by
  rw [Option.eq_none_iff_forall_ne_some]
  constructor
  · intro h o rest hstands
    exact h (o.directive, rest) hstands.read?_eq
  · rintro h ⟨directive, rest⟩ hread
    obtain ⟨asked, hstands⟩ := read?_eq_some_iff.1 hread
    exact h _ _ hstands

/-! ### The directives of a line -/

/-- There is nothing to be found in an empty text. -/
lemma findAll_nil : findAll [] = [] := by
  rw [findAll]

/-- The search goes on behind a directive. -/
lemma findAll_of_read? {text rest : List Char} {directive : Directive}
    (h : read? text = some (directive, rest)) : findAll text = directive :: findAll rest := by
  cases text with
  | nil => exact absurd (length_lt_of_read? h) (by simp)
  | cons c cs =>
    rw [findAll]
    split
    · rename_i directive' rest' hread
      obtain ⟨rfl, rfl⟩ : directive = directive' ∧ rest = rest' := by simpa using h.symm.trans hread
      rfl
    · rename_i hnone
      simp [h] at hnone

/-- The search goes on one character further where no directive stands. -/
lemma findAll_cons_of_read?_eq_none {c : Char} {cs : List Char} (h : read? (c :: cs) = none) :
    findAll (c :: cs) = findAll cs := by
  rw [findAll]
  split
  · rename_i hread
    simp [h] at hread
  · rfl

/-- No directive starts with anything but a form of its first letter. -/
lemma read?_cons_eq_none {c : Char} (h : Text.sameLetter 's' c = false) (cs : List Char) :
    read? (c :: cs) = none := by
  have hopening : opening.toList = 's' :: "loplint:".toList := rfl
  simp [read?, hopening, readText?, h]

/-- The opening of a directive stands somewhere in a text, in any letter case. -/
def HoldsOpening (cs : List Char) : Prop :=
  ∃ before start after, cs = before ++ (start ++ after) ∧ Text.Spells opening.toList start

/-- Where an occurrence stands, there is an opening. -/
lemma Stands.holdsOpening {text rest : List Char} {o : Occurrence} (h : Stands text o rest) :
    HoldsOpening text := by
  cases h with
  | intro hstart => exact ⟨[], _, _, rfl, hstart⟩

/-- A text holds the openings of its parts. -/
lemma HoldsOpening.of_part {cs ds : List Char} (h : HoldsOpening cs) (hpart : cs <:+: ds) :
    HoldsOpening ds := by
  obtain ⟨before, start, after, rfl, hstart⟩ := h
  obtain ⟨xs, ys, rfl⟩ := hpart
  exact ⟨xs ++ before, start, after ++ ys, by simp, hstart⟩

/-- There is no opening where there is no colon. -/
lemma not_holdsOpening {cs : List Char} (h : ':' ∉ cs) : ¬ HoldsOpening cs := by
  rintro ⟨before, start, after, rfl, hstart⟩
  obtain ⟨d, hd, hform⟩ := hstart.exists_form (show ':' ∈ opening.toList by decide)
  obtain rfl : d = ':' := Text.eq_of_sameLetter (by decide) hform
  exact h (List.mem_append_right _ (List.mem_append_left _ hd))

/-- There are no directives where there is no opening. -/
lemma findAll_eq_nil_of_not_holdsOpening {cs : List Char} (h : ¬ HoldsOpening cs) :
    findAll cs = [] := by
  induction cs with
  | nil => exact findAll_nil
  | cons c cs ih =>
    have hhere : read? (c :: cs) = none :=
      read?_eq_none_iff.2 fun _ _ hstands => h hstands.holdsOpening
    rw [findAll_cons_of_read?_eq_none hhere]
    exact ih fun hlater => h (hlater.of_part (List.suffix_cons c cs).isInfix)

/-- There are no directives where there is no colon. -/
lemma findAll_eq_nil {cs : List Char} (h : ':' ∉ cs) : findAll cs = [] :=
  findAll_eq_nil_of_not_holdsOpening (not_holdsOpening h)

/-- The search passes over a part of the line where no directive starts. -/
lemma findAll_append (before text : List Char)
    (h : ∀ earlier later, before = earlier ++ later → later ≠ [] →
      read? (later ++ text) = none) : findAll (before ++ text) = findAll text := by
  induction before with
  | nil => rfl
  | cons c before ih =>
    have hhere : read? (c :: (before ++ text)) = none := h [] (c :: before) rfl (by simp)
    rw [List.cons_append, findAll_cons_of_read?_eq_none hhere]
    apply ih
    rintro earlier later rfl hlater
    exact h (c :: earlier) later rfl hlater

/-- The search finds the directives that occur in a line.

**Proof sketch.** By induction on the occurrences: the search passes over the part of the line
before the next occurrence, reads it, and goes on behind it. -/
lemma Found.findAll_eq {line : List Char} {found : List Occurrence} (h : Found line found) :
    findAll line = found.map (·.directive) := by
  induction h with
  | @none line hnone =>
    have hpass : findAll (line ++ []) = findAll [] := by
      apply findAll_append
      intro earlier later heq _
      exact read?_eq_none_iff.2 (hnone earlier (later ++ []) (by simpa using heq))
    rw [List.append_nil, findAll_nil] at hpass
    rw [hpass, List.map_nil]
  | @next before text rest o others hfirst hstands _ ih =>
    rw [findAll_append, findAll_of_read? hstands.read?_eq, ih, List.map_cons]
    rintro earlier later rfl hlater
    refine read?_eq_none_iff.2 (hfirst earlier _ (by simp) ?_)
    simpa [List.length_pos_iff] using hlater

/-- A character at which no occurrence starts can be put in front of a line.

**Proof sketch.** An earlier place for the first occurrence would be the new character itself, or a
place in the old line. -/
lemma Found.cons {c : Char} {cs : List Char} {found : List Occurrence} (h : Found cs found)
    (hhere : ∀ o rest, ¬ Stands (c :: cs) o rest) : Found (c :: cs) found := by
  cases h with
  | none hnone =>
    refine .none ?_
    intro before text heq
    cases before with
    | nil =>
      rw [List.nil_append] at heq
      rwa [← heq]
    | cons d before => exact hnone before text (List.cons.inj heq).2
  | @next before text rest o others hfirst hstands hothers =>
    rw [← List.cons_append]
    refine .next ?_ hstands hothers
    intro earlier text' heq hlt
    cases earlier with
    | nil =>
      rw [List.cons_append, List.nil_append] at heq
      rwa [← heq]
    | cons d earlier => exact hfirst earlier text' (List.cons.inj heq).2 (by simpa using hlt)

/-- Every line has its occurrences. -/
lemma exists_found (line : List Char) : ∃ found, Found line found := by
  fun_induction findAll line with
  | case1 =>
    refine ⟨[], .none ?_⟩
    rintro before text heq o rest hstands
    obtain rfl : text = [] := by simpa using (List.append_eq_nil_iff.1 heq.symm).2
    exact read?_eq_none_iff.1 rfl o rest hstands
  | case2 c cs directive rest hread ih =>
    obtain ⟨others, hothers⟩ := ih
    obtain ⟨asked, hstands⟩ := exists_stands_of_read? hread
    have hline : Found ([] ++ c :: cs) (⟨asked, directive⟩ :: others) :=
      .next (by simp) hstands hothers
    exact ⟨_, hline⟩
  | case3 c cs hread ih =>
    obtain ⟨found, hfound⟩ := ih
    exact ⟨found, hfound.cons (read?_eq_none_iff.1 hread)⟩

/-- Every occurrence of a line stands somewhere in it. -/
lemma Found.exists_stands {line : List Char} {found : List Occurrence} (h : Found line found)
    {o : Occurrence} (ho : o ∈ found) : ∃ text rest, Stands text o rest := by
  induction h with
  | none => simp at ho
  | next _ hstands _ ih =>
    rcases List.mem_cons.1 ho with rfl | hothers
    · exact ⟨_, _, hstands⟩
    · exact ih hothers

/-- The scope of an occurrence can be told from the length of its keyword. -/
lemma Stands.occurrence_eq {text rest : List Char} {o : Occurrence} (h : Stands text o rest) :
    occurrence o.directive = o := by
  cases h with
  | intro _ _ hword hspells _ _ _ _ =>
    unfold occurrence
    rw [hspells.length_eq, Scope.ofLength_of_mem_keywords hword]

/-- **The search finds exactly the occurrences of a line**, and every line has them. -/
theorem found_iff {line : List Char} {found : List Occurrence} :
    Found line found ↔ found = (findAll line).map occurrence := by
  have hforward : ∀ {found}, Found line found → found = (findAll line).map occurrence := by
    intro found h
    have hself : ∀ o ∈ found, occurrence o.directive = o := by
      intro o ho
      obtain ⟨text, rest, hstands⟩ := h.exists_stands ho
      exact hstands.occurrence_eq
    rw [h.findAll_eq, List.map_map]
    exact (List.map_id found).symm.trans (List.map_congr_left fun o ho => (hself o ho).symm)
  refine ⟨hforward, ?_⟩
  rintro rfl
  obtain ⟨found, hfound⟩ := exists_found line
  rwa [← hforward hfound]

end Directive

end SourceLint
