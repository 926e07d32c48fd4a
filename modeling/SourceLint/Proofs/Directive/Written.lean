import SourceLint.Proofs.Directive.Occurrence

set_option autoImplicit false

/-!
# Directives as they are written

The usual way to write a directive is the opening, a blank, one of three keywords, an equals sign
and ids in words with hyphens, joined by commas. Such a directive is read back with its scope and
its ids. Characters of an id list behind it belong to its ids as well, blanks and words included, so
what follows on the same line may add ids.

## Main definitions

* `Scope.lead` — what stands before the ids.
* `Directive.IsIdText` — a text that is read as one id.
* `Directive.isKebab` — words of small letters and digits with hyphens between them.
* `Directive.Written` — a directive in the usual form.

## Main results

* `Directive.idsOf_joinWith_of_isIdText` — ids that are joined by commas are read in lower case.
* `Directive.idsOf_joinWith` — ids in the usual form are read back.
* `Directive.findAll_lead` — the directives of a comment that opens with the usual lead.
* `Directive.Written.findAll_comment` — the directives of a comment that opens with a written one.
-/

namespace SourceLint

/-- The keyword with which a scope is usually written. -/
def Scope.keyword : Scope → String
  | .line => "disable"
  | .nextLine => "disable-next-line"
  | .file => "disable-file"

/-- What usually stands before the ids of a directive. -/
def Scope.lead (scope : Scope) : String :=
  "sloplint: " ++ scope.keyword ++ "="

namespace Directive

/-- A text that is read as one id: it has characters, an id list can hold them, and none of them
separates ids. -/
def IsIdText (id : String) : Prop :=
  id.toList ≠ [] ∧ ∀ c ∈ id.toList, isIdListChar c = true ∧ isIdSeparator c = false

/-- A character of an id in the usual form. -/
def isKebabChar (c : Char) : Bool :=
  c.isLower || c.isDigit || c == '-'

/-- Words of small letters and digits with hyphens between them. -/
def isKebab (id : String) : Bool :=
  (Text.splitWhere (· == '-') id.toList).all fun word =>
    !word.isEmpty && word.all fun c => c.isLower || c.isDigit

/-- A directive in the usual form: its scope and its ids, of which there is at least one. -/
structure Written where
  scope : Scope
  ids : List String
  ids_ne_nil : ids ≠ []
  ids_isKebab : ∀ id ∈ ids, isKebab id = true

/-- The text of a written directive. -/
def Written.text (written : Written) : String :=
  "sloplint: " ++ written.scope.keyword ++ "=" ++ Text.joinWith "," written.ids

/-! ### Ids -/

/-- The characters of an identifier in kebab case, by their code points. -/
lemma toNat_of_isKebabChar {c : Char} (h : isKebabChar c = true) :
    c.toNat = 45 ∨ (48 ≤ c.toNat ∧ c.toNat ≤ 57) ∨ (97 ≤ c.toNat ∧ c.toNat ≤ 122) := by
  simp only [isKebabChar, Bool.or_eq_true, Text.isLower_iff, Text.isDigit_iff, beq_iff_eq] at h
  rcases h with (hletter | hdigit) | rfl
  · exact .inr (.inr hletter)
  · exact .inr (.inl hdigit)
  · exact .inl rfl

/-- The characters of an identifier in kebab case. -/
lemma isKebabChar_of_isKebab {id : String} (h : isKebab id = true) :
    ∀ c ∈ id.toList, isKebabChar c = true := by
  intro c hc
  by_cases hhyphen : c = '-'
  · simp [isKebabChar, hhyphen]
  · obtain ⟨word, hword, hmem⟩ : ∃ word ∈ Text.splitWhere (· == '-') id.toList, c ∈ word :=
      Text.exists_mem_splitWhere_of_mem hc (by simpa using hhyphen)
    have hchars := List.all_eq_true.1 h word hword
    simp only [Bool.and_eq_true, List.all_eq_true] at hchars
    rw [isKebabChar, hchars.2 c hmem, Bool.true_or]

/-- An identifier in kebab case is not empty. -/
lemma toList_ne_nil_of_isKebab {id : String} (h : isKebab id = true) : id.toList ≠ [] := by
  intro hnil
  simp [isKebab, hnil, Text.splitWhere] at h

/-- The characters of ids can stand in an id list, and they separate nothing. -/
lemma isIdListChar_of_isKebabChar {c : Char} (h : isKebabChar c = true) :
    isIdListChar c = true ∧ isIdSeparator c = false := by
  have hcode := toNat_of_isKebabChar h
  have hblank : Text.isBlank c = false := Text.isBlank_eq_false (by omega)
  have hcomma : c ≠ ',' := by
    rintro rfl
    exact absurd h (by decide)
  refine ⟨?_, by simp [isIdSeparator, hblank, hcomma]⟩
  simp only [isKebabChar, Bool.or_eq_true, beq_iff_eq] at h
  rcases h with (hletter | hdigit) | rfl
  · simp [isIdListChar, Char.isAlphanum, Char.isAlpha, hletter]
  · simp [isIdListChar, Char.isAlphanum, hdigit]
  · decide

/-- An identifier in kebab case is the text of an identifier. -/
lemma isIdText_of_isKebab {id : String} (h : isKebab id = true) : IsIdText id :=
  ⟨toList_ne_nil_of_isKebab h, fun c hc =>
    isIdListChar_of_isKebabChar (isKebabChar_of_isKebab h c hc)⟩

/-- Ids in the usual form are in lower case. -/
lemma lowerString_of_isKebab {id : String} (h : isKebab id = true) : Text.lowerString id = id := by
  have hchars := isKebabChar_of_isKebab h
  have hplain : Text.IsPlain id.toList := by
    intro c hc
    have hcode := toNat_of_isKebabChar (hchars c hc)
    omega
  have hlower : id.toList.map Char.toLower = id.toList := by
    rw [List.map_congr_left (g := fun c => c), List.map_id']
    intro c hc
    have hcode := toNat_of_isKebabChar (hchars c hc)
    exact Text.toLower_eq_self (by omega)
  rw [Text.lowerString, Text.lower_eq_map hplain, hlower, String.ofList_toList]

/-- The ids on either side of a separator are found separately. -/
lemma idsOf_append_cons {c : Char} (hc : isIdSeparator c = true) (xs ys : List Char) :
    idsOf (xs ++ c :: ys) = idsOf xs ++ idsOf ys := by
  rw [idsOf, Text.wordsWhere_append_cons hc, List.map_append]
  rfl

/-- An id is read in lower case. -/
lemma idsOf_of_isIdText {id : String} (h : IsIdText id) :
    idsOf id.toList = [Text.lowerString id] := by
  rw [idsOf, Text.wordsWhere_eq_singleton h.1 fun c hc => (h.2 c hc).2]
  rfl

/-- An id in the usual form is read as itself. -/
lemma idsOf_of_isKebab {id : String} (h : isKebab id = true) : idsOf id.toList = [id] := by
  rw [idsOf_of_isIdText (isIdText_of_isKebab h), lowerString_of_isKebab h]

/-- Ids that are joined by commas are read in lower case. -/
lemma idsOf_joinWith_of_isIdText {ids : List String} (h : ∀ id ∈ ids, IsIdText id) :
    idsOf (Text.joinWith "," ids).toList = ids.map Text.lowerString := by
  fun_induction Text.joinWith "," ids with
  | case1 => rfl
  | case2 id => exact idsOf_of_isIdText (h id List.mem_cons_self)
  | case3 id rest hrest ih =>
    have hcomma : isIdSeparator ',' = true := by decide
    rw [String.toList_append, String.toList_append,
      show ",".toList = [','] from rfl, List.append_assoc, List.singleton_append,
      idsOf_append_cons hcomma, idsOf_of_isIdText (h id List.mem_cons_self),
      ih fun id hid => h id (List.mem_cons_of_mem _ hid), List.singleton_append, List.map_cons]

/-- Ids in the usual form that are joined by commas are read back. -/
lemma idsOf_joinWith {ids : List String} (h : ∀ id ∈ ids, isKebab id = true) :
    idsOf (Text.joinWith "," ids).toList = ids := by
  rw [idsOf_joinWith_of_isIdText fun id hid => isIdText_of_isKebab (h id hid),
    List.map_congr_left fun id hid => lowerString_of_isKebab (h id hid), List.map_id']

/-- Joined ids consist of their characters and commas. -/
lemma mem_joinWith {ids : List String} {c : Char} (h : c ∈ (Text.joinWith "," ids).toList) :
    c = ',' ∨ ∃ id ∈ ids, c ∈ id.toList := by
  fun_induction Text.joinWith "," ids with
  | case1 => simp at h
  | case2 id => exact .inr ⟨id, List.mem_cons_self, h⟩
  | case3 id rest hrest ih =>
    simp only [String.toList_append, List.mem_append] at h
    rcases h with (hid | hcomma) | htail
    · exact .inr ⟨id, List.mem_cons_self, hid⟩
    · exact .inl (by simpa using hcomma)
    · exact (ih htail).imp_right fun ⟨other, hother, hc⟩ =>
        ⟨other, List.mem_cons_of_mem _ hother, hc⟩

/-- Joined ids are a list of ids on one line. -/
lemma isIdListChar_of_mem_joinWith {ids : List String} (h : ∀ id ∈ ids, IsIdText id) :
    ∀ c ∈ (Text.joinWith "," ids).toList, isIdListChar c = true ∧ c ≠ '\n' := by
  intro c hc
  rcases mem_joinWith hc with rfl | ⟨id, hid, hmem⟩
  · decide
  · obtain ⟨hlist, hseparator⟩ := (h id hid).2 c hmem
    refine ⟨hlist, ?_⟩
    rintro rfl
    exact absurd hseparator (by decide)

/-! ### Reading a directive behind the usual lead -/

/-- A written directive covers what its keyword asks for. -/
lemma ofKeyword_keyword (scope : Scope) : Scope.ofKeyword scope.keyword.toList = scope := by
  cases scope <;> decide

/-- A directive stands where its lead and a list of ids are written. -/
lemma stands_lead (scope : Scope) {list rest : List Char} (hlist : list ≠ [])
    (hids : ∀ c ∈ list, isIdListChar c = true)
    (hrest : ∀ c ∈ rest.head?, isIdListChar c = false) :
    Stands (scope.lead.toList ++ (list ++ rest))
      ⟨scope, ⟨scope.keyword.toList, idsOf list⟩⟩ rest := by
  have htext : scope.lead.toList ++ (list ++ rest) =
      opening.toList ++ ([' '] ++ (scope.keyword.toList ++ ([] ++ '=' :: (list ++ rest)))) := by
    have hopening : "sloplint: ".toList = opening.toList ++ [' '] := by decide
    have hequals : "=".toList = ['='] := rfl
    simp only [Scope.lead, String.toList_append, hopening, hequals, List.append_assoc,
      List.nil_append, List.cons_append]
  rw [htext]
  refine .intro (.refl _) (List.forall_mem_singleton.2 (by decide)) ?_ (.refl _) (by simp) hlist
    hids hrest
  cases scope <;> decide

/-- The directives of a comment that opens with a lead and a list of ids. -/
lemma findAll_lead (scope : Scope) {list rest : List Char} (hlist : list ≠ [])
    (hids : ∀ c ∈ list, isIdListChar c = true)
    (hrest : ∀ c ∈ rest.head?, isIdListChar c = false) :
    findAll ("# ".toList ++ (scope.lead.toList ++ (list ++ rest))) =
      ⟨scope.keyword.toList, idsOf list⟩ :: findAll rest := by
  have hhash : "# ".toList = ['#', ' '] := rfl
  rw [hhash, List.cons_append, List.singleton_append,
    findAll_cons_of_read?_eq_none (read?_cons_eq_none (by decide) _),
    findAll_cons_of_read?_eq_none (read?_cons_eq_none (by decide) _),
    findAll_of_read? (stands_lead scope hlist hids hrest).read?_eq]

namespace Written

/-! ### Reading back -/

variable (written : Written)

/-- The ids of a written directive, as they stand in its text. -/
def list : List Char :=
  (Text.joinWith "," written.ids).toList

/-- The parts of a written directive. -/
lemma toList_text : written.text.toList =
    opening.toList ++ ([' '] ++ (written.scope.keyword.toList ++ ([] ++ '=' :: written.list))) := by
  have hopening : "sloplint: ".toList = opening.toList ++ [' '] := by decide
  have hequals : "=".toList = ['='] := rfl
  simp only [text, list, String.toList_append, hopening, hequals, List.append_assoc,
    List.nil_append, List.cons_append]

/-- A written list of identifiers holds only characters of such lists. -/
lemma isIdListChar_of_mem_list : ∀ c ∈ written.list, isIdListChar c = true := by
  intro c hc
  exact (isIdListChar_of_mem_joinWith
    (fun id hid => isIdText_of_isKebab (written.ids_isKebab id hid)) c hc).1

/-- A written list of identifiers is not empty. -/
lemma list_ne_nil : written.list ≠ [] := by
  intro hnil
  apply written.ids_ne_nil
  rw [← idsOf_joinWith written.ids_isKebab]
  unfold list at hnil
  rw [hnil]
  rfl

/-- The directives of a comment that opens with a written one: the first has the written scope, and
more characters of an id list behind it belong to its ids. -/
lemma findAll_comment (more rest : List Char) (hmore : ∀ c ∈ more, isIdListChar c = true)
    (hrest : ∀ c ∈ rest.head?, isIdListChar c = false) :
    findAll ("# ".toList ++ (written.text.toList ++ (more ++ rest))) =
      ⟨written.scope.keyword.toList, idsOf (written.list ++ more)⟩ :: findAll rest := by
  have htext : written.text.toList ++ (more ++ rest) =
      written.scope.lead.toList ++ ((written.list ++ more) ++ rest) := by
    simp [text, list, Scope.lead]
  have hids : ∀ c ∈ written.list ++ more, isIdListChar c = true := by
    intro c hc
    rcases List.mem_append.1 hc with hlist | hmore'
    · exact written.isIdListChar_of_mem_list c hlist
    · exact hmore c hmore'
  rw [htext, findAll_lead written.scope (by simp [written.list_ne_nil]) hids hrest]

end Written

end Directive

end SourceLint
