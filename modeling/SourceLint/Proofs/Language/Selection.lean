import SourceLint.Proofs.Discovery.Candidates
import SourceLint.Proofs.Text.Letters

set_option autoImplicit false

/-!
# Selecting files by extension

A file is selected in two places. A walk keeps it when its extension, in lower case, is one of the
enabled languages'. A scan goes by the language of the extension, which is looked up without blanks
at its ends as well. No extension of a language holds a blank, so the two agree except on extensions
that end in a blank: the walk leaves them out, and the scan takes them for the extension without it.

## Main definitions

* `Settings.selects` — whether the extension of a path belongs to an enabled language.

## Main results

* `Settings.mem_ids_of_ofOptions` — settings from options enable supported languages only.
* `Language.mem_enabledExtensions_iff` — an extension is enabled with the language that claims it.
* `Settings.selects_iff` — a scan goes by the extension without blanks at its ends.
* `Settings.lower_mem_enabledExtensions_iff` — a walk goes by extensions without such blanks.
-/

namespace SourceLint

/-- Whether the extension of a path belongs to an enabled language. -/
def Settings.selects (settings : Settings) (path : Path) : Bool :=
  (Language.ofExtension? path.extension).any fun language => settings.languages.contains language.id

/-! ### Blanks in texts -/

namespace Text

/-- A text without blanks has none at its ends. -/
lemma strip_eq_self {cs : List Char} (h : ∀ c ∈ cs, isBlank c = false) : strip cs = cs := by
  have hdrop : ∀ ds : List Char, (∀ c ∈ ds, isBlank c = false) → ds.dropWhile isBlank = ds := by
    intro ds hds
    rw [List.dropWhile_eq_self_iff]
    intro hpos
    simp [hds]
  rw [strip, stripEnd, hdrop cs h, hdrop cs.reverse (by simpa using h), List.reverse_reverse]

/-- What starts a text and is no blank stays at its start. -/
lemma exists_strip_cons {c : Char} (h : isBlank c = false) (cs : List Char) :
    ∃ rest, strip (c :: cs) = c :: rest := by
  rw [strip, List.dropWhile_cons_of_neg (by simp [h]), stripEnd, List.reverse_cons,
    List.dropWhile_append]
  split
  · exact ⟨[], by simp [h]⟩
  · exact ⟨(cs.reverse.dropWhile isBlank).reverse, by simp⟩

/-- Blanks have no letter case. -/
lemma lowerAt_of_isBlank {c : Char} (h : isBlank c = true) (afterCased : Bool) (rest : List Char) :
    lowerAt afterCased c rest = [c] := by
  have hall : ∀ range ∈ blankRanges, ∀ i ∈ List.range (range.2 + 1 - range.1),
      Char.ofNat (range.1 + i) ≠ '\u03a3' ∧ Char.ofNat (range.1 + i) ≠ '\u0130' ∧
        lowerChar (Char.ofNat (range.1 + i)) = Char.ofNat (range.1 + i) := by decide
  obtain ⟨range, hrange, hc⟩ := Ranges.contains_iff.1 h
  have hcode : Char.ofNat (range.1 + (c.toNat - range.1)) = c := by
    rw [Nat.add_sub_of_le hc.1, Char.ofNat_toNat]
  obtain ⟨hsigma, hdotted, hlower⟩ := hall range hrange (c.toNat - range.1)
    (List.mem_range.2 (by omega))
  rw [hcode] at hsigma hdotted hlower
  rw [lowerAt, if_neg hsigma, if_neg hdotted, hlower]

/-- The lower-case form of a text holds the blanks of the text. -/
lemma mem_lower_of_isBlank {cs : List Char} {c : Char} (hc : c ∈ cs) (h : isBlank c = true) :
    c ∈ lower cs := by
  obtain ⟨afterCased, rest, hsubset⟩ := exists_lowerAt_subset_lower hc
  rw [lowerAt_of_isBlank h] at hsubset
  exact hsubset (List.mem_singleton_self c)

end Text

/-! ### The extensions of languages -/

namespace Language

/-- Every extension is claimed by the language that lists it. -/
lemma id_claiming? {language : Language} {extension : String} (hlanguage : language ∈ all)
    (h : extension ∈ language.extensions) :
    (claiming? extension).map (·.id) = some language.id := by
  have hall : ∀ language ∈ all, ∀ extension ∈ language.extensions,
      (claiming? extension).map (·.id) = some language.id := by decide
  exact hall language hlanguage extension h

/-- The names of the languages are normal already. -/
lemma normalized_of_mem_ids {id : String} (h : id ∈ ids) : normalized id = id := by
  have hall : ∀ id ∈ ids, normalized id = id := by decide
  exact hall id h

/-- **An extension is enabled with the language that claims it.** -/
lemma mem_enabledExtensions_iff {names : List String} (hnames : ∀ name ∈ names, name ∈ ids)
    {extension : String} :
    extension ∈ enabledExtensions names ↔
      ∃ language, claiming? extension = some language ∧ language.id ∈ names := by
  have hnormalized : names.map normalized = names := by
    rw [List.map_congr_left fun name hname => normalized_of_mem_ids (hnames name hname),
      List.map_id']
  simp only [enabledExtensions, hnormalized, List.mem_flatMap, List.mem_filter,
    List.contains_iff_mem]
  constructor
  · rintro ⟨language, ⟨hlanguage, hid⟩, hextension⟩
    obtain ⟨claiming, hclaiming, heq⟩ :=
      Option.map_eq_some_iff.1 (id_claiming? hlanguage hextension)
    exact ⟨claiming, hclaiming, heq ▸ hid⟩
  · rintro ⟨language, hclaiming, hid⟩
    have hextension := List.find?_some hclaiming
    exact ⟨language, ⟨List.mem_of_find?_eq_some hclaiming, hid⟩, by simpa using hextension⟩

/-- No extension of a language holds a blank. -/
lemma isBlank_of_mem_enabledExtensions {names : List String} {extension : String}
    (h : extension ∈ enabledExtensions names) : ∀ c ∈ extension.toList, Text.isBlank c = false := by
  have hall : ∀ language ∈ all, ∀ extension ∈ language.extensions,
      extension.toList.all (fun c => !Text.isBlank c) = true := by decide
  obtain ⟨language, hlanguage, hextension⟩ := List.mem_flatMap.1 h
  simpa using hall language (List.mem_filter.1 hlanguage).1 extension hextension

/-- What starts with a dot is looked up as it is, once it is normalized. -/
lemma ofExtension?_eq_claiming? {extension : String}
    (h : extension = "" ∨ extension.toList.head? = some '.') :
    ofExtension? extension = claiming? (normalized extension) := by
  rcases h with rfl | hdot
  · rfl
  · obtain ⟨tail, htail⟩ := List.head?_eq_some_iff.1 hdot
    obtain ⟨rest, hrest⟩ := Text.exists_strip_cons (by decide : Text.isBlank '.' = false) tail
    obtain ⟨more, hmore⟩ : ∃ more, Text.lower ('.' :: rest) = '.' :: more := by
      rw [Text.lower, Text.lowerFrom, Text.lowerAt_of_lt (by decide)]
      exact ⟨_, rfl⟩
    have hnormalized : normalized extension = String.ofList ('.' :: more) := by
      rw [normalized, Text.lowerString, Text.stripString, htail, hrest, String.toList_ofList, hmore]
    rw [ofExtension?, hnormalized, String.toList_ofList]
    rfl

end Language

/-- The extension of a path is that of its last name. -/
lemma Path.extension_append_concat (path : Path) (names : List String) (name : String) :
    (path.append (names ++ [name])).extension = extensionOf name := by
  simp [extension, lastName, append]

/-- An extension is empty or starts with a dot. -/
lemma Path.head?_extension (path : Path) :
    path.extension = "" ∨ path.extension.toList.head? = some '.' := by
  unfold Path.extension Path.extensionOf
  simp only
  split
  · exact .inl rfl
  · exact .inl rfl
  · exact .inl rfl
  · exact .inr (by simp)

namespace Settings

variable {settings : Settings}

/-- The languages of a selection are supported. -/
lemma mem_ids_of_normalizeLanguages {values languages : List String}
    (h : normalizeLanguages values = .ok languages) : ∀ name ∈ languages, name ∈ Language.ids := by
  unfold normalizeLanguages at h
  simp only at h
  split at h
  · cases h
  · rename_i hknown
    intro name hname
    obtain rfl := Except.ok.inj h
    split at hname
    · exact hname
    · simpa using List.find?_eq_none.1 hknown name (List.mem_eraseDups.1 hname)

/-- **Settings from options enable supported languages only.** -/
lemma mem_ids_of_ofOptions {options : Options} {surroundings : Surroundings}
    (h : Settings.ofOptions options surroundings = .ok settings) :
    ∀ name ∈ settings.languages, name ∈ Language.ids := by
  unfold ofOptions at h
  simp only at h
  split at h
  · obtain ⟨format, -, h⟩ := bind_eq_ok_iff.1 h
    obtain ⟨workers, -, h⟩ := bind_eq_ok_iff.1 h
    obtain ⟨languages, hlanguages, h⟩ := bind_eq_ok_iff.1 h
    obtain rfl := Except.ok.inj h
    exact mem_ids_of_normalizeLanguages hlanguages
  · obtain ⟨format, hformat, -⟩ := bind_eq_ok_iff.1 h
    cases hformat

/-- **A scan goes by the extension without blanks at its ends.** -/
lemma selects_iff (hlanguages : ∀ name ∈ settings.languages, name ∈ Language.ids) (path : Path) :
    settings.selects path = true ↔
      Language.normalized path.extension ∈ Language.enabledExtensions settings.languages := by
  rw [Language.mem_enabledExtensions_iff hlanguages, selects,
    Language.ofExtension?_eq_claiming? path.head?_extension, Option.any_eq_true]
  simp

/-- **A walk goes by extensions without blanks at their ends.** -/
lemma lower_mem_enabledExtensions_iff {extension : String} :
    Text.lowerString extension ∈ Language.enabledExtensions settings.languages ↔
      Text.stripString extension = extension ∧
        Language.normalized extension ∈ Language.enabledExtensions settings.languages := by
  constructor
  · intro h
    have hstrip : Text.stripString extension = extension := by
      rw [Text.stripString, Text.strip_eq_self, String.ofList_toList]
      intro c hc
      rw [Bool.eq_false_iff]
      intro hblank
      have hlower : c ∈ (Text.lowerString extension).toList := by
        simpa [Text.lowerString] using Text.mem_lower_of_isBlank hc hblank
      rw [Language.isBlank_of_mem_enabledExtensions h c hlower] at hblank
      simp at hblank
    exact ⟨hstrip, by rwa [Language.normalized, hstrip]⟩
  · rintro ⟨hstrip, h⟩
    rwa [Language.normalized, hstrip] at h

end Settings

end SourceLint
