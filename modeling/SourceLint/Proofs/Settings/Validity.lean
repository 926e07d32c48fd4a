import SourceLint.Proofs.Language.Selection
import SourceLint.Proofs.Text.Mentions

set_option autoImplicit false

/-!
# Settings are valid

Options come as people write them, and the environment as it happens to be. Whatever they hold,
there are two outcomes only. Either the options are refused, for a format, a number of workers or a
language that does not exist; the environment has no say in this. Or there are settings, and these
are valid: the workers are within their bounds, and the languages are known ones, each named once,
in the order of first mention.

Languages are named in values, each of which may hold several names between commas. How the names
are spread over the values makes no difference, nor does it to choose once more what was chosen.

## Main definitions

* `Options.IsRefused` — a format, a number of workers or a language does not exist.
* `Settings.IsValid` — what can be relied on in settings.

## Main results

* `workerCount_bounds` — there are workers, and not too many.
* `mem_selectedNames_iff` — the names in a selection.
* `isFirstMentions_of_normalizeLanguages` — languages are chosen in the order of first mention.
* `selectedNames_joinWith` — names may be joined by commas.
* `Settings.exists_ofOptions_error_iff` — the options that are refused.
* `Settings.ofOptions_valid_or_refused` — valid settings, or none.
-/

namespace SourceLint

/-! ### Workers -/

/-- **There are workers, and not too many**, whatever is asked for and whatever the machine. -/
lemma workerCount_bounds {limit : Int} (hlimit : 1 ≤ limit) (raw : Option String)
    (fallback processors : Option Int) :
    1 ≤ workerCount raw fallback limit processors ∧
      workerCount raw fallback limit processors ≤ limit := by
  unfold workerCount
  simp only
  generalize fallback.getD _ = usual
  split
  · omega
  · split
    · omega
    · split
      · split <;> omega
      · omega

/-- Chosen workers are within their bounds. -/
lemma bounds_of_chosenWorkers {options : Options} {surroundings : Surroundings} {workers : Int}
    (h : chosenWorkers options surroundings = .ok workers) : 1 ≤ workers ∧ workers ≤ maxWorkers := by
  unfold chosenWorkers at h
  split at h
  · split at h
    · cases h
    · cases h
      unfold maxWorkers
      omega
  · cases h
    exact workerCount_bounds (by decide) _ _ _

/-- Workers are refused when none are asked for, or fewer. -/
lemma chosenWorkers_eq_error_iff {options : Options} {surroundings : Surroundings} :
    (∃ error, chosenWorkers options surroundings = .error error) ↔
      ∃ count, options.workers = some count ∧ count ≤ 0 := by
  unfold chosenWorkers
  cases options.workers with
  | none => simp
  | some count =>
    simp only
    split <;> simp_all

/-! ### Formats -/

/-- The format of a name has this name. -/
lemma OutputFormat.name_of_ofName? {name : String} {format : OutputFormat}
    (h : ofName? name = some format) : format.name = Language.normalized name := by
  simpa using List.find?_some h

/-- A format is unknown when it is none of the two. -/
lemma OutputFormat.ofName?_eq_none_iff {name : String} :
    ofName? name = none ↔ Language.normalized name ∉ ["terminal", "json"] := by
  have hnames : ["terminal", "json"] = all.map OutputFormat.name := rfl
  rw [hnames, ofName?, List.find?_eq_none]
  simp only [List.mem_map, not_exists, not_and, beq_iff_eq]

/-! ### Names of languages -/

/-- A text of blanks only is left empty, and no other one. -/
lemma Text.strip_eq_nil_iff {cs : List Char} : strip cs = [] ↔ ∀ c ∈ cs, isBlank c = true := by
  rw [strip, stripEnd, List.reverse_eq_nil_iff, List.dropWhile_eq_nil_iff]
  simp only [List.mem_reverse]
  constructor
  · intro h c hc
    by_contra hblank
    have hkept : c ∈ cs.dropWhile isBlank := by
      rw [← List.takeWhile_append_dropWhile (p := isBlank) (l := cs), List.mem_append] at hc
      exact hc.resolve_left fun hfront => hblank (List.mem_takeWhile_imp hfront)
    exact hblank (h c hkept)
  · exact fun h c hc => h c ((List.dropWhile_suffix _).subset hc)

/-- Nothing is left of a part if and only if it is blank. -/
lemma Language.normalized_eq_empty_iff {part : String} :
    normalized part = "" ↔ ∀ c ∈ part.toList, Text.isBlank c = true := by
  have hlower (cs : List Char) : Text.lower cs = [] ↔ cs = [] := by
    constructor
    · exact fun h => by_contra fun hne => Text.lower_ne_nil hne h
    · rintro rfl
      rfl
  rw [normalized, Text.lowerString, Text.stripString, String.toList_ofList, ← Text.strip_eq_nil_iff,
    ← hlower]
  simp

/-- **The names in a selection** are the parts between commas that are not blank, without blanks at
their ends and in lower case. -/
lemma mem_selectedNames_iff {values : List String} {name : String} :
    name ∈ selectedNames values ↔
      ∃ value ∈ values, ∃ part ∈ Text.splitString ',' value,
        (∃ c ∈ part.toList, Text.isBlank c = false) ∧ Language.normalized part = name := by
  have hblank (part : String) :
      (∃ c ∈ part.toList, Text.isBlank c = false) ↔ Language.normalized part ≠ "" := by
    rw [Ne, Language.normalized_eq_empty_iff]
    simp
  simp only [selectedNames, List.mem_filter, List.mem_map, List.mem_flatMap, hblank,
    bne_iff_ne]
  constructor
  · rintro ⟨⟨part, ⟨value, hvalue, hpart⟩, rfl⟩, hne⟩
    exact ⟨value, hvalue, part, hpart, hne, rfl⟩
  · rintro ⟨value, hvalue, part, hpart, hne, rfl⟩
    exact ⟨⟨part, ⟨value, hvalue, hpart⟩, rfl⟩, hne⟩

/-- A selection is refused for a name that is unknown. -/
lemma normalizeLanguages_eq_error_iff {values : List String} :
    (∃ error, normalizeLanguages values = .error error) ↔
      ∃ name ∈ selectedNames values, name ∉ Language.ids := by
  unfold normalizeLanguages
  simp only
  cases hfind : (selectedNames values).find? fun name => !Language.ids.contains name with
  | none =>
    have hknown := List.find?_eq_none.1 hfind
    simp only [Bool.not_eq_true', Bool.not_eq_false, List.contains_iff_mem] at hknown
    simpa using hknown
  | some name =>
    refine ⟨fun _ => ⟨name, List.mem_of_find?_eq_some hfind, ?_⟩, fun _ => ⟨_, rfl⟩⟩
    simpa using List.find?_some hfind

/-- A selection without names chooses all languages. -/
lemma normalizeLanguages_of_nil {values : List String} (h : selectedNames values = []) :
    normalizeLanguages values = .ok Language.ids := by
  rw [normalizeLanguages, h]
  rfl

/-- **A selection with names chooses these, in the order of first mention.** -/
lemma isFirstMentions_of_normalizeLanguages {values languages : List String}
    (hne : selectedNames values ≠ []) (h : normalizeLanguages values = .ok languages) :
    Text.IsFirstMentions (selectedNames values) languages := by
  unfold normalizeLanguages at h
  simp only at h
  split at h
  · cases h
  · cases h
    rw [if_neg (by simpa using hne)]
    exact Text.isFirstMentions_eraseDups _

/-- A selection chooses all languages, or those that it names. -/
lemma cases_of_normalizeLanguages {values languages : List String}
    (h : normalizeLanguages values = .ok languages) :
    (selectedNames values = [] ∧ languages = Language.ids) ∨
      (selectedNames values ≠ [] ∧ Text.IsFirstMentions (selectedNames values) languages) := by
  by_cases hnames : selectedNames values = []
  · rw [normalizeLanguages_of_nil hnames] at h
    exact .inl ⟨hnames, (Except.ok.inj h).symm⟩
  · exact .inr ⟨hnames, isFirstMentions_of_normalizeLanguages hnames h⟩

/-- There is always a language. -/
lemma ne_nil_of_normalizeLanguages {values languages : List String}
    (h : normalizeLanguages values = .ok languages) : languages ≠ [] := by
  obtain ⟨-, rfl⟩ | ⟨hnames, hfirst⟩ := cases_of_normalizeLanguages h
  · decide
  · obtain ⟨name, hname⟩ := List.exists_mem_of_ne_nil _ hnames
    exact List.ne_nil_of_mem ((hfirst.mem_iff name).2 hname)

/-- No language is chosen twice. -/
lemma nodup_of_normalizeLanguages {values languages : List String}
    (h : normalizeLanguages values = .ok languages) : languages.Nodup := by
  obtain ⟨-, rfl⟩ | ⟨-, hfirst⟩ := cases_of_normalizeLanguages h
  · decide
  · exact hfirst.nodup

/-! ### Names joined by commas -/

/-- The names that are selected by two lists of values. -/
lemma selectedNames_append (values others : List String) :
    selectedNames (values ++ others) = selectedNames values ++ selectedNames others := by
  simp [selectedNames]

/-- A comma between two values makes no difference to the names in them. -/
lemma selectedNames_comma (value other : String) :
    selectedNames [value ++ "," ++ other] = selectedNames [value, other] := by
  have hchars : (value ++ "," ++ other).toList = value.toList ++ ',' :: other.toList := by
    simp
  simp [selectedNames, Text.splitString, hchars, Text.splitWhere_append_cons]

/-- **Names may be joined by commas**: values with commas between them are the same selection. -/
lemma selectedNames_joinWith (values : List String) :
    selectedNames [Text.joinWith "," values] = selectedNames values := by
  induction values with
  | nil => decide
  | cons value values ih =>
    cases values with
    | nil => rfl
    | cons next values =>
      rw [Text.joinWith, selectedNames_comma, ← List.singleton_append, selectedNames_append, ih,
        ← selectedNames_append, List.singleton_append]
      simp

/-- Values may be joined in any groups. -/
lemma selectedNames_groups (groups : List (List String)) :
    selectedNames (groups.map (Text.joinWith ",")) = selectedNames groups.flatten := by
  induction groups with
  | nil => rfl
  | cons group groups ih =>
    rw [List.map_cons, ← List.singleton_append, selectedNames_append, selectedNames_joinWith, ih,
      ← selectedNames_append, List.flatten_cons]

/-- The names of languages name themselves. -/
lemma selectedNames_of_known {languages : List String}
    (h : ∀ name ∈ languages, name ∈ Language.ids) : selectedNames languages = languages := by
  have hall : ∀ name ∈ Language.ids, selectedNames [name] = [name] := by decide
  induction languages with
  | nil => rfl
  | cons name languages ih =>
    obtain ⟨hname, hlanguages⟩ := List.forall_mem_cons.1 h
    rw [← List.singleton_append, selectedNames_append, hall name hname, ih hlanguages]

/-- **What was chosen is chosen again.** -/
lemma normalizeLanguages_idempotent {values languages : List String}
    (h : normalizeLanguages values = .ok languages) :
    normalizeLanguages languages = .ok languages := by
  have hknown := Settings.mem_ids_of_normalizeLanguages h
  have hfind : languages.find? (fun name => !Language.ids.contains name) = none := by
    simpa [List.find?_eq_none] using hknown
  have hne : languages.isEmpty = false := by simpa using ne_nil_of_normalizeLanguages h
  rw [normalizeLanguages, selectedNames_of_known hknown]
  simp only [hfind, hne, Bool.false_eq_true, if_false,
    Text.eraseDups_of_nodup (nodup_of_normalizeLanguages h)]

/-! ### Settings -/

/-- Options ask for a format, a number of workers or a language that does not exist. -/
inductive Options.IsRefused (options : Options) : Prop
  /-- The format, without blanks at its ends and in lower case, is unknown. -/
  | format (h : Language.normalized options.format ∉ ["terminal", "json"])
  /-- Workers are asked for, but none or fewer. -/
  | workers (count : Int) (h : options.workers = some count) (hcount : count ≤ 0)
  /-- A part between commas that is not blank names no language. -/
  | language (value part : String) (hvalue : value ∈ options.languages)
      (hpart : part ∈ Text.splitString ',' value)
      (hblank : ∃ c ∈ part.toList, Text.isBlank c = false)
      (hunknown : Language.normalized part ∉ Language.ids)

/-- What can be relied on in settings that come from options. -/
structure Settings.IsValid (settings : Settings) (options : Options) : Prop where
  one_le_workers : 1 ≤ settings.workers
  workers_le : settings.workers ≤ 32
  /-- The format is the one that was asked for. -/
  format : settings.format.name = Language.normalized options.format
  known_format : settings.format.name ∈ ["terminal", "json"]
  languages_ne_nil : settings.languages ≠ []
  nodup_languages : settings.languages.Nodup
  known_languages : ∀ name ∈ settings.languages, name ∈ Language.ids
  /-- Where no language is named, all of them are chosen, in the order of listings. -/
  all_languages : selectedNames options.languages = [] → settings.languages = Language.ids
  /-- Languages that are named are chosen in the order of first mention. -/
  first_mentions : selectedNames options.languages ≠ [] →
    Text.IsFirstMentions (selectedNames options.languages) settings.languages

namespace Settings

variable {options : Options} {surroundings : Surroundings} {settings : Settings}

/-- Options with an unknown format are refused. -/
lemma ofOptions_of_unknown_format (h : OutputFormat.ofName? options.format = none) :
    Settings.ofOptions options surroundings = .error (.unknownFormat options.format) := by
  unfold ofOptions
  rw [h]
  rfl

/-- Options whose number of workers is refused are refused for that reason. -/
lemma ofOptions_of_workers {format : OutputFormat} {error : ConfigError}
    (hformat : OutputFormat.ofName? options.format = some format)
    (hworkers : chosenWorkers options surroundings = .error error) :
    Settings.ofOptions options surroundings = .error error := by
  unfold ofOptions
  rw [hformat, hworkers]
  rfl

/-- Behind the format and the workers, settings are a matter of the languages. -/
lemma ofOptions_eq {format : OutputFormat} {workers : Int}
    (hformat : OutputFormat.ofName? options.format = some format)
    (hworkers : chosenWorkers options surroundings = .ok workers) :
    Settings.ofOptions options surroundings =
      (normalizeLanguages options.languages).map fun languages =>
        { languages := languages, workers := workers, format := format,
          color := options.color.getD surroundings.wantsColor } := by
  unfold ofOptions
  rw [hformat, hworkers]
  cases normalizeLanguages options.languages <;> rfl

/-- What settings from options go by. -/
lemma of_ofOptions (h : Settings.ofOptions options surroundings = .ok settings) :
    OutputFormat.ofName? options.format = some settings.format ∧
      chosenWorkers options surroundings = .ok settings.workers ∧
      normalizeLanguages options.languages = .ok settings.languages ∧
      settings.skippedDirectories = defaultSkippedDirectories := by
  cases hformat : OutputFormat.ofName? options.format with
  | none =>
    rw [ofOptions_of_unknown_format hformat] at h
    cases h
  | some format =>
    cases hworkers : chosenWorkers options surroundings with
    | error error =>
      rw [ofOptions_of_workers hformat hworkers] at h
      cases h
    | ok workers =>
      rw [ofOptions_eq hformat hworkers] at h
      cases hlanguages : normalizeLanguages options.languages with
      | error error =>
        rw [hlanguages] at h
        cases h
      | ok languages =>
        rw [hlanguages] at h
        cases h
        exact ⟨rfl, rfl, rfl, rfl⟩

/-- **The options that are refused**, whatever the environment. -/
lemma exists_ofOptions_error_iff :
    (∃ error, Settings.ofOptions options surroundings = .error error) ↔ options.IsRefused := by
  cases hformat : OutputFormat.ofName? options.format with
  | none =>
    exact ⟨fun _ => .format (OutputFormat.ofName?_eq_none_iff.1 hformat),
      fun _ => ⟨_, ofOptions_of_unknown_format hformat⟩⟩
  | some format =>
    cases hworkers : chosenWorkers options surroundings with
    | error error =>
      obtain ⟨count, hcount, hle⟩ := chosenWorkers_eq_error_iff.1 ⟨error, hworkers⟩
      exact ⟨fun _ => .workers count hcount hle, fun _ => ⟨_, ofOptions_of_workers hformat hworkers⟩⟩
    | ok workers =>
      rw [ofOptions_eq hformat hworkers]
      cases hlanguages : normalizeLanguages options.languages with
      | error error =>
        obtain ⟨name, hname, hunknown⟩ := normalizeLanguages_eq_error_iff.1 ⟨error, hlanguages⟩
        obtain ⟨value, hvalue, part, hpart, hblank, rfl⟩ := mem_selectedNames_iff.1 hname
        exact ⟨fun _ => .language value part hvalue hpart hblank hunknown, fun _ => ⟨_, rfl⟩⟩
      | ok languages =>
        constructor
        · rintro ⟨error, h⟩
          cases h
        · -- each cause contradicts one of the three answers
          rintro (h | ⟨count, h, hle⟩ | ⟨value, part, hvalue, hpart, hblank, hunknown⟩)
          · rw [OutputFormat.ofName?_eq_none_iff.2 h] at hformat
            cases hformat
          · obtain ⟨error, herror⟩ :=
              (@chosenWorkers_eq_error_iff options surroundings).2 ⟨count, h, hle⟩
            rw [hworkers] at herror
            cases herror
          · obtain ⟨error, herror⟩ := normalizeLanguages_eq_error_iff.2
              ⟨_, mem_selectedNames_iff.2 ⟨value, hvalue, part, hpart, hblank, rfl⟩, hunknown⟩
            rw [hlanguages] at herror
            cases herror

/-- **Settings from options are valid.** -/
lemma isValid_of_ofOptions (h : Settings.ofOptions options surroundings = .ok settings) :
    settings.IsValid options := by
  obtain ⟨hformat, hworkers, hlanguages, -⟩ := of_ofOptions h
  obtain ⟨hone, hmax⟩ := bounds_of_chosenWorkers hworkers
  exact {
    one_le_workers := hone
    workers_le := hmax
    format := OutputFormat.name_of_ofName? hformat
    known_format := by cases settings.format <;> decide
    languages_ne_nil := ne_nil_of_normalizeLanguages hlanguages
    nodup_languages := nodup_of_normalizeLanguages hlanguages
    known_languages := mem_ids_of_normalizeLanguages hlanguages
    all_languages := fun hnil =>
      Except.ok.inj (hlanguages.symm.trans (normalizeLanguages_of_nil hnil))
    first_mentions := fun hne => isFirstMentions_of_normalizeLanguages hne hlanguages }

/-- **Valid settings, or none.** For all options, environments and machines, settings are valid
where there are any, and there are none exactly for options that ask for a format, a number of
workers or a language that does not exist. Languages that were chosen are chosen again as they are,
and it makes no difference which of the names are given in one value, with commas between them, and
which in several.

**Proof sketch.** The format, the workers and the languages are found independently of each other;
of each it is told when there is none (`exists_ofOptions_error_iff`) and what it is like otherwise
(`isValid_of_ofOptions`). A comma divides a value like the end of a value (`selectedNames_comma`),
and the names of languages name themselves (`selectedNames_of_known`). -/
theorem ofOptions_valid_or_refused (options : Options) (surroundings : Surroundings) :
    (∀ settings, Settings.ofOptions options surroundings = .ok settings →
      settings.IsValid options) ∧
    ((∃ error, Settings.ofOptions options surroundings = .error error) ↔ options.IsRefused) ∧
    (∀ values languages, normalizeLanguages values = .ok languages →
      normalizeLanguages languages = .ok languages) ∧
    ∀ groups : List (List String),
      normalizeLanguages (groups.map (Text.joinWith ",")) = normalizeLanguages groups.flatten := by
  refine ⟨fun _ => isValid_of_ofOptions, exists_ofOptions_error_iff,
    fun _ _ => normalizeLanguages_idempotent, fun groups => ?_⟩
  rw [normalizeLanguages, normalizeLanguages, selectedNames_groups]

/-- Options in mixed letter case, with blanks and repetitions. -/
def careless : Options where
  languages := ["Python,go", " PYTHON ", "rust,,"]
  format := " JSON "

/-- An environment that asks for far too many workers. -/
def crowded : Surroundings where
  environment := [("SLOPLINT_WORKERS", " 5_00 ")]

/-- Options with repeated, oddly written and grouped names of languages, in an environment that asks
for far too many workers. -/
theorem ofOptions_valid_or_refused_careless :
    ∃ settings, Settings.ofOptions careless crowded = .ok settings ∧ settings.IsValid careless ∧
      settings.workers = 32 ∧ settings.languages = ["python", "go", "rust"] ∧
      normalizeLanguages careless.languages = .ok ["python", "go", "rust"] ∧
      normalizeLanguages ["python", "go", "rust"] = .ok ["python", "go", "rust"] := by
  have hformat : OutputFormat.ofName? careless.format = some .json := by decide
  have hworkers : chosenWorkers careless crowded = .ok 32 := by decide
  have hlanguages : normalizeLanguages careless.languages = .ok ["python", "go", "rust"] := by
    decide +kernel
  have hsettings := ofOptions_eq hformat hworkers
  rw [hlanguages] at hsettings
  obtain ⟨hvalid, -, hagain, -⟩ := ofOptions_valid_or_refused careless crowded
  exact ⟨_, hsettings, hvalid _ hsettings, rfl, rfl, hlanguages, hagain _ _ hlanguages⟩

end Settings

end SourceLint
