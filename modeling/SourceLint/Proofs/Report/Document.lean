import Mathlib.Data.List.Forall2
import SourceLint.Proofs.Json.RoundTrip
import SourceLint.Report.Document

set_option autoImplicit false

/-!
# The document holds the summary

The text of a document is JSON for one value only, and this value has, member by member, what the
summary has: the number of files scanned, a record for every diagnostic in order, with a note where
the diagnostic has one, and the file, language and error of every result in error in order. A reader
of the document therefore gets all of these back, and only these: the text does not show what else a
result in error holds.

## Main definitions

* `FileResult.reported` — what a document says of a result in error.
* `Json.IsRecordOf` — the value is a record of the diagnostic.
* `Json.IsErrorOf` — the value is a record of the error.
* `Json.IsDocumentOf` — the value is a document of the summary.

## Main results

* `Diagnostic.isRecordOf_toJson`, `Json.rightUnique_isRecordOf` — the record of a diagnostic holds
  it.
* `Summary.isDocumentOf_toJson` — the document holds what it says of the summary.
* `Report.renderDocument_holds_summary` — so does the text.
-/

namespace SourceLint

/-- What a document says of a result in error. -/
def FileResult.reported (result : FileResult) : String × Option String × Option String :=
  (result.file, result.language, result.error)

namespace Json

/-- The names of an object's members, in order. -/
def names? (json : Json) : Option (List String) :=
  json.object?.map fun members => members.map Prod.fst

/-- The value is a record of the diagnostic. It has a note if and only if the diagnostic has one,
even if that is empty. -/
structure IsRecordOf (json : Json) (diagnostic : Diagnostic) : Prop where
  names : json.names? = some (["rule", "message"] ++
    (if diagnostic.note.isSome then ["note"] else []) ++ ["file", "line", "column", "text"])
  rule : json.member? "rule" = some (.string diagnostic.rule)
  message : json.member? "message" = some (.string diagnostic.message)
  note : json.member? "note" = diagnostic.note.map .string
  file : json.member? "file" = some (.string diagnostic.file)
  line : json.member? "line" = some (.number diagnostic.line)
  column : json.member? "column" = some (.number diagnostic.column)
  text : json.member? "text" = some (.string diagnostic.text)

/-- The value is a record of the file, language and error. -/
structure IsErrorOf (json : Json) (reported : String × Option String × Option String) : Prop where
  names : json.names? = some ["file", "language", "error"]
  file : json.member? "file" = some (.string reported.1)
  language : json.member? "language" = some (.ofString? reported.2.1)
  error : json.member? "error" = some (.ofString? reported.2.2)

/-- The value is a document of the summary. -/
structure IsDocumentOf (json : Json) (summary : Summary) : Prop where
  names : json.names? =
    some ["schema_version", "tool", "files_scanned", "diagnostics", "errors"]
  version : json.member? "schema_version" = some (.number 1)
  tool : json.member? "tool" =
    some (.object [("name", .string "sloplint"), ("version", .string toolVersion)])
  filesScanned : json.member? "files_scanned" = some (.number summary.filesScanned)
  diagnostics : ∃ records, json.member? "diagnostics" = some (.array records) ∧
    List.Forall₂ IsRecordOf records summary.diagnostics
  errors : ∃ records, json.member? "errors" = some (.array records) ∧
    List.Forall₂ IsErrorOf records (summary.errors.map FileResult.reported)

/-! ### A document determines what it holds -/

/-- Optional texts that differ are written as different values. -/
lemma ofString?_injective : Function.Injective ofString? := by
  intro first second h
  cases first <;> cases second <;> simp_all [ofString?, ofOption]

/-- **A record determines the diagnostic.** -/
lemma rightUnique_isRecordOf : Relator.RightUnique IsRecordOf := by
  intro json first second hfirst hsecond
  have hrule := hfirst.rule.symm.trans hsecond.rule
  have hmessage := hfirst.message.symm.trans hsecond.message
  have hnote : first.note = second.note :=
    Option.map_injective (fun _ _ => Json.string.inj) (hfirst.note.symm.trans hsecond.note)
  have hfile := hfirst.file.symm.trans hsecond.file
  have hline := hfirst.line.symm.trans hsecond.line
  have hcolumn := hfirst.column.symm.trans hsecond.column
  have htext := hfirst.text.symm.trans hsecond.text
  cases first
  cases second
  simp_all

/-- A record determines the file, language and error. -/
lemma rightUnique_isErrorOf : Relator.RightUnique IsErrorOf := by
  rintro json ⟨file, language, error⟩ ⟨file', language', error'⟩ hfirst hsecond
  have hfile := hfirst.file.symm.trans hsecond.file
  have hlanguage : language = language' :=
    ofString?_injective (Option.some.inj (hfirst.language.symm.trans hsecond.language))
  have herror : error = error' :=
    ofString?_injective (Option.some.inj (hfirst.error.symm.trans hsecond.error))
  simp_all

/-- **A document determines the number of files scanned, the diagnostics and the errors.** -/
lemma IsDocumentOf.determines {json : Json} {first second : Summary}
    (hfirst : json.IsDocumentOf first) (hsecond : json.IsDocumentOf second) :
    first.filesScanned = second.filesScanned ∧ first.diagnostics = second.diagnostics ∧
      first.errors.map FileResult.reported = second.errors.map FileResult.reported := by
  obtain ⟨records, hrecords, hdiagnostics⟩ := hfirst.diagnostics
  obtain ⟨_, hrecords', hdiagnostics'⟩ := hsecond.diagnostics
  obtain ⟨failures, hfailures, herrors⟩ := hfirst.errors
  obtain ⟨_, hfailures', herrors'⟩ := hsecond.errors
  cases hrecords.symm.trans hrecords'
  cases hfailures.symm.trans hfailures'
  have hscanned := hfirst.filesScanned.symm.trans hsecond.filesScanned
  refine ⟨Json.number.inj (Option.some.inj hscanned), ?_, ?_⟩
  · exact rightUnique_isRecordOf.forall₂ hdiagnostics hdiagnostics'
  · exact rightUnique_isErrorOf.forall₂ herrors herrors'

end Json

/-! ### The document of a summary -/

/-- A diagnostic is written as a record of it. -/
lemma Diagnostic.isRecordOf_toJson (diagnostic : Diagnostic) :
    diagnostic.toJson.IsRecordOf diagnostic := by
  obtain ⟨rule, message, note, file, line, column, text⟩ := diagnostic
  cases note with
  | none => constructor <;> rfl
  | some note => constructor <;> rfl

/-- The error of a result is written as a record of it. -/
lemma FileResult.isErrorOf_errorToJson (result : FileResult) :
    result.errorToJson.IsErrorOf result.reported := by
  constructor <;> rfl

/-- **The document of a summary holds what it says of the summary.** -/
lemma Summary.isDocumentOf_toJson (summary : Summary) : summary.toJson.IsDocumentOf summary where
  names := rfl
  version := rfl
  tool := rfl
  filesScanned := rfl
  diagnostics := by
    refine ⟨summary.diagnostics.map Diagnostic.toJson, rfl, ?_⟩
    rw [List.forall₂_map_left_iff, List.forall₂_same]
    exact fun diagnostic _ => diagnostic.isRecordOf_toJson
  errors := by
    refine ⟨summary.errors.map FileResult.errorToJson, rfl, ?_⟩
    rw [List.forall₂_map_left_iff, List.forall₂_map_right_iff, List.forall₂_same]
    exact fun result _ => result.isErrorOf_errorToJson

/-- Two summaries have the same document if and only if they agree in what a document says. -/
lemma Summary.toJson_eq_iff (summary other : Summary) :
    summary.toJson = other.toJson ↔
      summary.filesScanned = other.filesScanned ∧ summary.diagnostics = other.diagnostics ∧
        summary.errors.map FileResult.reported = other.errors.map FileResult.reported := by
  constructor
  · intro h
    exact summary.isDocumentOf_toJson.determines (h ▸ other.isDocumentOf_toJson)
  · rintro ⟨hscanned, hdiagnostics, herrors⟩
    -- the record of an error is made of nothing but what is reported
    have hreported : FileResult.errorToJson =
        (fun reported : String × Option String × Option String =>
          Json.object [("file", .string reported.1), ("language", .ofString? reported.2.1),
            ("error", .ofString? reported.2.2)]) ∘ FileResult.reported := rfl
    simp only [Summary.toJson, Json.ofList, hscanned, hdiagnostics, hreported]
    rw [← List.map_map, herrors, List.map_map]

namespace Report

/-- **The text of a document holds the summary**: it denotes the document of the summary and
nothing else, it is read as that document, and summaries with the same text have the same number of
files scanned, the same diagnostics and the same reported errors.

**Proof sketch.** What is written denotes its value, and a text is read as what it denotes; so the
text determines the document, and the document determines what it says of the summary. -/
theorem renderDocument_holds_summary (summary : Summary) :
    (∀ json, Json.Denotes (renderDocument summary).toList json ↔ json = summary.toJson) ∧
      Json.parse? (renderDocument summary).toList = some summary.toJson ∧
      summary.toJson.IsDocumentOf summary ∧
      ∀ other, renderDocument summary = renderDocument other ↔
        summary.filesScanned = other.filesScanned ∧ summary.diagnostics = other.diagnostics ∧
          summary.errors.map FileResult.reported = other.errors.map FileResult.reported := by
  have hread (summary : Summary) :
      Json.parse? (renderDocument summary).toList = some summary.toJson :=
    Json.parse?_render summary.toJson
  refine ⟨fun json => ?_, hread summary, summary.isDocumentOf_toJson, fun other => ?_⟩
  · constructor
    · intro h
      exact Option.some.inj ((Json.parse?_of_denotes h).symm.trans (hread summary))
    · rintro rfl
      exact Json.denotes_render summary.toJson
  · rw [← Summary.toJson_eq_iff]
    constructor
    · intro h
      exact Option.some.inj ((hread summary).symm.trans (h ▸ hread other))
    · intro h
      rw [renderDocument, renderDocument, h]

end Report

end SourceLint
