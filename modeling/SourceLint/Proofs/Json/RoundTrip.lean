import Mathlib.Data.List.DropRight
import SourceLint.Proofs.Json.Grammar

set_option autoImplicit false

/-!
# Reading JSON texts

The reader gives every text of the grammar the value that the text denotes, so a text denotes one
value at most. What is written denotes the value that it was written for, and is read back as that
value; in particular different values have different texts.

Each lemma reads a piece of text with an arbitrary rest behind it, and gives this rest back. A
number needs a rest that does not go on with digits; what stands behind a value in a larger text
never does. The bound on the depth of calls is the length of the text.

## Main results

* `Json.StringText.readStringBody_eq` — strings are read by the rules.
* `Json.NumberText.readNumber_eq` — numbers are read by the rules.
* `Json.Denotes.readValue_eq` — values are read by the rules.
* `Json.parse?_of_denotes` — a text is read as the value that it denotes.
* `Json.parse?_render` — what is written is read back.
-/

namespace SourceLint.Json

variable {text cs gap : List Char} {json : Json} {depth : Nat}

/-! ### Gaps -/

/-- A gap is skipped up to the next token. -/
lemma skipGap_append_cons (hgap : IsGapText gap) {c : Char} (hc : isGap c = false)
    (rest : List Char) : skipGap (gap ++ c :: rest) = c :: rest := by
  rw [skipGap, List.dropWhile_append_of_pos hgap, List.dropWhile_cons_of_neg (by simp [hc])]

/-- Behind a gap no gap is left. -/
lemma skipGap_skipGap (cs : List Char) : skipGap (skipGap cs) = skipGap cs :=
  List.dropWhile_idempotent isGap cs

/-- The rest of a text does not go on with digits. -/
def NoDigit (rest : List Char) : Prop :=
  ∀ c ∈ rest.head?, c.isDigit = false

/-- No character of a gap is a digit. -/
lemma isDigit_of_isGap {c : Char} (h : isGap c = true) : c.isDigit = false := by
  simp only [isGap, Bool.or_eq_true, beq_iff_eq] at h
  obtain ((rfl | rfl) | rfl) | rfl := h <;> rfl

/-- Neither a gap nor what follows it goes on with digits. -/
lemma noDigit_gap_append (hgap : IsGapText gap) {c : Char} (hc : c.isDigit = false)
    (rest : List Char) : NoDigit (gap ++ c :: rest) := by
  cases gap with
  | nil => simpa [NoDigit] using hc
  | cons blank gap => simpa [NoDigit] using isDigit_of_isGap (hgap blank List.mem_cons_self)

/-- A gap does not go on with digits. -/
lemma noDigit_of_isGapText (hgap : IsGapText gap) : NoDigit gap := by
  intro c hc
  exact isDigit_of_isGap (hgap c (List.mem_of_head? hc))

/-! ### Strings -/

/-- A character that stands for itself is read. -/
lemma readStringBody_plain {c : Char} (hcontrol : 0x20 ≤ c.toNat) (hquote : c ≠ '"')
    (hescape : c ≠ '\\') (rest : List Char) :
    readStringBody (c :: rest) = (readStringBody rest).map (consChar c) := by
  rw [readStringBody, if_neg (by simp [hescape]; omega)]
  · exact hquote
  all_goals simp [hescape]

/-- A letter behind a backslash is not taken for the start of a unit. -/
lemma readStringBody_letter {letter c : Char} (hletter : escaped? letter = some c)
    (rest : List Char) :
    readStringBody ('\\' :: letter :: rest) = (readStringBody rest).map (consChar c) := by
  rw [readStringBody, hletter]
  rintro a b d e tail rfl
  simp [escaped?] at hletter

/-- A character that is written by its unit is read. -/
lemma readStringBody_unit {a b c d char : Char} {unit : Nat} (hunit : hexUnit? a b c d = some unit)
    (hchar : ofUnit? unit = some char) (rest : List Char) :
    readStringBody ('\\' :: 'u' :: a :: b :: c :: d :: rest) =
      (readStringBody rest).map (consChar char) := by
  have hbind : (hexUnit? a b c d).bind ofUnit? = some char := by
    rw [hunit, Option.bind_some, hchar]
  rw [readStringBody.eq_def]
  simp only [hbind]

/-- A half of a pair is not taken for a unit of its own. -/
lemma readStringBody_pair {a b c d e f g h char : Char} {high low : Nat}
    (hhigh : hexUnit? a b c d = some high) (hlow : hexUnit? e f g h = some low)
    (hchar : ofUnitPair? high low = some char) (rest : List Char) :
    readStringBody
        ('\\' :: 'u' :: a :: b :: c :: d :: '\\' :: 'u' :: e :: f :: g :: h :: rest) =
      (readStringBody rest).map (consChar char) := by
  -- the first half is no character, or the pair would be none
  have hhalf : ofUnit? high = none := by
    unfold ofUnitPair? at hchar
    split at hchar
    · rw [ofUnit?, if_pos (by omega)]
    · cases hchar
  simp [readStringBody, hhigh, hlow, hhalf, hchar]

/-- **Strings are read by the rules**, up to the closing quote. -/
lemma StringText.readStringBody_eq (h : StringText text cs) (rest : List Char) :
    readStringBody (text ++ '"' :: rest) = some (cs, rest) := by
  induction h with
  | nil => rw [List.nil_append, readStringBody]
  | plain hcontrol hquote hescape _ ih =>
    rw [List.cons_append, readStringBody_plain hcontrol hquote hescape, ih]
    rfl
  | letter hletter _ ih =>
    simp only [List.cons_append]
    rw [readStringBody_letter hletter, ih]
    rfl
  | unit hunit hchar _ ih =>
    simp only [List.cons_append]
    rw [readStringBody_unit hunit hchar, ih]
    rfl
  | pair hhigh hlow hchar _ ih =>
    simp only [List.cons_append]
    rw [readStringBody_pair hhigh hlow hchar, ih]
    rfl

/-! ### Numbers -/

/-- The digits are read up to the first character that is none. -/
lemma IsNaturalText.readNat_eq {n : Nat} (h : IsNaturalText text n) {rest : List Char}
    (hrest : NoDigit rest) : readNat (text ++ rest) = some (n, rest) := by
  have htake : rest.takeWhile Char.isDigit = [] := by
    cases rest with
    | nil => rfl
    | cons c tail => simp [hrest c rfl]
  have hdrop : rest.dropWhile Char.isDigit = rest := by
    cases rest with
    | nil => rfl
    | cons c tail => simp [hrest c rfl]
  rw [readNat, List.takeWhile_append_of_pos h.digits, List.dropWhile_append_of_pos h.digits, htake,
    hdrop, List.append_nil]
  split
  · exact absurd rfl h.ne_nil
  · rw [h.value]

/-- The text of a number starts with a minus sign or a digit. -/
lemma NumberText.exists_head {n : Int} (h : NumberText text n) :
    ∃ c tail, text = c :: tail ∧ (c = '-' ∨ c.isDigit = true) := by
  cases h with
  | natural h =>
    obtain ⟨c, tail, rfl⟩ := List.exists_cons_of_ne_nil h.ne_nil
    exact ⟨c, tail, rfl, .inr (h.digits c List.mem_cons_self)⟩
  | @negative text _ _ => exact ⟨'-', text, rfl, .inl rfl⟩

/-- **Numbers are read by the rules.** -/
lemma NumberText.readNumber_eq {n : Int} (h : NumberText text n) {rest : List Char}
    (hrest : NoDigit rest) : readNumber (text ++ rest) = some (n, rest) := by
  cases h with
  | natural h =>
    rw [readNumber, h.readNat_eq hrest]
    · rfl
    · -- a digit is not taken for the sign
      intro tail htail
      obtain ⟨c, others, rfl⟩ := List.exists_cons_of_ne_nil h.ne_nil
      have hsign := h.digits c List.mem_cons_self
      rw [(List.cons.inj htail).1] at hsign
      simp at hsign
  | negative h =>
    rw [List.cons_append, readNumber, h.readNat_eq hrest]
    rfl

/-! ### Values -/

section Unfolding

attribute [local simp] readValue readItems readMembers

/-- A gap before a value does not matter. -/
lemma readValue_skipGap (depth : Nat) (cs : List Char) :
    readValue depth (skipGap cs) = readValue depth cs := by
  cases depth with
  | zero => rw [readValue, readValue]
  | succ depth => rw [readValue, readValue, skipGap_skipGap]

/-- A gap before items does not matter. -/
lemma readItems_skipGap (depth : Nat) (cs : List Char) :
    readItems depth (skipGap cs) = readItems depth cs := by
  cases depth with
  | zero => rw [readItems, readItems]
  | succ depth => rw [readItems, readItems, readValue_skipGap]

/-- A gap before members does not matter. -/
lemma readMembers_skipGap (depth : Nat) (cs : List Char) :
    readMembers depth (skipGap cs) = readMembers depth cs := by
  cases depth with
  | zero => rw [readMembers, readMembers]
  | succ depth => rw [readMembers, readMembers, skipGap_skipGap]

/-- A value that starts with a minus sign or a digit is read as a number. -/
lemma readValue_number {c : Char} {tail : List Char} (hskip : skipGap cs = c :: tail)
    (hc : c = '-' ∨ c.isDigit = true) :
    readValue (depth + 1) cs =
      (readNumber (c :: tail)).map fun read => (.number read.1, read.2) := by
  rw [readValue, hskip]
  split
  all_goals simp_all

/-- A value that starts with a quote is read as a string. -/
lemma readValue_string {rest : List Char} (hskip : skipGap cs = '"' :: rest) :
    readValue (depth + 1) cs =
      (readStringBody rest).map fun read => (.string (String.ofList read.1), read.2) := by
  rw [readValue, hskip]
  rfl

/-- An array that does not end at once has items. -/
lemma readValue_array {rest : List Char} (hskip : skipGap cs = '[' :: rest)
    (hitems : (skipGap rest).head? ≠ some ']') :
    readValue (depth + 1) cs =
      (readItems depth rest).map fun read => (.array read.1, read.2) := by
  rw [readValue, hskip]
  simp only
  split
  · rename_i heq
    simp [heq] at hitems
  · rw [readItems_skipGap]

/-- An object that does not end at once has members. -/
lemma readValue_object {rest : List Char} (hskip : skipGap cs = '\x7b' :: rest)
    (hmembers : (skipGap rest).head? ≠ some '\x7d') :
    readValue (depth + 1) cs =
      (readMembers depth rest).map fun read => (.object read.1, read.2) := by
  rw [readValue, hskip]
  simp only
  split
  · rename_i heq
    simp [heq] at hmembers
  · rw [readMembers_skipGap]

/-- An item before the closing bracket is the last one. -/
lemma readItems_last {item : Json} {after rest : List Char} (hafter : IsGapText after)
    (hitem : readValue depth cs = some (item, after ++ ']' :: rest)) :
    readItems (depth + 1) cs = some ([item], rest) := by
  simp [hitem, skipGap_append_cons hafter (by decide : isGap ']' = false)]

/-- Behind an item and a comma further items are read. -/
lemma readItems_more {item : Json} {after others : List Char} (hafter : IsGapText after)
    (hitem : readValue depth cs = some (item, after ++ ',' :: others)) :
    readItems (depth + 1) cs =
      (readItems depth others).map fun read => (item :: read.1, read.2) := by
  rw [readItems, hitem]
  simp only [Option.bind_eq_bind, Option.bind_some,
    skipGap_append_cons hafter (by decide : isGap ',' = false)]
  cases readItems depth others <;> rfl

/-- The name of a member is read up to the gap before its colon. -/
lemma NameText.exists_readString {front : List Char} {name : String} (hname : NameText front name)
    (cs : List Char) :
    ∃ gap, IsGapText gap ∧ ∃ rest, readString (skipGap (front ++ cs)) = some (name, rest) ∧
      skipGap rest = ':' :: (gap ++ cs) := by
  obtain @⟨before, text, after, gap, chars, hbefore, htext, hafter, hgap⟩ := hname
  refine ⟨gap, hgap, after ++ ':' :: (gap ++ cs), ?_, ?_⟩
  · have hstart : skipGap (before ++ '"' :: text ++ '"' :: after ++ ':' :: gap ++ cs) =
        '"' :: (text ++ '"' :: (after ++ ':' :: (gap ++ cs))) := by
      simpa using skipGap_append_cons hbefore (by decide : isGap '"' = false)
        (text ++ '"' :: (after ++ ':' :: (gap ++ cs)))
    rw [hstart, readString, htext.readStringBody_eq]
    rfl
  · exact skipGap_append_cons hafter (by decide) (gap ++ cs)

/-- A member before the closing brace is the last one. -/
lemma readMembers_last {front after rest : List Char} {name : String} {value : Json}
    (hname : NameText front name) (hafter : IsGapText after)
    (hvalue : ∀ gap, IsGapText gap →
      readValue depth (gap ++ cs) = some (value, after ++ '\x7d' :: rest)) :
    readMembers (depth + 1) (front ++ cs) = some ([(name, value)], rest) := by
  obtain ⟨gap, hgap, more, hread, hcolon⟩ := hname.exists_readString cs
  simp [hread, hcolon, hvalue gap hgap,
    skipGap_append_cons hafter (by decide : isGap '\x7d' = false)]

/-- Behind a member and a comma further members are read. -/
lemma readMembers_more {front after others : List Char} {name : String} {value : Json}
    (hname : NameText front name) (hafter : IsGapText after)
    (hvalue : ∀ gap, IsGapText gap →
      readValue depth (gap ++ cs) = some (value, after ++ ',' :: others)) :
    readMembers (depth + 1) (front ++ cs) =
      (readMembers depth others).map fun read => ((name, value) :: read.1, read.2) := by
  obtain ⟨gap, hgap, more, hread, hcolon⟩ := hname.exists_readString cs
  rw [readMembers, hread]
  simp only [Option.bind_eq_bind, Option.bind_some, hcolon, hvalue gap hgap,
    skipGap_append_cons hafter (by decide : isGap ',' = false)]
  cases readMembers depth others <;> rfl

end Unfolding

/-- The text of a value starts with a token that closes nothing. -/
lemma Denotes.exists_head (h : Denotes text json) :
    ∃ c tail, text = c :: tail ∧ isGap c = false ∧ c ≠ ']' := by
  cases h with
  | number h =>
    obtain ⟨c, tail, rfl, hc⟩ := h.exists_head
    refine ⟨c, tail, rfl, ?_, ?_⟩
    · rcases hc with rfl | hdigit
      · rfl
      · rw [← Bool.not_eq_true]
        intro hgap
        rw [isDigit_of_isGap hgap] at hdigit
        cases hdigit
    · rintro rfl
      simp at hc
  | _ => exact ⟨_, _, rfl, by decide, by decide⟩

/-- The text of items does not start with the closing bracket. -/
lemma DenotesItems.head?_skipGap {items : List Json} (h : DenotesItems text items)
    (rest : List Char) : (skipGap (text ++ rest)).head? ≠ some ']' := by
  cases h with
  | last hbefore hitem hafter =>
    obtain ⟨c, tail, rfl, hgap, hc⟩ := hitem.exists_head
    simp [skipGap_append_cons hbefore hgap, hc]
  | more hbefore hitem hafter hothers =>
    obtain ⟨c, tail, rfl, hgap, hc⟩ := hitem.exists_head
    simp [skipGap_append_cons hbefore hgap, hc]

/-- The name of a member starts with a quote. -/
lemma NameText.head?_skipGap {front : List Char} {name : String} (h : NameText front name)
    (rest : List Char) : (skipGap (front ++ rest)).head? = some '"' := by
  obtain @⟨before, text, after, gap, chars, hbefore, -, -, -⟩ := h
  simp [skipGap_append_cons hbefore (by decide : isGap '"' = false)]

/-- The text of members does not start with the closing brace. -/
lemma DenotesMembers.head?_skipGap {members : List (String × Json)}
    (h : DenotesMembers text members) (rest : List Char) :
    (skipGap (text ++ rest)).head? ≠ some '\x7d' := by
  cases h with
  | last hname hvalue hafter =>
    rw [List.append_assoc, List.append_assoc, hname.head?_skipGap]
    decide
  | more hname hvalue hafter hothers =>
    rw [List.append_assoc, List.append_assoc, List.append_assoc, hname.head?_skipGap]
    decide

mutual

/-- **Values are read by the rules**, with a gap before them and any rest that does not go on with
digits.

**Proof sketch.** By the rules of the grammar. The token behind the gap decides what is read, and a
closing bracket or brace is not taken for the first item or member. A call for a part of the text
has the bound that is left, which exceeds the length of the part. -/
theorem Denotes.readValue_eq : ∀ {text : List Char} {json : Json}, Denotes text json →
    ∀ {depth : Nat} {gap rest : List Char}, IsGapText gap → text.length < depth → NoDigit rest →
      readValue depth (gap ++ text ++ rest) = some (json, rest)
  | _, _, .null, depth + 1, gap, rest, hgap, _, _ => by
    have hskip := skipGap_append_cons hgap (by decide : isGap 'n' = false)
      ('u' :: 'l' :: 'l' :: rest)
    rw [List.append_assoc, readValue]
    simp only [List.cons_append, List.nil_append, hskip]
  | _, _, .isTrue, depth + 1, gap, rest, hgap, _, _ => by
    have hskip := skipGap_append_cons hgap (by decide : isGap 't' = false)
      ('r' :: 'u' :: 'e' :: rest)
    rw [List.append_assoc, readValue]
    simp only [List.cons_append, List.nil_append, hskip]
  | _, _, .isFalse, depth + 1, gap, rest, hgap, _, _ => by
    have hskip := skipGap_append_cons hgap (by decide : isGap 'f' = false)
      ('a' :: 'l' :: 's' :: 'e' :: rest)
    rw [List.append_assoc, readValue]
    simp only [List.cons_append, List.nil_append, hskip]
  | _, _, .number h, depth + 1, gap, rest, hgap, _, hrest => by
    obtain ⟨c, tail, rfl, hblank, -⟩ := (Denotes.number h).exists_head
    obtain ⟨_, _, heq, hc⟩ := h.exists_head
    obtain ⟨rfl, rfl⟩ := List.cons.inj heq
    rw [List.append_assoc, List.cons_append,
      readValue_number (skipGap_append_cons hgap hblank _) hc, ← List.cons_append,
      h.readNumber_eq hrest]
    rfl
  | _, _, @Denotes.string text _ h, depth + 1, gap, rest, hgap, _, _ => by
    have happend : gap ++ ('"' :: text ++ ['"']) ++ rest = gap ++ '"' :: (text ++ '"' :: rest) := by
      simp
    rw [happend, readValue_string (skipGap_append_cons hgap (by decide) _), h.readStringBody_eq]
    rfl
  | _, _, @Denotes.emptyArray inner h, depth + 1, gap, rest, hgap, _, _ => by
    have happend : gap ++ ('[' :: inner ++ [']']) ++ rest = gap ++ '[' :: (inner ++ ']' :: rest) := by
      simp
    rw [happend, readValue, skipGap_append_cons hgap (by decide)]
    simp only [skipGap_append_cons h (by decide : isGap ']' = false)]
  | _, _, @Denotes.array text _ h, depth + 1, gap, rest, hgap, hdepth, _ => by
    have happend : gap ++ ('[' :: text ++ [']']) ++ rest = gap ++ '[' :: (text ++ ']' :: rest) := by
      simp
    have hshorter : text.length + 1 < depth := by
      simp at hdepth
      omega
    rw [happend, readValue_array (skipGap_append_cons hgap (by decide) _) (h.head?_skipGap _),
      h.readItems_eq hshorter]
    rfl
  | _, _, @Denotes.emptyObject inner h, depth + 1, gap, rest, hgap, _, _ => by
    have happend : gap ++ ('\x7b' :: inner ++ ['\x7d']) ++ rest =
        gap ++ '\x7b' :: (inner ++ '\x7d' :: rest) := by
      simp
    rw [happend, readValue, skipGap_append_cons hgap (by decide)]
    simp only [skipGap_append_cons h (by decide : isGap '\x7d' = false)]
  | _, _, @Denotes.object text _ h, depth + 1, gap, rest, hgap, hdepth, _ => by
    have happend : gap ++ ('\x7b' :: text ++ ['\x7d']) ++ rest =
        gap ++ '\x7b' :: (text ++ '\x7d' :: rest) := by
      simp
    have hshorter : text.length + 1 < depth := by
      simp at hdepth
      omega
    rw [happend, readValue_object (skipGap_append_cons hgap (by decide) _) (h.head?_skipGap _),
      h.readMembers_eq hshorter]
    rfl

/-- Items are read up to the closing bracket. -/
theorem DenotesItems.readItems_eq : ∀ {text : List Char} {items : List Json},
    DenotesItems text items → ∀ {depth : Nat} {rest : List Char}, text.length + 1 < depth →
      readItems depth (text ++ ']' :: rest) = some (items, rest)
  | _, _, .last hbefore h hafter, depth + 1, rest, hdepth => by
    simp only [List.length_append] at hdepth
    rw [List.append_assoc]
    exact readItems_last hafter
      (h.readValue_eq hbefore (by omega) (noDigit_gap_append hafter (by decide) rest))
  | _, _, @DenotesItems.more _ _ _ others _ _ hbefore h hafter hothers, depth + 1, rest, hdepth => by
    simp only [List.length_append, List.length_cons] at hdepth
    rw [List.append_assoc, List.append_assoc, List.cons_append,
      readItems_more hafter (h.readValue_eq hbefore (by omega)
        (noDigit_gap_append hafter (by decide) (others ++ ']' :: rest))),
      hothers.readItems_eq (by omega)]
    rfl

/-- Members are read up to the closing brace. -/
theorem DenotesMembers.readMembers_eq : ∀ {text : List Char} {members : List (String × Json)},
    DenotesMembers text members → ∀ {depth : Nat} {rest : List Char}, text.length + 1 < depth →
      readMembers depth (text ++ '\x7d' :: rest) = some (members, rest)
  | _, _, .last hname h hafter, depth + 1, rest, hdepth => by
    simp only [List.length_append] at hdepth
    rw [List.append_assoc, List.append_assoc]
    -- the gap behind the colon is left to the value
    refine readMembers_last hname hafter fun gap hgap => ?_
    rw [← List.append_assoc]
    exact h.readValue_eq hgap (by omega) (noDigit_gap_append hafter (by decide) rest)
  | _, _, @DenotesMembers.more _ _ _ others _ _ _ hname h hafter hothers, depth + 1, rest,
      hdepth => by
    simp only [List.length_append, List.length_cons] at hdepth
    rw [List.append_assoc, List.append_assoc, List.append_assoc, List.cons_append]
    rw [readMembers_more hname hafter fun gap hgap => ?_, hothers.readMembers_eq (by omega)]
    · rfl
    · rw [← List.append_assoc]
      exact h.readValue_eq hgap (by omega)
        (noDigit_gap_append hafter (by decide) (others ++ '\x7d' :: rest))

end

/-! ### Whole texts -/

/-- **A text is read as the value that it denotes.** -/
theorem parse?_of_denotes (h : Denotes text json) : parse? text = some json := by
  have hread := h.readValue_eq isGapText_nil (Nat.lt_add_one _) (noDigit_of_isGapText isGapText_nil)
  rw [List.nil_append, List.append_nil] at hread
  rw [parse?, hread]
  rfl

/-- **What is written is read back.** -/
theorem parse?_render (json : Json) : parse? json.render.toList = some json :=
  parse?_of_denotes json.denotes_render

end SourceLint.Json
