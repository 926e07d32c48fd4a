import Mathlib.Data.List.Basic
import SourceLint.Json.Printer
import SourceLint.Json.Reader

set_option autoImplicit false

/-!
# The grammar of JSON texts

Which texts denote which values, told by the rules of the format and not by a reader: blanks may
stand between any two tokens; a number has no superfluous zeros in front; a character of a string
stands for itself, unless it is a quote, a backslash or a control, or it is given by a letter, by
the four digits of a unit, or by the eight digits of a pair of units.

Every value is written by a text that denotes it, in every layout whose gaps are blanks.

## Main definitions

* `Json.StringText` — what stands between the quotes of a string.
* `Json.NumberText` — the digits of an integer.
* `Json.Denotes` — the texts of values.
* `Json.Layout.IsBlank` — a layout whose gaps are blanks.

## Main results

* `Json.stringText_flatMap_writeChar` — strings are written by the rules.
* `Json.isNaturalText_decimalDigits` — numbers are written by the rules.
* `Json.denotes_write` — values are written by the rules.
-/

namespace SourceLint.Json

/-! ### Tokens -/

/-- A gap between tokens: any number of blanks. -/
def IsGapText (text : List Char) : Prop :=
  ∀ c ∈ text, isGap c = true

/-- What stands between the quotes of a string, and the characters that it stands for. -/
inductive StringText : List Char → List Char → Prop
  | nil : StringText [] []
  /-- A character stands for itself, unless it is a control, a quote or a backslash. -/
  | plain {c : Char} {text cs : List Char} (hcontrol : 0x20 ≤ c.toNat) (hquote : c ≠ '"')
      (hescape : c ≠ '\\') (h : StringText text cs) : StringText (c :: text) (c :: cs)
  /-- A letter behind a backslash. -/
  | letter {letter c : Char} {text cs : List Char} (hletter : escaped? letter = some c)
      (h : StringText text cs) : StringText ('\\' :: letter :: text) (c :: cs)
  /-- The four digits of a unit. -/
  | unit {a b c d char : Char} {text cs : List Char} {unit : Nat}
      (hunit : hexUnit? a b c d = some unit) (hchar : ofUnit? unit = some char)
      (h : StringText text cs) :
      StringText ('\\' :: 'u' :: a :: b :: c :: d :: text) (char :: cs)
  /-- The digits of the two halves of a pair. -/
  | pair {a b c d e f g h char : Char} {text cs : List Char} {high low : Nat}
      (hhigh : hexUnit? a b c d = some high) (hlow : hexUnit? e f g h = some low)
      (hchar : ofUnitPair? high low = some char) (hrest : StringText text cs) :
      StringText ('\\' :: 'u' :: a :: b :: c :: d :: '\\' :: 'u' :: e :: f :: g :: h :: text)
        (char :: cs)

/-- The digits of a natural number, without superfluous zeros in front. -/
structure IsNaturalText (text : List Char) (n : Nat) : Prop where
  ne_nil : text ≠ []
  digits : ∀ c ∈ text, c.isDigit = true
  leading : text.head? = some '0' → text = ['0']
  value : digitsValue text = n

/-- The digits of an integer, with a minus sign before a negative one. -/
inductive NumberText : List Char → Int → Prop
  | natural {text : List Char} {n : Nat} (h : IsNaturalText text n) : NumberText text n
  | negative {text : List Char} {n : Nat} (h : IsNaturalText text n) : NumberText ('-' :: text) (-n)

/-- The name of a member with its colon, up to the value. -/
inductive NameText : List Char → String → Prop
  | mk {before text after beforeValue cs : List Char} (hbefore : IsGapText before)
      (h : StringText text cs) (hafter : IsGapText after) (hvalue : IsGapText beforeValue) :
      NameText (before ++ '"' :: text ++ '"' :: after ++ ':' :: beforeValue) (String.ofList cs)

/-! ### Values -/

mutual

/-- The texts of a value. -/
inductive Denotes : List Char → Json → Prop
  | null : Denotes ['n', 'u', 'l', 'l'] .null
  | isTrue : Denotes ['t', 'r', 'u', 'e'] (.bool true)
  | isFalse : Denotes ['f', 'a', 'l', 's', 'e'] (.bool false)
  | number {text : List Char} {n : Int} (h : NumberText text n) : Denotes text (.number n)
  | string {text cs : List Char} (h : StringText text cs) :
    Denotes ('"' :: text ++ ['"']) (.string (String.ofList cs))
  | emptyArray {gap : List Char} (h : IsGapText gap) : Denotes ('[' :: gap ++ [']']) (.array [])
  | array {text : List Char} {items : List Json} (h : DenotesItems text items) :
    Denotes ('[' :: text ++ [']']) (.array items)
  | emptyObject {gap : List Char} (h : IsGapText gap) :
    Denotes ('\x7b' :: gap ++ ['\x7d']) (.object [])
  | object {text : List Char} {members : List (String × Json)} (h : DenotesMembers text members) :
    Denotes ('\x7b' :: text ++ ['\x7d']) (.object members)

/-- The texts of one or more items between the brackets of an array. -/
inductive DenotesItems : List Char → List Json → Prop
  | last {before text after : List Char} {item : Json} (hbefore : IsGapText before)
      (h : Denotes text item) (hafter : IsGapText after) :
      DenotesItems (before ++ text ++ after) [item]
  | more {before text after others : List Char} {item : Json} {items : List Json}
      (hbefore : IsGapText before) (h : Denotes text item) (hafter : IsGapText after)
      (hothers : DenotesItems others items) :
      DenotesItems (before ++ text ++ after ++ ',' :: others) (item :: items)

/-- The texts of one or more members between the braces of an object. -/
inductive DenotesMembers : List Char → List (String × Json) → Prop
  | last {front text after : List Char} {name : String} {value : Json} (hname : NameText front name)
      (h : Denotes text value) (hafter : IsGapText after) :
      DenotesMembers (front ++ text ++ after) [(name, value)]
  | more {front text after others : List Char} {name : String} {value : Json}
      {members : List (String × Json)} (hname : NameText front name) (h : Denotes text value)
      (hafter : IsGapText after) (hothers : DenotesMembers others members) :
      DenotesMembers (front ++ text ++ after ++ ',' :: others) ((name, value) :: members)

end

/-! ### Strings as they are written -/

/-- A control is written by the four digits of its unit. -/
lemma hexUnit?_hexadecimal {n : Nat} (h : n < 0x20) :
    ∃ a b c d, Text.hexadecimal 4 n = [a, b, c, d] ∧ hexUnit? a b c d = some n := by
  have hall : ∀ n < 0x20,
      Text.hexadecimal 4 n = ['0', '0', Nat.digitChar (n / 16), Nat.digitChar (n % 16)] ∧
        hexUnit? '0' '0' (Nat.digitChar (n / 16)) (Nat.digitChar (n % 16)) = some n := by
    decide
  exact ⟨_, _, _, _, hall n h⟩

/-- A character is written by the rules, whatever follows. -/
lemma stringText_writeChar_append (c : Char) {text cs : List Char} (h : StringText text cs) :
    StringText (writeChar c ++ text) (c :: cs) := by
  unfold writeChar
  split_ifs with hquote hfeed hreturn htab hback hform hcontrol
  · rcases hquote with rfl | rfl <;> exact .letter rfl h
  · exact hfeed ▸ .letter rfl h
  · exact hreturn ▸ .letter rfl h
  · exact htab ▸ .letter rfl h
  · exact hback ▸ .letter rfl h
  · exact hform ▸ .letter rfl h
  · obtain ⟨a, b, d, e, hdigits, hunit⟩ := hexUnit?_hexadecimal hcontrol
    have hchar : ofUnit? c.toNat = some c := by
      rw [ofUnit?, if_neg (by omega), Char.ofNat_toNat]
    rw [hdigits]
    exact .unit hunit hchar h
  · obtain ⟨hquote, hescape⟩ := not_or.1 hquote
    exact .plain (by omega) hquote hescape h

/-- **Strings are written by the rules.** -/
lemma stringText_flatMap_writeChar (cs : List Char) : StringText (cs.flatMap writeChar) cs := by
  induction cs with
  | nil => exact .nil
  | cons c cs ih =>
    rw [List.flatMap_cons]
    exact stringText_writeChar_append c ih

/-- A written string denotes the string. -/
lemma denotes_writeString (s : String) : Denotes (writeString s) (.string s) := by
  have h := Denotes.string (stringText_flatMap_writeChar s.toList)
  rwa [String.ofList_toList] at h

/-! ### Numbers as they are written -/

/-- One more digit at the end of a number. -/
lemma digitsValue_concat (digits : List Char) (d : Char) :
    digitsValue (digits ++ [d]) = 10 * digitsValue digits + (d.toNat - '0'.toNat) := by
  simp [digitsValue]

/-- The digit of a number is a digit with the value of the number. -/
lemma isDigit_decimalDigit {d : Nat} (h : d < 10) :
    (Text.decimalDigit d).isDigit = true ∧ (Text.decimalDigit d).toNat - '0'.toNat = d := by
  have hall : ∀ d < 10, (Text.decimalDigit d).isDigit = true ∧
      (Text.decimalDigit d).toNat - '0'.toNat = d := by
    decide
  exact hall d h

/-- **Natural numbers are written by the rules.** -/
lemma isNaturalText_decimalDigits (n : Nat) : IsNaturalText (Text.decimalDigits n) n := by
  fun_induction Text.decimalDigits n with
  | case1 n hn =>
    obtain ⟨hdigit, hvalue⟩ := isDigit_decimalDigit hn
    refine ⟨by simp, by simpa using hdigit, ?_, ?_⟩
    · simp
    · simpa [digitsValue] using hvalue
  | case2 n hn ih =>
    obtain ⟨hdigit, hvalue⟩ := isDigit_decimalDigit (Nat.mod_lt n (by omega : 10 > 0))
    refine ⟨by simp, ?_, ?_, ?_⟩
    · intro c hc
      rcases List.mem_append.1 hc with hc | hc
      · exact ih.digits c hc
      · rwa [List.mem_singleton.1 hc]
    · -- a zero in front would make the digits before the last one a zero
      intro hzero
      rw [List.head?_append_of_ne_nil _ ih.ne_nil] at hzero
      have hten := ih.value
      rw [ih.leading hzero] at hten
      have : digitsValue ['0'] = 0 := rfl
      omega
    · rw [digitsValue_concat, ih.value, hvalue]
      omega

/-- A written number denotes the number. -/
lemma denotes_decimalChars (n : Int) : Denotes (Text.decimalChars n) (.number n) := by
  unfold Text.decimalChars
  split
  · rename_i hneg
    have h := NumberText.negative (isNaturalText_decimalDigits n.natAbs)
    rw [show -(n.natAbs : Int) = n by omega] at h
    exact .number h
  · rename_i hneg
    have h := NumberText.natural (isNaturalText_decimalDigits n.natAbs)
    rw [show (n.natAbs : Int) = n by omega] at h
    exact .number h

/-! ### Values as they are written -/

/-- A layout whose gaps are blanks. -/
structure Layout.IsBlank (layout : Layout) : Prop where
  gap : ∀ depth, IsGapText (layout.gap depth)
  afterColon : IsGapText layout.afterColon

/-- An empty text is a gap. -/
lemma isGapText_nil : IsGapText [] := by
  simp [IsGapText]

/-- The indented layout puts only blanks between tokens. -/
lemma isBlank_indented : Layout.indented.IsBlank where
  gap depth := by
    intro c hc
    rcases List.mem_cons.1 hc with rfl | hc
    · rfl
    · rw [List.eq_of_mem_replicate hc]
      rfl
  afterColon := by simp [IsGapText, Layout.indented, isGap]

/-- The name of a member as it is written. -/
lemma nameText_writeString {layout : Layout} (h : layout.IsBlank) (depth : Nat) (name : String) :
    NameText (layout.gap depth ++ writeString name ++ ':' :: layout.afterColon) name := by
  have hname := NameText.mk (h.gap depth) (stringText_flatMap_writeChar name.toList) isGapText_nil
    h.afterColon
  rw [String.ofList_toList] at hname
  simpa [writeString] using hname

mutual

/-- **Values are written by the rules**, in every layout whose gaps are blanks. -/
theorem denotes_write {layout : Layout} (h : layout.IsBlank) :
    ∀ (depth : Nat) (json : Json), Denotes (write layout depth json) json
  | _, .null => .null
  | _, .bool true => .isTrue
  | _, .bool false => .isFalse
  | _, .number n => denotes_decimalChars n
  | _, .string s => denotes_writeString s
  | _, .array [] => .emptyArray isGapText_nil
  | depth, .array (item :: items) => by
    have hitems := denotesItems_write h (depth + 1) (h.gap depth) item items
      (denotes_write h (depth + 1) item)
    simpa [write] using Denotes.array hitems
  | _, .object [] => .emptyObject isGapText_nil
  | depth, .object ((name, value) :: members) => by
    have hmembers := denotesMembers_write h (depth + 1) (h.gap depth) name value members
      (denotes_write h (depth + 1) value)
    simpa [write] using Denotes.object hmembers

/-- The items of an array, up to the gap before its closing bracket. -/
theorem denotesItems_write {layout : Layout} (h : layout.IsBlank) :
    ∀ (depth : Nat) {closing : List Char} (_ : IsGapText closing) (first : Json)
      (items : List Json) (_ : Denotes (write layout depth first) first),
      DenotesItems (layout.gap depth ++ write layout depth first ++ writeItems layout depth items ++
        closing) (first :: items)
  | depth, _, hclosing, first, [], hfirst => by
    simpa [writeItems] using DenotesItems.last (h.gap depth) hfirst hclosing
  | depth, _, hclosing, first, item :: items, hfirst => by
    have hrest := denotesItems_write h depth hclosing item items (denotes_write h depth item)
    simpa [writeItems] using DenotesItems.more (h.gap depth) hfirst isGapText_nil hrest

/-- The members of an object, up to the gap before its closing brace. -/
theorem denotesMembers_write {layout : Layout} (h : layout.IsBlank) :
    ∀ (depth : Nat) {closing : List Char} (_ : IsGapText closing) (name : String) (value : Json)
      (members : List (String × Json)) (_ : Denotes (write layout depth value) value),
      DenotesMembers (layout.gap depth ++ writeString name ++ ':' :: layout.afterColon ++
        write layout depth value ++ writeMembers layout depth members ++ closing)
        ((name, value) :: members)
  | depth, _, hclosing, name, value, [], hvalue => by
    simpa [writeMembers] using
      DenotesMembers.last (nameText_writeString h depth name) hvalue hclosing
  | depth, _, hclosing, name, value, (other, otherValue) :: members, hvalue => by
    have hrest := denotesMembers_write h depth hclosing other otherValue members
      (denotes_write h depth otherValue)
    simpa [writeMembers] using
      DenotesMembers.more (nameText_writeString h depth name) hvalue isGapText_nil hrest

end

/-- The text of a value denotes it. -/
lemma denotes_render (json : Json) : Denotes json.render.toList json := by
  rw [render, String.toList_ofList]
  exact denotes_write isBlank_indented 0 json

end SourceLint.Json
