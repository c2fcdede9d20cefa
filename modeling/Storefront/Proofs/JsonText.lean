import Storefront.Json.Record
import Storefront.Proofs.Spelling

/-!
A JSON value is what its own text is read as. This holds of every plain value, which has no real
numbers and only whole numbers that fit 64 bits; its strings may have any characters, and the keys
of its objects are spelled without escapes. Each form of value is told by its first character, and
what may stand behind a value cannot be read as more of it.
-/

namespace Storefront.Json

open Storefront.Script

variable {α β : Type} {bound inner : Nat}

/-! ### A reader that succeeds -/

/-- The read succeeds with a value, and leaves text. -/
def Finds (read : Read α bound) (value : α) (rest : List Char) : Prop :=
  ∃ fewer, read = some ⟨value, rest, fewer⟩

theorem Finds.some {value : α} {rest : List Char} (fewer : rest.length < bound) :
    Finds (some ⟨value, rest, fewer⟩) value rest := ⟨fewer, rfl⟩

/-- A read that goes on after another one that succeeds. -/
theorem Finds.bind {read : Read α inner} {next : Reading Char α inner → Read β bound}
    {value : α} {whole : β} {rest after : List Char} (found : Finds read value rest)
    (continued : ∀ fewer, Finds (next ⟨value, rest, fewer⟩) whole after) :
    Finds (read >>= next) whole after := by
  obtain ⟨fewer, succeeds⟩ := found
  rw [succeeds]
  exact continued fewer

/-! ### Fixed characters -/

theorem skipGap_cons {c : Char} (noGap : isGap c = false) (rest : List Char) :
    skipGap (c :: rest) = c :: rest := by
  rw [skipGap, List.dropWhile_cons, if_neg (Bool.eq_false_iff.mp noGap)]

theorem skipGap_append {gap : List Char} (blank : gap.all isGap = true) (text : List Char) :
    skipGap (gap ++ text) = skipGap text :=
  List.dropWhile_append_of_pos (List.all_eq_true.mp blank)

theorem finds_readMark {mark : Char} {text rest : List Char} (start : skipGap text = mark :: rest) :
    Finds (readMark mark text) () rest := by
  unfold readMark
  split
  · next c more found =>
    obtain ⟨rfl, rfl⟩ := List.cons.inj (start.symm.trans found)
    rw [if_pos rfl]
    exact Finds.some _
  · next found => cases start.symm.trans found

theorem readMark_none {mark c : Char} {text rest : List Char} (start : skipGap text = c :: rest)
    (other : c ≠ mark) : readMark mark text = none := by
  unfold readMark
  split
  · next d more found =>
    obtain ⟨rfl, rfl⟩ := List.cons.inj (start.symm.trans found)
    exact if_neg other
  · rfl

/-! ### Strings -/

/-- Whether a character stands for itself within quotation marks. -/
def isUnescaped (c : Char) : Bool := c != '"' && c != '\\' && decide (0x20 ≤ c.toNat)

/-- How a character stands within quotation marks: for itself, after a backslash, or by its code. -/
inductive Spelt (c : Char) : List Char → Prop where
  | itself (unescaped : isUnescaped c = true) : Spelt c [c]
  | marked (mark : Char) (isMark : isEscapeMark mark = true) (noCode : mark ≠ 'u')
    (meaning : escapeMeaning mark = c) : Spelt c ['\\', mark]
  | coded (high low : Char) (digits : ['0', '0', high, low].all Lexer.isHexDigit = true)
    (code : Lexer.valueOf 16 ['0', '0', high, low] = c.toNat) (small : c.toNat < 0x20) :
    Spelt c ['\\', 'u', '0', '0', high, low]

theorem hexDigits_of_small : ∀ code < 0x20,
    ['0', '0', hexDigit (code / 16), hexDigit (code % 16)].all Lexer.isHexDigit = true ∧
      Lexer.valueOf 16 ['0', '0', hexDigit (code / 16), hexDigit (code % 16)] = code := by
  decide

theorem spelt_spellChar (c : Char) : Spelt c (spellChar c) := by
  unfold spellChar
  split
  · next isQuote => exact .marked '"' (by decide) (by decide) isQuote.symm
  split
  · next isBackslash => exact .marked '\\' (by decide) (by decide) isBackslash.symm
  split
  · next noQuote noBackslash visible =>
    refine .itself ?_
    simp [isUnescaped, noQuote, noBackslash, visible]
  split
  · next isMark => exact .marked 'b' (by decide) (by decide) isMark.symm
  split
  · next isMark => exact .marked 't' (by decide) (by decide) isMark.symm
  split
  · next isMark => exact .marked 'n' (by decide) (by decide) isMark.symm
  split
  · next isMark => exact .marked 'f' (by decide) (by decide) isMark.symm
  split
  · next isMark => exact .marked 'r' (by decide) (by decide) isMark.symm
  · next hidden _ _ _ _ _ =>
    obtain ⟨digits, code⟩ := hexDigits_of_small c.toNat (Nat.not_le.mp hidden)
    exact .coded _ _ digits code (Nat.not_le.mp hidden)

theorem Spelt.readSpelling {c : Char} {spelled : List Char} (spelt : Spelt c spelled)
    {text spelling rest : List Char} (found : Finds (readSpelling text) spelling rest) :
    Finds (Json.readSpelling (spelled ++ text)) (spelled ++ spelling) rest := by
  cases spelt with
  | itself unescaped =>
    simp only [isUnescaped, Bool.and_eq_true, bne_iff_ne, decide_eq_true_eq] at unescaped
    obtain ⟨⟨noQuote, noBackslash⟩, visible⟩ := unescaped
    show Finds (Json.readSpelling (c :: text)) (c :: spelling) rest
    have plain : ¬ (decide (c = '\\') || decide (c.toNat < 0x20)) = true := by
      simp [noBackslash, visible]
    rw [readSpelling.eq_4 c text noQuote (fun _ _ _ _ _ same => absurd same noBackslash)
      (fun _ _ same => absurd same noBackslash), if_neg plain]
    exact found.bind fun _ => Finds.some _
  | marked mark isMark noCode meaning =>
    show Finds (Json.readSpelling ('\\' :: mark :: text)) ('\\' :: mark :: spelling) rest
    rw [readSpelling.eq_3 mark text (fun _ _ _ _ _ same => absurd same noCode), if_pos isMark]
    exact found.bind fun _ => Finds.some _
  | coded high low digits code small =>
    show Finds (Json.readSpelling ('\\' :: 'u' :: '0' :: '0' :: high :: low :: text))
      ('\\' :: 'u' :: '0' :: '0' :: high :: low :: spelling) rest
    rw [readSpelling.eq_2, if_pos digits]
    exact found.bind fun _ => Finds.some _

theorem Spelt.unspell {c : Char} {spelled : List Char} (spelt : Spelt c spelled)
    (spelling : List Char) :
    unspell (spelled ++ spelling) = (Json.unspell spelling).map (c :: ·) := by
  cases spelt with
  | itself unescaped =>
    simp only [isUnescaped, Bool.and_eq_true, bne_iff_ne] at unescaped
    have noBackslash := unescaped.1.2
    exact unspell.eq_4 c spelling (fun _ _ _ _ _ same => absurd same noBackslash)
      fun _ _ same => absurd same noBackslash
  | marked mark isMark noCode meaning =>
    subst meaning
    exact unspell.eq_3 mark spelling fun _ _ _ _ _ same => absurd same noCode
  | coded high low digits code small =>
    have noLead : ¬ isLeadingHalf (Lexer.valueOf 16 ['0', '0', high, low]) = true := by
      rw [code]
      simp only [isLeadingHalf, Bool.and_eq_true, decide_eq_true_eq]
      omega
    have noTrail : ¬ isTrailingHalf (Lexer.valueOf 16 ['0', '0', high, low]) = true := by
      rw [code]
      simp only [isTrailingHalf, Bool.and_eq_true, decide_eq_true_eq]
      omega
    show Json.unspell ('\\' :: 'u' :: '0' :: '0' :: high :: low :: spelling) = _
    rw [Json.unspell.eq_def]
    refine (if_neg noLead).trans ((if_neg noTrail).trans ?_)
    rw [code, Char.ofNat_toNat]

theorem finds_spelling (characters rest : List Char) :
    Finds (readSpelling (characters.flatMap spellChar ++ '"' :: rest))
      (characters.flatMap spellChar) rest := by
  induction characters with
  | nil =>
    show Finds (readSpelling ('"' :: rest)) [] rest
    rw [readSpelling]
    exact Finds.some _
  | cons c more inductionHypothesis =>
    rw [List.flatMap_cons, List.append_assoc]
    exact (spelt_spellChar c).readSpelling inductionHypothesis

theorem unspell_flatMap (characters : List Char) :
    unspell (characters.flatMap spellChar) = some characters := by
  induction characters with
  | nil => rfl
  | cons c more inductionHypothesis =>
    rw [List.flatMap_cons, (spelt_spellChar c).unspell, inductionHypothesis]
    rfl

theorem ofSpelling_spell (text : String) :
    ofSpelling (text.toList.flatMap spellChar) = .str text := by
  rw [ofSpelling, unspell_flatMap]
  exact congrArg Json.str String.ofList_toList

/-- Whether the characters of a key all stand for themselves. -/
def isPlainKey (key : String) : Bool := key.toList.all isUnescaped

theorem flatMap_spellChar_of_plain {key : String} (plain : isPlainKey key = true) :
    key.toList.flatMap spellChar = key.toList := by
  have itself (c : Char) (member : c ∈ key.toList) : spellChar c = [c] := by
    have unescaped := List.all_eq_true.mp plain c member
    simp only [isUnescaped, Bool.and_eq_true, bne_iff_ne, decide_eq_true_eq] at unescaped
    obtain ⟨⟨noQuote, noBackslash⟩, visible⟩ := unescaped
    rw [spellChar, if_neg noQuote, if_neg noBackslash, if_pos visible]
  rw [List.flatMap_congr itself, List.flatMap_singleton']

theorem unspell?_of_plain {key : String} (plain : isPlainKey key = true) :
    unspell? key = some key := by
  have same := unspell_flatMap key.toList
  rw [flatMap_spellChar_of_plain plain] at same
  rw [unspell?, same]
  exact congrArg some String.ofList_toList

/-! ### Numbers -/

/-- The text ends here, or what comes next ends a value. -/
def Closes (rest : List Char) : Prop :=
  ∀ c ∈ rest.head?, isGap c = true ∨ c ∈ [',', ']', '\x7d']

theorem Closes.nil : Closes [] := nofun

theorem Closes.cons {c : Char} (closes : c ∈ [',', ']', '\x7d']) (rest : List Char) :
    Closes (c :: rest) := by
  rintro _ ⟨⟩
  exact .inr closes

/-- Blanks end a value, and so does what ends it after them. -/
theorem Closes.afterGap {gap rest : List Char} (blank : gap.all isGap = true)
    (closes : Closes rest) : Closes (gap ++ rest) := by
  cases gap with
  | nil => exact closes
  | cons c more =>
    rintro _ ⟨⟩
    exact .inl (List.all_eq_true.mp blank c List.mem_cons_self)

/-- What ends a value is no part of a number. -/
theorem Closes.noNumber {rest : List Char} (closes : Closes rest) :
    ∀ c ∈ rest.head?, c.isDigit = false ∧ c ≠ '.' ∧ ¬ (c = 'e' || c = 'E') = true := by
  intro c first
  have oneOf := closes c first
  simp only [isGap, Bool.or_eq_true, beq_iff_eq, List.mem_cons, List.not_mem_nil, or_false,
    or_assoc] at oneOf
  obtain rfl | rfl | rfl | rfl | rfl | rfl | rfl := oneOf <;> decide

/-- Only the number zero starts with a zero. -/
theorem toDigits_ne_zero_cons (value : Nat) (positive : 0 < value) (rest : List Char) :
    Nat.toDigits 10 value ≠ '0' :: rest := by
  by_cases small : value < 10
  · have digit : ∀ value < 10, value.digitChar = '0' → value = 0 := by decide
    rw [Nat.toDigits_of_lt_base small]
    intro same
    exact Nat.ne_of_gt positive (digit value small (List.cons.inj same).1)
  · rw [Nat.toDigits_of_base_le (by decide) (Nat.not_lt.mp small)]
    cases digits : Nat.toDigits 10 (value / 10) with
    | nil => exact absurd digits Nat.toDigits_ne_nil
    | cons digit more =>
      intro same
      rw [List.cons_append] at same
      rw [(List.cons.inj same).1] at digits
      exact toDigits_ne_zero_cons (value / 10) (by omega) more digits
termination_by value
decreasing_by omega

theorem finds_whole (value : Nat) {rest : List Char} (closes : Closes rest) :
    Finds (readWhole (Nat.toDigits 10 value ++ rest)) (Nat.toDigits 10 value) rest := by
  have stops : ∀ c ∈ rest.head?, c.isDigit = false := fun c first => (closes.noNumber c first).1
  by_cases zero : value = 0
  · subst zero
    have noMore : ¬ (rest.head?.map Char.isDigit).getD false = true := by
      cases rest with
      | nil => decide
      | cons c rest =>
        rw [List.head?_cons, Option.map_some, stops c rfl]
        decide
    show Finds (readWhole ('0' :: rest)) ['0'] rest
    rw [readWhole, if_neg noMore]
    exact Finds.some _
  · have all : ∀ c ∈ Nat.toDigits 10 value, c.isDigit = true := fun c member =>
      Nat.isDigit_of_mem_toDigits (by decide) (by decide) member
    have noZero := toDigits_ne_zero_cons value (Nat.pos_of_ne_zero zero)
    cases digits : Nat.toDigits 10 value with
    | nil => exact absurd digits Nat.toDigits_ne_nil
    | cons digit more =>
      rw [digits] at all noZero
      obtain ⟨isDigit, areDigits⟩ := List.forall_mem_cons.mp all
      obtain ⟨taken, left⟩ := scan_append Char.isDigit areDigits stops
      rw [List.cons_append, readWhole.eq_2, readDigits, if_pos isDigit]
      · simp only [taken, left]
        exact Finds.some _
      · intro after same
        exact noZero more (by rw [(List.cons.inj same).1])

theorem finds_unsigned (negative : Bool) (value : Nat) {rest : List Char} (closes : Closes rest) :
    Finds (readUnsigned negative (Nat.toDigits 10 value ++ rest))
      ⟨negative, Nat.toDigits 10 value, none, none⟩ rest := by
  have noFraction : Finds (readFraction rest) none rest := by
    unfold readFraction
    split
    · next after => exact absurd rfl (closes.noNumber '.' rfl).2.1
    · exact Finds.some _
  have noExponent : Finds (readExponent rest) none rest := by
    unfold readExponent
    split
    · next c after =>
      rw [if_neg (closes.noNumber c rfl).2.2]
      exact Finds.some _
    · exact Finds.some _
  rw [readUnsigned]
  exact (finds_whole value closes).bind fun _ => noFraction.bind fun _ => noExponent.bind fun _ =>
    Finds.some _

theorem valueOf_toDigits (value : Nat) : Lexer.valueOf 10 (Nat.toDigits 10 value) = value := by
  rw [valueOf_eq_ofDigitChars fun c member =>
    Nat.isDigit_of_mem_toDigits (by decide) (by decide) member]
  exact Nat.ofDigitChars_toDigits (by decide) (by decide)

theorem exists_digit (value : Nat) :
    ∃ digit more, Nat.toDigits 10 value = digit :: more ∧ digit.isDigit = true := by
  cases digits : Nat.toDigits 10 value with
  | nil => exact absurd digits Nat.toDigits_ne_nil
  | cons digit more =>
    have member : digit ∈ Nat.toDigits 10 value := digits ▸ List.mem_cons_self
    exact ⟨digit, more, rfl, Nat.isDigit_of_mem_toDigits (by decide) (by decide) member⟩

theorem toDigits_append_ne_sign (value : Nat) (rest after : List Char) :
    Nat.toDigits 10 value ++ rest ≠ '-' :: after := by
  obtain ⟨digit, more, digits, isDigit⟩ := exists_digit value
  rw [digits]
  rintro ⟨⟩
  cases isDigit

theorem toString_negSucc (size : Nat) :
    (toString (Int.negSucc size)).toList = '-' :: Nat.toDigits 10 (size + 1) := by
  have signed : toString (Int.negSucc size) = "-" ++ toString (size + 1) := rfl
  have digits : (toString (size + 1)).toList = Nat.toDigits 10 (size + 1) := Nat.toList_repr
  simp only [signed, String.toList_append, String.reduceToList, digits, List.cons_append,
    List.nil_append]

/-- A whole number of 64 bits is read back, whatever ends it. -/
theorem finds_number {value : Int} (fits : fitsInt value = true) {rest : List Char}
    (closes : Closes rest) : ∃ spelling : NumberSpelling, spelling.value = .int value ∧
      Finds (readNumber ((toString value).toList ++ rest)) spelling rest := by
  simp only [fitsInt, Bool.and_eq_true, decide_eq_true_eq] at fits
  cases value with
  | ofNat size =>
    have digits : (toString (Int.ofNat size)).toList = Nat.toDigits 10 size := Nat.toList_repr
    refine ⟨⟨false, Nat.toDigits 10 size, none, none⟩, ?_, ?_⟩
    · have small : size ≤ Scaled.limit := by
        have bound : Int.pow 2 63 ≤ Scaled.limit := by decide
        have below : (size : Int) < Int.pow 2 63 := fits.2
        omega
      have whole : NumberSpelling.whole? ⟨false, Nat.toDigits 10 size, none, none⟩ =
          some (size : Int) := by
        simp [NumberSpelling.whole?, valueOf_toDigits, small]
      rw [NumberSpelling.value, whole]
      rfl
    · have noSign : ∀ after, Nat.toDigits 10 size ++ rest = '-' :: after → False :=
        toDigits_append_ne_sign size rest
      rw [digits, readNumber.eq_2 _ noSign]
      exact finds_unsigned false size closes
  | negSucc size =>
    refine ⟨⟨true, Nat.toDigits 10 (size + 1), none, none⟩, ?_, ?_⟩
    · have small : size + 1 ≤ Nat.pow 2 63 := by
        have bound : Int.pow 2 63 = Nat.pow 2 63 := by decide
        have above : -Int.pow 2 63 ≤ Int.negSucc size := fits.1
        omega
      have whole : NumberSpelling.whole? ⟨true, Nat.toDigits 10 (size + 1), none, none⟩ =
          some (Int.negSucc size) := by
        have both : (decide (0 < size + 1) && decide (size + 1 ≤ Nat.pow 2 63)) = true := by
          rw [decide_eq_true (Nat.succ_pos size), decide_eq_true small]
          rfl
        simp only [NumberSpelling.whole?, valueOf_toDigits, Option.isSome_none, Bool.or_self,
          if_pos both, Bool.false_eq_true, if_false, if_true]
        rfl
      rw [NumberSpelling.value, whole]
    · rw [toString_negSucc, List.cons_append, readNumber]
      exact (finds_unsigned true (size + 1) closes).bind fun _ => Finds.some _

/-- The text of a whole number starts with a digit or a sign. -/
theorem toString_starts (value : Int) : ∃ c more, (toString value).toList = c :: more ∧
    (c.isDigit || c == '-') = true := by
  cases value with
  | ofNat size =>
    have digits : (toString (Int.ofNat size)).toList = Nat.toDigits 10 size := Nat.toList_repr
    obtain ⟨digit, more, same, isDigit⟩ := exists_digit size
    exact ⟨digit, more, digits.trans same, by rw [isDigit]; rfl⟩
  | negSucc size =>
    exact ⟨'-', Nat.toDigits 10 (size + 1), toString_negSucc size, rfl⟩

theorem noGap_of_number {c : Char} (starts : (c.isDigit || c == '-') = true) :
    isGap c = false ∧ c ≠ ']' := by
  refine ascii_induction
    (fun c => (c.isDigit || c == '-') = true → isGap c = false ∧ c ≠ ']') (by decide) ?_ starts
  obtain digit | sign := Bool.or_eq_true_iff.mp starts
  · exact small_of_continuesPlainName (continuesPlainName_of_isDigit digit)
  · rw [beq_iff_eq.mp sign]
    decide

/-! ### Plain values -/

mutual

/-- Whether a value has no real numbers, no keys that need escapes, and only whole numbers of 64
bits. -/
def isPlain : Json → Bool
  | null | bool _ | str _ => true
  | int value => fitsInt value
  | float _ | unreadable => false
  | arr items => itemsPlain items
  | obj members => membersPlain members

/-- Whether some items are plain. -/
def itemsPlain : List Json → Bool
  | [] => true
  | item :: rest => item.isPlain && itemsPlain rest

/-- Whether some members are plain. -/
def membersPlain : List (String × Json) → Bool
  | [] => true
  | (key, value) :: rest => isPlainKey key && value.isPlain && membersPlain rest

end

theorem quote_toList (text : String) :
    (quote text).toList = '"' :: (text.toList.flatMap spellChar ++ ['"']) := by
  simp only [quote, spell, String.toList_append, String.reduceToList, String.toList_ofList,
    List.cons_append, List.nil_append]

theorem finds_null (rest : List Char) : Finds (readValue ("null".toList ++ rest)) .null rest := by
  rw [readValue.eq_def]
  exact ⟨_, rfl⟩

theorem finds_true (rest : List Char) :
    Finds (readValue ("true".toList ++ rest)) (.bool true) rest := by
  rw [readValue.eq_def]
  exact ⟨_, rfl⟩

theorem finds_false (rest : List Char) :
    Finds (readValue ("false".toList ++ rest)) (.bool false) rest := by
  rw [readValue.eq_def]
  exact ⟨_, rfl⟩

theorem finds_string (value : String) (rest : List Char) :
    Finds (readValue ((quote value).toList ++ rest)) (.str value) rest := by
  rw [quote_toList, List.cons_append, List.append_assoc, List.singleton_append, readValue.eq_def,
    ← ofSpelling_spell]
  exact (finds_spelling value.toList rest).bind fun _ => Finds.some _

theorem finds_list {items : List Json} {text rest : List Char}
    (found : Finds (readItems text) items rest) :
    Finds (readValue ('[' :: text)) (.arr items) rest := by
  rw [readValue.eq_def]
  exact found.bind fun _ => Finds.some _

theorem finds_object {members : List (String × Json)} {text rest : List Char}
    (found : Finds (readMembers text) members rest) :
    Finds (readValue ('\x7b' :: text)) (.obj members) rest := by
  rw [readValue.eq_def]
  exact found.bind fun _ => Finds.some _

theorem finds_int {value : Int} (fits : fitsInt value = true) {rest : List Char}
    (closes : Closes rest) :
    Finds (readValue ((toString value).toList ++ rest)) (.int value) rest := by
  obtain ⟨spelling, same, found⟩ := finds_number fits closes
  obtain ⟨c, more, start, starts⟩ := toString_starts value
  have noGap := (noGap_of_number starts).1
  rw [start, List.cons_append] at found ⊢
  have whole := skipGap_cons noGap (more ++ rest)
  have other (mark : Char) (noNumber : (mark.isDigit || mark == '-') = false)
      (after : List Char) : skipGap (c :: (more ++ rest)) ≠ mark :: after := by
    intro isMark
    rw [(List.cons.inj (whole.symm.trans isMark)).1, noNumber] at starts
    cases starts
  rw [readValue.eq_def]
  split
  · next isMark => exact absurd isMark (other 'n' rfl _)
  · next isMark => exact absurd isMark (other 't' rfl _)
  · next isMark => exact absurd isMark (other 'f' rfl _)
  · next isMark => exact absurd isMark (other '"' rfl _)
  · next isMark => exact absurd isMark (other '[' rfl _)
  · next isMark => exact absurd isMark (other '\x7b' rfl _)
  · rw [← same]
    exact (whole.symm ▸ found).bind fun _ => Finds.some _

/-! ### Blanks in front of a value -/

/-- A read that goes on after another one, where both find the same under other bounds. -/
theorem Finds.likewise {outer innerToo : Nat} {read : Read α inner} {again : Read α innerToo}
    {next : Reading Char α inner → Read β bound} {other : Reading Char α innerToo → Read β outer}
    {whole : β} {rest : List Char} (found : Finds (read >>= next) whole rest)
    (finds : ∀ value middle, Finds read value middle → Finds again value middle)
    (alike : ∀ value middle fewer fewerToo, Finds (next ⟨value, middle, fewer⟩) whole rest →
      Finds (other ⟨value, middle, fewerToo⟩) whole rest) :
    Finds (again >>= other) whole rest := by
  cases isFound : read with
  | none =>
    rw [isFound] at found
    cases found.choose_spec
  | some result =>
    obtain ⟨value, middle, fewer⟩ := result
    rw [isFound] at found
    exact (finds value middle ⟨fewer, isFound⟩).bind fun fewerToo =>
      alike value middle fewer fewerToo found

/-- What a read finds does not depend on its bound. -/
theorem Finds.rebound {outer : Nat} {value whole : α} {after rest : List Char}
    {fewer : after.length < bound} (fewerToo : after.length < outer)
    (found : Finds (Option.some ⟨value, after, fewer⟩ : Read α bound) whole rest) :
    Finds (Option.some ⟨value, after, fewerToo⟩ : Read α outer) whole rest := by
  obtain ⟨_, same⟩ := found
  cases same
  exact .some _

/-- Only what stands after the blanks at its start counts of a text. -/
theorem finds_of_skipGap {json : Json} {text other rest : List Char}
    (same : skipGap other = skipGap text) (found : Finds (readValue text) json rest) :
    Finds (readValue other) json rest := by
  rw [readValue.eq_def] at found ⊢
  -- Both texts have the same form, as it is told by what stands after the blanks.
  split at found
  case h_7 =>
    split
    case h_7 =>
      exact found.likewise (fun _ _ => same ▸ id) fun _ _ _ _ isWhole => isWhole.rebound _
    -- The first text starts with no mark, and so the second one does not either.
    all_goals
      next otherStart =>
        rw [same] at otherStart
        simp_all
  all_goals
    next start =>
      have otherStart := same.trans start
      split
      all_goals first
        | next isSo =>
          cases otherStart.symm.trans isSo
          exact found.likewise (fun _ _ => id) fun _ _ _ _ isWhole => isWhole.rebound _
        | simp_all

theorem finds_afterGap {gap : List Char} (blank : gap.all isGap = true) {json : Json}
    {text rest : List Char} (found : Finds (readValue text) json rest) :
    Finds (readValue (gap ++ text)) json rest :=
  finds_of_skipGap (skipGap_append blank text) found

/-! ### Items and members -/

theorem readItems_of_starts {c : Char} {text more : List Char} (start : skipGap text = c :: more)
    (noClose : c ≠ ']') : readItems text = readMoreItems text := by
  rw [readItems, readMark_none start noClose]

theorem readMembers_of_starts {c : Char} {text more : List Char} (start : skipGap text = c :: more)
    (noClose : c ≠ '\x7d') : readMembers text = readMoreMembers text := by
  rw [readMembers, readMark_none start noClose]

/-- The last item, and what closes the list. -/
theorem finds_lastItem {item : Json} {text after rest : List Char}
    (found : Finds (readValue text) item after) (closes : skipGap after = ']' :: rest) :
    Finds (readMoreItems text) [item] rest := by
  rw [readMoreItems]
  refine found.bind fun _ => ?_
  dsimp only
  rw [readMark_none closes (by decide)]
  exact (finds_readMark closes).bind fun _ => Finds.some _

/-- An item with others behind it. -/
theorem finds_nextItem {item : Json} {items : List Json} {text middle rest : List Char}
    (found : Finds (readValue text) item (',' :: middle))
    (others : Finds (readMoreItems middle) items rest) :
    Finds (readMoreItems text) (item :: items) rest := by
  obtain ⟨fewer, isComma⟩ := finds_readMark (skipGap_cons (by decide : isGap ',' = false) middle)
  rw [readMoreItems]
  refine found.bind fun _ => ?_
  dsimp only
  rw [isComma]
  exact others.bind fun _ => Finds.some _

/-- The text of a member in front of more text. -/
def memberText (key : String) (text : List Char) : List Char :=
  '"' :: (key.toList ++ '"' :: ':' :: text)

/-- The key of a member is read up to its value. -/
theorem finds_key {key : String} (plain : isPlainKey key = true) (text : List Char) :
    Finds (readSpelling (key.toList ++ '"' :: ':' :: text)) key.toList (':' :: text) := by
  have found := finds_spelling key.toList (':' :: text)
  rwa [flatMap_spellChar_of_plain plain] at found

theorem finds_lastMember {key : String} {value : Json} {text valueText after rest : List Char}
    (plain : isPlainKey key = true) (start : skipGap text = memberText key valueText)
    (found : Finds (readValue valueText) value after) (closes : skipGap after = '\x7d' :: rest) :
    Finds (readMoreMembers text) [(key, value)] rest := by
  rw [readMoreMembers]
  refine (finds_readMark start).bind fun _ => (finds_key plain valueText).bind fun _ => ?_
  refine (finds_readMark (skipGap_cons (by decide) valueText)).bind fun _ => found.bind fun _ => ?_
  dsimp only
  rw [readMark_none closes (by decide), String.ofList_toList]
  exact (finds_readMark closes).bind fun _ => Finds.some _

theorem finds_nextMember {key : String} {value : Json} {members : List (String × Json)}
    {text valueText middle rest : List Char} (plain : isPlainKey key = true)
    (start : skipGap text = memberText key valueText)
    (found : Finds (readValue valueText) value (',' :: middle))
    (others : Finds (readMoreMembers middle) members rest) :
    Finds (readMoreMembers text) ((key, value) :: members) rest := by
  obtain ⟨fewer, isComma⟩ := finds_readMark (skipGap_cons (by decide : isGap ',' = false) middle)
  rw [readMoreMembers]
  refine (finds_readMark start).bind fun _ => (finds_key plain valueText).bind fun _ => ?_
  refine (finds_readMark (skipGap_cons (by decide) valueText)).bind fun _ => found.bind fun _ => ?_
  dsimp only
  rw [isComma, String.ofList_toList]
  exact others.bind fun _ => Finds.some _

end Storefront.Json
