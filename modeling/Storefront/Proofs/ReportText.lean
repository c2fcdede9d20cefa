import Storefront.Proofs.OneLine
import Storefront.Proofs.OwnIds
import Storefront.Report.Text

/-!
What the report in words tells. Up to its first empty line it lists the shops, and from that listing
the directory can be read off: a line of a shop, of an item and of a condition are told apart by how
far they are indented, and each line spells the numbers in it. The diagnostics come after the empty
line, so whatever they say, they cannot be taken for a part of the listing.

If the report is about a script, no line is broken by what it shows, so that there is one line for
each shop, item, condition and diagnostic.
-/

namespace Storefront.Report

open Storefront.Guard Storefront.Script Storefront.Stock Storefront.Survey Storefront.Text

/-! ### Lines -/

/-- The lines of a text, each of which has an end. -/
def linesOf (text : String) : List String :=
  ((text.toList.splitOn '\n').dropLast).map String.ofList

theorem toList_joinLines_cons (line : String) (rest : List String) :
    (joinLines (line :: rest)).toList = line.toList ++ '\n' :: (joinLines rest).toList := by
  rw [joinLines, joinLines, String.toList_join, String.toList_join, List.map_cons,
    List.flatMap_cons, String.toList_append]
  exact List.append_assoc _ ['\n'] _

theorem splitOn_joinLines_append {lines : List String} (unbroken : ∀ line ∈ lines, Unbroken line)
    (rest : List String) :
    (joinLines (lines ++ rest)).toList.splitOn '\n' =
      lines.map String.toList ++ (joinLines rest).toList.splitOn '\n' := by
  induction lines with
  | nil => rfl
  | cons line others inductionHypothesis =>
    obtain ⟨onLine, onOthers⟩ := List.forall_mem_cons.mp unbroken
    rw [List.cons_append, toList_joinLines_cons, List.splitOn_append_cons_self,
      List.splitOn_eq_singleton onLine, inductionHypothesis onOthers]
    rfl

theorem linesOf_joinLines {lines : List String} (unbroken : ∀ line ∈ lines, Unbroken line) :
    linesOf (joinLines lines) = lines := by
  have pieces := splitOn_joinLines_append unbroken []
  rw [List.append_nil] at pieces
  rw [linesOf, pieces]
  show ((lines.map String.toList ++ [[]]).dropLast).map String.ofList = lines
  rw [List.dropLast_concat, List.map_map]
  exact (List.map_congr_left fun line _ => String.ofList_toList).trans (List.map_id lines)

/-! ### Blocks -/

section Blocks

variable {α β : Type} {block : α → List β} {starts : β → Bool}

/-- A block starts with a line of a kind that no other line of a block has. -/
def StartsBlock (starts : β → Bool) (lines : List β) : Prop :=
  ∃ first others, lines = first :: others ∧ starts first = true ∧
    ∀ other ∈ others, starts other = false

theorem takeWhile_blocks (starting : ∀ value, StartsBlock starts (block value)) (values : List α) :
    (values.flatMap block).takeWhile (fun line => !starts line) = [] := by
  cases values with
  | nil => rfl
  | cons value rest =>
    obtain ⟨first, others, isBlock, starts, -⟩ := starting value
    rw [List.flatMap_cons, isBlock, List.cons_append, List.takeWhile_cons, starts]
    rfl

/-- The lines of a block up to the next one. -/
theorem takeWhile_block {others : List β} (within : ∀ other ∈ others, starts other = false)
    (starting : ∀ value, StartsBlock starts (block value)) (values : List α) :
    (others ++ values.flatMap block).takeWhile (fun line => !starts line) = others := by
  rw [List.takeWhile_append_of_pos fun other member => by rw [within other member]; rfl,
    takeWhile_blocks starting, List.append_nil]

/-- Blocks one after the other are told apart by how they start. -/
theorem eq_of_flatMap_eq (starting : ∀ value, StartsBlock starts (block value))
    (injective : ∀ value other, block value = block other → value = other) {values : List α} :
    ∀ {others : List α}, values.flatMap block = others.flatMap block → values = others := by
  have notNil (value : α) (rest : List β) : block value ++ rest ≠ [] := by
    obtain ⟨first, others, isBlock, -⟩ := starting value
    rw [isBlock]
    exact List.cons_ne_nil _ _
  induction values with
  | nil =>
    intro others same
    cases others with
    | nil => rfl
    | cons other more => exact absurd same.symm (notNil other _)
  | cons value rest inductionHypothesis =>
    intro others same
    cases others with
    | nil => exact absurd same (notNil value _)
    | cons other more =>
      rw [List.flatMap_cons, List.flatMap_cons] at same
      obtain ⟨first, tail, isBlock, -, within⟩ := starting value
      obtain ⟨firstOther, tailOther, isOther, -, withinOther⟩ := starting other
      rw [isBlock, isOther, List.cons_append, List.cons_append] at same
      obtain ⟨sameFirst, sameRest⟩ := List.cons.inj same
      have sameTail : tail = tailOther := by
        rw [← takeWhile_block within starting rest, sameRest,
          takeWhile_block withinOther starting more]
      rw [sameTail] at sameRest
      rw [inductionHypothesis (List.append_cancel_left sameRest)]
      refine congrArg (· :: more) (injective value other ?_)
      rw [isBlock, isOther, sameFirst, sameTail]

end Blocks

/-! ### Conditions -/

/-- The texts of two whole numbers differ. -/
theorem toString_injective {value other : Int} (same : toString value = toString other) :
    value = other := by
  have spelled (size : Nat) : (toString (Int.ofNat size)).toList = Nat.toDigits 10 size :=
    Nat.toList_repr
  have digits {size another : Nat} (same : Nat.toDigits 10 size = Nat.toDigits 10 another) :
      size = another := by
    rw [← Json.valueOf_toDigits size, same, Json.valueOf_toDigits]
  have characters := congrArg String.toList same
  cases value with
  | ofNat size =>
    cases other with
    | ofNat another =>
      rw [spelled, spelled] at characters
      rw [digits characters]
    | negSucc another =>
      rw [spelled, Json.toString_negSucc, ← List.append_nil (Nat.toDigits 10 size)] at characters
      exact absurd characters (Json.toDigits_append_ne_sign size [] _)
  | negSucc size =>
    cases other with
    | ofNat another =>
      rw [spelled, Json.toString_negSucc, ← List.append_nil (Nat.toDigits 10 another)] at characters
      exact absurd characters.symm (Json.toDigits_append_ne_sign another [] _)
    | negSucc another =>
      rw [Json.toString_negSucc, Json.toString_negSucc] at characters
      rw [Nat.succ.inj (digits (List.cons.inj characters).2)]

/-- A number of a condition as its text shows it. -/
def shown : Option Int → List Char
  | none => ['_']
  | some value => (toString value).toList

/-- What follows the first number of a condition. -/
def afterFirst : Option Int → List Char
  | none => [')']
  | some value => ',' :: ' ' :: (toString value).toList ++ [')']

/-- The numbers of a condition as its text shows them behind the name of the tag. -/
def numbersText (first second : Option Int) : List Char :=
  if first = none ∧ second = none then [] else '(' :: shown first ++ afterFirst second

theorem toList_conditionText (condition : Condition) :
    condition.text.toList =
      condition.tag.name.toList ++ numbersText condition.param1 condition.param2 := by
  obtain ⟨tag, param1, param2⟩ := condition
  cases param1 <;> cases param2 <;>
    simp [Condition.text, numbersText, shown, afterFirst, String.toList_append]

/-- Whether a character ends the first number of a condition. -/
def endsNumber (c : Char) : Bool := c == ',' || c == ')'

theorem shown_within (number : Option Int) : ∀ c ∈ shown number, endsNumber c = false := by
  cases number with
  | none => exact List.forall_mem_singleton.mpr rfl
  | some value =>
    intro c member
    have numeric := numeric_of_mem_toString value c member
    cases ends : endsNumber c with
    | false => rfl
    | true =>
      rcases Bool.or_eq_true_iff.mp ends with comma | close
      · rw [beq_iff_eq.mp comma] at numeric
        exact absurd numeric (by decide)
      · rw [beq_iff_eq.mp close] at numeric
        exact absurd numeric (by decide)

theorem shown_injective {number other : Option Int} (same : shown number = shown other) :
    number = other := by
  have noUnderscore (value : Int) : (toString value).toList ≠ ['_'] := by
    intro spelled
    have numeric := numeric_of_mem_toString value '_' (spelled ▸ List.mem_cons_self)
    exact absurd numeric (by decide)
  cases number with
  | none =>
    cases other with
    | none => rfl
    | some value => exact absurd same.symm (noUnderscore value)
  | some value =>
    cases other with
    | none => exact absurd same (noUnderscore value)
    | some another => rw [toString_injective (String.toList_inj.mp same)]

theorem afterFirst_injective {number other : Option Int}
    (same : afterFirst number = afterFirst other) : number = other := by
  cases number with
  | none =>
    cases other with
    | none => rfl
    | some value => cases same
  | some value =>
    cases other with
    | none => cases same
    | some another =>
      obtain ⟨-, spelled⟩ := List.cons.inj (List.cons.inj same).2
      rw [toString_injective (String.toList_inj.mp (List.append_cancel_right spelled))]

theorem takeWhile_shown (first second : Option Int) :
    (shown first ++ afterFirst second).takeWhile (fun c => !endsNumber c) = shown first := by
  have stops : (afterFirst second).takeWhile (fun c => !endsNumber c) = [] := by
    cases second <;> rfl
  rw [List.takeWhile_append_of_pos fun c member => by rw [shown_within first c member]; rfl, stops,
    List.append_nil]

theorem numbersText_injective {first second firstOther secondOther : Option Int}
    (same : numbersText first second = numbersText firstOther secondOther) :
    first = firstOther ∧ second = secondOther := by
  have inside (same : shown first ++ afterFirst second =
      shown firstOther ++ afterFirst secondOther) : first = firstOther ∧ second = secondOther := by
    have sameShown : shown first = shown firstOther := by
      rw [← takeWhile_shown first second, same, takeWhile_shown]
    obtain rfl := shown_injective sameShown
    exact ⟨rfl, afterFirst_injective (List.append_cancel_left same)⟩
  unfold numbersText at same
  split at same
  · next nothing =>
    split at same
    · next nothingOther =>
      exact ⟨nothing.1.trans nothingOther.1.symm, nothing.2.trans nothingOther.2.symm⟩
    · cases same
  · split at same
    · cases same
    · exact inside (List.cons.inj same).2

theorem takeWhile_conditionText (condition : Condition) :
    condition.text.toList.takeWhile Char.isAlphanum = condition.tag.name.toList := by
  have stops (first second : Option Int) :
      (numbersText first second).takeWhile Char.isAlphanum = [] := by
    unfold numbersText
    split <;> rfl
  rw [toList_conditionText, List.takeWhile_append_of_pos condition.tag.isAlphanum_of_mem_name,
    stops, List.append_nil]

/-- A condition can be read off from its text. -/
theorem conditionText_injective {condition other : Condition}
    (same : condition.text = other.text) : condition = other := by
  have characters := congrArg String.toList same
  have sameName : condition.tag.name = other.tag.name := by
    rw [← String.toList_inj, ← takeWhile_conditionText, ← takeWhile_conditionText, characters]
  have sameTag : condition.tag = other.tag := by
    rw [← Option.some_inj, ← Tag.ofName?_name, sameName, Tag.ofName?_name]
  rw [toList_conditionText, toList_conditionText, sameName] at characters
  obtain ⟨first, second⟩ := numbersText_injective (List.append_cancel_left characters)
  obtain ⟨tag, param1, param2⟩ := condition
  cases other
  cases sameTag
  cases first
  cases second
  rfl

/-! ### The listing -/

/-- Whether a line is that of a shop. -/
def isShopLine (line : String) : Bool := line.toList.head? == some 'S'

/-- Whether a line is that of an item. -/
def isItemLine (line : String) : Bool := "  Item ".toList.isPrefixOf line.toList

theorem startsBlock_itemLines (item : Item) : StartsBlock isItemLine (itemLines item) := by
  refine ⟨_, _, rfl, ?_, fun line member => ?_⟩
  · rw [isItemLine, String.toList_append]
    rfl
  · obtain ⟨condition, -, rfl⟩ := List.mem_map.mp member
    rw [isItemLine, conditionLine, String.toList_append]
    rfl

theorem startsBlock_shopLines (shop : Shop) : StartsBlock isShopLine (shopLines shop) := by
  refine ⟨_, _, rfl, ?_, fun line member => ?_⟩
  · rw [isShopLine, String.toList_append]
    rfl
  · obtain ⟨item, -, inItem⟩ := List.mem_flatMap.mp member
    rcases List.mem_cons.mp inItem with rfl | ofCondition
    · rw [isShopLine, String.toList_append]
      rfl
    · obtain ⟨condition, -, rfl⟩ := List.mem_map.mp ofCondition
      rw [isShopLine, conditionLine, String.toList_append]
      rfl

theorem append_injective (front : String) {text other : String}
    (same : front ++ text = front ++ other) : text = other := by
  have characters := congrArg String.toList same
  rw [String.toList_append, String.toList_append] at characters
  exact String.toList_inj.mp (List.append_cancel_left characters)

theorem itemLines_injective (item other : Item) (same : itemLines item = itemLines other) :
    item = other := by
  obtain ⟨sameId, sameConditions⟩ := List.cons.inj same
  have ids := toString_injective (append_injective _ sameId)
  have conditions := List.map_injective_iff.mpr
    (fun _ _ same => conditionText_injective (append_injective _ same)) sameConditions
  obtain ⟨id, itemConditions⟩ := item
  cases other
  cases ids
  cases conditions
  rfl

theorem shopLines_injective (shop other : Shop) (same : shopLines shop = shopLines other) :
    shop = other := by
  obtain ⟨sameId, sameItems⟩ := List.cons.inj same
  have ids := toString_injective (append_injective _ sameId)
  have items := eq_of_flatMap_eq startsBlock_itemLines itemLines_injective sameItems
  obtain ⟨id, shopItems⟩ := shop
  cases other
  cases ids
  cases items
  rfl

/-! ### Reading the listing off -/

/-- What follows the listing in a report, after an empty line. -/
def afterListing (outcome : Outcome) : List String :=
  if outcome.diagnostics.isEmpty then [countLine outcome]
  else outcome.diagnostics.map Diagnostic.text ++ ["", countLine outcome]

theorem textLines_eq (outcome : Outcome) :
    textLines outcome =
      outcome.directory.shops.flatMap shopLines ++ "" :: afterListing outcome := by
  rw [textLines, afterListing, List.append_assoc]
  split <;> rfl

/-- A text that stays in its line and is not empty. -/
structure Filled (line : String) : Prop where
  unbroken : Unbroken line
  notEmpty : line.toList.isEmpty = false

theorem filled_append {front line : String} (unbroken : Unbroken front) (onLine : Unbroken line)
    (notEmpty : front.toList.isEmpty = false) : Filled (front ++ line) := by
  refine ⟨unbroken.append onLine, ?_⟩
  rw [String.toList_append]
  cases spelled : front.toList with
  | nil =>
    rw [spelled] at notEmpty
    cases notEmpty
  | cons c more => rfl

theorem unbroken_conditionText (condition : Condition) : Unbroken condition.text := by
  have name := condition.tag.unbroken_name
  unfold Condition.text
  split
  · exact name
  · exact ((name.append (by decide)).append (unbroken_toString _)).append (by decide)
  · exact ((((name.append (by decide)).append (unbroken_toString _)).append (by decide)).append
      (unbroken_toString _)).append (by decide)
  · exact ((name.append (by decide)).append (unbroken_toString _)).append (by decide)

theorem filled_itemLines (item : Item) : ∀ line ∈ itemLines item, Filled line := by
  refine List.forall_mem_cons.mpr ⟨?_, fun line member => ?_⟩
  · exact filled_append (by decide) (unbroken_toString item.id) (by decide)
  · obtain ⟨condition, -, rfl⟩ := List.mem_map.mp member
    exact filled_append (by decide) (unbroken_conditionText condition) (by decide)

theorem filled_shopLines (shop : Shop) : ∀ line ∈ shopLines shop, Filled line := by
  refine List.forall_mem_cons.mpr ⟨?_, fun line member => ?_⟩
  · exact filled_append (by decide) (unbroken_toString shop.id) (by decide)
  · obtain ⟨item, -, inItem⟩ := List.mem_flatMap.mp member
    exact filled_itemLines item line inItem

theorem filled_listing (shops : List Shop) : ∀ line ∈ shops.flatMap shopLines, Filled line := by
  intro line member
  obtain ⟨shop, -, inShop⟩ := List.mem_flatMap.mp member
  exact filled_shopLines shop line inShop

/-- The lines of a text up to its first empty one. -/
def linesBeforeEmpty (text : String) : List (List Char) :=
  (text.toList.splitOn '\n').takeWhile fun line => !line.isEmpty

theorem linesBeforeEmpty_text (outcome : Outcome) :
    linesBeforeEmpty (text outcome) =
      (outcome.directory.shops.flatMap shopLines).map String.toList := by
  have filled := filled_listing outcome.directory.shops
  have emptyLine : (joinLines ("" :: afterListing outcome)).toList.splitOn '\n' =
      [] :: (joinLines (afterListing outcome)).toList.splitOn '\n' := by
    rw [toList_joinLines_cons, List.splitOn_append_cons_self]
    rfl
  rw [linesBeforeEmpty, text, textLines_eq,
    splitOn_joinLines_append fun line member => (filled line member).unbroken, emptyLine,
    List.takeWhile_append_of_pos, List.takeWhile_cons_of_neg (by decide), List.append_nil]
  intro line member
  obtain ⟨spelled, spelledMember, rfl⟩ := List.mem_map.mp member
  rw [(filled spelled spelledMember).notEmpty]
  rfl

/-- The shops of a report can be read off from its text, whatever diagnostics it has. -/
theorem shops_of_text {outcome other : Outcome} (same : text outcome = text other) :
    outcome.directory.shops = other.directory.shops := by
  have listings : (outcome.directory.shops.flatMap shopLines).map String.toList =
      (other.directory.shops.flatMap shopLines).map String.toList := by
    rw [← linesBeforeEmpty_text, ← linesBeforeEmpty_text, same]
  refine eq_of_flatMap_eq startsBlock_shopLines shopLines_injective ?_
  exact List.map_injective_iff.mpr (fun _ _ same => String.toList_inj.mp same) listings

/-- Directories in which each shop stands under its own id are told apart by their shops. -/
theorem eq_of_shops {directory other : Directory} (keyed : directory.Keyed)
    (keyedOther : other.Keyed) (same : directory.shops = other.shops) : directory = other := by
  rw [← Option.some_inj, ← Directory.keyed_iff_rebuilt.mp keyed, same,
    Directory.keyed_iff_rebuilt.mp keyedOther]

/-! ### Lines of items -/

theorem countP_itemLines (items : List Item) :
    (items.flatMap itemLines).countP isItemLine = items.length := by
  induction items with
  | nil => rfl
  | cons item rest inductionHypothesis =>
    obtain ⟨first, others, isBlock, starts, within⟩ := startsBlock_itemLines item
    have none : others.countP isItemLine = 0 := by
      refine List.countP_eq_zero.mpr fun line member => ?_
      rw [within line member]
      exact Bool.false_ne_true
    rw [List.flatMap_cons, List.countP_append, isBlock, List.countP_cons_of_pos starts, none,
      inductionHypothesis, List.length_cons]
    omega

theorem isItemLine_eq_false {line : String} (head : line.toList.head? ≠ some ' ') :
    isItemLine line = false := by
  have blank : "  Item ".toList = ' ' :: " Item ".toList := by decide
  rw [isItemLine, blank]
  cases spelled : line.toList with
  | nil => rfl
  | cons c more =>
    have other : (' ' == c) = false := by
      rw [spelled] at head
      exact beq_eq_false_iff_ne.mpr fun same => head (congrArg some same.symm)
    rw [List.isPrefixOf_cons_cons, other]
    rfl

theorem isItemLine_diagnosticText (diagnostic : Diagnostic) :
    isItemLine diagnostic.text = false := by
  refine isItemLine_eq_false ?_
  rw [Diagnostic.text]
  cases diagnostic.shop with
  | none => simp [String.toList_append]
  | some shop => simp [String.toList_append]

theorem isItemLine_countLine (outcome : Outcome) : isItemLine (countLine outcome) = false := by
  refine isItemLine_eq_false ?_
  obtain ⟨c, more, spelled, numeric⟩ := Json.toString_starts (Int.ofNat outcome.directory.size)
  have starts : (toString outcome.directory.size).toList = c :: more := spelled
  rw [countLine, String.intercalate_cons_cons, counted]
  simp only [String.toList_append, starts, List.cons_append, List.head?_cons]
  rintro ⟨⟩
  exact absurd numeric (by decide)

theorem countP_afterListing (outcome : Outcome) :
    ("" :: afterListing outcome).countP isItemLine = 0 := by
  have count := isItemLine_countLine outcome
  refine List.countP_eq_zero.mpr (List.forall_mem_cons.mpr ⟨by decide, ?_⟩)
  unfold afterListing
  split
  · exact List.forall_mem_singleton.mpr (Bool.eq_false_iff.mp count)
  · refine List.forall_mem_append.mpr ⟨fun line member => ?_, ?_⟩
    · obtain ⟨diagnostic, -, rfl⟩ := List.mem_map.mp member
      exact Bool.eq_false_iff.mp (isItemLine_diagnosticText diagnostic)
    · exact List.forall_mem_cons.mpr ⟨by decide,
        List.forall_mem_singleton.mpr (Bool.eq_false_iff.mp count)⟩

theorem countP_shopLines (shops : List Shop) :
    (shops.flatMap shopLines).countP isItemLine =
      (shops.map fun shop => shop.items.length).foldr Nat.add 0 := by
  induction shops with
  | nil => rfl
  | cons shop rest inductionHypothesis =>
    have head : isItemLine ("Shop " ++ toString shop.id) = false := by
      rw [isItemLine, String.toList_append]
      rfl
    rw [List.flatMap_cons, List.countP_append, shopLines, List.countP_cons_of_neg, countP_itemLines,
      inductionHypothesis]
    · rfl
    · rw [head]
      exact Bool.false_ne_true

/-- Of the lines of a report as many are those of items as there are items. -/
theorem countP_textLines (outcome : Outcome) :
    (textLines outcome).countP isItemLine = outcome.directory.itemCount := by
  rw [textLines_eq, List.countP_append, countP_afterListing, countP_shopLines]
  rfl

/-! ### Reports about scripts -/

theorem unbroken_counted (count : Nat) {word : String} (onWord : Unbroken word) :
    Unbroken (counted count word) := by
  refine Unbroken.append (((unbroken_toString_nat count).append (by decide)).append onWord) ?_
  split <;> decide

/-- No line of a report is broken by what it shows, if the diagnostics are told in one line each. -/
theorem unbroken_textLines {outcome : Outcome}
    (oneLine : ∀ diagnostic ∈ outcome.diagnostics, diagnostic.OneLine) :
    ∀ line ∈ textLines outcome, Unbroken line := by
  have count : Unbroken (countLine outcome) := by
    refine .intercalate (by decide) (List.forall_mem_cons.mpr ⟨?_, List.forall_mem_cons.mpr
      ⟨?_, List.forall_mem_singleton.mpr ?_⟩⟩)
    all_goals exact unbroken_counted _ (by decide)
  rw [textLines_eq]
  refine List.forall_mem_append.mpr
    ⟨fun line member => ?_, List.forall_mem_cons.mpr ⟨by decide, ?_⟩⟩
  · exact (filled_listing _ line member).unbroken
  · unfold afterListing
    split
    · exact List.forall_mem_singleton.mpr count
    · refine List.forall_mem_append.mpr ⟨fun line member => ?_, ?_⟩
      · obtain ⟨diagnostic, diagnosticMember, rfl⟩ := List.mem_map.mp member
        exact (oneLine diagnostic diagnosticMember).text
      · exact List.forall_mem_cons.mpr ⟨by decide, List.forall_mem_singleton.mpr count⟩

/-- A report in words is faithful. Whatever the diagnostics say, reports with the same text are about
the same shops, with the same items under the same conditions. And a report about a script has the
lines that are meant and no others: each diagnostic has a line of its own, and as many lines start
as those of items do as there are items. -/
theorem text_faithful :
    (∀ (shops others : List Shop) (notes otherNotes : List Diagnostic),
        text ⟨.ofShops shops, notes⟩ = text ⟨.ofShops others, otherNotes⟩ →
          Directory.ofShops shops = Directory.ofShops others) ∧
      ∀ (source : String) (body : List Stmt) (settings : Settings),
        parseProcedure source = .ok body →
          linesOf (text (survey settings body)) =
              (survey settings body).directory.shops.flatMap shopLines ++
                (if (survey settings body).diagnostics.isEmpty then []
                  else "" :: (survey settings body).diagnostics.map Diagnostic.text) ++
                ["", countLine (survey settings body)] ∧
            (linesOf (text (survey settings body))).countP isItemLine =
              (survey settings body).directory.itemCount := by
  refine ⟨fun shops others notes otherNotes same => ?_, fun source body settings parsed => ?_⟩
  · exact eq_of_shops (Directory.keyed_ofShops shops) (Directory.keyed_ofShops others)
      (shops_of_text same)
  · have oneLine := oneLine_of_surveyWith builtinCatalog settings (parseProcedure_genuine parsed)
    have lines : linesOf (text (survey settings body)) = textLines (survey settings body) :=
      linesOf_joinLines (unbroken_textLines oneLine)
    rw [lines]
    exact ⟨rfl, countP_textLines _⟩

/-- A script whose guard compares with a string that looks like the line of an item. -/
def forgingScript : String :=
  "switch (t) \x7b case 1: if (a == \"\\n  Item 9\") array[num++].SetDefaults(5); \x7d"

/-- The procedure of the script. -/
def forgingBody : List Stmt :=
  [.switch (.ident "t") [.mk [.case (.int 1)]
    [.branch (.binary .eq (.ident "a") (.str "\n  Item 9"))
      (.expr (.call (.member (.index (.ident "array") [.unary .postInc (.ident "num")])
        "SetDefaults") [.int 5])) none]]]

/-- Neither a diagnostic with a line break in it nor a string of a script passes for an item. -/
theorem text_faithful_forging :
    text ⟨.ofShops [⟨1, [⟨5, []⟩]⟩], []⟩ ≠
        text ⟨.ofShops [⟨1, []⟩], [⟨.unrecognizedGuard, none, "", "\n  Item 5"⟩]⟩ ∧
      parseProcedure forgingScript = .ok forgingBody ∧
      (linesOf (text (survey .standard forgingBody))).countP isItemLine =
        (survey .standard forgingBody).directory.itemCount := by
  obtain ⟨told, lines⟩ := text_faithful
  have parsed : parseProcedure forgingScript = .ok forgingBody := by
    unfold forgingScript forgingBody
    cbv
  refine ⟨fun same => ?_, parsed, (lines _ _ _ parsed).2⟩
  have shops := congrArg Directory.shops (told _ _ _ _ same)
  exact absurd shops (by decide)

end Storefront.Report
