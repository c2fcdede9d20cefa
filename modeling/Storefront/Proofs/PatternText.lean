import Mathlib
import Storefront.Proofs.PatternSpelling
import Storefront.Proofs.Substitution

/-!
A pattern is what its own text is read as. Between two tokens of a text stands a blank, or a
character that neither of them can have, so the text is cut back into the tokens that it was put
together from; and each form of pattern is told by its first token. Real numbers are left out, since
not all their texts are numbers to a pattern, and so are texts with the mark that would end them.

Only what was read can be written: no text of a pattern means a name that is empty or a word that is
the name of a value. What comes of replacing references was read too, piece by piece.
-/

namespace Storefront.Pattern

open Json (fitsInt)

variable {pattern compiled : Pattern} {condition : Pattern → Prop}

/-! ### Patterns that were read -/

/-- A condition holds of a pattern and of all patterns within it. -/
def Everywhere (condition : Pattern → Prop) (pattern : Pattern) : Prop :=
  ∀ part, Occurs part pattern → condition part

theorem everywhere_iff : pattern.Everywhere condition ↔
    condition pattern ∧ ∀ child ∈ pattern.inner, child.Everywhere condition := by
  constructor
  · intro everywhere
    exact ⟨everywhere pattern .here, fun child member part occurs =>
      everywhere part (.deeper member occurs)⟩
  · rintro ⟨here, below⟩ part occurs
    cases occurs with
    | here => exact here
    | deeper member occurs => exact below _ member part occurs

/-- What a pattern carries can be spelled, the patterns within it aside. -/
def Spellable : Pattern → Prop
  | node kind _ => IsWord kind
  | ofKind word => IsWord word ∧ ofWord word = .ofKind word
  | alternatives options => options ≠ []
  | helper name | symbol name | symbolStart name => IsName name
  | int value => fitsInt value = true
  | _ => True

/-- The text of a pattern cannot be mistaken for another one, the patterns within it aside. -/
def Unmistakable : Pattern → Prop
  | float _ => False
  | str text => '\'' ∉ text.toList
  | _ => True

section

variable {α β : Type} {bound inner : Nat}

/-- Whenever the read succeeds, what it finds and the tokens that it leaves satisfy a condition. -/
def Ensures (read : Read α bound) (condition : α → List Token → Prop) : Prop :=
  ∀ reading, read = .ok reading → condition reading.value reading.rest

theorem Ensures.ok {value : α} {rest : List Token} {fewer : rest.length < bound}
    {condition : α → List Token → Prop} (holds : condition value rest) :
    Ensures (.ok ⟨value, rest, fewer⟩) condition := by
  rintro _ ⟨⟩
  exact holds

theorem Ensures.error {fault : Fault} {condition : α → List Token → Prop} :
    Ensures (.error fault : Read α bound) condition := nofun

/-- What one read ensures is known when the next one starts. -/
theorem Ensures.bind {read : Read α inner} {next : Reading Token α inner → Read β bound}
    {first : α → List Token → Prop} {condition : β → List Token → Prop}
    (ensured : Ensures read first)
    (continued : ∀ value rest fewer, first value rest →
      Ensures (next ⟨value, rest, fewer⟩) condition) :
    Ensures (read >>= next) condition := by
  intro reading succeeds
  obtain ⟨found, run, goesOn⟩ := exists_of_bind succeeds
  exact continued found.value found.rest found.fewer (ensured found run) reading goesOn

end

/-- All tokens can be spelled. -/
def AllSpellable (tokens : List Token) : Prop := ∀ token ∈ tokens, token.Spellable

theorem readClose_spellable {tokens : List Token} (spellable : AllSpellable tokens)
    (close : Token) : Ensures (readClose close tokens) fun _ rest => AllSpellable rest := by
  cases tokens with
  | nil => exact Ensures.error
  | cons token rest => exact Ensures.ok (List.forall_mem_cons.mp spellable).2

theorem readKind_spellable {tokens : List Token} (spellable : AllSpellable tokens) :
    Ensures (readKind tokens) fun kind rest => IsWord kind ∧ AllSpellable rest := by
  unfold readKind
  split
  · exact Ensures.ok (List.forall_mem_cons.mp spellable)
  · exact Ensures.error

theorem ofWord_spellable {word : String} (isWord : IsWord word) :
    (ofWord word).Everywhere Spellable := by
  cases meaning : ofWord word with
  | ofKind kind =>
    have same : kind = word := by
      unfold ofWord at meaning
      split_ifs at meaning
      exact (ofKind.inj meaning).symm
    subst same
    exact everywhere_iff.mpr ⟨⟨isWord, meaning⟩, List.forall_mem_nil _⟩
  | bool value => exact everywhere_iff.mpr ⟨trivial, List.forall_mem_nil _⟩
  | null => exact everywhere_iff.mpr ⟨trivial, List.forall_mem_nil _⟩
  | _ =>
    unfold ofWord at meaning
    split_ifs at meaning

theorem ofToken?_spellable {token : Token} (spellable : token.Spellable)
    (found : ofToken? token = some pattern) : pattern.Everywhere Spellable := by
  unfold ofToken? at found
  split at found
  next => exact Option.some.inj found ▸ everywhere_iff.mpr ⟨trivial, List.forall_mem_nil _⟩
  next => exact Option.some.inj found ▸ everywhere_iff.mpr ⟨trivial, List.forall_mem_nil _⟩
  next => exact Option.some.inj found ▸ everywhere_iff.mpr ⟨spellable, List.forall_mem_nil _⟩
  next => exact Option.some.inj found ▸ everywhere_iff.mpr ⟨spellable, List.forall_mem_nil _⟩
  next => exact Option.some.inj found ▸ everywhere_iff.mpr ⟨spellable, List.forall_mem_nil _⟩
  next => exact Option.some.inj found ▸ everywhere_iff.mpr ⟨spellable, List.forall_mem_nil _⟩
  next => exact Option.some.inj found ▸ everywhere_iff.mpr ⟨trivial, List.forall_mem_nil _⟩
  next => exact Option.some.inj found ▸ everywhere_iff.mpr ⟨trivial, List.forall_mem_nil _⟩
  next => exact Option.some.inj found ▸ ofWord_spellable spellable
  next => cases found

mutual

theorem readPattern_spellable {tokens : List Token} (spellable : AllSpellable tokens) :
    Ensures (readPattern tokens)
      fun pattern rest => pattern.Everywhere Spellable ∧ AllSpellable rest := by
  cases starts : tokens with
  | nil =>
    rw [readPattern]
    exact Ensures.error
  | cons token rest =>
    rw [starts] at spellable
    obtain ⟨here, later⟩ := List.forall_mem_cons.mp spellable
    cases token with
    | lParen =>
      rw [readPattern]
      refine (readKind_spellable later).bind fun kind afterKind fewer₁ ⟨isWord, left⟩ => ?_
      refine (readPatterns_spellable .rParen left).bind fun children atClose fewer₂ below => ?_
      refine (readClose_spellable below.2 .rParen).bind fun _ after fewer₃ left => ?_
      exact Ensures.ok ⟨everywhere_iff.mpr ⟨isWord, below.1⟩, left⟩
    | lBrace =>
      rw [readPattern]
      refine (readOptions_spellable later).bind fun options atClose fewer₁ below => ?_
      refine (readClose_spellable below.2 .rBrace).bind fun _ after fewer₂ left => ?_
      dsimp only
      split
      next => exact Ensures.error
      next notEmpty =>
        have some : options ≠ [] := notEmpty ∘ List.isEmpty_iff.mpr
        exact Ensures.ok ⟨everywhere_iff.mpr ⟨some, below.1⟩, left⟩
    | lBracket =>
      rw [readPattern]
      refine (readPatterns_spellable .rBracket later).bind fun parts atClose fewer₁ below => ?_
      refine (readClose_spellable below.2 .rBracket).bind fun _ after fewer₂ left => ?_
      exact Ensures.ok ⟨everywhere_iff.mpr ⟨trivial, below.1⟩, left⟩
    | capture | negation =>
      rw [readPattern]
      refine (readPattern_spellable later).bind fun inner after fewer below => ?_
      exact Ensures.ok
        ⟨everywhere_iff.mpr ⟨trivial, List.forall_mem_singleton.mpr below.1⟩, below.2⟩
    | _ =>
      rw [readPattern.eq_def]
      dsimp only
      split
      next found => exact Ensures.ok ⟨ofToken?_spellable here found, later⟩
      next => exact Ensures.error
termination_by tokens.length * 2
decreasing_by
  all_goals
    have size := congrArg List.length starts
    simp only [List.length_cons] at *
    omega

theorem readPatterns_spellable (close : Token) {tokens : List Token}
    (spellable : AllSpellable tokens) : Ensures (readPatterns close tokens)
      fun patterns rest => (∀ pattern ∈ patterns, pattern.Everywhere Spellable) ∧
        AllSpellable rest := by
  cases starts : tokens with
  | nil =>
    rw [readPatterns]
    exact Ensures.ok ⟨nofun, nofun⟩
  | cons token rest =>
    rw [starts] at spellable
    rw [readPatterns]
    split
    next => exact Ensures.ok ⟨nofun, spellable⟩
    next =>
      refine (readPattern_spellable spellable).bind fun pattern others fewer₁ first => ?_
      refine (readPatterns_spellable close first.2).bind fun patterns after fewer₂ later => ?_
      exact Ensures.ok ⟨List.forall_mem_cons.mpr ⟨first.1, later.1⟩, later.2⟩
termination_by tokens.length * 2 + 1
decreasing_by
  all_goals
    have size := congrArg List.length starts
    simp only [List.length_cons] at *
    omega

theorem readOptions_spellable {tokens : List Token} (spellable : AllSpellable tokens) :
    Ensures (readOptions tokens) fun options rest =>
      (∀ option ∈ options, option.Everywhere Spellable) ∧ AllSpellable rest := by
  cases starts : tokens with
  | nil =>
    rw [readOptions]
    exact Ensures.ok ⟨nofun, nofun⟩
  | cons token rest =>
    rw [starts] at spellable
    by_cases isClose : token = .rBrace
    · subst isClose
      rw [readOptions]
      exact Ensures.ok ⟨nofun, spellable⟩
    · by_cases isPipe : token = .pipe
      · subst isPipe
        rw [readOptions]
        have later := (List.forall_mem_cons.mp spellable).2
        exact (readOptions_spellable later).bind fun options after fewer below => Ensures.ok below
      · rw [readOptions.eq_4 _ _ isClose isPipe]
        refine (readPattern_spellable spellable).bind fun pattern others fewer₁ first => ?_
        refine (readOptions_spellable first.2).bind fun options after fewer₂ later => ?_
        exact Ensures.ok ⟨List.forall_mem_cons.mpr ⟨first.1, later.1⟩, later.2⟩
termination_by tokens.length * 2 + 1
decreasing_by
  all_goals
    have size := congrArg List.length starts
    simp only [List.length_cons] at *
    omega

end

/-- Whatever was read can be spelled. -/
theorem spellable_of_parse {text : String} (read : parse text = .ok pattern) :
    pattern.Everywhere Spellable := by
  unfold parse at read
  obtain ⟨tokens, cut, read⟩ := exists_of_bind read
  obtain ⟨⟨found, rest, fewer⟩, whole, ends⟩ := exists_of_bind read
  have spellable := readPattern_spellable (spellable_of_lexFrom cut) _ whole
  cases rest with
  | nil =>
    cases ends
    exact spellable.1
  | cons token others => cases ends

/-! ### The tokens of a pattern -/

mutual

/-- The tokens that a pattern is written with. -/
def tokens : Pattern → List Token
  | node kind children => .lParen :: .ident kind :: (tokensOf children ++ [.rParen])
  | alternatives options => .lBrace :: (tokensOf options ++ [.rBrace])
  | conjunction parts => .lBracket :: (tokensOf parts ++ [.rBracket])
  | capture inner => .capture :: inner.tokens
  | wildcard => [.wildcard]
  | remaining => [.rest]
  | negation inner => .negation :: inner.tokens
  | helper name => [.helper name]
  | symbol name => [.symbol name]
  | symbolStart start => [.symbolStart start]
  | int value => [.int value]
  | float value => [.float value]
  | str value => [.str value]
  | bool value => [.ident (if value then "true" else "false")]
  | null => [.ident "null"]
  | ofKind kind => [.ident kind]

/-- The tokens of patterns, which have nothing between them. -/
def tokensOf : List Pattern → List Token
  | [] => []
  | pattern :: others => pattern.tokens ++ tokensOf others

end

mutual

/-- The text of a pattern is cut into its tokens, wherever nothing runs on from it. -/
theorem spells_text : (pattern : Pattern) → pattern.Everywhere Spellable →
    pattern.Everywhere Unmistakable → ∀ rest, Stops rest →
      Spells pattern.text.toList pattern.tokens rest
  | node kind [], spellable, _ => by
    intro rest stops
    have isWord : IsWord kind := spellable _ .here
    simp only [text, tokens, tokensOf, String.toList_append, String.reduceToList,
      List.cons_append, List.nil_append]
    have word := spells_word isWord (.cons (by decide : goesOn ')' = false) rest)
    exact word.enclosed (by decide) rfl (by decide) rfl
  | node kind (child :: children), spellable, unmistakable => by
    intro rest stops
    obtain ⟨isWord, spellable⟩ := everywhere_iff.mp spellable
    simp only [text, tokens, String.toList_append, String.reduceToList,
      List.append_assoc, List.cons_append, List.nil_append]
    have below := spells_texts (child :: children) spellable (everywhere_iff.mp unmistakable).2
      (')' :: rest) (.cons (by decide) _)
    have whole := (spells_word isWord (.cons (by decide) _)).append below.blank
    have enclosed : Spells ('(' :: (_ ++ [')'])) (.lParen :: (_ ++ [.rParen])) rest :=
      whole.enclosed (by decide) rfl (by decide) rfl
    simpa only [List.append_assoc, List.cons_append, List.nil_append] using enclosed
  | alternatives options, spellable, unmistakable => by
    intro rest stops
    simp only [text, tokens, String.toList_append, String.reduceToList, List.cons_append,
      List.nil_append]
    have below := spells_texts options (everywhere_iff.mp spellable).2
      (everywhere_iff.mp unmistakable).2 ('\x7d' :: rest) (.cons (by decide) _)
    exact below.enclosed (by decide) rfl (by decide) rfl
  | conjunction parts, spellable, unmistakable => by
    intro rest stops
    simp only [text, tokens, String.toList_append, String.reduceToList, List.cons_append,
      List.nil_append]
    have below := spells_texts parts (everywhere_iff.mp spellable).2
      (everywhere_iff.mp unmistakable).2 (']' :: rest) (.cons (by decide) _)
    exact below.enclosed (by decide) rfl (by decide) rfl
  | capture inner, spellable, unmistakable | negation inner, spellable, unmistakable => by
    intro rest stops
    simp only [text, tokens, String.toList_append, String.reduceToList,
      List.cons_append, List.nil_append]
    have spellable := (everywhere_iff.mp spellable).2 inner List.mem_cons_self
    have unmistakable := (everywhere_iff.mp unmistakable).2 inner List.mem_cons_self
    exact .mark (by decide) rfl (spells_text inner spellable unmistakable rest stops)
  | wildcard, _, _ => fun _ => spells_wildcard
  | remaining, _, _ => fun rest _ => spells_of_firstToken (by decide) fun _ => rfl
  | helper name, spellable, _ => by
    intro rest stops
    simp only [text, tokens, String.toList_append, String.reduceToList, List.cons_append,
      List.nil_append]
    exact spells_helper (spellable _ .here) stops
  | symbol name, spellable, _ => by
    intro rest stops
    simp only [text, tokens, String.toList_append, String.reduceToList, List.cons_append,
      List.nil_append]
    exact spells_symbol (spellable _ .here) stops
  | symbolStart start, spellable, _ => by
    intro rest stops
    simp only [text, tokens, String.toList_append, String.reduceToList, List.cons_append,
      List.nil_append]
    exact spells_symbolStart (spellable _ .here) rest
  | int value, spellable, _ => fun _ => spells_int (spellable _ .here)
  | float _, _, unmistakable => (unmistakable _ .here).elim
  | str value, _, unmistakable => by
    intro rest stops
    simp only [text, tokens, String.toList_append, String.reduceToList, List.cons_append,
      List.nil_append]
    exact spells_str (unmistakable _ .here) rest
  | bool true, _, _ => fun _ => spells_word (by decide)
  | bool false, _, _ => fun _ => spells_word (by decide)
  | null, _, _ => fun _ => spells_word (by decide)
  | ofKind word, spellable, _ => fun _ => spells_word (spellable _ .here).1

theorem spells_texts : (patterns : List Pattern) →
    (∀ pattern ∈ patterns, pattern.Everywhere Spellable) →
    (∀ pattern ∈ patterns, pattern.Everywhere Unmistakable) → ∀ rest, Stops rest →
      Spells (" ".intercalate (texts patterns)).toList (tokensOf patterns) rest
  | [], _, _ => fun rest _ => Spells.nothing rest
  | [pattern], spellable, unmistakable => by
    intro rest stops
    rw [texts, texts, String.intercalate_singleton, tokensOf, tokensOf, List.append_nil]
    exact spells_text pattern (spellable _ List.mem_cons_self)
      (unmistakable _ List.mem_cons_self) rest stops
  | pattern :: next :: others, spellable, unmistakable => by
    intro rest stops
    obtain ⟨first, spellable⟩ := List.forall_mem_cons.mp spellable
    obtain ⟨here, unmistakable⟩ := List.forall_mem_cons.mp unmistakable
    rw [texts, texts, String.intercalate_cons_cons, ← texts, tokensOf]
    simp only [String.toList_append, String.reduceToList, List.append_assoc, List.cons_append,
      List.nil_append]
    exact (spells_text pattern first here _ (.cons (by decide) _)).append
      (.blank (spells_texts (next :: others) spellable unmistakable rest stops))

end

/-! ### Reading the tokens of a pattern -/

section

variable {α β : Type} {bound inner : Nat}

/-- The read succeeds with a value, and leaves tokens. -/
def Gives (read : Read α bound) (value : α) (rest : List Token) : Prop :=
  ∃ fewer, read = .ok ⟨value, rest, fewer⟩

theorem Gives.ok {value : α} {rest : List Token} (fewer : rest.length < bound) :
    Gives (.ok ⟨value, rest, fewer⟩) value rest := ⟨fewer, rfl⟩

/-- A read that goes on after another one that succeeds. -/
theorem Gives.bind {read : Read α inner} {next : Reading Token α inner → Read β bound}
    {value : α} {whole : β} {rest after : List Token} (given : Gives read value rest)
    (continued : ∀ fewer, Gives (next ⟨value, rest, fewer⟩) whole after) :
    Gives (read >>= next) whole after := by
  obtain ⟨fewer, succeeds⟩ := given
  rw [succeeds]
  exact continued fewer

end

theorem gives_close (close : Token) (rest : List Token) :
    Gives (readClose close (close :: rest)) () rest := Gives.ok _

theorem gives_kind (kind : String) (rest : List Token) :
    Gives (readKind (.ident kind :: rest)) kind rest := Gives.ok _

/-- Whether a pattern may start with a token. -/
def opens : Token → Bool
  | .rParen | .rBrace | .rBracket | .pipe => false
  | _ => true

theorem exists_opens (pattern : Pattern) :
    ∃ token more, pattern.tokens = token :: more ∧ opens token = true := by
  cases pattern <;> exact ⟨_, _, rfl, rfl⟩

/-- A pattern that consists of one token is read as what this token means. -/
theorem gives_single {token : Token} (means : ofToken? token = some pattern) (rest : List Token) :
    Gives (readPattern (token :: rest)) pattern rest := by
  cases token with
  | lParen | lBrace | lBracket | capture | negation => cases means
  | _ =>
    rw [readPattern.eq_def]
    dsimp only
    rw [means]
    exact Gives.ok _

mutual

/-- The tokens of a pattern are read as this pattern. -/
theorem gives_pattern : (pattern : Pattern) → pattern.Everywhere Spellable → ∀ rest,
    Gives (readPattern (pattern.tokens ++ rest)) pattern rest
  | node kind children, spellable => by
    intro rest
    rw [tokens, List.cons_append, List.cons_append, List.append_assoc, readPattern]
    have below := gives_patterns .rParen rfl children (everywhere_iff.mp spellable).2 rest
    exact (gives_kind kind _).bind fun _ => below.bind fun _ => (gives_close _ _).bind fun _ =>
      Gives.ok _
  | alternatives options, spellable => by
    intro rest
    obtain ⟨some, spellable⟩ := everywhere_iff.mp spellable
    rw [tokens, List.cons_append, List.append_assoc, readPattern]
    refine (gives_options options spellable rest).bind fun _ => (gives_close _ _).bind fun _ => ?_
    dsimp only
    rw [if_neg (some ∘ List.isEmpty_iff.mp)]
    exact Gives.ok _
  | conjunction parts, spellable => by
    intro rest
    rw [tokens, List.cons_append, List.append_assoc, readPattern]
    have below := gives_patterns .rBracket rfl parts (everywhere_iff.mp spellable).2 rest
    exact below.bind fun _ => (gives_close _ _).bind fun _ => Gives.ok _
  | capture inner, spellable | negation inner, spellable => by
    intro rest
    have spellable := (everywhere_iff.mp spellable).2 inner List.mem_cons_self
    rw [tokens, List.cons_append, readPattern]
    exact (gives_pattern inner spellable rest).bind fun _ => Gives.ok _
  | ofKind word, spellable => gives_single (congrArg some (spellable _ .here).2)
  | bool true, _ | bool false, _ | null, _ => gives_single (by simp [ofToken?, ofWord])
  | wildcard, _ | remaining, _ | helper _, _ | symbol _, _ | symbolStart _, _ | int _, _
  | float _, _ | str _, _ => gives_single rfl

theorem gives_patterns (close : Token) (closes : opens close = false) :
    (patterns : List Pattern) → (∀ pattern ∈ patterns, pattern.Everywhere Spellable) → ∀ rest,
      Gives (readPatterns close (tokensOf patterns ++ ([close] ++ rest))) patterns (close :: rest)
  | [], _ => by
    intro rest
    rw [tokensOf, List.nil_append, List.singleton_append, readPatterns, if_pos rfl]
    exact Gives.ok _
  | pattern :: others, spellable => by
    intro rest
    obtain ⟨token, more, starts, opening⟩ := exists_opens pattern
    have notClose : token ≠ close := by
      rintro rfl
      cases opening.symm.trans closes
    obtain ⟨here, later⟩ := List.forall_mem_cons.mp spellable
    have first := gives_pattern pattern here (tokensOf others ++ ([close] ++ rest))
    rw [tokensOf, List.append_assoc]
    rw [starts, List.cons_append] at first ⊢
    rw [readPatterns, if_neg notClose]
    exact first.bind fun _ => (gives_patterns close closes others later rest).bind fun _ =>
      Gives.ok _

theorem gives_options : (options : List Pattern) →
    (∀ option ∈ options, option.Everywhere Spellable) → ∀ rest,
      Gives (readOptions (tokensOf options ++ ([.rBrace] ++ rest))) options (.rBrace :: rest)
  | [], _ => by
    intro rest
    rw [tokensOf, List.nil_append, List.singleton_append, readOptions]
    exact Gives.ok _
  | option :: others, spellable => by
    intro rest
    obtain ⟨token, more, starts, opening⟩ := exists_opens option
    have notClose : token ≠ .rBrace := by
      rintro rfl
      cases opening
    have notPipe : token ≠ .pipe := by
      rintro rfl
      cases opening
    obtain ⟨here, later⟩ := List.forall_mem_cons.mp spellable
    have first := gives_pattern option here (tokensOf others ++ ([.rBrace] ++ rest))
    rw [tokensOf, List.append_assoc]
    rw [starts, List.cons_append] at first ⊢
    rw [readOptions.eq_4 _ _ notClose notPipe]
    exact first.bind fun _ => (gives_options others later rest).bind fun _ => Gives.ok _

end

/-- A pattern that can be spelled and is not mistaken for another one is what its text is read
as. -/
theorem parse_text_of_spellable (spellable : pattern.Everywhere Spellable)
    (unmistakable : pattern.Everywhere Unmistakable) : parse pattern.text = .ok pattern := by
  have cut : lex pattern.text = .ok pattern.tokens := by
    have spells := spells_text pattern spellable unmistakable [] .nil
    rw [lex, ← List.append_nil pattern.text.toList, spells, lexFrom]
    exact congrArg Except.ok (List.append_nil _)
  have read := gives_pattern pattern spellable []
  rw [List.append_nil] at read
  obtain ⟨fewer, read⟩ := read
  rw [parse, cut]
  show ofTokens pattern.tokens = .ok pattern
  rw [ofTokens, read]
  rfl

/-! ### Patterns that were compiled -/

theorem everywhere_of_forall₂ {patterns results : List Pattern}
    (each : List.Forall₂ (fun pattern result => pattern.Everywhere condition →
      result.Everywhere condition) patterns results)
    (all : ∀ pattern ∈ patterns, pattern.Everywhere condition) :
    ∀ result ∈ results, result.Everywhere condition := by
  induction each with
  | nil => exact nofun
  | cons here _ inductionHypothesis =>
    obtain ⟨first, others⟩ := List.forall_mem_cons.mp all
    exact List.forall_mem_cons.mpr ⟨here first, inductionHypothesis others⟩

/-- Each form of pattern stays spellable if its parts do. -/
theorem congruent_spellable : Congruent fun pattern result =>
    pattern.Everywhere Spellable → result.Everywhere Spellable where
  leaf _ _ _ := id
  node kind patterns results each spellable := by
    obtain ⟨isWord, below⟩ := everywhere_iff.mp spellable
    exact everywhere_iff.mpr ⟨isWord, everywhere_of_forall₂ each below⟩
  alternatives patterns results each spellable := by
    obtain ⟨some, below⟩ := everywhere_iff.mp spellable
    have stillSome : results ≠ [] := by
      rintro rfl
      cases each
      exact some rfl
    exact everywhere_iff.mpr ⟨stillSome, everywhere_of_forall₂ each below⟩
  conjunction patterns results each spellable :=
    everywhere_iff.mpr ⟨trivial, everywhere_of_forall₂ each (everywhere_iff.mp spellable).2⟩
  negation inner result each spellable :=
    everywhere_iff.mpr ⟨trivial, List.forall_mem_singleton.mpr
      (each ((everywhere_iff.mp spellable).2 inner List.mem_cons_self))⟩
  capture inner result each spellable :=
    everywhere_iff.mpr ⟨trivial, List.forall_mem_singleton.mpr
      (each ((everywhere_iff.mp spellable).2 inner List.mem_cons_self))⟩

/-- What a text compiles to can be spelled. The texts of the helpers were read as well. -/
theorem spellable_of_compile {helpers : Helpers} {text : String}
    (compiles : compile helpers text = .ok compiled) : compiled.Everywhere Spellable := by
  obtain ⟨pattern, read, becomes⟩ := becomes_of_compile congruent_spellable
    (fun _ _ _ _ _ read becomes _ => becomes (spellable_of_parse read)) compiles
  exact becomes (spellable_of_parse read)

theorem eq_of_forall₂ {patterns results : List Pattern}
    (each : List.Forall₂ (fun pattern result => (pattern.Admits fun _ => False) → result = pattern)
      patterns results)
    (all : ∀ pattern ∈ patterns, pattern.Admits fun _ => False) : results = patterns := by
  induction each with
  | nil => rfl
  | cons here _ inductionHypothesis =>
    obtain ⟨first, others⟩ := List.forall_mem_cons.mp all
    rw [here first, inductionHypothesis others]

/-- Each form of pattern stays as it is if its parts do and have no references. -/
theorem congruent_eq : Congruent fun pattern result =>
    (pattern.Admits fun _ => False) → result = pattern where
  leaf _ _ _ _ := rfl
  node kind _ _ each admits := congrArg (node kind) (eq_of_forall₂ each (admits_iff.mp admits).2)
  alternatives _ _ each admits :=
    congrArg alternatives (eq_of_forall₂ each (admits_iff.mp admits).2)
  conjunction _ _ each admits :=
    congrArg conjunction (eq_of_forall₂ each (admits_iff.mp admits).2)
  negation inner _ each admits :=
    congrArg negation (each ((admits_iff.mp admits).2 inner List.mem_cons_self))
  capture inner _ each admits :=
    congrArg capture (each ((admits_iff.mp admits).2 inner List.mem_cons_self))

/-- A text whose pattern has known kinds and no references compiles to this pattern. -/
theorem compile_of_parse {text : String} (read : parse text = .ok pattern)
    (admits : pattern.Admits fun _ => False) : compile [] text = .ok pattern := by
  obtain ⟨compiled, compiles⟩ : Succeeds (compile [] text) := by
    obtain ⟨known, noReference⟩ := admits_iff_knownKinds.mp admits
    refine (compile_succeeds_iff [] text).mpr ⟨pattern, read, known, ?_⟩
    rintro name ⟨first, occurs, -⟩
    exact (noReference first occurs).elim
  obtain ⟨found, again, becomes⟩ := becomes_of_compile congruent_eq
    (fun _ _ _ _ defined => by cases defined) compiles
  cases read.symm.trans again
  rw [compiles, becomes admits]

/-- The text of every pattern that was read is read as the same pattern, if no real number and no
text with an apostrophe occurs in it; and the text of such a pattern that a text was compiled to
compiles to the same pattern, and needs no helpers. -/
theorem text_read_back : (∀ text pattern, parse text = .ok pattern →
      pattern.Everywhere Unmistakable → parse pattern.text = .ok pattern) ∧
    ∀ helpers text compiled, compile helpers text = .ok compiled →
      compiled.Everywhere Unmistakable → compile [] compiled.text = .ok compiled := by
  refine ⟨fun text pattern read unmistakable => ?_,
    fun helpers text compiled compiles unmistakable => ?_⟩
  · exact parse_text_of_spellable (spellable_of_parse read) unmistakable
  · have read := parse_text_of_spellable (spellable_of_compile compiles) unmistakable
    have ends : Ends helpers [] (.compiling text) (compile helpers text) :=
      ends_compiling (fun name => ends_replacing helpers [] name) text
    exact compile_of_parse read (ends.admits compiled compiles)

/-- A pattern with most forms, as it is read. -/
def manyForms : Pattern :=
  .node "or" [.capture (.negation (.helper "deep")), .alternatives [.symbol "a", .symbolStart "b_"],
    .conjunction [], .int (-7), .str "\"", .bool true, .ofKind "ident", .remaining]

theorem text_read_back_forms :
    (parse "(or $!#deep \x7b:a |:b_*\x7d [] -007 '\"' true ident ...)" = .ok manyForms ∧
      manyForms.Everywhere Unmistakable ∧ parse manyForms.text = .ok manyForms) ∧
    ∃ compiled, compile [("deep", "(int :x)")] "[$#deep]" = .ok compiled ∧
      compiled.Everywhere Unmistakable ∧ compile [] compiled.text = .ok compiled := by
  have read : parse "(or $!#deep \x7b:a |:b_*\x7d [] -007 '\"' true ident ...)" =
      .ok manyForms := by cbv
  have unmistakable : manyForms.Everywhere Unmistakable := by
    repeat' first
      | exact trivial
      | exact (by decide : '\'' ∉ "\"".toList)
      | refine List.forall_mem_cons.mpr ⟨?_, ?_⟩
      | refine everywhere_iff.mpr ⟨?_, ?_⟩
      | exact List.forall_mem_nil _
  have compiles : compile [("deep", "(int :x)")] "[$#deep]" =
      .ok (.conjunction [.capture (.node "int" [.symbol "x"])]) := by cbv
  have unmistakableToo :
      (conjunction [.capture (.node "int" [.symbol "x"])]).Everywhere Unmistakable := by
    repeat' first
      | exact trivial
      | refine List.forall_mem_cons.mpr ⟨?_, ?_⟩
      | refine everywhere_iff.mpr ⟨?_, ?_⟩
      | exact List.forall_mem_nil _
  exact ⟨⟨read, unmistakable, text_read_back.1 _ _ read unmistakable⟩,
    _, compiles, unmistakableToo, text_read_back.2 _ _ _ compiles unmistakableToo⟩

end Storefront.Pattern
