import Storefront.Proofs.Readers

/-!
Telling a declaration from an expression. The look ahead and the reader go through the name of a
type each in its own way: the one only passes over tokens, the other puts the name together and
refuses a generic type. They stop at the same token, so a declaration that is seen ahead has a type
and a first name that can be read, and what can be read so far is seen ahead.
-/

namespace Storefront.Script

variable (lastLine : Nat) {tokens : Tokens}

/-! ### The first declared name -/

theorem followsDeclaredName_iff {token : Token} :
    followsDeclaredName token = true ↔ token ∈ [.assign none, .semi, .comma] := by
  constructor
  · intro follows
    cases token with
    | assign op =>
      cases op with
      | none => exact List.mem_cons_self
      | some op => cases follows
    | semi | comma => decide
    | _ => cases follows
  · intro member
    simp only [List.mem_cons, List.not_mem_nil, or_false] at member
    obtain rfl | rfl | rfl := member <;> rfl

/-- The tokens start with a name that one of the three marks of a declaration follows. -/
theorem startsDeclared_iff : startsDeclared tokens = true ↔ ∃ line name rest,
    tokens = ⟨line, .word name⟩ :: rest ∧ isReserved name = false ∧
      ∃ token ∈ [.assign none, .semi, .comma], next? rest = some token := by
  constructor
  · intro starts
    unfold startsDeclared at starts
    split at starts
    · next line name line' token rest =>
      obtain ⟨free, follows⟩ := Bool.and_eq_true_iff.mp starts
      refine ⟨line, name, ⟨line', token⟩ :: rest, rfl, ?_, token, ?_, rfl⟩
      · simpa using free
      · exact followsDeclaredName_iff.mp follows
    · cases starts
  · rintro ⟨line, name, rest, rfl, free, token, member, isNext⟩
    obtain ⟨line', more, rfl⟩ := next?_eq_some.mp isNext
    rw [startsDeclared, free, followsDeclaredName_iff.mpr member]
    rfl

/-- A declaration starts with a word that is no keyword, and has a declared name behind what may
follow that word in a type name. -/
theorem startsDeclaration_iff : startsDeclaration tokens = true ↔ ∃ line word more,
    tokens = ⟨line, .word word⟩ :: more ∧ isReserved word = false ∧
      startsDeclared (afterTypeSuffix more) = true := by
  constructor
  · intro starts
    unfold startsDeclaration at starts
    split at starts
    · next line word more =>
      obtain ⟨free, declared⟩ := Bool.and_eq_true_iff.mp starts
      exact ⟨line, word, more, rfl, by simpa using free, declared⟩
    · cases starts
  · rintro ⟨line, word, more, rfl, free, declared⟩
    rw [startsDeclaration, free, declared]
    rfl

/-! ### What can go wrong in a declaration -/

variable {lastLine}

/-- Reading declared variables fails behind the first name: in the expression for its first value,
or among the variables after the comma that follows. -/
def FailsBehindName (lastLine : Nat) (afterName : Tokens) (error : ParseError) : Prop :=
  (∃ line value, afterName = ⟨line, .assign none⟩ :: value ∧
    readExpr lastLine value = .error error) ∨
  ∃ init line afterComma,
    Gives (readInit lastLine afterName) init (⟨line, .comma⟩ :: afterComma) ∧
      readDeclarators lastLine afterComma = .error error

theorem exists_of_readInit_error {afterName : Tokens} {error : ParseError}
    (fails : readInit lastLine afterName = .error error) :
    ∃ line value, afterName = ⟨line, .assign none⟩ :: value ∧
      readExpr lastLine value = .error error := by
  unfold readInit at fails
  split at fails
  · next line value =>
    obtain fault | ⟨found, -, ends⟩ := error_of_bind fails
    · exact ⟨line, value, rfl, fault⟩
    · cases ends
  · cases fails

/-- Where a name can be read, declared variables fail only behind it. -/
theorem failsBehindName_of_readDeclarators {name : String} {afterName : Tokens}
    {error : ParseError} (named : Gives (readName lastLine tokens) name afterName)
    (fails : readDeclarators lastLine tokens = .error error) :
    FailsBehindName lastLine afterName error := by
  rw [readDeclarators] at fails
  obtain ⟨_, fails⟩ := named.error_of_bind fails
  obtain fault | ⟨⟨init, rest, fewer⟩, given, fails⟩ := error_of_bind fails
  · exact .inl (exists_of_readInit_error fault)
  · dsimp only at fails
    split at fails
    · next line afterComma fewer =>
      obtain fault | ⟨found, -, ends⟩ := error_of_bind fails
      · exact .inr ⟨init, line, afterComma, ⟨_, given⟩, fault⟩
      · cases ends
    · cases fails

/-! ### The look ahead and the reader -/

/-- A declaration is seen ahead exactly when a type and a name can be read and `=`, `;` or a comma
comes next. The type is then read up to the token where the look ahead found its end, and the rest
of the declaration fails only behind the name. -/
theorem startsDeclaration_iff_reads (lastLine : Nat) (tokens : Tokens) :
    (startsDeclaration tokens = true ↔ ∃ type afterType name afterName,
      Gives (readTypeName lastLine tokens) type afterType ∧
      Gives (readName lastLine afterType) name afterName ∧
      ∃ token ∈ [.assign none, .semi, .comma], next? afterName = some token) ∧
    (startsDeclaration tokens = true → ∃ type name afterName,
      Gives (readTypeName lastLine tokens) type (afterTypeSuffix tokens.tail) ∧
      Gives (readName lastLine (afterTypeSuffix tokens.tail)) name afterName ∧
      ∀ error, readLocalDecl lastLine tokens = .error error →
        FailsBehindName lastLine afterName error) := by
  have reads (starts : startsDeclaration tokens = true) : ∃ type name afterName,
      Gives (readTypeName lastLine tokens) type (afterTypeSuffix tokens.tail) ∧
      Gives (readName lastLine (afterTypeSuffix tokens.tail)) name afterName ∧
      ∃ token ∈ [.assign none, .semi, .comma], next? afterName = some token := by
    obtain ⟨line, word, more, rfl, free, declared⟩ := startsDeclaration_iff.mp starts
    obtain ⟨line', name, afterName, isName, freeName, follows⟩ := startsDeclared_iff.mp declared
    have plain : next? (afterTypeSuffix more) ≠ some .lt := by
      rw [isName]
      exact nofun
    obtain ⟨type, given⟩ := gives_readTypeName lastLine free line plain
    refine ⟨type, name, afterName, given, ?_, follows⟩
    rw [List.tail_cons, isName]
    exact gives_readName lastLine freeName line' afterName
  refine ⟨⟨fun starts => ?_, ?_⟩, fun starts => ?_⟩
  · obtain ⟨type, name, afterName, givenType, givenName, follows⟩ := reads starts
    exact ⟨type, _, name, afterName, givenType, givenName, follows⟩
  · rintro ⟨type, afterType, name, afterName, givenType, givenName, follows⟩
    obtain ⟨line, word, more, free, rfl, rfl⟩ := readTypeName_ensures lastLine tokens _ _ givenType
    obtain ⟨freeName, line', isName⟩ := readName_ensures lastLine _ _ _ givenName
    refine startsDeclaration_iff.mpr ⟨line, word, more, rfl, free, startsDeclared_iff.mpr ?_⟩
    exact ⟨line', name, afterName, isName, freeName, follows⟩
  · obtain ⟨type, name, afterName, givenType, givenName, -⟩ := reads starts
    refine ⟨type, name, afterName, givenType, givenName, fun error fails => ?_⟩
    obtain ⟨_, fails⟩ := givenType.error_of_bind fails
    obtain fault | ⟨found, -, ends⟩ := error_of_bind fails
    · exact failsBehindName_of_readDeclarators givenName fault
    · cases ends

/-- The tokens of `a.b[]? x = ;`, a declaration whose first value is missing. -/
def valueless : Tokens :=
  [.word "a", .dot, .word "b", .lBracket, .rBracket, .question, .word "x", .assign none,
    .semi].map (Located.mk 1)

/-- The missing value is the only thing wrong with that declaration. -/
theorem startsDeclaration_iff_reads_valueless :
    startsDeclaration valueless = true ∧
    readLocalDecl 1 valueless = .error ⟨1, .unexpectedToken (some .semi)⟩ ∧
    ∃ type name afterName,
      Gives (readTypeName 1 valueless) type (afterTypeSuffix valueless.tail) ∧
      Gives (readName 1 (afterTypeSuffix valueless.tail)) name afterName ∧
      FailsBehindName 1 afterName ⟨1, .unexpectedToken (some .semi)⟩ := by
  have starts : startsDeclaration valueless = true := by decide
  have fails : readLocalDecl 1 valueless = .error ⟨1, .unexpectedToken (some .semi)⟩ := by cbv
  obtain ⟨type, name, afterName, givenType, givenName, behind⟩ :=
    (startsDeclaration_iff_reads 1 valueless).2 starts
  exact ⟨starts, fails, type, name, afterName, givenType, givenName, behind _ fails⟩

end Storefront.Script
