import Mathlib
import Storefront.Proofs.Lines
import Storefront.Proofs.LocalStmt

/-!
The two forms of a procedure. Statements alone are read up to the end of the text, and statements in
a method up to its closing brace. Each statement reads the same in front of the end as in front of
that brace, so both forms have the same statements, and where one of them has a fault so has the
other.
-/

namespace Storefront.Script

variable (lastLine lastLine' : Nat)

/-! ### Statements up to the end and up to a brace -/

/-- No statement starts with a closing brace. -/
theorem next?_of_readStmt {tokens rest : Tokens} {stmt : Stmt}
    (given : Gives (readStmt lastLine tokens) stmt rest) : next? tokens ≠ some .rBrace := by
  intro closed
  obtain ⟨line, more, rfl⟩ := next?_eq_some.mp closed
  have noOperand : readUnary lastLine (⟨line, .rBrace⟩ :: more) =
      .error ⟨line, .unexpectedToken (some .rBrace)⟩ := by
    rw [readUnary]
    show readPrimary lastLine _ >>= _ = _
    rw [readPrimary.eq_def]
    rfl
  have noExpr : readExpr lastLine (⟨line, .rBrace⟩ :: more) =
      .error ⟨line, .unexpectedToken (some .rBrace)⟩ := by
    rw [readExpr, readConditional, readBinary, noOperand]
    rfl
  have isSimple : readStmt lastLine (⟨line, .rBrace⟩ :: more) =
      readSimple lastLine (⟨line, .rBrace⟩ :: more) :=
    readStmt_of_simple lastLine rfl
  have noStmt : readStmt lastLine (⟨line, .rBrace⟩ :: more) =
      .error ⟨line, .unexpectedToken (some .rBrace)⟩ := by
    rw [isSimple, readSimple]
    show readExpr lastLine _ >>= _ = _
    rw [noExpr]
    rfl
  obtain ⟨fewer, succeeds⟩ := given
  cases noStmt.symm.trans succeeds

theorem readStmts_cons {tokens rest after : Tokens} {stmt : Stmt} {stmts : List Stmt}
    (first : Gives (readStmt lastLine tokens) stmt rest)
    (others : Gives (readStmts lastLine rest) stmts after) :
    Gives (readStmts lastLine tokens) (stmt :: stmts) after := by
  have isOpen := next?_of_readStmt lastLine first
  have ⟨fewer, _⟩ := first
  rw [readStmts]
  split
  · next closed => exact absurd closed isOpen
  · next ended => exact absurd ended (next?_of_fewer fewer)
  · exact first.bind fun _ => others.bind fun _ => Gives.ok _

theorem readToEnd_cons {tokens rest : Tokens} {stmt : Stmt} {stmts : List Stmt}
    (first : Gives (readStmt lastLine tokens) stmt rest)
    (others : readToEnd lastLine rest = .ok stmts) :
    readToEnd lastLine tokens = .ok (stmt :: stmts) := by
  obtain ⟨fewer, succeeds⟩ := first
  match tokens, fewer, succeeds with
  | token :: more, fewer, succeeds =>
    rw [readToEnd, succeeds]
    show readToEnd lastLine rest >>= _ = _
    rw [others]
    rfl

/-- The statements in front of a closing brace are those of the text that ends there. -/
theorem readStmts_toEnd (tokens : Tokens) :
    Ensures (readStmts lastLine tokens) fun stmts rest => ∀ line, rest = [⟨line, .rBrace⟩] →
      ∃ front, tokens = front ++ rest ∧
        ∀ front', SameTokens front front' → readToEnd lastLine' front' = .ok stmts := by
  rw [readStmts]
  split
  · refine Ensures.ok fun line isLast => ⟨[], rfl, fun front' same => ?_⟩
    obtain rfl := List.map_eq_nil_iff.mp same.symm
    rw [readToEnd]
  · exact Ensures.faultAt
  · refine (readStmt_local lastLine lastLine' tokens).bind fun stmt rest fewer onStmt => ?_
    refine (readStmts_toEnd rest).bind fun stmts after _ toEnd => Ensures.ok fun line isLast => ?_
    obtain ⟨front, rfl, endsToo⟩ := toEnd line isLast
    obtain ⟨begins, rfl, repeated⟩ := onStmt
    refine ⟨begins ++ front, (List.append_assoc _ _ _).symm, fun front' same => ?_⟩
    obtain ⟨begins', more, rfl, sameBegin, sameMore⟩ :=
      List.map_eq_append_iff.mp (same.symm.trans List.map_append)
    have alike : Alike (front ++ after) (more ++ []) :=
      .append sameMore.symm (isLast ▸ .closed line)
    rw [List.append_nil] at alike
    exact readToEnd_cons lastLine'
      (repeated begins' more sameBegin.symm ⟨alike, Bool.noConfusion⟩) (endsToo more sameMore.symm)
termination_by tokens.length

/-- The statements of a text are also those in front of a closing brace behind it. -/
theorem readStmts_of_readToEnd (tokens : Tokens) (stmts : List Stmt)
    (reads : readToEnd lastLine tokens = .ok stmts) (tokens' : Tokens)
    (same : SameTokens tokens tokens') (line : Nat) :
    Gives (readStmts lastLine' (tokens' ++ [⟨line, .rBrace⟩])) stmts [⟨line, .rBrace⟩] := by
  match tokens with
  | [] =>
    obtain rfl := List.map_eq_nil_iff.mp same.symm
    rw [readToEnd] at reads
    obtain rfl := Except.ok.inj reads
    rw [List.nil_append, readStmts]
    exact Gives.ok _
  | token :: more =>
    rw [readToEnd] at reads
    obtain ⟨⟨stmt, rest, fewer⟩, isStmt, reads⟩ := exists_of_bind reads
    obtain ⟨others, areOthers, reads⟩ := exists_of_bind reads
    obtain rfl := Except.ok.inj reads
    obtain ⟨front, whole, repeated⟩ :=
      readStmt_local lastLine lastLine' (token :: more) stmt rest ⟨fewer, isStmt⟩
    rw [whole] at same
    obtain ⟨front', rest', rfl, sameFront, sameRest⟩ :=
      List.map_eq_append_iff.mp (same.symm.trans List.map_append)
    have alike : Alike (rest ++ []) (rest' ++ [⟨line, .rBrace⟩]) :=
      .append sameRest.symm (.opened line)
    rw [List.append_nil] at alike
    rw [List.append_assoc]
    exact readStmts_cons lastLine'
      (repeated front' _ sameFront.symm ⟨alike, Bool.noConfusion⟩)
      (readStmts_of_readToEnd rest others areOthers rest' sameRest.symm line)
termination_by tokens.length
decreasing_by exact fewer

/-- A block has the statements of the text in front of its closing brace. -/
theorem readBlock_iff_readToEnd {tokens tokens' : Tokens} (same : SameTokens tokens tokens')
    (line : Nat) (what : String) (stmts : List Stmt) :
    Gives (readBlock lastLine' what (tokens' ++ [⟨line, .rBrace⟩])) stmts [] ↔
      readToEnd lastLine tokens = .ok stmts := by
  constructor
  · intro isBlock
    have toEnd : Ensures (readBlock lastLine' what (tokens' ++ [⟨line, .rBrace⟩]))
        fun stmts rest => rest = [] → readToEnd lastLine tokens = .ok stmts := by
      rw [readBlock]
      refine (readStmts_toEnd lastLine' lastLine _).bind fun body atClose _ toEnd => ?_
      refine (expect_ensures lastLine' _ _ atClose).bind fun _ after _ isClose =>
        Ensures.ok fun ended => ?_
      obtain ⟨line', rfl⟩ := isClose
      obtain rfl := ended
      obtain ⟨front, whole, endsToo⟩ := toEnd line' rfl
      obtain ⟨rfl, -⟩ := List.append_inj' whole rfl
      exact endsToo tokens same.symm
    exact toEnd stmts [] isBlock rfl
  · intro reads
    rw [readBlock]
    refine (readStmts_of_readToEnd lastLine lastLine' tokens stmts reads tokens' same line).bind
      fun _ => ?_
    exact (gives_expect lastLine' _ _ line []).bind fun _ => Gives.ok _

/-! ### Texts -/

/-- The text of a method with the given body. -/
def methodText (body : String) : String := "void F()\n\x7b\n" ++ body ++ "\n\x7d"

/-- The tokens in front of the body. -/
def methodHeader : Tokens :=
  [⟨1, .word "void"⟩, ⟨1, .word "F"⟩, ⟨1, .lParen⟩, ⟨1, .rParen⟩, ⟨2, .lBrace⟩]

/-- Whether the tokens of a text start with no attributes and no method header. -/
def isBare (text : String) : Bool :=
  match lex text with
  | .ok lexed => next? lexed.tokens != some .lBracket && !startsMethodHeader lexed.tokens
  | .error _ => true

theorem methodText_toList (body : String) : (methodText body).toList =
    "void F()\n\x7b".toList ++ '\n' :: (body.toList ++ '\n' :: ['}']) := by
  have header : "void F()\n\x7b\n".toList = "void F()\n\x7b".toList ++ ['\n'] := by decide
  have ending : "\n\x7d".toList = ['\n', '}'] := by decide
  rw [methodText, String.toList_append, String.toList_append, header, ending]
  simp

theorem lexFrom_methodText (body : String) : lexFrom 1 true (methodText body).toList =
    (lexFrom 3 true (body.toList ++ '\n' :: ['}'])).map (Lexed.prepend methodHeader) := by
  have header : lexFrom 1 true "void F()\n\x7b".toList = .ok ⟨methodHeader, 2⟩ := by cbv
  rw [methodText_toList]
  exact lexFrom_above 1 true _ _ _ header

/-- A method has the tokens of its body between those of its header and a closing brace. -/
theorem lex_methodText {body : String} {lexed : Lexed} (cut : lex body = .ok lexed) :
    ∃ line, lex (methodText body) =
      .ok ⟨methodHeader ++ ((lexed.lower 2).tokens ++ [⟨line, .rBrace⟩]), line⟩ := by
  have lower : lexFrom 3 true body.toList = .ok (lexed.lower 2) := by
    rw [lexFrom_lower 2 1, show lexFrom 1 true body.toList = .ok lexed from cut]
    rfl
  have brace (line : Nat) : lexFrom line true ['}'] = .ok ⟨[⟨line, .rBrace⟩], line⟩ := by
    have isBrace : Lexer.piece true '}' [] = .ok ⟨some .rBrace, 0, false, []⟩ := rfl
    rw [lexFrom_token isBrace, lexFrom]
    rfl
  refine ⟨(lexed.lower 2).lastLine + 1, ?_⟩
  rw [lex, lexFrom_methodText, lexFrom_above 3 true _ _ _ lower, brace]
  rfl

theorem sameTokens_lower (offset : Nat) (tokens : Tokens) :
    SameTokens tokens (tokens.map (Located.lower offset)) := by
  rw [SameTokens, List.map_map]
  rfl

/-! ### Procedures -/

theorem readMethod_iff (line : Nat) (rest : Tokens) (stmts : List Stmt) :
    readMethod line (methodHeader ++ rest) = .ok stmts ↔
      Gives (readBlock line "'\x7d' to close method body" rest) stmts [] := by
  have afterHeader : afterParameters? 0 ((methodHeader ++ rest).dropWhile isHeaderToken) =
      some (⟨2, .lBrace⟩ :: rest) := rfl
  obtain ⟨fewer, opens⟩ := gives_expect line .lBrace "'\x7b' to open method body" 2 rest
  rw [readMethod, afterHeader]
  dsimp only
  rw [opens]
  show (readBlock line _ rest >>= _) = _ ↔ _
  constructor
  · intro reads
    obtain ⟨⟨body, after, fewer⟩, isBlock, reads⟩ := exists_of_bind reads
    obtain ⟨⟨⟩, ends, same⟩ := exists_of_bind reads
    obtain rfl := expectEnd_eq_ok.mp ends
    obtain rfl := Except.ok.inj same
    exact ⟨fewer, isBlock⟩
  · rintro ⟨fewer, isBlock⟩
    rw [isBlock]
    rfl

/-- A procedure that starts with no attributes and no header is read to the end. -/
theorem readProcedure_of_bare {lexed : Lexed} (noAttributes : next? lexed.tokens ≠ some .lBracket)
    (noHeader : startsMethodHeader lexed.tokens = false) :
    readProcedure lexed = readToEnd lexed.lastLine lexed.tokens := by
  have noSkip : afterAttributes 0 lexed.tokens = lexed.tokens := by
    refine afterAttributes.eq_2 _ ?_
    intro _ _ first
    rw [first] at noAttributes
    exact noAttributes rfl
  rw [readProcedure, noSkip]
  exact if_neg (Bool.eq_false_iff.mp noHeader)

theorem readProcedure_method (line : Nat) (rest : Tokens) :
    readProcedure ⟨methodHeader ++ rest, line⟩ = readMethod line (methodHeader ++ rest) := rfl

/-- Wherever a body starts with no attributes and no method header, the method around it has the
same statements as the body alone. -/
theorem parseProcedure_methodText {body : String} (bare : isBare body = true) (stmts : List Stmt) :
    parseProcedure (methodText body) = .ok stmts ↔ parseProcedure body = .ok stmts := by
  cases cut : lex body with
  | error error =>
    have endsNothing : Lexer.EndsNothing ['}'] := ⟨by decide, by decide⟩
    obtain ⟨error', stillFaulty⟩ := lexFrom_above_of_error 3 true body.toList endsNothing
      (error.lower 2) (by rw [lexFrom_lower 2 1, show lexFrom 1 true body.toList = _ from cut]; rfl)
    have noMethod : lex (methodText body) = .error error' := by
      rw [lex, lexFrom_methodText, stillFaulty]
      rfl
    rw [parseProcedure, parseProcedure, noMethod, cut]
    exact iff_of_false (fun same => nomatch same) fun same => nomatch same
  | ok lexed =>
    rw [isBare, cut] at bare
    simp only [Bool.and_eq_true, bne_iff_ne, Bool.not_eq_true'] at bare
    obtain ⟨line, cutMethod⟩ := lex_methodText cut
    have isMethod : parseProcedure (methodText body) =
        readMethod line (methodHeader ++ ((lexed.lower 2).tokens ++ [⟨line, .rBrace⟩])) := by
      rw [parseProcedure, cutMethod]
      exact readProcedure_method line _
    have isBody : parseProcedure body = readToEnd lexed.lastLine lexed.tokens := by
      rw [parseProcedure, cut]
      exact readProcedure_of_bare bare.1 bare.2
    rw [isMethod, isBody, readMethod_iff]
    exact readBlock_iff_readToEnd lexed.lastLine line (sameTokens_lower 2 _) line _ stmts

theorem parseProcedure_methodText_branch :
    let body := "if (a) { b(); }\nelse c = 1;"
    isBare body = true ∧ parseProcedure (methodText body) = parseProcedure body ∧
      parseProcedure body = .ok [.branch (.ident "a") (.block [.expr (.call (.ident "b") [])])
        (some (.expr (.assign none (.ident "c") (.int 1))))] := by
  have read : parseProcedure "if (a) { b(); }\nelse c = 1;" =
      .ok [.branch (.ident "a") (.block [.expr (.call (.ident "b") [])])
        (some (.expr (.assign none (.ident "c") (.int 1))))] := by cbv
  have bare : isBare "if (a) { b(); }\nelse c = 1;" = true := by cbv
  exact ⟨bare, ((parseProcedure_methodText bare _).mpr read).trans read.symm, read⟩

end Storefront.Script
