import Storefront.Pattern.Basic
import Storefront.Script.Expr

/-!
Matching patterns against expressions. A pattern for a node names the kind of an expression and its
parts in order. A match goes through the pattern with one list of captures, to which it adds what a
`$` marks, an outer capture before those within it and the others from left to right. An attempt
that fails cuts the list back to what it was before.
-/

namespace Storefront

open Storefront.Number Storefront.Script

/-! ### Expressions as patterns see them -/

/-- What stands at one place of an expression: an expression or a bare name. -/
inductive Part where
  | expr (expr : Expr)
  | name (name : String)
  deriving Repr, Inhabited

/-- The kinds of expressions that hold a value. A pattern for one of them takes at most one part,
which is matched against the expression itself. -/
def valueKinds : List String := ["int", "float", "str", "char"]

/-- The kinds of other expressions without an operator. -/
def structuralKinds : List String := [
  "ident", "member", "index", "call", "paren", "cast", "assign", "opassign", "cond", "new",
  "true", "false", "null"]

/-- Whether a word is the kind of some expression. -/
def isKind (word : String) : Bool :=
  valueKinds.contains word || structuralKinds.contains word ||
    (UnaryOp.ofName? word).isSome || (BinaryOp.ofName? word).isSome

/-- The kind of an expression. -/
def Script.Expr.kind : Expr → String
  | .ident _ => "ident"
  | .int _ => "int"
  | .float _ => "float"
  | .str _ => "str"
  | .char _ => "char"
  | .bool true => "true"
  | .bool false => "false"
  | .null => "null"
  | .member _ _ => "member"
  | .index _ _ => "index"
  | .call _ _ => "call"
  | .unary op _ => op.name
  | .binary op _ _ => op.name
  | .paren _ => "paren"
  | .cast _ _ => "cast"
  | .assign none _ _ => "assign"
  | .assign (some _) _ _ => "opassign"
  | .conditional _ _ _ => "cond"
  | .create _ _ => "new"

/-- The parts of an expression in order. -/
def Script.Expr.parts : Expr → List Part
  | .ident name => [.name name]
  | .member target name => [.expr target, .name name]
  | .index target args => .expr target :: args.map .expr
  | .call callee args => .expr callee :: args.map .expr
  | .unary _ operand => [.expr operand]
  | .binary _ left right => [.expr left, .expr right]
  | .paren inner => [.expr inner]
  | .cast type inner => [.name type, .expr inner]
  | .assign none target value => [.expr target, .expr value]
  | .assign (some op) target value => [.name op.name, .expr target, .expr value]
  | .conditional condition whenTrue whenFalse =>
    [.expr condition, .expr whenTrue, .expr whenFalse]
  | .create type args => .name type :: args.map .expr
  | .int _ | .float _ | .str _ | .char _ | .bool _ | .null => []

theorem isKind_unaryName (op : UnaryOp) : isKind op.name = true := by cases op <;> decide

theorem isKind_binaryName (op : BinaryOp) : isKind op.name = true := by cases op <;> decide

/-- The kind of every expression is one that patterns know. -/
theorem isKind_kind (expr : Expr) : isKind expr.kind = true := by
  cases expr with
  | bool value => cases value <;> rfl
  | unary op operand => exact isKind_unaryName op
  | binary op left right => exact isKind_binaryName op
  | assign op target value => cases op <;> rfl
  | _ => rfl

namespace Pattern

/-! ### Matching -/

/-- Whether a real literal has a value, as numbers of 32 bits compare. -/
def floatMatches (value : Double) (expr : Expr) : Bool :=
  match expr with
  | .float found => (found.convert .single).equal (value.convert .single)
  | _ => false

/-- Whether a pattern without patterns within it matches what stands at one place. -/
def accepts : Pattern → Part → Bool
  | wildcard, _ | remaining, _ => true
  | int value, .expr expr => expr.asInt == some value
  | float value, .expr expr => floatMatches value expr
  | str value, .expr (.str found) => found == value
  | bool value, .expr (.bool found) => found == value
  | null, .expr expr => expr.kind == "null"
  | ofKind kind, .expr expr => expr.kind == kind
  | symbol expected, .name name => name == expected
  | symbolStart start, .name name => start.toList.isPrefixOf name.toList
  | _, _ => false

/-- How an attempt at a match ended: whether it succeeded, and the captures made so far. -/
abbrev Attempt := Bool × List Part

namespace Attempt

/-- Goes on with the captures made so far if the attempt succeeded. -/
def andThen (ending : Attempt) (next : List Part → Attempt) : Attempt :=
  if ending.1 then next ending.2 else ending

/-- Tries something else with the captures that were left if the attempt failed. -/
def orElse (ending : Attempt) (next : List Part → Attempt) : Attempt :=
  if ending.1 then ending else next ending.2

/-- Cuts the captures back to those at the start if the attempt failed. -/
def orCutBack (start : List Part) (ending : Attempt) : Attempt :=
  if ending.1 then ending else (false, ending.2.take start.length)

/-- What a whole match brings back. -/
def captures? (ending : Attempt) : Option (List Part) :=
  if ending.1 then some ending.2 else none

end Attempt

mutual

/-- Matches a pattern against an expression, and adds what it captures to the captures so far. -/
def attemptExpr (pattern : Pattern) (expr : Expr) (captures : List Part) : Attempt :=
  Attempt.orCutBack captures <| match pattern with
    | node kind children =>
      if expr.kind = kind then
        if valueKinds.contains kind then
          match children with
          | [] => (true, captures)
          | [only] => only.attemptExpr expr captures
          | _ => (false, captures)
        else attemptParts children expr.parts captures
      else (false, captures)
    | alternatives options => attemptAny options expr captures
    | conjunction conjuncts => attemptAll conjuncts expr captures
    | negation inner => (!(inner.attemptExpr expr []).1, captures)
    | capture inner =>
      Attempt.orCutBack captures (inner.attemptExpr expr (captures ++ [.expr expr]))
    | wildcard | remaining | helper _ | symbol _ | symbolStart _ | int _ | float _ | str _ | bool _
    | null | ofKind _ => (pattern.accepts (.expr expr), captures)

/-- Matches a pattern against a bare name, and adds what it captures to the captures so far. -/
def attemptName (pattern : Pattern) (name : String) (captures : List Part) : Attempt :=
  match pattern with
  | alternatives options => attemptAnyName options name captures
  | conjunction conjuncts => Attempt.orCutBack captures (attemptAllNames conjuncts name captures)
  | negation inner => (!(inner.attemptName name []).1, captures)
  | capture inner =>
    Attempt.orCutBack captures (inner.attemptName name (captures ++ [.name name]))
  | node _ _ | wildcard | remaining | helper _ | symbol _ | symbolStart _ | int _ | float _ | str _
  | bool _ | null | ofKind _ => (pattern.accepts (.name name), captures)

/-- Matches the first pattern of a list that does match. -/
def attemptAny (patterns : List Pattern) (expr : Expr) (captures : List Part) : Attempt :=
  match patterns with
  | [] => (false, captures)
  | pattern :: others =>
    (pattern.attemptExpr expr captures).orElse fun left => attemptAny others expr left

/-- Matches all patterns of a list. What the first ones capture is left when a later one fails. -/
def attemptAll (patterns : List Pattern) (expr : Expr) (captures : List Part) : Attempt :=
  match patterns with
  | [] => (true, captures)
  | pattern :: others =>
    (pattern.attemptExpr expr captures).andThen fun found => attemptAll others expr found

/-- Matches the first pattern of a list that matches a name. -/
def attemptAnyName (patterns : List Pattern) (name : String) (captures : List Part) : Attempt :=
  match patterns with
  | [] => (false, captures)
  | pattern :: others =>
    (pattern.attemptName name captures).orElse fun left =>
      attemptAnyName others name (left.take captures.length)

/-- Matches all patterns of a list against a name. What the first ones capture is left when a later
one fails. -/
def attemptAllNames (patterns : List Pattern) (name : String) (captures : List Part) : Attempt :=
  match patterns with
  | [] => (true, captures)
  | pattern :: others =>
    (pattern.attemptName name captures).andThen fun found => attemptAllNames others name found

/-- Matches patterns against parts one by one. The pattern `...` takes all parts that are left, and
patterns after it are not looked at. What the first patterns capture is left when a later one
fails. -/
def attemptParts (patterns : List Pattern) (parts : List Part) (captures : List Part) : Attempt :=
  match patterns, parts with
  | [], [] => (true, captures)
  | [], _ :: _ => (false, captures)
  | .remaining :: _, _ => (true, captures)
  | _ :: _, [] => (false, captures)
  | pattern :: others, .expr expr :: parts =>
    (pattern.attemptExpr expr captures).andThen fun found => attemptParts others parts found
  | pattern :: others, .name name :: parts =>
    (pattern.attemptName name captures).andThen fun found => attemptParts others parts found

end

/-- Matches a pattern against what stands at one place of an expression, and adds what it captures
to the captures so far. -/
def attemptPart (pattern : Pattern) : Part → List Part → Attempt
  | .expr expr => pattern.attemptExpr expr
  | .name name => pattern.attemptName name

/-- The captures of a match with what stands at one place of an expression. -/
def matchPart (pattern : Pattern) (part : Part) : Option (List Part) :=
  (pattern.attemptPart part []).captures?

/-- The captures of a match with an expression. -/
def matchExpr (pattern : Pattern) (expr : Expr) : Option (List Part) :=
  pattern.matchPart (.expr expr)

end Pattern

end Storefront
