import Storefront.Number.Shortest

/-!
Patterns for expressions, and how a pattern is written. A pattern describes the shape of a tree; a
`$` in front of a part marks what a match is to bring back.
-/

namespace Storefront

open Storefront.Number

/-- A pattern for expressions, or for the names within them. -/
inductive Pattern where
  /-- `(kind child ...)`: an expression of a kind, with patterns for its parts. -/
  | node (kind : String) (children : List Pattern)
  /-- `{a b}`: the first of several patterns that matches. -/
  | alternatives (options : List Pattern)
  /-- `[a b]`: several patterns at once. -/
  | conjunction (parts : List Pattern)
  /-- `$a`: a pattern whose match is brought back. -/
  | capture (inner : Pattern)
  /-- `_`: anything. -/
  | wildcard
  /-- `...`: all parts that are left. -/
  | remaining
  /-- `!a`: what a pattern does not match. -/
  | negation (inner : Pattern)
  /-- `#name`: a pattern that is written elsewhere. -/
  | helper (name : String)
  /-- `:name`: a name. -/
  | symbol (name : String)
  /-- `:start*`: any name that starts so. -/
  | symbolStart (start : String)
  | int (value : Int)
  | float (value : Double)
  | str (value : String)
  | bool (value : Bool)
  | null
  /-- `kind`: any expression of a kind. -/
  | ofKind (kind : String)
  deriving Repr, Inhabited

namespace Pattern

/-- The patterns directly within a pattern. -/
def inner : Pattern → List Pattern
  | node _ children => children
  | alternatives options => options
  | conjunction parts => parts
  | capture inner | negation inner => [inner]
  | _ => []

theorem sizeOf_lt_of_mem_inner {pattern child : Pattern} (member : child ∈ pattern.inner) :
    sizeOf child < sizeOf pattern := by
  cases pattern with
  | node kind children =>
    have smaller : sizeOf child < sizeOf children := List.sizeOf_lt_of_mem member
    rw [node.sizeOf_spec]
    omega
  | alternatives options =>
    have smaller : sizeOf child < sizeOf options := List.sizeOf_lt_of_mem member
    rw [alternatives.sizeOf_spec]
    omega
  | conjunction parts =>
    have smaller : sizeOf child < sizeOf parts := List.sizeOf_lt_of_mem member
    rw [conjunction.sizeOf_spec]
    omega
  | capture inner =>
    rw [List.mem_singleton.mp member, capture.sizeOf_spec]
    omega
  | negation inner =>
    rw [List.mem_singleton.mp member, negation.sizeOf_spec]
    omega
  | _ => cases member

mutual

/-- A pattern as it is written. -/
def text : Pattern → String
  | node kind [] => "(" ++ kind ++ ")"
  | node kind (child :: children) =>
    "(" ++ kind ++ " " ++ " ".intercalate (texts (child :: children)) ++ ")"
  | alternatives options => "\x7b" ++ " ".intercalate (texts options) ++ "\x7d"
  | conjunction parts => "[" ++ " ".intercalate (texts parts) ++ "]"
  | capture inner => "$" ++ inner.text
  | wildcard => "_"
  | remaining => "..."
  | negation inner => "!" ++ inner.text
  | helper name => "#" ++ name
  | symbol name => ":" ++ name
  | symbolStart start => ":" ++ start ++ "*"
  | int value => toString value
  | float value => value.text .compact
  | str value => "'" ++ value ++ "'"
  | bool true => "true"
  | bool false => "false"
  | null => "null"
  | ofKind kind => kind

/-- The texts of patterns. -/
def texts : List Pattern → List String
  | [] => []
  | pattern :: others => pattern.text :: texts others

end

theorem texts_eq_map (patterns : List Pattern) : texts patterns = patterns.map text := by
  induction patterns with
  | nil => rfl
  | cons pattern others inductionHypothesis => rw [texts, inductionHypothesis, List.map_cons]

end Pattern

end Storefront
