/-
The tokens of a table file.

Indentation has become marks where a collection begins and ends, and a key carries a mark in front
of it, so that the order of tokens alone shows the structure.
-/
import Tablewright.Failure.Basic

set_option autoImplicit false

namespace Tablewright

namespace Yaml

/-- What a line with a percent sign in front of a document says. -/
inductive Directive where
  /-- The version of the format. -/
  | version (major minor : Nat)
  /-- What a handle of a tag stands for. -/
  | handle (name start : Text)
  /-- Something without a meaning here. -/
  | other
deriving DecidableEq

/-- A token. -/
inductive Token where
  /-- A directive. -/
  | directive (d : Directive)
  /-- Three hyphens. -/
  | documentStart
  /-- Three dots. -/
  | documentEnd
  /-- Entries with hyphens begin at a greater indentation. -/
  | sequenceStart
  /-- Keys begin at a greater indentation. -/
  | mappingStart
  /-- An indentation ends. -/
  | blockEnd
  /-- An opening bracket. -/
  | openBracket
  /-- A closing bracket. -/
  | closeBracket
  /-- An opening brace. -/
  | openBrace
  /-- A closing brace. -/
  | closeBrace
  /-- A comma inside brackets. -/
  | comma
  /-- The hyphen of an entry. -/
  | entry
  /-- A key follows. -/
  | key
  /-- The colon of a value. -/
  | value
  /-- A reference to a node. -/
  | alias (name : Text)
  /-- A name for the next node. -/
  | anchor (name : Text)
  /-- A tag for the next node: a handle, if there is one, and what follows it. -/
  | tag (handle : Option Text) (suffix : Text)
  /-- A scalar. -/
  | scalar (text : Text) (isPlain : Bool)
deriving DecidableEq

/-- The tokens of a table file up to its end or its first fault. -/
structure Tokens where
  /-- The tokens. -/
  list : List Token
  /-- The fault behind them. -/
  fault : Option TableFault

end Yaml

end Tablewright
