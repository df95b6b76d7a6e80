import RecordFilter.Comparison
/-!
# Expressions

The syntax tree of a filter.  Literals are kept as written; their types are decided later.  Every
node carries the offset of the token that introduced it: the operator, the first name of a path,
the literal, or the name of the method.
-/

namespace RecordFilter

/-- A literal as written. -/
inductive Literal where
  /-- A text, without its quotes. -/
  | string (text : String)
  /-- A number, in the digits of the source. -/
  | number (text : String)
  /-- `true` or `false`. -/
  | bool (b : Bool)
  /-- `null`. -/
  | null
deriving Repr, DecidableEq

/-- The operators that join truth values. -/
inductive Connective where
  | and
  | or
deriving Repr, DecidableEq

/-- The connective as written. -/
def Connective.symbol : Connective → String
  | and => "&&"
  | or => "||"

/-- An expression. -/
inductive Expr where
  /-- Two truth values joined. -/
  | logical (op : Connective) (left right : Expr) (offset : Nat)
  /-- Two values compared. -/
  | compare (op : Comparison) (left right : Expr) (offset : Nat)
  /-- A truth value negated. -/
  | not (operand : Expr) (offset : Nat)
  /-- Members read one after the other, starting at the record. -/
  | path (segments : List String) (offset : Nat)
  /-- A literal. -/
  | literal (value : Literal) (offset : Nat)
  /-- A method called on a value. -/
  | call (target : Expr) (method : String) (args : List Expr) (offset : Nat)
deriving Repr

namespace Expr

/-- The offset of the token that introduced the node. -/
def offset : Expr → Nat
  | logical _ _ _ offset | compare _ _ _ offset | not _ offset | path _ offset
  | literal _ offset | call _ _ _ offset => offset

mutual

/-- The number of nodes on the longest way from the root to a leaf. -/
def depth : Expr → Nat
  | logical _ left right _ | compare _ left right _ => 1 + max left.depth right.depth
  | not operand _ => 1 + operand.depth
  | path _ _ | literal _ _ => 1
  | call target _ args _ => 1 + max target.depth (depthAll args)

/-- The greatest depth among expressions, zero if there are none. -/
def depthAll : List Expr → Nat
  | [] => 0
  | e :: es => max e.depth (depthAll es)

end

end Expr

end RecordFilter
