import RecordFilter.Elaboration
import RecordFilter.Limits
import RecordFilter.Token.Stream
/-!
# Filters

A `Predicate` is a compiled filter.  `Limits.compile` makes one from a source text; the length is
checked first, then the tokens and their nesting, then the grammar, then the meaning.
-/

namespace RecordFilter

/-- The expression that a source text is. -/
def Expr.ofSource (source : String) : Except CompileError Expr := do
  let tokens ← (tokenize source).mapError .tokenize
  (parse tokens).mapError .parse

/-- A compiled filter on the records of a type. -/
structure Predicate where
  /-- The plan, which gives a truth value. -/
  plan : Plan

namespace Predicate

variable {ρ : Type}

/-- The filter lets the record pass. -/
def test (p : Predicate) (host : Host ρ) (record : ρ) : Bool := (p.plan.value host record).isTrue

/-- The questions that the filter asks the host about the record. -/
def accesses (p : Predicate) (host : Host ρ) (record : ρ) : List (Access ρ) :=
  p.plan.accesses host record

/-- The records that pass, in their order. -/
def filter (p : Predicate) (host : Host ρ) (records : List ρ) : List ρ :=
  records.filter (p.test host)

/-- The filter of an expression. -/
def ofExpr (schema : Schema) (root : RecordId) (e : Expr) : Except CompileError Predicate :=
  ((planFilter schema root e).mapError .elaborate).map Predicate.mk

/-- The filter of a sequence of tokens. -/
def ofTokens (schema : Schema) (root : RecordId) (tokens : List Token) :
    Except CompileError Predicate := do
  let e ← (parse tokens).mapError .parse
  ofExpr schema root e

end Predicate

/-- The filter of a source text within the limits. -/
def Limits.compile (l : Limits) (schema : Schema) (root : RecordId) (source : String) :
    Except CompileError Predicate := do
  l.checkLength source
  let tokens ← (tokenize source).mapError .tokenize
  l.checkNesting tokens
  Predicate.ofTokens schema root tokens

/-- The filter of a source text. -/
def compile (schema : Schema) (root : RecordId) (source : String) :
    Except CompileError Predicate :=
  Limits.unlimited.compile schema root source

end RecordFilter
