import SchemaBindings.Text.Numeral

/-!
Why a script gives no table and no seed.
-/

namespace SchemaBindings

set_option autoImplicit false

/-- A script without the clauses that are looked for. The arguments are schema and table. -/
inductive ScriptError
  | noTable
  | unbalanced (schema table : String)
  | noColumns (schema table : String)
  | noTarget
  | noSourceColumns (schema table : String)
  | emptySourceColumns (schema table : String)
  | noValues (schema table : String)
  | clauseOrder (schema table : String)
  | noRows (schema table : String)
  deriving DecidableEq, Repr

/-- A script is refused, or holds a number that is too long to be read. -/
inductive ParseError
  | script (e : ScriptError)
  | numeral (e : Text.NumeralError)
  deriving DecidableEq, Repr

namespace ScriptError

def reason : ScriptError → String
  | noTable => "no table found"
  | unbalanced .. => "parentheses never balance"
  | noColumns .. => "empty table"
  | noTarget => "no MERGE target found"
  | noSourceColumns .. | emptySourceColumns .. => "no source column list found"
  | noValues .. => "no VALUES clause found"
  | clauseOrder .. => "source column list precedes VALUES"
  | noRows .. => "no rows"

def bracketed (schema table : String) : String := "[" ++ schema ++ "].[" ++ table ++ "]"

def message : ScriptError → String
  | noTable => "no table found"
  | unbalanced s t => "parentheses never balance in " ++ bracketed s t
  | noColumns s t => "no columns in " ++ bracketed s t
  | noTarget => "no MERGE target found"
  | noSourceColumns s t => "no source column list for " ++ bracketed s t
  | emptySourceColumns s t => "empty source column list for " ++ bracketed s t
  | noValues s t => "no VALUES clause for " ++ bracketed s t
  | clauseOrder s t => "column list precedes VALUES in " ++ bracketed s t
  | noRows s t => "no rows in " ++ bracketed s t

end ScriptError

def ParseError.message : ParseError → String
  | .script e => e.message
  | .numeral e => e.message

end SchemaBindings
