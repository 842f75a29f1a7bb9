import SchemaBindings.Batch.Source
import SchemaBindings.Bytes.Digest

/-!
What scripts read before gave, found by kind and by the digest of the text. A script that was refused
is remembered too; one that could not be read for another reason is not, and is not counted.
-/

namespace SchemaBindings

set_option autoImplicit false

abbrev CacheKey := SourceKind × String

structure Cache where
  entries : List (CacheKey × Except ScriptError Model) := []
  hits : Nat := 0
  misses : Nat := 0

namespace Cache

def key (kind : SourceKind) (text : String) : CacheKey := (kind, Digest.ofString text)

def size (c : Cache) : Nat := c.entries.length

def remember (c : Cache) (k : CacheKey) (outcome : Except ScriptError Model) : Cache :=
  { c with entries := c.entries ++ [(k, outcome)], misses := c.misses + 1 }

/-- Reads a script, or takes what an equal script gave before. -/
def read (c : Cache) (kind : SourceKind) (text : String) : Except ParseError Model × Cache :=
  let k := key kind text
  match c.entries.lookup k with
  | some outcome => (outcome.mapError .script, { c with hits := c.hits + 1 })
  | none =>
    match Model.ofScript kind text with
    | .ok m => (.ok m, c.remember k (.ok m))
    | .error (.script e) => (.error (.script e), c.remember k (.error e))
    | .error (.numeral e) => (.error (.numeral e), c)

end Cache

def readModel (cache : Option Cache) (kind : SourceKind) (text : String) :
    Except ParseError Model × Option Cache :=
  match cache with
  | some c =>
    let (outcome, c) := c.read kind text
    (outcome, some c)
  | none => (Model.ofScript kind text, none)

end SchemaBindings
