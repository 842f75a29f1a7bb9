import SchemaBindings.Settings.Basic
import SchemaBindings.Text.Case
import SchemaBindings.Text.Category
import SchemaBindings.Text.Quoted

/-!
Log records and the lines that a log format makes of them. A format is a text with fields: a percent
sign, a name in parentheses, flags, a width, a precision and a letter.
-/

namespace SchemaBindings

set_option autoImplicit false

open Text

inductive Logger
  | generator
  | writer
  | seedParser
  deriving DecidableEq, Repr

def Logger.name : Logger → String
  | generator => "sql_codegen.pipeline.generator"
  | writer => "sql_codegen.pipeline.writer"
  | seedParser => "sql_codegen.sql_schema.merge_parser"

structure LogRecord where
  logger : Logger
  level : LogLevel
  message : String
  deriving DecidableEq, Repr

def keptRecords (level : LogLevel) (records : List LogRecord) : List LogRecord :=
  records.filter fun r => level.rank ≤ r.level.rank

structure FieldSpec where
  flags : List Char
  width : List Char
  precision : Option (List Char)
  /-- A letter that counts for nothing. -/
  size : Option Char
  kind : Char
  deriving DecidableEq, Repr

inductive FormatPiece
  | text (c : Char)
  | field (name : String) (spec : FieldSpec)
  deriving DecidableEq, Repr

namespace LogFormat

def readSize : List Char → List Char × List Char
  | '*' :: rest => (['*'], rest)
  | cs => (cs.takeWhile isDecimal, cs.dropWhile isDecimal)

def isKind (c : Char) : Bool := "diouxefgcrsa%".toList.any (matchesLetter · c)

def readSpec (cs : List Char) : Option (FieldSpec × List Char) :=
  let isFlag (c : Char) : Bool := "#0+ -".toList.contains c
  let (width, rest) := readSize (cs.dropWhile isFlag)
  let (precision, rest) : Option (List Char) × List Char := match rest with
    | '.' :: more => (some (readSize more).1, (readSize more).2)
    | rest => (none, rest)
  let (size, rest) : Option Char × List Char := match rest with
    | c :: more => if ['h', 'l', 'L'].contains c then (some c, more) else (none, c :: more)
    | [] => (none, [])
  match rest with
  | k :: left =>
    if isKind k then some (⟨cs.takeWhile isFlag, width, precision, size, k⟩, left) else none
  | [] => none

def readField : List Char → Option (FormatPiece × List Char)
  | '(' :: rest =>
    match rest.dropWhile (· != ')') with
    | ')' :: more => (readSpec more).map fun (spec, left) =>
        (.field (String.ofList (rest.takeWhile (· != ')'))) spec, left)
    | _ => none
  | _ => none

/-- A field whose name is a word, with all that it announces and nothing that does not count. -/
def isProper : FormatPiece → Bool
  | .text _ => false
  | .field name spec =>
    !name.isEmpty && name.toList.all isWordChar && spec.precision != some [] && spec.size.isNone

/-- The format has a proper field somewhere. An empty format is one for the message alone. -/
def isValid (format : String) : Bool :=
  format.isEmpty || go format.toList
where
  go : List Char → Bool
    | [] => false
    | c :: rest =>
      (c == '%' && ((readField rest).map fun f => isProper f.1).getD false) || go rest

def pieces : Nat → List Char → Option (List FormatPiece)
  | _, [] => some []
  | taken + 1, _ :: rest => pieces taken rest
  | 0, c :: rest =>
    if c ≠ '%' then (pieces 0 rest).map (.text c :: ·)
    else if rest.head? = some '%' then (pieces 1 rest).map (.text '%' :: ·)
    else match readField rest with
      | some (f, left) => (pieces (rest.length - left.length) rest).map (f :: ·)
      | none => none

/-- The value of a field: a text, a number, or something that shows as its name in every form. -/
inductive Value
  | text (s : String)
  | number (n : Nat)
  | named (name : String)

def value? (r : LogRecord) (time : String) : String → Option Value
  | "asctime" => some (.text time)
  | "levelname" => some (.text r.level.name)
  | "levelno" => some (.number r.level.rank)
  | "message" | "msg" => some (.text r.message)
  | "name" => some (.text r.logger.name)
  | "processName" => some (.text "MainProcess")
  | "threadName" => some (.text "MainThread")
  | "args" => some (.named "()")
  | "exc_info" | "exc_text" | "stack_info" => some (.named "None")
  | _ => none

def sizeOf? (digits : List Char) : Option Nat :=
  if digits.all Char.isDigit then some (digits.foldl (fun n c => 10 * n + (c.toNat - 48)) 0)
  else none

def pad (spec : FieldSpec) (width : Nat) (body : List Char) : List Char :=
  let fill := List.replicate (width - body.length) ' '
  if spec.flags.contains '-' then body ++ fill else fill ++ body

/-- A number has a sign or a blank before it if the flags ask for one, then the mark of its base, and
zeros if they fill up. -/
def padNumber (spec : FieldSpec) (width : Nat) (mark digits : List Char) : List Char :=
  let sign := if spec.flags.contains '+' then ['+'] else if spec.flags.contains ' ' then [' '] else []
  let start := sign ++ mark
  if spec.flags.contains '0' && !spec.flags.contains '-' then
    start ++ List.replicate (width - start.length - digits.length) '0' ++ digits
  else pad spec width (start ++ digits)

/-- The first `count` digits of a number, the last one rounded, a half to the even digit, and the power
of ten of the first. -/
def leading (count n : Nat) : List Char × Nat :=
  let exponent := (Nat.toDigits 10 n).length - 1
  if exponent < count then (Nat.toDigits 10 (n * Nat.pow 10 (count - 1 - exponent)), exponent)
  else
    let unit := Nat.pow 10 (exponent + 1 - count)
    let (q, r) := (n / unit, n % unit)
    let q := if unit < 2 * r ∨ (2 * r = unit ∧ q % 2 = 1) then q + 1 else q
    if q = Nat.pow 10 count then (Nat.toDigits 10 (q / 10), exponent + 1) else (Nat.toDigits 10 q, exponent)

def pointed (alternate : Bool) (digits : List Char) (places : Nat) : List Char :=
  let whole := digits.take (digits.length - places)
  if places = 0 ∧ !alternate then whole
  else whole ++ '.' :: digits.drop (digits.length - places)

def scientific (alternate : Bool) (digits : List Char) (exponent : Nat) : List Char :=
  let shown := Nat.toDigits 10 exponent
  pointed alternate digits (digits.length - 1)
    ++ 'e' :: '+' :: List.replicate (2 - shown.length) '0' ++ shown

def dropZeros (digits : List Char) (places : Nat) : List Char × Nat :=
  let zeros := min places (digits.reverse.takeWhile (· == '0')).length
  (digits.take (digits.length - zeros), places - zeros)

/-- A number as a fraction: with a point, with an exponent, or the shorter of both. -/
def fraction (kind : Char) (alternate : Bool) (precision n : Nat) : List Char :=
  match kind with
  | 'f' => pointed alternate (Nat.toDigits 10 (n * Nat.pow 10 precision)) precision
  | 'e' =>
    let (digits, exponent) := leading (precision + 1) n
    scientific alternate digits exponent
  | _ =>
    let count := max precision 1
    let (digits, exponent) := leading count n
    let places := if exponent < count then count - 1 - exponent else count - 1
    let (digits, places) := if alternate then (digits, places) else dropZeros digits places
    if exponent < count then pointed alternate digits places
    else scientific alternate digits exponent

def upperIf (capital : Bool) (cs : List Char) : List Char :=
  if capital then cs.map Char.toUpper else cs

def textField (spec : FieldSpec) (width : Nat) (precision : Option Nat) (s : String) : List Char :=
  pad spec width (match precision with
    | some n => s.toList.take n
    | none => s.toList)

def numberField? (spec : FieldSpec) (width : Nat) (precision : Option Nat) (n : Nat) :
    Option (List Char) :=
  let alternate := spec.flags.contains '#'
  let capital := spec.kind.isUpper
  let whole (base : Nat) (mark : List Char) : List Char :=
    let digits := Nat.toDigits base n
    padNumber spec width (upperIf capital (if alternate then mark else []))
      (List.replicate (precision.getD 0 - digits.length) '0' ++ upperIf capital digits)
  match spec.kind with
  | 'd' | 'i' | 'u' => some (whole 10 [])
  | 'x' | 'X' => some (whole 16 ['0', 'x'])
  | 'o' => some (whole 8 ['0', 'o'])
  | 'e' | 'f' | 'g' | 'E' | 'F' | 'G' =>
    some (padNumber spec width []
      (upperIf capital (fraction spec.kind.toLower alternate (precision.getD 6) n)))
  | 'c' => some (pad spec width [Char.ofNat n])
  | 's' | 'r' | 'a' => some (textField spec width precision (toString n))
  | _ => none

def fieldText? (spec : FieldSpec) (v : Value) : Option (List Char) := do
  let width ← sizeOf? spec.width
  let precision ← spec.precision.mapM sizeOf?
  match spec.kind, v with
  | '%', _ => return ['%']
  | _, .number n => numberField? spec width precision n
  | 's', .text s | 's', .named s | 'r', .named s | 'a', .named s =>
    return textField spec width precision s
  | 'r', .text s => return textField spec width precision (quoted s)
  | 'a', .text s => return textField spec width precision (quotedAscii s)
  | 'c', .text s => if s.length = 1 then return pad spec width s.toList else none
  | _, _ => none

def pieceText? (r : LogRecord) (time : String) : FormatPiece → Option (List Char)
  | .text c => some [c]
  | .field name spec => (value? r time name).bind (fieldText? spec)

/-- The line of a record; there is none when the format asks for something that records lack. -/
def line? (format time : String) (r : LogRecord) : Option String := do
  if format.isEmpty then return r.message
  else
    let ps ← pieces 0 format.toList
    return String.ofList (← ps.mapM (pieceText? r time)).flatten

def text (format time : String) (records : List LogRecord) : String :=
  String.join ((records.filterMap (line? format time)).map (· ++ "\n"))

end LogFormat

def invalidFormatMessage (format : String) : String :=
  "Invalid format '" ++ format ++ "' for '%' style"

end SchemaBindings
