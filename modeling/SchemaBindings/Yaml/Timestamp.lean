import SchemaBindings.Yaml.Error
import SchemaBindings.Yaml.Source

/-!
Dates and times. A text can have the form of one without being one.
-/

namespace SchemaBindings.Yaml

set_option autoImplicit false

structure Clock where
  hour : Nat
  minute : Nat
  second : Nat
  /-- Minutes between local time and universal time, if a zone with a sign is given. -/
  offset : Option Int
  deriving DecidableEq, Repr

structure Timestamp where
  year : Nat
  month : Nat
  day : Nat
  clock : Option Clock
  deriving DecidableEq, Repr

namespace Timestamp

def number? (least most : Nat) (cs : List Char) : Option (Nat × List Char) :=
  let digits := (cs.take most).takeWhile Char.isDigit
  if digits.length < least then none
  else some (digits.foldl (fun n c => 10 * n + (c.toNat - '0'.toNat)) 0, cs.drop digits.length)

def sign? (c : Char) : List Char → Option (List Char)
  | d :: rest => if c = d then some rest else none
  | [] => none

/-- What ends a time: nothing, the sign of universal time, or an offset. -/
def zone? (cs : List Char) : Option (Option Int) :=
  if cs.isEmpty then some none
  else match cs.dropWhile isSpaceOrTab with
    | ['Z'] => some none
    | s :: rest => do
      let negative ← if s = '-' then some true else if s = '+' then some false else none
      let (hours, rest) ← number? 1 2 rest
      let minutes ← if rest.isEmpty then some 0 else do
        let (minutes, rest) ← number? 2 2 (← sign? ':' rest)
        if rest.isEmpty then some minutes else none
      let offset : Int := 60 * hours + minutes
      return some (if negative then -offset else offset)
    | [] => none

def clock? (cs : List Char) : Option Clock := do
  let (hour, rest) ← number? 1 2 cs
  let (minute, rest) ← number? 2 2 (← sign? ':' rest)
  let (second, rest) ← number? 2 2 (← sign? ':' rest)
  let rest := match rest with
    | '.' :: more => more.dropWhile Char.isDigit
    | rest => rest
  return ⟨hour, minute, second, ← zone? rest⟩

def clockStart? (cs : List Char) : Option (List Char) :=
  match cs with
  | 'T' :: rest | 't' :: rest => some rest
  | c :: rest => if isSpaceOrTab c then some (rest.dropWhile isSpaceOrTab) else none
  | [] => none

def ofText? (cs : List Char) : Option Timestamp := do
  let (year, rest) ← number? 4 4 cs
  let (month, rest) ← number? 1 2 (← sign? '-' rest)
  let (day, rest) ← number? 1 2 (← sign? '-' rest)
  let clock ← if rest.isEmpty then some none else (clock? (← clockStart? rest)).map some
  return ⟨year, month, day, clock⟩

/-- The text stands for a time without saying so: one of a date alone has all ten characters. -/
def isPlain (cs : List Char) : Bool :=
  match ofText? cs with
  | some t => t.clock.isSome || cs.length == 10
  | none => false

def isLeap (year : Nat) : Bool := year % 4 == 0 && (year % 100 != 0 || year % 400 == 0)

def daysOf (year month : Nat) : Nat :=
  if month = 2 then if isLeap year then 29 else 28
  else if [4, 6, 9, 11].contains month then 30 else 31

def dateFault? (t : Timestamp) : Option CalendarFault :=
  if t.year = 0 then some .year
  else if t.month = 0 ∨ 12 < t.month then some .month
  else if t.day = 0 ∨ daysOf t.year t.month < t.day then some .day
  else none

def clockFault? (c : Clock) : Option CalendarFault :=
  if 23 < c.hour then some .hour
  else if 59 < c.minute then some .minute
  else if 59 < c.second then some .second
  else none

def offsetFault? (c : Clock) : Option CalendarFault :=
  c.offset.bind fun n => if 24 * 60 ≤ n.natAbs then some (.offset (60 * n)) else none

/-- What keeps a timestamp from being a time; of several faults one. -/
def fault? (t : Timestamp) : Option CalendarFault :=
  (t.clock.bind offsetFault?) <|> t.dateFault? <|> (t.clock.bind clockFault?)

end Timestamp

end SchemaBindings.Yaml
