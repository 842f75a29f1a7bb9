/-!
Base64 with padding: three bytes are written as four characters of six bits each.
-/

namespace SchemaBindings.Base64

set_option autoImplicit false

def alphabet : List Char :=
  "ABCDEFGHIJKLMNOPQRSTUVWXYZabcdefghijklmnopqrstuvwxyz0123456789+/".toList

def sextet (n : Nat) : Char := alphabet.getD (n % 64) 'A'

def encode : List UInt8 → List Char
  | [] => []
  | [a] =>
    let n := a.toNat * 16
    [sextet (n / 64), sextet n, '=', '=']
  | [a, b] =>
    let n := (a.toNat * 256 + b.toNat) * 4
    [sextet (n / 4096), sextet (n / 64), sextet n, '=']
  | a :: b :: c :: rest =>
    let n := (a.toNat * 256 + b.toNat) * 256 + c.toNat
    sextet (n / 262144) :: sextet (n / 4096) :: sextet (n / 64) :: sextet n :: encode rest

def value? (c : Char) : Option Nat := alphabet.idxOf? c

def byte (n : Nat) : UInt8 := UInt8.ofNat (n % 256)

def decode? : List Char → Option (List UInt8)
  | [] => some []
  | [a, b, '=', '='] => do
    let n := (← value? a) * 64 + (← value? b)
    return [byte (n / 16)]
  | [a, b, c, '='] => do
    let n := ((← value? a) * 64 + (← value? b)) * 64 + (← value? c)
    return [byte (n / 1024), byte (n / 4)]
  | a :: b :: c :: d :: rest => do
    let n := (((← value? a) * 64 + (← value? b)) * 64 + (← value? c)) * 64 + (← value? d)
    return byte (n / 65536) :: byte (n / 256) :: byte n :: (← decode? rest)
  | _ => none

/-- Reads text of ASCII in which other characters do not count. What is left of a group of four is
`rest`, `place` says how much of the group is read, and `pads` counts the padding since. A padding that
ends a group ends the text. -/
def decodeFrom (place rest pads : Nat) : List Char → Option (List UInt8)
  | [] => if place = 0 then some [] else none
  | c :: cs =>
    match value? c with
    | some n =>
      match place with
      | 0 => decodeFrom 1 n 0 cs
      | 1 => (decodeFrom 2 (n % 16) 0 cs).map (byte (rest * 4 + n / 16) :: ·)
      | 2 => (decodeFrom 3 (n % 4) 0 cs).map (byte (rest * 16 + n / 4) :: ·)
      | _ => (decodeFrom 0 0 0 cs).map (byte (rest * 64 + n) :: ·)
    | none =>
      if c = '=' ∧ 2 ≤ place then
        if 4 ≤ place + pads + 1 then some [] else decodeFrom place rest (pads + 1) cs
      else decodeFrom place rest pads cs

def decodeLoosely? (cs : List Char) : Option (List UInt8) :=
  if cs.all fun c => c.toNat < 0x80 then decodeFrom 0 0 0 cs else none

end SchemaBindings.Base64
