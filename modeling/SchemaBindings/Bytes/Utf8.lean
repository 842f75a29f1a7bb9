/-!
Reading bytes as UTF-8. Bytes that are no UTF-8 can be refused, with the first fault named, or read
all the same: each longest start of a character that is cut short, and each byte that starts none,
then stands for one replacement character.
-/

namespace SchemaBindings.Utf8

set_option autoImplicit false

/-- What a first byte of several announces: the number of bytes to follow, the bounds of the next
byte, and the bits of the first byte that count. -/
structure Lead where
  following : Nat
  low : UInt8
  high : UInt8
  bits : Nat

def lead? (b : UInt8) : Option Lead :=
  let n := b.toNat
  if 0xC2 ≤ n ∧ n ≤ 0xDF then some ⟨1, 0x80, 0xBF, n - 0xC0⟩
  else if n = 0xE0 then some ⟨2, 0xA0, 0xBF, 0⟩
  else if n = 0xED then some ⟨2, 0x80, 0x9F, 0xD⟩
  else if 0xE1 ≤ n ∧ n ≤ 0xEF then some ⟨2, 0x80, 0xBF, n - 0xE0⟩
  else if n = 0xF0 then some ⟨3, 0x90, 0xBF, 0⟩
  else if 0xF1 ≤ n ∧ n ≤ 0xF3 then some ⟨3, 0x80, 0xBF, n - 0xF0⟩
  else if n = 0xF4 then some ⟨3, 0x80, 0x8F, 4⟩
  else none

def continuation (low high : UInt8) : Nat → List UInt8 → List UInt8
  | 0, _ => []
  | _, [] => []
  | count + 1, b :: rest =>
    if low ≤ b ∧ b ≤ high then b :: continuation 0x80 0xBF count rest else []

inductive Fault
  | startByte
  | continuationByte
  | endOfData
  deriving DecidableEq, Repr

structure Step where
  taken : Nat
  result : Except Fault Char

def step (b : UInt8) (rest : List UInt8) : Step :=
  if b < 0x80 then ⟨1, .ok (Char.ofNat b.toNat)⟩
  else match lead? b with
    | none => ⟨1, .error .startByte⟩
    | some l =>
      let more := continuation l.low l.high l.following rest
      if more.length = l.following then
        ⟨1 + more.length, .ok (Char.ofNat (more.foldl (fun n m => 64 * n + (m.toNat - 0x80)) l.bits))⟩
      else
        ⟨1 + more.length,
          .error (if more.length = rest.length then .endOfData else .continuationByte)⟩

/-- Passes over `taken` bytes that belong to the step before. -/
def charsFrom : Nat → List UInt8 → List Char
  | _, [] => []
  | taken + 1, _ :: rest => charsFrom taken rest
  | 0, b :: rest =>
    let s := step b rest
    (match s.result with
      | .ok c => c
      | .error _ => '\ufffd') :: charsFrom (s.taken - 1) rest

def decodeLossy (bytes : ByteArray) : String :=
  match String.fromUTF8? bytes with
  | some s => s
  | none => String.ofList (charsFrom 0 bytes.toList)

structure DecodeError where
  fault : Fault
  position : Nat
  span : Nat
  byte : UInt8
  deriving DecidableEq, Repr

def firstFault (position : Nat) : Nat → List UInt8 → Option DecodeError
  | _, [] => none
  | taken + 1, _ :: rest => firstFault (position + 1) taken rest
  | 0, b :: rest =>
    let s := step b rest
    match s.result with
    | .ok _ => firstFault (position + 1) (s.taken - 1) rest
    | .error fault => some ⟨fault, position, s.taken, b⟩

def decode (bytes : ByteArray) : Except DecodeError String :=
  match String.fromUTF8? bytes with
  | some s => .ok s
  | none =>
    match firstFault 0 0 bytes.toList with
    | some e => .error e
    | none => .ok (decodeLossy bytes)

/-- The first two bytes of a surrogate, which is refused only with its third. -/
def startsSurrogate : List UInt8 → Bool
  | [a, b] => a == 0xED && 0xA0 ≤ b && b ≤ 0xBF
  | _ => false

/-- The characters of bytes that may go on, and the bytes of one that is not yet whole. -/
def decodeStart (bytes : List UInt8) : Except DecodeError (List Char × List UInt8) :=
  match firstFault 0 0 bytes with
  | none => .ok (charsFrom 0 bytes, [])
  | some e =>
    let rest := bytes.drop e.position
    if e.fault = .endOfData ∨ startsSurrogate rest then
      .ok (charsFrom 0 (bytes.take e.position), rest)
    else .error e

theorem decodeLossy_toUTF8 (s : String) : decodeLossy s.toUTF8 = s := by
  simp [decodeLossy, String.fromUTF8?, s.isValidUTF8]
  rfl

def hexByte (b : UInt8) : String :=
  String.ofList [Nat.digitChar (b.toNat / 16), Nat.digitChar (b.toNat % 16)]

def Fault.message : Fault → String
  | .startByte => "invalid start byte"
  | .continuationByte => "invalid continuation byte"
  | .endOfData => "unexpected end of data"

def DecodeError.message (e : DecodeError) : String :=
  let where_ :=
    if e.span = 1 then "byte 0x" ++ hexByte e.byte ++ " in position " ++ toString e.position
    else "bytes in position " ++ toString e.position ++ "-" ++ toString (e.position + e.span - 1)
  "'utf-8' codec can't decode " ++ where_ ++ ": " ++ e.fault.message

def byteOrderMark : List UInt8 := [0xEF, 0xBB, 0xBF]

/-- Takes a byte order mark off the start; bytes that end within one are nothing else. -/
def dropByteOrderMark (bytes : ByteArray) : ByteArray :=
  let start := (bytes.extract 0 3).toList
  if start = byteOrderMark then bytes.extract 3 bytes.size
  else if bytes.size < 3 ∧ start.isPrefixOf byteOrderMark then ByteArray.empty
  else bytes

end SchemaBindings.Utf8
