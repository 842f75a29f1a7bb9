import SchemaBindings.Bytes.Utf8
import SchemaBindings.Text.Trim

/-!
Text files are read bit by bit: bytes are taken in pieces, and their characters, with unified line
breaks, are given out in blocks of one size. A fault shows when its piece is taken, and its place is
counted from the start of the piece, or of the bytes that were held back before it.
-/

namespace SchemaBindings.Utf8

set_option autoImplicit false

structure PieceReader where
  bytes : List UInt8
  held : List UInt8 := []
  heldReturn : Bool := false
  ready : List Char := []
  bytesTaken : Nat := 0
  charsTaken : Nat := 0

namespace PieceReader

def leastPiece : Nat := 8192

/-- Pieces grow when the characters of the last one took many bytes. -/
def pieceSize (r : PieceReader) (wanted : Nat) : Nat :=
  max leastPiece (r.bytesTaken * wanted / r.charsTaken)

/-- Takes one piece; an empty one is the end, where nothing is held back. -/
def takePiece (r : PieceReader) (wanted : Nat) : Except DecodeError PieceReader := do
  let piece := r.bytes.take (r.pieceSize wanted)
  let atEnd := piece.isEmpty
  let (chars, held) ← match atEnd, firstFault 0 0 r.held with
    | true, some e => throw e
    | true, none => pure ([], [])
    | false, _ => decodeStart (r.held ++ piece)
  let joins := r.heldReturn && (atEnd || !chars.isEmpty)
  let chars := if joins then '\r' :: chars else chars
  let holds := !atEnd && chars.getLast? == some '\r'
  let chars := Text.unifyNewlines (if holds then chars.dropLast else chars)
  return {
    bytes := r.bytes.drop piece.length
    held
    heldReturn := holds || (r.heldReturn && !joins)
    ready := r.ready ++ chars
    bytesTaken := piece.length
    charsTaken := chars.length }

def fill (wanted : Nat) : Nat → PieceReader → Except DecodeError PieceReader
  | 0, r => .ok r
  | fuel + 1, r =>
    if wanted ≤ r.ready.length then .ok r
    else do
      let next ← r.takePiece (wanted - r.ready.length)
      if r.bytes.isEmpty && next.charsTaken == 0 then return next else fill wanted fuel next

def blocks (size : Nat) : Nat → PieceReader → List (List Char) × Option DecodeError
  | 0, _ => ([], none)
  | fuel + 1, r =>
    match r.fill size (r.bytes.length + 2) with
    | .error e => ([], some e)
    | .ok r =>
      if r.ready.isEmpty then ([], none)
      else
        let (more, e) := blocks size fuel { r with ready := r.ready.drop size }
        (r.ready.take size :: more, e)

end PieceReader

def blocks (size : Nat) (bytes : ByteArray) : List (List Char) × Option DecodeError :=
  PieceReader.blocks size (bytes.size + 1) { bytes := bytes.toList }

end SchemaBindings.Utf8
