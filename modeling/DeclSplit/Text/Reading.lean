import DeclSplit.Text.Utf8

/-!
# Reading a text in pieces

The text of a file is taken piece by piece, and its bytes are read and decoded block by block when a
piece needs them.  So what is wrong with the bytes shows only once a reader has come near the place,
and the place is counted from the start of the block that holds it.  Every line ends with one line
feed in the text, however it ends in the file.

* `Text.Reading` — the pieces that can be taken, and what is wrong after them;
* `Text.readPieces` — the reading of a file with the given bytes.
-/

namespace DeclSplit.Text

/-- The pieces of a text, and what is wrong with the bytes after the last of them, if anything is. -/
structure Reading where
  pieces : List (List Char)
  fault : Option Utf8.Fault
  deriving DecidableEq

/-- The number of characters of a piece; only the last one can have fewer. -/
def pieceSize : Nat := 4096

/-- The least number of bytes of a block, unless it is the last one. -/
def blockSize : Nat := 8192

/-- A text in which every line ends with one line feed. -/
def unifyLineEnds : List Char → List Char
  | '\r' :: '\n' :: rest => '\n' :: unifyLineEnds rest
  | '\r' :: rest => '\n' :: unifyLineEnds rest
  | c :: rest => c :: unifyLineEnds rest
  | [] => []

/-- How far a file is decoded. -/
structure Decoder where
  /-- The bytes that are still to be read. -/
  unread : List UInt8
  /-- The bytes of a character that is not complete yet. -/
  started : List UInt8
  /-- Whether the last block ends with a carriage return, which may be half of the end of a line. -/
  carriage : Bool
  /-- The characters that are decoded and not taken yet. -/
  ready : List Char
  /-- The number of bytes of the last block and of the characters in it. -/
  density : Nat × Nat

namespace Decoder

/-- The start of a file. -/
def ofBytes (bytes : List UInt8) : Decoder :=
  ⟨bytes, [], false, [], (0, 0)⟩

/-- The end of a file, at which no character may be incomplete. -/
def finish (d : Decoder) : Except Utf8.Fault Decoder :=
  match Utf8.fault? d.started with
  | some f => .error f
  | none => .ok { d with started := [], carriage := false, ready := if d.carriage then ['\n'] else [] }

/-- The number of bytes of the block for so many characters, as far as the last block lets guess. -/
def blockFor (d : Decoder) (wanted : Nat) : Nat :=
  max blockSize (d.density.1 * wanted / d.density.2)

/-- The next block, for a piece that lacks so many characters; there are bytes left. -/
def readBlock (d : Decoder) (wanted : Nat) : Except Utf8.Fault Decoder := do
  let block := d.unread.take (d.blockFor wanted)
  let bytes := d.started ++ block
  let complete ←
    match Utf8.fault? bytes with
    | none => .ok bytes.length
    | some f => if f.reason = .unexpectedEnd then .ok f.position else .error f
  let decoded := ((String.fromUTF8? ⟨(bytes.take complete).toArray⟩).getD "").toList
  let decoded := if d.carriage && !decoded.isEmpty then '\r' :: decoded else decoded
  let endsOpen := decoded.getLast? = some '\r'
  let ready := unifyLineEnds (if endsOpen then decoded.dropLast else decoded)
  return {
    unread := d.unread.drop (d.blockFor wanted)
    started := bytes.drop complete
    carriage := endsOpen || (d.carriage && decoded.isEmpty)
    ready
    density := (block.length, ready.length) }

/-- The next piece after the characters `taken` of it, which is shorter than others at the end. -/
def takePiece (taken : List Char) : (steps : Nat) → Decoder → Except Utf8.Fault (List Char × Decoder)
  | 0, d => .ok (taken, d)
  | steps + 1, d => do
    let wanted := pieceSize - taken.length
    let more := taken ++ d.ready.take wanted
    let d := { d with ready := d.ready.drop wanted }
    if more.length = pieceSize then return (more, d)
    if !d.unread.isEmpty then takePiece more steps (← d.readBlock (pieceSize - more.length))
    else
      let d ← d.finish
      if d.ready.isEmpty then return (more, d) else takePiece more steps d

/-- The pieces from here on. -/
def pieces : (steps : Nat) → Decoder → Reading
  | 0, _ => ⟨[], none⟩
  | steps + 1, d =>
    match takePiece [] (d.unread.length + 3) d with
    | .error f => ⟨[], some f⟩
    | .ok (piece, d) =>
      if piece.isEmpty then ⟨[], none⟩
      else
        let rest := pieces steps d
        { rest with pieces := piece :: rest.pieces }

end Decoder

/-- The reading of a file with the given bytes. -/
def readPieces (bytes : List UInt8) : Reading :=
  (Decoder.ofBytes bytes).pieces (bytes.length + 1)

example : readPieces [0x61, 0x0d, 0x0a, 0xc3, 0xa9, 0x0d] = ⟨[['a', '\n', 'é', '\n']], none⟩ := by
  decide +kernel

example : readPieces [0x61, 0xff] = ⟨[], some ⟨1, [0xff], .invalidStart⟩⟩ := by decide +kernel

end DeclSplit.Text
