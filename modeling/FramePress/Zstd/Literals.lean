import FramePress.Zstd.Huffman

/-! # The literals of a block

A compressed block begins with its literals: as they are, as one repeated byte, or Huffman-coded with a
table of their own or the table of an earlier block.

* `LiteralsHeader`: the two sizes and where the content begins.
* `readLiterals`: the literals, the table that later blocks may use again, and the bytes taken.
-/

namespace FramePress
set_option autoImplicit false

namespace Zstd

structure LiteralsHeader where
  headerSize : Nat
  rawSize : Nat
  /-- The bytes of the content, for coded literals. -/
  codedSize : Nat
  isSingle : Bool

/-- The header of literals that are not coded; its size is in bits 2 and 3. -/
def plainHeader (b : Bytes) : LiteralsHeader :=
  match b.bitsAt 2 2 with
  | 1 => ⟨2, b.bitsAt 4 12, 0, true⟩
  | 3 => ⟨3, b.bitsAt 4 20, 0, true⟩
  | _ => ⟨1, b.bitsAt 3 5, 0, true⟩

def codedHeader (b : Bytes) : LiteralsHeader :=
  match b.bitsAt 2 2 with
  | 0 => ⟨3, b.bitsAt 4 10, b.bitsAt 14 10, true⟩
  | 1 => ⟨3, b.bitsAt 4 10, b.bitsAt 14 10, false⟩
  | 2 => ⟨4, b.bitsAt 4 14, b.bitsAt 18 14, false⟩
  | _ => ⟨5, b.bitsAt 4 18, b.bitsAt 22 18, false⟩

/-- Literals, the table in force after them, and the number of bytes they take. -/
structure Literals where
  bytes : Bytes
  table : Option HuffmanTable
  used : Nat

def rawLiterals (b : Bytes) (maxSize : Nat) (table : Option HuffmanTable) : Option Literals := do
  let h := plainHeader b
  guard (h.rawSize ≤ maxSize)
  let body ← b.slice? h.headerSize h.rawSize
  return ⟨body, table, h.headerSize + h.rawSize⟩

def repeatedLiterals (b : Bytes) (maxSize : Nat) (table : Option HuffmanTable) : Option Literals := do
  let h := plainHeader b
  guard (h.rawSize ≤ maxSize)
  let byte ← b[h.headerSize]?
  return ⟨Array.replicate h.rawSize byte, table, h.headerSize + 1⟩

/-- The table of coded literals and the bytes it takes at the front of their content; streams follow. -/
def literalsTable (content : Bytes) (known : Option HuffmanTable) : Option (HuffmanTable × Nat) :=
  match known with
  | some table => some (table, 0)
  | none => do
    let (table, used) ← readHuffmanTable content
    guard (used < content.size)
    return (table, used)

/-- Huffman-coded literals; `known` is the table to use if they bring none. -/
def codedLiterals (b : Bytes) (maxSize : Nat) (known : Option HuffmanTable) : Option Literals := do
  guard (5 ≤ b.size)
  let h := codedHeader b
  guard (h.rawSize ≤ maxSize)
  let content ← b.slice? h.headerSize h.codedSize
  let (table, used) ← literalsTable content known
  let streams := content.extract used content.size
  let bytes ← if h.isSingle then readStream table streams h.rawSize
    else readStreams table streams h.rawSize
  return ⟨bytes, some table, h.headerSize + h.codedSize⟩

/-- The literals at the front of a block, at most `maxSize`; `table` is the one in force before. -/
def readLiterals (b : Bytes) (maxSize : Nat) (table : Option HuffmanTable) : Option Literals := do
  guard (2 ≤ b.size)
  match b.bitsAt 0 2 with
  | 0 => rawLiterals b maxSize table
  | 1 => repeatedLiterals b maxSize table
  | 2 => codedLiterals b maxSize none
  | _ => do
    let table ← table
    codedLiterals b maxSize (some table)

end Zstd
end FramePress
