import PivotTable.Json.Writer

/-!
# Digests

The BLAKE3 hash of a byte string with an output of 32 bytes. The bytes are cut into chunks of 1024, each chunk
is compressed block by block, and the chunks are joined in pairs, level by level, an odd one moving up as
it is; that tree has at every left branch the largest power of two that leaves something to the right. The
digest of a value names the hash and gives, in hexadecimal, the hash of the value's compact text.
-/
namespace PivotTable

namespace Blake3

abbrev Words := Array UInt32

def word (ws : Words) (i : Nat) : UInt32 := ws.getD i 0

def initial : Words :=
  #[0x6A09E667, 0xBB67AE85, 0x3C6EF372, 0xA54FF53A, 0x510E527F, 0x9B05688C, 0x1F83D9AB, 0x5BE0CD19]

def permutation : Array Nat := #[2, 6, 3, 10, 7, 0, 4, 13, 1, 11, 12, 5, 9, 14, 15, 8]

def chunkStart : UInt32 := 1
def chunkEnd : UInt32 := 2
def parent : UInt32 := 4
def root : UInt32 := 8

def rotateRight (x n : UInt32) : UInt32 := (x >>> n) ||| (x <<< (32 - n))

/-- One quarter of a round on the words at `a`, `b`, `c` and `d`. -/
def mix (s : Words) (a b c d : Nat) (x y : UInt32) : Words :=
  let a1 := word s a + word s b + x
  let d1 := rotateRight (word s d ^^^ a1) 16
  let c1 := word s c + d1
  let b1 := rotateRight (word s b ^^^ c1) 12
  let a2 := a1 + b1 + y
  let d2 := rotateRight (d1 ^^^ a2) 8
  let c2 := c1 + d2
  let b2 := rotateRight (b1 ^^^ c2) 7
  (((s.setIfInBounds a a2).setIfInBounds b b2).setIfInBounds c c2).setIfInBounds d d2

/-- Columns first, then diagonals. -/
def lanes : List (Nat × Nat × Nat × Nat) :=
  [(0, 4, 8, 12), (1, 5, 9, 13), (2, 6, 10, 14), (3, 7, 11, 15),
   (0, 5, 10, 15), (1, 6, 11, 12), (2, 7, 8, 13), (3, 4, 9, 14)]

def mixLanes (block : Words) : Nat → List (Nat × Nat × Nat × Nat) → Words → Words
  | _, [], s => s
  | i, (a, b, c, d) :: rest, s =>
    mixLanes block (i + 2) rest (mix s a b c d (word block i) (word block (i + 1)))

def rounds : Nat → Words → Words → Words
  | 0, _, s => s
  | n + 1, block, s => rounds n (permutation.map (word block)) (mixLanes block 0 lanes s)

structure Node where
  chaining : Words
  block : Words
  counter : Nat
  length : Nat
  flags : UInt32

def compress (n : Node) : Words :=
  let s := n.chaining ++ initial.extract 0 4 ++
    #[UInt32.ofNat n.counter, UInt32.ofNat (n.counter / 0x100000000), UInt32.ofNat n.length, n.flags]
  let s := rounds 7 n.block s
  (Array.range 8).map fun i => word s i ^^^ word s (i + 8)

/-- The little-endian words of a block, filled up with zeros. -/
def blockWords (bytes : Array UInt8) (start stop : Nat) : Words :=
  let byte i : UInt32 := if i < stop then (bytes.getD i 0).toUInt32 else 0
  (Array.range 16).map fun i =>
    let p := start + 4 * i
    byte p ||| (byte (p + 1) <<< 8) ||| (byte (p + 2) <<< 16) ||| (byte (p + 3) <<< 24)

/-- The last block of a chunk, after compressing the ones before it. -/
def chunkNode (bytes : Array UInt8) (counter stop : Nat) : Nat → Words → UInt32 → Nat → Node
  | 0, chaining, flags, start =>
    ⟨chaining, blockWords bytes start stop, counter, stop - start, flags ||| chunkEnd⟩
  | blocks + 1, chaining, flags, start =>
    let node := ⟨chaining, blockWords bytes start (start + 64), counter, 64, flags⟩
    chunkNode bytes counter stop blocks (compress node) 0 (start + 64)

/-- The chunks in order; the empty string is one empty chunk. -/
def chunks (bytes : Array UInt8) : List Node :=
  (List.range (max 1 ((bytes.size + 1023) / 1024))).map fun i =>
    let start := 1024 * i
    let stop := min bytes.size (start + 1024)
    chunkNode bytes i stop ((stop - start - 1) / 64) initial chunkStart start

def join (left right : Node) : Node :=
  ⟨initial, compress left ++ compress right, 0, 64, parent⟩

def joinPairs : List Node → List Node
  | left :: right :: rest => join left right :: joinPairs rest
  | nodes => nodes

/-- The top of the tree; each level at least halves the number of nodes above one. -/
def top : Nat → List Node → Option Node
  | _, [node] => some node
  | 0, nodes => nodes.head?
  | fuel + 1, nodes => top fuel (joinPairs nodes)

def littleEndian (w : UInt32) : List UInt8 :=
  [w.toUInt8, (w >>> 8).toUInt8, (w >>> 16).toUInt8, (w >>> 24).toUInt8]

def hash (bytes : Array UInt8) : List UInt8 :=
  let nodes := chunks bytes
  match top nodes.length nodes with
  | some node => (compress { node with flags := node.flags ||| root }).toList.flatMap littleEndian
  | none => []

end Blake3

def hexByte (b : UInt8) : List Char :=
  [Nat.digitChar (b.toNat / 16), Nat.digitChar (b.toNat % 16)]

def Json.digest (value : Json) : String :=
  "blake3:" ++ String.ofList ((Blake3.hash value.render.toUTF8.data).flatMap hexByte)

end PivotTable
