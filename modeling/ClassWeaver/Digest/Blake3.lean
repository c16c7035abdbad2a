import ClassWeaver.Bytes.Hex

/-!
# BLAKE3 digests

The digest by which a reader of reports tells files apart. Input is cut into chunks of 1024 bytes and chunks into
blocks of 64; chunks are the leaves of a tree in which neighbours are joined level by level, a last node without
neighbour going up unchanged. Only the root is compressed with the root flag.

## Contents

* `compress` — the compression function.
* `Node`, `chunkNode`, `join`, `reduce` — the tree.
* `digest`, `digestHex` — the digest of bytes.
-/

namespace ClassWeaver.Blake3

/-! ## Compression -/

/-- The words to start from. -/
def initial : List UInt32 :=
  [0x6A09E667, 0xBB67AE85, 0x3C6EF372, 0xA54FF53A, 0x510E527F, 0x9B05688C, 0x1F83D9AB, 0x5BE0CD19]

/-- Where the words of a message go between two rounds. -/
def permutation : List Nat :=
  [2, 6, 3, 10, 7, 0, 4, 13, 1, 11, 12, 5, 9, 14, 15, 8]

/-- The word at a position. -/
def word (words : Array UInt32) (i : Nat) : UInt32 :=
  words.getD i 0

/-- A word turned right by fewer bits than it has. -/
def rotate (w : UInt32) (bits : UInt32) : UInt32 :=
  (w >>> bits) ||| (w <<< (32 - bits))

/-- Mixes two words of a message into four words of the state. -/
def mix (state : Array UInt32) (a b c d : Nat) (x y : UInt32) : Array UInt32 :=
  let a1 := word state a + word state b + x
  let d1 := rotate (word state d ^^^ a1) 16
  let c1 := word state c + d1
  let b1 := rotate (word state b ^^^ c1) 12
  let a2 := a1 + b1 + y
  let d2 := rotate (d1 ^^^ a2) 8
  let c2 := c1 + d2
  let b2 := rotate (b1 ^^^ c2) 7
  (((state.setIfInBounds a a2).setIfInBounds b b2).setIfInBounds c c2).setIfInBounds d d2

/-- The columns and then the diagonals of the state. -/
def quarters : List (Nat × Nat × Nat × Nat) :=
  [(0, 4, 8, 12), (1, 5, 9, 13), (2, 6, 10, 14), (3, 7, 11, 15),
    (0, 5, 10, 15), (1, 6, 11, 12), (2, 7, 8, 13), (3, 4, 9, 14)]

/-- One round. -/
def round (state message : Array UInt32) : Array UInt32 :=
  (quarters.zipIdx).foldl
    (fun state ((a, b, c, d), i) => mix state a b c d (word message (2 * i)) (word message (2 * i + 1))) state

/-- A number of rounds, with the message permuted between them. -/
def rounds : Nat → Array UInt32 → Array UInt32 → Array UInt32
  | 0, state, _ => state
  | n + 1, state, message => rounds n (round state message) (permutation.map (word message)).toArray

/-- The chaining value that a block leads to. -/
def compress (chaining block : List UInt32) (counter : UInt64) (length flags : UInt32) : List UInt32 :=
  let start := chaining ++ initial.take 4 ++ [counter.toUInt32, (counter >>> 32).toUInt32, length, flags]
  let state := rounds 7 start.toArray block.toArray
  (List.range 8).map fun i => word state i ^^^ word state (i + 8)

/-! ## The tree -/

/-- The last compression of a subtree, before it is known whether the subtree is the whole tree. -/
structure Node where
  chaining : List UInt32
  block : List UInt32
  counter : UInt64
  length : UInt32
  flags : UInt32

/-- The flag of the first block of a chunk. -/
def chunkStart : UInt32 :=
  1

/-- The flag of the last block of a chunk. -/
def chunkEnd : UInt32 :=
  2

/-- The flag of a node above two others. -/
def parentFlag : UInt32 :=
  4

/-- The flag of the node at the top. -/
def rootFlag : UInt32 :=
  8

/-- The words of a node, which is compressed with further flags. -/
def Node.words (n : Node) (flags : UInt32) : List UInt32 :=
  compress n.chaining n.block n.counter n.length (n.flags ||| flags)

/-- The sixteen words of a block, whose missing bytes are zero, low byte first. -/
def blockWords (bytes : List UInt8) : List UInt32 :=
  let block := bytes.toArray
  (List.range 16).map fun i =>
    (List.range 4).foldr (fun j w => (w <<< 8) ||| (block.getD (4 * i + j) 0).toUInt32) 0

/-- Groups of at most `size` bytes; there are no more groups than `count`. -/
def groups (size : Nat) : (count : Nat) → List UInt8 → List (List UInt8)
  | 0, _ => []
  | count + 1, bytes =>
    if bytes.length ≤ size then [bytes] else bytes.take size :: groups size count (bytes.drop size)

/-- The node of the blocks of a chunk, behind those that led to a chaining value. -/
def blocksNode (counter : UInt64) (chaining : List UInt32) (flags : UInt32) : List (List UInt8) → Node
  | [] => ⟨chaining, blockWords [], counter, 0, flags ||| chunkEnd⟩
  | [last] => ⟨chaining, blockWords last, counter, UInt32.ofNat last.length, flags ||| chunkEnd⟩
  | block :: rest => blocksNode counter (compress chaining (blockWords block) counter 64 flags) 0 rest

/-- The node of a chunk. -/
def chunkNode (chunk : List UInt8) (counter : Nat) : Node :=
  blocksNode (UInt64.ofNat counter) initial chunkStart (groups 64 chunk.length.succ chunk)

/-- The node above two neighbours. -/
def join (left right : Node) : Node :=
  ⟨initial, left.words 0 ++ right.words 0, 0, 64, parentFlag⟩

/-- One level of the tree from the level below. -/
def level : List Node → List Node
  | left :: right :: rest => join left right :: level rest
  | other => other

/-- The root above nodes, which number at most `2 ^ height`. -/
def reduce : (height : Nat) → List Node → Option Node
  | _, [root] => some root
  | 0, _ => none
  | height + 1, nodes => reduce height (level nodes)

/-- The little-endian bytes of a word. -/
def wordBytes (w : UInt32) : List UInt8 :=
  [w.toUInt8, (w >>> 8).toUInt8, (w >>> 16).toUInt8, (w >>> 24).toUInt8]

/-- The digest of bytes: 32 bytes. -/
def digest (bytes : List UInt8) : List UInt8 :=
  let leaves := (groups 1024 bytes.length.succ bytes).zipIdx.map fun (chunk, i) => chunkNode chunk i
  match reduce leaves.length leaves with
  | some root => (root.words rootFlag).flatMap wordBytes
  | none => []

/-- The digits of the digest. -/
def digestHex (bytes : List UInt8) : String :=
  Bytes.toHex (digest bytes)

end ClassWeaver.Blake3
