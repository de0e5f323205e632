/-!
# The size of compressed blanks

How many bytes a run of equal bytes takes once it is compressed. The run is cut into a few single
bytes and references to the byte before, each of which stands for up to 258 bytes; these are
written with fixed or with fitted code words, whichever are shorter. `compressedSize` counts the
bytes of the result, its header and its checksum.
-/

namespace Stagecraft

namespace Deflate

/-- What a run is cut into: single bytes, full references, and the length of a last one. -/
structure Pieces where
  singles : Nat
  full : Nat
  last : Nat

def fullLength : Nat := 258

/-- The pieces of a run. The first two bytes stand alone, and so does a rest too short to be
referred to. -/
def pieces (n : Nat) : Pieces :=
  if n < 5 then ⟨n, 0, 0⟩
  else
    let rest := (n - 2) % fullLength
    if rest ≤ 5 then ⟨2 + rest, (n - 2) / fullLength, 0⟩ else ⟨2, (n - 2) / fullLength, rest⟩

/-- The least length of each class of references, with the extra bits that lengths of the class
take. -/
def lengthClasses : List (Nat × Nat) :=
  [(3, 0), (4, 0), (5, 0), (6, 0), (7, 0), (8, 0), (9, 0), (10, 0), (11, 1), (13, 1), (15, 1),
   (17, 1), (19, 2), (23, 2), (27, 2), (31, 2), (35, 3), (43, 3), (51, 3), (59, 3), (67, 4),
   (83, 4), (99, 4), (115, 4), (131, 5), (163, 5), (195, 5), (227, 5)]

/-- The symbol of a length and its extra bits. -/
def lengthSymbol (length : Nat) : Nat × Nat :=
  if length = fullLength then (285, 0)
  else
    let below := lengthClasses.filter (·.1 ≤ length)
    (256 + below.length, (below.getLast?.map (·.2)).getD 0)

/-- Symbols with how often they occur, by symbol. -/
abbrev Counts := List (Nat × Nat)

/-- A tree of code words: how often it is used, how deep it is, and the lengths of its words. -/
structure CodeTree where
  weight : Nat
  depth : Nat
  lengths : List (Nat × Nat)

namespace CodeTree

def join (a b : CodeTree) : CodeTree :=
  ⟨a.weight + b.weight, max a.depth b.depth + 1,
    (a.lengths ++ b.lengths).map fun l => (l.1, l.2 + 1)⟩

/-- Lighter trees come first, of equally heavy ones the shallower. -/
def isBefore (a b : CodeTree) : Bool :=
  a.weight < b.weight || (a.weight = b.weight && a.depth ≤ b.depth)

/-- Joins the first two trees until one is left, and gives the lengths of its words. -/
def mergeAll : Nat → List CodeTree → List (Nat × Nat)
  | 0, _ => []
  | fuel + 1, trees =>
    match trees.mergeSort isBefore with
    | [] => []
    | [t] => t.lengths
    | a :: b :: rest => mergeAll fuel (rest ++ [join a b])

end CodeTree

/-- A code needs two words at least; small symbols that do not occur take the missing ones. -/
def padded (counts : Counts) : Counts :=
  match counts with
  | [] => [(0, 1), (1, 1)]
  | [(s, k)] => if s < 2 then [(s, k), (s + 1, 1)] else [(0, 1), (s, k)]
  | _ => counts

/-- The lengths of the best code words. -/
def wordLengths (counts : Counts) : List (Nat × Nat) :=
  CodeTree.mergeAll (counts.length + 2) ((padded counts).map fun c => ⟨c.2, 0, [(c.1, 0)]⟩)

def wordLength (lengths : List (Nat × Nat)) (s : Nat) : Nat := (lengths.lookup s).getD 0

def total (sizes : List Nat) : Nat := sizes.foldr (· + ·) 0

def bits (lengths : List (Nat × Nat)) (counts : Counts) : Nat :=
  total (counts.map fun c => c.2 * wordLength lengths c.1)

def countOne (counts : Counts) (s : Nat) : Counts :=
  match counts with
  | [] => [(s, 1)]
  | (t, k) :: rest =>
    if s = t then (t, k + 1) :: rest
    else if s < t then (s, 1) :: (t, k) :: rest
    else (t, k) :: countOne rest s

/-- How a run of unused symbols is told: in pieces of up to 138, of up to 10, or one by one. -/
def gap : Nat → Nat → List Nat
  | 0, _ => []
  | _, 0 => []
  | fuel + 1, n + 1 =>
    if 11 ≤ n + 1 then 18 :: gap fuel (n + 1 - min 138 (n + 1))
    else if 3 ≤ n + 1 then [17]
    else 0 :: gap fuel n

/-- How the lengths of words are told, symbol by symbol. -/
def told (lengths : List (Nat × Nat)) : Nat → List Nat → List Nat
  | _, [] => []
  | next, s :: rest =>
    gap (s - next) (s - next) ++ wordLength lengths s :: told lengths (s + 1) rest

/-- How the lengths of the words of a code are told. -/
def tellings (lengths : List (Nat × Nat)) : List Nat :=
  told lengths 0 ((lengths.map (·.1)).mergeSort (· ≤ ·))

/-- The order in which the lengths of the words for tellings are written. -/
def tellingOrder : List Nat := [16, 17, 18, 0, 8, 7, 9, 6, 10, 5, 11, 4, 12, 3, 13, 2, 14, 1, 15]

def tellingExtra (s : Nat) : Nat := if s = 17 then 3 else if s = 18 then 7 else 0

/-- The bits in front of data in fitted code words. -/
def preamble (tellings : List Nat) : Nat :=
  let counts := tellings.foldl countOne []
  let lengths := wordLengths counts
  let written := (tellingOrder.reverse.dropWhile fun s => wordLength lengths s = 0).length
  14 + 3 * max 4 written + bits lengths counts + total (tellings.map tellingExtra)

/-- The length of the fixed code word of a symbol. -/
def fixedLength (s : Nat) : Nat := if 256 ≤ s && s < 280 then 7 else 8

/-- The size of a run of `n` equal bytes, compressed. -/
def compressedSize (n : Nat) : Nat :=
  let p := pieces n
  let last := lengthSymbol p.last
  let symbols :=
    [(0, p.singles), (256, 1), (last.1, if p.last = 0 then 0 else 1), (285, p.full)].filter
      fun c => c.2 ≠ 0
  let references := p.full + (if p.last = 0 then 0 else 1)
  let distances := if references = 0 then [] else [(0, references)]
  let extra := if p.last = 0 then 0 else last.2
  let fixed := total (symbols.map fun c => c.2 * fixedLength c.1) + 5 * references
  let words := wordLengths symbols
  let ways := wordLengths distances
  let fitted :=
    preamble (tellings words ++ tellings ways) + bits words symbols + bits ways distances
  6 + min (n + 4) ((3 + min fixed fitted + extra + 7) / 8)

end Deflate

end Stagecraft
