/-!
# Closeness of words

Two words are close when most of their characters lie in blocks that they share. The longest
shared block counts first, then the ones on either side of it, and so on. A word that is not
known is answered with the known words close to it.
-/

namespace Eligibility.Text

/-- The number of characters that two texts begin with in common. -/
def commonStart : List Char → List Char → Nat
  | a :: as, b :: bs => if a = b then commonStart as bs + 1 else 0
  | _, _ => 0

/-- A block that two texts share: where it begins in each, and how long it is. -/
structure Block where
  left : Nat
  right : Nat
  size : Nat

/-- The longer of two blocks, the first one if they are equally long. -/
def Block.longer (a b : Block) : Block := if a.size < b.size then b else a

/-- The longest block at the start of one text, `i` characters into the whole, and anywhere
in another, of which `j` characters have been passed. -/
def longestAt (i : Nat) (as : List Char) : Nat → List Char → Block
  | j, [] => ⟨i, j, 0⟩
  | j, b :: bs => .longer ⟨i, j, commonStart as (b :: bs)⟩ (longestAt i as (j + 1) bs)

/-- The longest block that two texts share, as far left as possible. -/
def longestFrom (bs : List Char) : Nat → List Char → Block
  | i, [] => ⟨i, 0, 0⟩
  | i, a :: as => .longer (longestAt i (a :: as) 0 bs) (longestFrom bs (i + 1) as)

/-- The number of characters of two texts that lie in shared blocks. -/
def sharedCount (as bs : List Char) : Nat :=
  match longestFrom bs 0 as with
  | ⟨i, j, size⟩ =>
      if _h : 0 < size ∧ i < as.length then
        size + sharedCount (as.take i) (bs.take j) +
          sharedCount (as.drop (i + size)) (bs.drop (j + size))
      else 0
termination_by as.length
decreasing_by
  · simp only [List.length_take]; omega
  · simp only [List.length_drop]; omega

/-- How close two words are: the shared characters and all characters of both. -/
structure Closeness where
  shared : Nat
  total : Nat

/-- The closeness of a known word to another one. -/
def Closeness.of (known word : String) : Closeness :=
  ⟨sharedCount known.toList word.toList, known.length + word.length⟩

/-- Six tenths of the characters, at least, are shared. -/
def Closeness.suffices (c : Closeness) : Bool := 3 * c.total ≤ 10 * c.shared

/-- One closeness is not below another. -/
def Closeness.reaches (a b : Closeness) : Bool := b.shared * a.total ≤ a.shared * b.total

/-- One word goes before another one when it is closer. Of two words that are equally close,
the one with the greater text goes first. -/
def isCloser (x y : String × Closeness) : Bool :=
  x.2.reaches y.2 && (!y.2.reaches x.2 || !decide (x.1 < y.1))

/-- The known words close to a word, the three closest at most, in order of their text. -/
def closeWords (known : List String) (word : String) : List String :=
  let close := (known.map fun k => (k, Closeness.of k word)).filter fun (_, c) => c.suffices
  let best := (close.mergeSort isCloser).take 3
  (best.map (·.1)).mergeSort fun a b => !decide (b < a)

end Eligibility.Text
