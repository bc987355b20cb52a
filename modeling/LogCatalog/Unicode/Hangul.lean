/-!
# Hangul syllables

The 11172 Hangul syllables are laid out in the order of their parts: a leading consonant, a vowel
and, in all but the first of 28, a trailing consonant.  So a syllable is taken apart and put
together by arithmetic.
-/

namespace LogCatalog.Unicode.Hangul

def syllableBase : Nat := 0xAC00
def leadingBase : Nat := 0x1100
def vowelBase : Nat := 0x1161
def trailingBase : Nat := 0x11A7

def leadingCount : Nat := 19
def vowelCount : Nat := 21
def trailingCount : Nat := 28

def syllableCount : Nat := leadingCount * vowelCount * trailingCount

def isSyllable (n : Nat) : Bool := syllableBase ≤ n && n < syllableBase + syllableCount

/-- A syllable without a trailing consonant. -/
def isOpen (n : Nat) : Bool := isSyllable n && (n - syllableBase) % trailingCount == 0

def parts (n : Nat) : List Nat :=
  let index := n - syllableBase
  let leading := leadingBase + index / (vowelCount * trailingCount)
  let vowel := vowelBase + index % (vowelCount * trailingCount) / trailingCount
  let trailing := index % trailingCount
  if trailing = 0 then [leading, vowel] else [leading, vowel, trailingBase + trailing]

/-- The syllable into which two neighbours join. -/
def joinPoints? (first second : Nat) : Option Nat :=
  if leadingBase ≤ first ∧ first < leadingBase + leadingCount
      ∧ vowelBase ≤ second ∧ second < vowelBase + vowelCount then
    some (syllableBase
      + ((first - leadingBase) * vowelCount + (second - vowelBase)) * trailingCount)
  else if isOpen first ∧ trailingBase < second ∧ second < trailingBase + trailingCount then
    some (first + (second - trailingBase))
  else none

def compose? (first second : Char) : Option Char :=
  (joinPoints? first.toNat second.toNat).map Char.ofNat

theorem isSyllable_iff {n : Nat} : isSyllable n = true ↔ 0xAC00 ≤ n ∧ n < 0xAC00 + 11172 := by
  unfold isSyllable syllableCount leadingCount vowelCount trailingCount syllableBase
  simp

theorem isOpen_iff {n : Nat} :
    isOpen n = true ↔ (0xAC00 ≤ n ∧ n < 0xAC00 + 11172) ∧ (n - 0xAC00) % 28 = 0 := by
  unfold isOpen
  rw [Bool.and_eq_true, isSyllable_iff, beq_iff_eq]
  rfl

end LogCatalog.Unicode.Hangul
