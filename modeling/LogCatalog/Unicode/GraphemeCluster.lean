import LogCatalog.Text.Basic
import LogCatalog.Unicode.GraphemeBreak

/-!
# User-perceived characters

A text is cut into *grapheme clusters*, the pieces that a reader takes for one character: a base
with its marks, a Hangul syllable, a flag, an emoji sequence, an Indic conjunct.

* `flatten_clusters`: the clusters of a text are its pieces, in order and with nothing lost.
* `ne_nil_of_mem_clusters`: no cluster is empty.
-/

namespace LogCatalog.Unicode

/-- What the characters of a cluster so far say about the next one. -/
structure ClusterState where
  /-- The class of the last character. -/
  last : GraphemeBreak
  /-- The cluster ends in an odd number of regional indicators. -/
  oddIndicators : Bool
  /-- The cluster ends in a pictograph and extending characters after it. -/
  pictograph : Bool
  /-- The cluster ends in a pictograph, extending characters and a joiner. -/
  joinedPictograph : Bool
  /-- The cluster ends in a conjunct consonant, with extending characters after it. -/
  consonant : Bool
  /-- A linker is among the characters after that consonant. -/
  linked : Bool
  deriving DecidableEq, Repr

namespace ClusterState

def start (c : Char) : ClusterState where
  last := graphemeBreak c
  oddIndicators := graphemeBreak c == .regionalIndicator
  pictograph := isPictograph c
  joinedPictograph := false
  consonant := isConjunctConsonant c
  linked := false

def push (s : ClusterState) (c : Char) : ClusterState where
  last := graphemeBreak c
  oddIndicators := graphemeBreak c == .regionalIndicator && !s.oddIndicators
  pictograph := isPictograph c || s.pictograph && graphemeBreak c == .extend
  joinedPictograph := s.pictograph && graphemeBreak c == .zwj
  consonant := isConjunctConsonant c || s.consonant && isConjunctExtend c
  linked := !isConjunctConsonant c && s.consonant && isConjunctExtend c
    && (s.linked || isConjunctLinker c)

/-- Whether a break is forbidden between two classes, whatever stands around them. -/
def bound : GraphemeBreak → GraphemeBreak → Bool
  | .cr, .lf => true
  | .cr, _ | .lf, _ | .control, _ => false
  | _, .cr | _, .lf | _, .control => false
  | .leading, .leading | .leading, .vowel => true
  | .leading, .openSyllable | .leading, .closedSyllable => true
  | .openSyllable, .vowel | .openSyllable, .trailing => true
  | .vowel, .vowel | .vowel, .trailing => true
  | .closedSyllable, .trailing | .trailing, .trailing => true
  | _, .extend | _, .zwj | _, .spacingMark => true
  | .prepend, _ => true
  | _, _ => false

/-- Whether the next character belongs to the cluster. -/
def joins (s : ClusterState) (c : Char) : Bool :=
  bound s.last (graphemeBreak c)
    || s.linked && isConjunctConsonant c
    || s.joinedPictograph && isPictograph c
    || s.oddIndicators && graphemeBreak c == .regionalIndicator

end ClusterState

/-- Cuts a text whose first cluster has begun.  `begun` are the characters of that cluster so far,
the last one first. -/
def clustersFrom (s : ClusterState) (begun : Text) : Text → List Text
  | [] => [begun.reverse]
  | c :: rest =>
    if s.joins c then clustersFrom (s.push c) (c :: begun) rest
    else begun.reverse :: clustersFrom (.start c) [c] rest

def clusters : Text → List Text
  | [] => []
  | c :: rest => clustersFrom (.start c) [c] rest

theorem flatten_clustersFrom (s : ClusterState) (begun t : Text) :
    (clustersFrom s begun t).flatten = begun.reverse ++ t := by
  induction t generalizing s begun with
  | nil => simp [clustersFrom]
  | cons c rest ih =>
    rw [clustersFrom]
    split <;> simp [ih]

theorem ne_nil_of_mem_clustersFrom {s : ClusterState} {begun t cluster : Text} (hb : begun ≠ [])
    (h : cluster ∈ clustersFrom s begun t) : cluster ≠ [] := by
  induction t generalizing s begun with
  | nil => simp_all [clustersFrom]
  | cons c rest ih =>
    rw [clustersFrom] at h
    split at h
    · exact ih (by simp) h
    · rcases List.mem_cons.1 h with rfl | h
      · simpa using hb
      · exact ih (by simp) h

/-- The clusters, put together, are the text. -/
theorem flatten_clusters (t : Text) : (clusters t).flatten = t := by
  cases t with
  | nil => rfl
  | cons c rest => simp [clusters, flatten_clustersFrom]

theorem ne_nil_of_mem_clusters {t cluster : Text} (h : cluster ∈ clusters t) : cluster ≠ [] := by
  cases t with
  | nil => simp [clusters] at h
  | cons c rest => exact ne_nil_of_mem_clustersFrom (by simp) h

end LogCatalog.Unicode
