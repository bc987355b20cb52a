import LogCatalog.Proofs.Template.Matching
import Mathlib.Data.List.Nodup

/-!
# Misplaced names

Two lists without repetition that hold the same names are permutations of each other.  A misplaced
entry then says of one name where it stands in the one list and where in the other, and the two
lists play the same part in that: comparing them the other way round exchanges the two places.

* `misplacedFrom_eq`: the entries of a walk over a list, place by place.
* `mem_misplaced_compare`: an entry is a name with a different place in each of the two lists.
* `exists_expected_eq_actual`: where a name has moved to, another one has moved away.
* `compare_swap`: the two ways of comparing, and what every entry says.
-/

namespace LogCatalog.Template

variable {a b : List Text} {m : Misplaced}

/-! ### Walking over a list -/

/-- The entry for a name of the one list and its place there, unless the other list has the name at
the same place. -/
def misplacedAt? (localized : List Text) (name : Text) (place : Nat) : Option Misplaced :=
  if localized[place]? = some name then none
  else some ⟨name, place, (localized.idxOf? name).getD place⟩

theorem misplacedFrom_eq (localized : List Text) (place : Nat) (names : List Text) :
    misplacedFrom localized place names
      = (names.zipIdx place).filterMap fun entry => misplacedAt? localized entry.1 entry.2 := by
  induction names generalizing place with
  | nil => rfl
  | cons name rest ih =>
    rw [misplacedFrom, List.zipIdx_cons, List.filterMap_cons, ih, misplacedAt?]
    by_cases h : localized[place]? = some name
    · rw [if_pos h, if_pos h]
    · rw [if_neg h, if_neg h]

theorem misplacedAt?_eq_some_iff {localized : List Text} {name : Text} {place : Nat} :
    misplacedAt? localized name place = some m ↔
      m.name = name ∧ m.expected = place ∧ localized[place]? ≠ some name
        ∧ m.actual = (localized.idxOf? name).getD place := by
  rw [misplacedAt?]
  constructor
  · intro h
    split at h
    · cases h
    · next hne =>
      cases h
      exact ⟨rfl, rfl, hne, rfl⟩
  · rintro ⟨rfl, rfl, hne, hactual⟩
    rw [if_neg hne, ← hactual]

theorem mem_misplacedFrom {localized names : List Text} :
    m ∈ misplacedFrom localized 0 names ↔
      names[m.expected]? = some m.name ∧ localized[m.expected]? ≠ some m.name
        ∧ m.actual = (localized.idxOf? m.name).getD m.expected := by
  rw [misplacedFrom_eq, List.mem_filterMap]
  constructor
  · rintro ⟨⟨name, place⟩, hmem, hentry⟩
    obtain ⟨rfl, rfl, hne, hactual⟩ := misplacedAt?_eq_some_iff.1 hentry
    exact ⟨List.mem_zipIdx_iff_getElem?.1 hmem, hne, hactual⟩
  · rintro ⟨hname, hne, hactual⟩
    refine ⟨(m.name, m.expected), List.mem_zipIdx_iff_getElem?.2 hname, ?_⟩
    exact misplacedAt?_eq_some_iff.2 ⟨rfl, rfl, hne, hactual⟩

theorem pairwise_misplacedFrom (localized : List Text) (place : Nat) (names : List Text) :
    (misplacedFrom localized place names).Pairwise (·.expected < ·.expected) := by
  have hplaces : (names.zipIdx place).Pairwise (·.2 < ·.2) := by
    rw [← List.pairwise_map, List.zipIdx_map_snd]
    exact List.pairwise_lt_range'
  rw [misplacedFrom_eq, List.pairwise_filterMap]
  refine hplaces.imp fun {first second} hlt m hm m' hm' => ?_
  rw [(misplacedAt?_eq_some_iff.1 hm).2.1, (misplacedAt?_eq_some_iff.1 hm').2.1]
  exact hlt

/-! ### Entries of a comparison -/

def SameNames (a b : List Text) : Prop := ∀ name, name ∈ a ↔ name ∈ b

theorem SameNames.symm (h : SameNames a b) : SameNames b a := fun name => (h name).symm

theorem sameNames_iff : SameNames a b ↔ without a b = [] ∧ without b a = [] := by
  rw [without_eq_nil_iff, without_eq_nil_iff]
  exact ⟨fun h => ⟨fun name => (h name).1, fun name => (h name).2⟩,
    fun h name => ⟨h.1 name, h.2 name⟩⟩

theorem SameNames.length_eq (h : SameNames a b) (ha : a.Nodup) (hb : b.Nodup) :
    a.length = b.length :=
  ((List.perm_ext_iff_of_nodup ha hb).2 h).length_eq

theorem mem_misplaced_iff :
    m ∈ (compare a b).misplaced ↔ SameNames a b ∧ m ∈ misplacedFrom b 0 a := by
  rw [sameNames_iff]
  by_cases h : without a b = [] ∧ without b a = []
  · rw [compare, if_pos h, and_iff_right h]
  · rw [compare, if_neg h]
    exact ⟨fun hm => absurd hm List.not_mem_nil, fun hm => absurd hm.1 h⟩

theorem pairwise_misplaced (a b : List Text) :
    (compare a b).misplaced.Pairwise (·.expected < ·.expected) := by
  rw [compare]
  split
  · exact pairwise_misplacedFrom b 0 a
  · exact .nil

theorem idxOf?_eq_some_iff_of_nodup (ha : a.Nodup) {name : Text} {place : Nat} :
    a.idxOf? name = some place ↔ a[place]? = some name := by
  rw [List.idxOf?_eq_some_iff, List.getElem?_eq_some_iff]
  refine ⟨fun ⟨hlt, hname, _⟩ => ⟨hlt, hname⟩, fun ⟨hlt, hname⟩ => ⟨hlt, hname, ?_⟩⟩
  intro other hother heq
  have hsame : a[place] = a[other] := hname.trans heq.symm
  exact Nat.ne_of_gt hother (ha.getElem_inj_iff.1 hsame)

theorem eq_of_getElem?_eq_some (ha : a.Nodup) {name : Text} {i j : Nat} (hi : a[i]? = some name)
    (hj : a[j]? = some name) : i = j :=
  (List.getElem?_inj (List.getElem?_eq_some_iff.1 hi).1 ha).1 (hi.trans hj.symm)

/-- **An entry is a name with a different place in each of the two lists.** -/
theorem mem_misplaced_compare (hb : b.Nodup) :
    m ∈ (compare a b).misplaced ↔ SameNames a b
      ∧ a[m.expected]? = some m.name ∧ b[m.actual]? = some m.name ∧ m.expected ≠ m.actual := by
  rw [mem_misplaced_iff, and_congr_right_iff]
  intro hsame
  rw [mem_misplacedFrom]
  refine and_congr_right fun hexpected => ?_
  -- The name has a place in the second list, so looking for it never falls back.
  have hmem : m.name ∈ b := (hsame m.name).1 (List.mem_of_getElem? hexpected)
  obtain ⟨place, hplace⟩ := Option.isSome_iff_exists.1 (List.isSome_idxOf?.2 hmem)
  have hname := (idxOf?_eq_some_iff_of_nodup hb).1 hplace
  rw [hplace, Option.getD_some]
  constructor
  · rintro ⟨hne, rfl⟩
    refine ⟨hname, fun heq => hne ?_⟩
    rw [heq]
    exact hname
  · rintro ⟨hactual, hne⟩
    have hsameplace := eq_of_getElem?_eq_some hb hactual hname
    exact ⟨fun hstays => hne (eq_of_getElem?_eq_some hb hstays hactual), hsameplace⟩

/-- **Where a name has moved to, another one has moved away.** -/
theorem exists_expected_eq_actual (ha : a.Nodup) (hb : b.Nodup)
    (h : m ∈ (compare a b).misplaced) :
    ∃ m' ∈ (compare a b).misplaced, m'.expected = m.actual := by
  obtain ⟨hsame, hexpected, hactual, hne⟩ := (mem_misplaced_compare hb).1 h
  have hlt : m.actual < a.length := by
    rw [hsame.length_eq ha hb]
    exact (List.getElem?_eq_some_iff.1 hactual).1
  have hother : a[m.actual]? = some a[m.actual] := List.getElem?_eq_getElem hlt
  obtain ⟨place, hplace⟩ := List.getElem?_of_mem ((hsame _).1 (List.getElem_mem hlt))
  refine ⟨⟨a[m.actual], m.actual, place⟩, (mem_misplaced_compare hb).2 ⟨hsame, hother, hplace, ?_⟩,
    rfl⟩
  -- If the name there stood still, it would be the name that has moved there.
  intro hstill
  have hmoved : b[m.actual]? = some a[m.actual] := (congrArg (b[·]?) hstill).trans hplace
  rw [← hmoved, hactual] at hother
  exact hne (eq_of_getElem?_eq_some ha hexpected hother)

/-! ### The other way round -/

def Misplaced.swap (m : Misplaced) : Misplaced := ⟨m.name, m.actual, m.expected⟩

theorem Misplaced.swap_swap (m : Misplaced) : m.swap.swap = m := rfl

theorem Misplaced.swap_injective : Function.Injective Misplaced.swap :=
  Function.LeftInverse.injective Misplaced.swap_swap

theorem nodup_misplaced (a b : List Text) : (compare a b).misplaced.Nodup :=
  (pairwise_misplaced a b).imp fun hlt heq => Nat.ne_of_lt hlt (congrArg _ heq)

theorem mem_misplaced_swap (ha : a.Nodup) (hb : b.Nodup) :
    m.swap ∈ (compare b a).misplaced ↔ m ∈ (compare a b).misplaced := by
  rw [mem_misplaced_compare ha, mem_misplaced_compare hb]
  exact ⟨fun ⟨hsame, hactual, hexpected, hne⟩ => ⟨hsame.symm, hexpected, hactual, hne.symm⟩,
    fun ⟨hsame, hexpected, hactual, hne⟩ => ⟨hsame.symm, hactual, hexpected, hne.symm⟩⟩

theorem perm_misplaced_swap (ha : a.Nodup) (hb : b.Nodup) :
    (compare b a).misplaced.Perm ((compare a b).misplaced.map Misplaced.swap) := by
  refine (List.perm_ext_iff_of_nodup (nodup_misplaced b a)
    ((nodup_misplaced a b).map Misplaced.swap_injective)).2 fun m => ?_
  rw [← Misplaced.swap_swap m, List.mem_map_of_injective Misplaced.swap_injective,
    mem_misplaced_swap ha hb]

/-- No name moves alone. -/
theorem length_misplaced_ne_one (ha : a.Nodup) (hb : b.Nodup) :
    (compare a b).misplaced.length ≠ 1 := by
  intro hone
  obtain ⟨m, hm⟩ := List.length_eq_one_iff.1 hone
  have hmem : m ∈ (compare a b).misplaced := hm ▸ List.mem_singleton.2 rfl
  obtain ⟨m', hmem', hplace⟩ := exists_expected_eq_actual ha hb hmem
  rw [hm, List.mem_singleton] at hmem'
  rw [hmem'] at hplace
  exact ((mem_misplaced_compare hb).1 hmem).2.2.2 hplace

/-- **Comparing the other way round exchanges what is missing with what is extra, and the two places
of every misplaced name.**  A misplaced entry gives the place of its name in each of the two lists;
the entries are in the order of the places in the first one; no name moves alone; and lists with the
same names are equal if none has moved. -/
theorem compare_swap (ha : a.Nodup) (hb : b.Nodup) :
    (compare b a).missing = (compare a b).extra
      ∧ (compare b a).extra = (compare a b).missing
      ∧ (compare b a).misplaced.Perm ((compare a b).misplaced.map Misplaced.swap)
      ∧ (∀ m ∈ (compare a b).misplaced, a[m.expected]? = some m.name
          ∧ b[m.actual]? = some m.name ∧ m.expected ≠ m.actual)
      ∧ (compare a b).misplaced.Pairwise (·.expected < ·.expected)
      ∧ (compare a b).misplaced.length ≠ 1
      ∧ ((∀ name, name ∈ a ↔ name ∈ b) → ((compare a b).misplaced = [] ↔ a = b)) := by
  refine ⟨rfl, rfl, perm_misplaced_swap ha hb, fun m hm => ((mem_misplaced_compare hb).1 hm).2,
    pairwise_misplaced a b, length_misplaced_ne_one ha hb, fun hsame => ?_⟩
  have hnone := sameNames_iff.1 hsame
  rw [← isMatch_compare_iff hb]
  simp [compare, Comparison.isMatch, hnone]

/-- Three names, and the same with the first one moved to the end. -/
def threeNames : List Text := ["id", "time", "user"]

def rotatedNames : List Text := ["time", "user", "id"]

theorem compare_swap_rotated :
    threeNames.Nodup ∧ rotatedNames.Nodup
      ∧ (compare threeNames rotatedNames).misplaced
        = [⟨"id", 0, 2⟩, ⟨"time", 1, 0⟩, ⟨"user", 2, 1⟩]
      ∧ (compare rotatedNames threeNames).misplaced.Perm
        [⟨"id", 2, 0⟩, ⟨"time", 0, 1⟩, ⟨"user", 1, 2⟩] := by
  have hthree : threeNames.Nodup := by decide
  have hrotated : rotatedNames.Nodup := by decide
  have hentries : (compare threeNames rotatedNames).misplaced
      = [⟨"id", 0, 2⟩, ⟨"time", 1, 0⟩, ⟨"user", 2, 1⟩] := by decide
  obtain ⟨-, -, hswapped, -⟩ := compare_swap hthree hrotated
  rw [hentries] at hswapped
  exact ⟨hthree, hrotated, hentries, hswapped⟩

end LogCatalog.Template
