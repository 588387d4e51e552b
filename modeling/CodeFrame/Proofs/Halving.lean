import CodeFrame.Halving
import Mathlib.Data.Nat.Log

/-!
# What a halving search finds

A search goes by turns (`Halving.Turn`): the midpoint is read, and one of the ends closes in on it.

- Every turn halves what is left to search, on any array, so the turns are counted by a logarithm
  (`Turns.add_halvings_le`). This rests on the midpoint being rounded up: the lower of two neighbours is no midpoint.
- Ends that enclose the key enclose it after a turn as well (`Encloses.turn`). They have a next turn until they meet
  (`Encloses.met_or_turn`), and where they meet, the search has its answer, an index that holds the key
  (`Encloses.exists_answer`).
- In an increasing array only one index holds the key, for it divides the array (`Holds.divides`): the entries at most
  the key are those up to it (`Divides`). So the answer does not depend on the turns (`search_of_increasing`,
  `last?_eq_some`).
-/

namespace CodeFrame.Halving

/-- The entries at most `key` are exactly those up to index `k`. -/
def Divides (a : Array Nat) (key k : Nat) : Prop := ∀ j v, a[j]? = some v → (v ≤ key ↔ j ≤ k)

/-- The entry at an index is at most the key, and it is the last one, or the next one is above the key. -/
def Holds (a : Array Nat) (key i : Nat) : Prop :=
  (∃ v, a[i]? = some v ∧ v ≤ key) ∧ (i + 1 = a.size ∨ ∃ v, a[i + 1]? = some v ∧ key < v)

/-- The ends of a search. -/
structure Ends where
  left : Nat
  right : Nat

namespace Ends

/-- The ends of a search that begins. -/
def whole (a : Array Nat) : Ends := ⟨0, a.size - 1⟩

/-- The midpoint, rounded up. -/
def middle (e : Ends) : Nat := (e.left + e.right + 1) / 2

/-- How often the entries between the ends can be halved. -/
def halvings (e : Ends) : Nat := Nat.clog 2 (e.right + 1 - e.left)

theorem halvings_whole {a : Array Nat} (h : 0 < a.size) : (whole a).halvings = Nat.clog 2 a.size := by
  unfold halvings whole
  dsimp only
  rw [Nat.sub_zero, Nat.sub_add_cancel h]

end Ends

/-! ## Turns -/

/-- One turn of a search: the entry at the midpoint is read, and the left end moves there, or the right end below it. -/
inductive Turn (a : Array Nat) (key : Nat) : Ends → Ends → Prop
  | rise {e : Ends} {v : Nat} : e.left < e.right → a[e.middle]? = some v → v ≤ key → Turn a key e ⟨e.middle, e.right⟩
  | fall {e : Ends} {v : Nat} : e.left < e.right → a[e.middle]? = some v → key < v → Turn a key e ⟨e.left, e.middle - 1⟩

/-- So many turns, one after the other. -/
inductive Turns (a : Array Nat) (key : Nat) : Nat → Ends → Ends → Prop
  | nil (e : Ends) : Turns a key 0 e e
  | snoc {n : Nat} {d e f : Ends} : Turns a key n d e → Turn a key e f → Turns a key (n + 1) d f

variable {a : Array Nat} {key : Nat}

/-- A turn is made between ends that are apart, and leaves at most half of the entries, rounded up. -/
theorem Turn.half {e f : Ends} (h : Turn a key e f) :
    e.left < e.right ∧ f.right + 1 - f.left ≤ (e.right + 1 - e.left + 1) / 2 := by
  cases h with
  | rise hlt hread hle =>
    refine ⟨hlt, ?_⟩
    unfold Ends.middle
    dsimp only
    omega
  | fall hlt hread hgt =>
    refine ⟨hlt, ?_⟩
    unfold Ends.middle
    dsimp only
    omega

/-- A turn uses up a halving. -/
theorem Turn.halvings_lt {e f : Ends} (h : Turn a key e f) : f.halvings < e.halvings := by
  obtain ⟨hlt, hhalf⟩ := h.half
  have htwo : 2 ≤ e.right + 1 - e.left := by omega
  calc f.halvings ≤ Nat.clog 2 ((e.right + 1 - e.left + 1) / 2) := Nat.clog_mono_right 2 hhalf
    _ < Nat.clog 2 ((e.right + 1 - e.left + 1) / 2) + 1 := Nat.lt_succ_self _
    _ = e.halvings := (Nat.clog_of_two_le Nat.one_lt_two htwo).symm

/-- There are no more turns than halvings. -/
theorem Turns.add_halvings_le {n : Nat} {d e : Ends} (h : Turns a key n d e) : n + e.halvings ≤ d.halvings := by
  induction h with
  | nil e => exact Nat.le_of_eq (Nat.zero_add _)
  | snoc _ hturn ih =>
    have := hturn.halvings_lt
    omega

/-- The search between two ends goes on between those after a turn. -/
theorem Turn.between?_eq {e f : Ends} (h : Turn a key e f) :
    between? a key e.left e.right = between? a key f.left f.right := by
  cases h with
  | rise hlt hread hle =>
    unfold Ends.middle at hread
    rw [between?.eq_def a key e.left, if_pos hlt, hread]
    exact if_pos hle
  | fall hlt hread hgt =>
    unfold Ends.middle at hread
    rw [between?.eq_def a key e.left, if_pos hlt, hread]
    exact if_neg (Nat.not_le.2 hgt)

theorem Turns.between?_eq {n : Nat} {d e : Ends} (h : Turns a key n d e) :
    between? a key d.left d.right = between? a key e.left e.right := by
  induction h with
  | nil e => rfl
  | snoc _ hturn ih => exact ih.trans hturn.between?_eq

theorem between?_self (a : Array Nat) (key i : Nat) : between? a key i i = some i := by
  rw [between?.eq_def, if_neg (Nat.lt_irrefl i)]

/-! ## Enclosed keys -/

/-- The left entry is at most the key, and the right one is the last, or the next one is above the key. -/
structure Encloses (a : Array Nat) (key : Nat) (e : Ends) : Prop where
  left_le_right : e.left ≤ e.right
  left_le_key : ∃ v, a[e.left]? = some v ∧ v ≤ key
  key_lt_next : e.right + 1 = a.size ∨ ∃ v, a[e.right + 1]? = some v ∧ key < v

theorem encloses_self_iff {i : Nat} : Encloses a key ⟨i, i⟩ ↔ Holds a key i :=
  ⟨fun h => ⟨h.left_le_key, h.key_lt_next⟩, fun h => ⟨Nat.le_refl i, h.1, h.2⟩⟩

theorem encloses_whole {v : Nat} (hfirst : a[0]? = some v) (hv : v ≤ key) : Encloses a key (Ends.whole a) := by
  have hsize : 0 < a.size := (Array.getElem?_eq_some_iff.1 hfirst).1
  exact ⟨Nat.zero_le _, ⟨v, hfirst, hv⟩, Or.inl (Nat.sub_add_cancel hsize)⟩

namespace Encloses

variable {e f : Ends} (h : Encloses a key e)
include h

/-- The midpoint lies in the array. -/
theorem middle_lt : e.middle < a.size := by
  have hle := h.left_le_right
  have hright : e.right < a.size := by
    obtain hlast | ⟨v, hv, -⟩ := h.key_lt_next
    · omega
    · have := (Array.getElem?_eq_some_iff.1 hv).1
      omega
  unfold Ends.middle
  omega

/-- A turn keeps the key enclosed. -/
theorem turn (ht : Turn a key e f) : Encloses a key f := by
  cases ht with
  | rise hlt hread hle =>
    refine ⟨?_, ⟨_, hread, hle⟩, h.key_lt_next⟩
    unfold Ends.middle
    dsimp only
    omega
  | fall hlt hread hgt =>
    have hmiddle : e.left + 1 ≤ e.middle := by
      unfold Ends.middle
      omega
    refine ⟨Nat.le_sub_one_of_lt hmiddle, h.left_le_key, Or.inr ⟨_, ?_, hgt⟩⟩
    dsimp only
    rwa [Nat.sub_add_cancel (by omega)]

theorem turns {n : Nat} (ht : Turns a key n e f) : Encloses a key f := by
  induction ht with
  | nil e => exact h
  | snoc _ hturn ih => exact (ih h).turn hturn

/-- The ends have met, or there is a next turn. -/
theorem met_or_turn : (∃ i, e = ⟨i, i⟩) ∨ ∃ f, Turn a key e f := by
  obtain hlt | heq := Nat.lt_or_eq_of_le h.left_le_right
  · right
    obtain ⟨v, hread⟩ : ∃ v, a[e.middle]? = some v := ⟨_, Array.getElem?_eq_getElem h.middle_lt⟩
    obtain hgt | hle := Nat.lt_or_ge key v
    · exact ⟨_, .fall hlt hread hgt⟩
    · exact ⟨_, .rise hlt hread hle⟩
  · obtain ⟨left, right⟩ := e
    obtain rfl : left = right := heq
    exact Or.inl ⟨left, rfl⟩

/-- The search between ends that enclose the key has an answer, and this index holds the key. -/
theorem exists_answer : ∃ i, between? a key e.left e.right = some i ∧ Holds a key i := by
  induction hn : e.halvings using Nat.strong_induction_on generalizing e with
  | h n ih =>
    obtain ⟨i, rfl⟩ | ⟨f, hf⟩ := h.met_or_turn
    · exact ⟨i, between?_self a key i, encloses_self_iff.1 h⟩
    · rw [hf.between?_eq]
      exact ih f.halvings (hn ▸ hf.halvings_lt) (h.turn hf) rfl

end Encloses

/-! ## The index that holds the key -/

theorem getElem?_le_of_pairwise (ha : a.toList.Pairwise (· < ·)) {j k v w : Nat} (hjk : j ≤ k)
    (hv : a[j]? = some v) (hw : a[k]? = some w) : v ≤ w := by
  obtain ⟨hj, rfl⟩ := Array.getElem?_eq_some_iff.1 hv
  obtain ⟨hk, rfl⟩ := Array.getElem?_eq_some_iff.1 hw
  obtain hlt | rfl := Nat.lt_or_eq_of_le hjk
  · exact Nat.le_of_lt (List.pairwise_iff_getElem.1 ha j k hj hk hlt)
  · exact Nat.le_refl _

/-- In an increasing array, an index that holds the key divides the array. -/
theorem Holds.divides (ha : a.toList.Pairwise (· < ·)) {i : Nat} (h : Holds a key i) : Divides a key i := by
  obtain ⟨⟨v, hv, hle⟩, hnext⟩ := h
  intro j w hw
  constructor
  · intro hkey
    by_contra hlt
    -- the entry behind the index is above the key, and this one is not before it
    obtain hlast | ⟨u, hu, hgt⟩ := hnext
    · have := (Array.getElem?_eq_some_iff.1 hw).1
      omega
    · have := getElem?_le_of_pairwise ha (Nat.lt_of_not_le hlt) hu hw
      omega
  · intro hji
    exact Nat.le_trans (getElem?_le_of_pairwise ha hji hw hv) hle

/-- No other index holds the key than the one that divides the array. -/
theorem Divides.eq_of_holds {i k : Nat} (hk : Divides a key k) (hs : k < a.size) (hi : Holds a key i) : i = k := by
  obtain ⟨⟨v, hv, hle⟩, hnext⟩ := hi
  have hik : i ≤ k := (hk i v hv).1 hle
  obtain hlast | ⟨u, hu, hkey⟩ := hnext
  · omega
  · have hki : ¬ i + 1 ≤ k := fun h => Nat.not_le.2 hkey ((hk _ u hu).2 h)
    omega

/-- The search over a whole array finds the index that divides it. -/
theorem last?_eq_some {k : Nat} (hk : Divides a key k) (hs : k < a.size) : last? a key = some k := by
  have hfirst := Array.getElem?_eq_getElem (Nat.zero_lt_of_lt hs)
  have hwhole := encloses_whole hfirst ((hk _ _ hfirst).2 (Nat.zero_le k))
  obtain ⟨i, hi, hholds⟩ := hwhole.exists_answer
  rw [← hk.eq_of_holds hs hholds]
  exact hi

/-- **The search of an increasing array.** If the first entry is zero, one index holds the key, and the search finds it.
On its way there it reads inside the array only, has a next turn until both ends stand at this index, and takes no more
turns than the array can be halved. -/
theorem search_of_increasing (hzero : a[0]? = some 0) (ha : a.toList.Pairwise (· < ·)) (key : Nat) :
    ∃ i, last? a key = some i ∧ (∀ j, Holds a key j ↔ j = i) ∧
      ∀ n e, Turns a key n (Ends.whole a) e →
        n ≤ Nat.clog 2 a.size ∧ e.middle < a.size ∧ between? a key e.left e.right = some i ∧
          (e = ⟨i, i⟩ ∨ ∃ f, Turn a key e f) := by
  have hsize : 0 < a.size := (Array.getElem?_eq_some_iff.1 hzero).1
  have hwhole : Encloses a key (Ends.whole a) := encloses_whole hzero (Nat.zero_le key)
  obtain ⟨i, hanswer, hi⟩ := hwhole.exists_answer
  have hlt : i < a.size := by
    obtain ⟨⟨v, hv, -⟩, -⟩ := hi
    exact (Array.getElem?_eq_some_iff.1 hv).1
  refine ⟨i, hanswer, fun j => ⟨(hi.divides ha).eq_of_holds hlt, fun h => h ▸ hi⟩, ?_⟩
  intro n e hturns
  have hencloses : Encloses a key e := hwhole.turns hturns
  have hgoes : between? a key e.left e.right = some i := hturns.between?_eq.symm.trans hanswer
  refine ⟨?_, hencloses.middle_lt, hgoes, ?_⟩
  · have hcount := hturns.add_halvings_le
    rw [Ends.halvings_whole hsize] at hcount
    omega
  · obtain ⟨k, rfl⟩ | hnext := hencloses.met_or_turn
    · have hk : k = i := Option.some.inj ((between?_self a key k).symm.trans hgoes)
      exact Or.inl (by rw [hk])
    · exact Or.inr hnext

/-- The last of three turns is between neighbours, of which the upper one is the midpoint. -/
theorem search_between_neighbours :
    let a : Array Nat := #[0, 3, 4, 9, 11]
    a[0]? = some 0 ∧ a.toList.Pairwise (· < ·) ∧ last? a 10 = some 3 ∧ Turns a 10 3 (Ends.whole a) ⟨3, 3⟩ ∧
      ∀ n e, Turns a 10 n (Ends.whole a) e → n ≤ 3 := by
  intro a
  have hzero : a[0]? = some 0 := rfl
  have ha : a.toList.Pairwise (· < ·) := by decide
  have hholds : Holds a 10 3 := ⟨⟨9, rfl, by decide⟩, Or.inr ⟨11, rfl, by decide⟩⟩
  have hlog : Nat.clog 2 a.size = 3 := by decide
  have hfirst : Turn a 10 ⟨0, 4⟩ ⟨2, 4⟩ := Turn.rise (e := ⟨0, 4⟩) (v := 4) (by decide) rfl (by decide)
  have hsecond : Turn a 10 ⟨2, 4⟩ ⟨3, 4⟩ := Turn.rise (e := ⟨2, 4⟩) (v := 9) (by decide) rfl (by decide)
  have hthird : Turn a 10 ⟨3, 4⟩ ⟨3, 3⟩ := Turn.fall (e := ⟨3, 4⟩) (v := 11) (by decide) rfl (by decide)
  obtain ⟨i, hi, hunique, hturns⟩ := search_of_increasing hzero ha 10
  obtain rfl : 3 = i := (hunique 3).1 hholds
  refine ⟨hzero, ha, hi, .snoc (.snoc (.snoc (.nil _) hfirst) hsecond) hthird, ?_⟩
  intro n e h
  rw [← hlog]
  exact (hturns n e h).1

end CodeFrame.Halving
