import Mathlib
import CodeFrame.Proofs.Splitting
import CodeFrame.Span

/-!
# Positions in order

What the positions of a text are, place by place and all at once. A place has the position that counting gives
(`LineTable.position_by_counting`): the newlines before it, and its distance from the start of its line, which is the
last start of a line up to the place (`Text.isGreatest_lastStart`).

All together, the places of a text and the positions of its table (`LineTable.cells`) are the same in number and order
(`LineTable.positions_in_order`), if positions are ordered as they are read (`Position.key`). A place has a position of
the table because it cuts the text there (`LineTable.cut_mem_cells`), and every position of the table is that of a cut:
the one at the start of its line, moved on by the column (`LineTable.exists_cut_of_mem_cells`).
-/

namespace CodeFrame

open Text

/-! ## Counting -/

namespace Text

/-- A line of the text starts at its beginning and just after each of its newlines. -/
def StartsLine (t : Text) (i : Nat) : Prop := i = 0 ∨ ∃ j, t[j]? = some '\n' ∧ i = j + 1

theorem startsLine_concat {t : Text} {c : Char} {i : Nat} :
    StartsLine (t ++ [c]) i ↔ t.StartsLine i ∨ c = '\n' ∧ i = t.length + 1 := by
  constructor
  · rintro (rfl | ⟨j, hj, rfl⟩)
    · exact Or.inl (Or.inl rfl)
    · by_cases hlt : j < t.length
      · rw [List.getElem?_append_left hlt] at hj
        exact Or.inl (Or.inr ⟨j, hj, rfl⟩)
      · rw [List.getElem?_append_right (by omega), List.getElem?_singleton] at hj
        split at hj
        · simp only [Option.some.injEq] at hj
          exact Or.inr ⟨hj, by omega⟩
        · cases hj
  · rintro ((rfl | ⟨j, hj, rfl⟩) | ⟨rfl, rfl⟩)
    · exact Or.inl rfl
    · refine Or.inr ⟨j, ?_, rfl⟩
      rw [List.getElem?_append_left (List.getElem?_eq_some_iff.1 hj).1]
      exact hj
    · exact Or.inr ⟨t.length, List.getElem?_concat_length, rfl⟩

/-- The last line of a text starts where no other line starts after it. -/
theorem isGreatest_lastStart (t : Text) : IsGreatest {i | t.StartsLine i} t.lastStart := by
  induction t using List.reverseRecOn with
  | nil =>
    refine ⟨Or.inl rfl, ?_⟩
    rintro i (rfl | ⟨j, hj, -⟩)
    · exact Nat.le_refl _
    · cases hj
  | append_singleton t c ih =>
    obtain ⟨hstarts, hgreatest⟩ := ih
    have hle := lastStart_le t
    rw [lastStart_concat]
    by_cases hc : c = '\n'
    · rw [if_pos hc]
      refine ⟨startsLine_concat.2 (Or.inr ⟨hc, rfl⟩), ?_⟩
      intro i hi
      obtain hi | ⟨-, rfl⟩ := startsLine_concat.1 hi
      · have := hgreatest hi
        omega
      · exact Nat.le_refl _
    · rw [if_neg hc]
      refine ⟨startsLine_concat.2 (Or.inl hstarts), ?_⟩
      intro i hi
      obtain hi | ⟨hc', -⟩ := startsLine_concat.1 hi
      · exact hgreatest hi
      · exact absurd hc' hc

end Text

/-- Positions are ordered as they are read: by their lines, and on one line by their columns. -/
def Position.key (p : Position) : Int ×ₗ Int := toLex (p.line, p.column)

namespace LineTable

theorem lineCount_ofText (S : Text) : (ofText S).lineCount = S.count '\n' + 1 := length_lineStarts S

/-- **The line table agrees with counting.** An offset, or the end of the text that is nearer to it, lies on the line with
the number of the newlines before it, and its column is its distance from the last of them, or from the beginning of the
text if there is none. The line is found, and is one of the lines of the table, which are the newlines and one more. -/
theorem position_by_counting (S : Text) (offset : Int) :
    let t := ofText S
    let p := (max 0 (min offset S.length)).toNat
    let before : Text := S.take p
    (∃ start, IsGreatest {i | before.StartsLine i} start ∧ t.Finds p (before.count '\n') start ∧
      t.position offset = ⟨before.count '\n', (p : Int) - start⟩) ∧
      (t.position offset).line < t.lineCount ∧ t.lineCount = S.count '\n' + 1 := by
  intro t p before
  have hp : t.clamp offset = p := clamp_eq S offset
  have hle : p ≤ S.length := hp ▸ clamp_le S offset
  have hstart : before.lastStart ≤ p := lastStart_take_le S p
  have hposition : t.position offset = ⟨before.count '\n', (p : Int) - before.lastStart⟩ := by
    rw [← Int.natCast_sub hstart, ← position_clamp, hp, position_ofText, clamp_of_le hle]
  refine ⟨⟨before.lastStart, isGreatest_lastStart before, finds_ofText hle, hposition⟩, ?_, lineCount_ofText S⟩
  have hcount : before.count '\n' ≤ S.count '\n' := (List.take_sublist p S).count_le _
  have hlines : t.lineCount = S.count '\n' + 1 := lineCount_ofText S
  rw [hposition]
  dsimp only
  omega

/-! ## Cells -/

/-- The positions that a table has: a line, and a column up to the end of this line. -/
def cells (t : LineTable) : Set Position :=
  {p | ∃ l c : Nat, p = ⟨l, c⟩ ∧ l < t.lineCount ∧
    ∃ entry, (t.source.splitOn '\n')[l]? = some entry ∧ c ≤ entry.length}

/-- The place at a position: the start of the line, moved on by the column. -/
def placeOf (t : LineTable) (p : Position) : Int := t.startOf p.line.toNat + p.column

section Cells

variable {S s t : Text} (hS : s ++ t = S)
include hS

/-- The position of a cut is one of the table. -/
theorem cut_mem_cells : ⟨s.count '\n', s.lastLine.length⟩ ∈ (ofText S).cells := by
  subst hS
  refine ⟨_, _, rfl, ?_, _, getElem?_splitOn_append s t, (List.prefix_append _ _).length_le⟩
  rw [lineCount_ofText, List.count_append]
  omega

theorem placeOf_cut : (ofText S).placeOf ⟨s.count '\n', s.lastLine.length⟩ = s.length := by
  subst hS
  have hlength := s.lastStart_add_length_lastLine
  unfold placeOf
  dsimp only
  rw [Int.toNat_natCast, startOf_append]
  omega

end Cells

section Order

variable {S : Text}

theorem exists_cut_of_mem_cells {p : Position} (hp : p ∈ (ofText S).cells) :
    ∃ s t : Text, s ++ t = S ∧ p = ⟨s.count '\n', s.lastLine.length⟩ := by
  obtain ⟨l, c, rfl, hl, entry, hentry, hc⟩ := hp
  rw [lineCount_ofText] at hl
  obtain ⟨s, t, rfl, rfl, hlast⟩ := exists_cut_count S (Nat.le_of_lt_succ hl)
  rw [source_ofText, getElem?_splitOn_append, hlast, List.nil_append, Option.some.injEq] at hentry
  subst hentry
  -- on the way to the column there is no newline, for the line is not left
  have hn : '\n' ∉ t.take c := fun h => t.newline_notMem_firstLine ((take_prefix_firstLine hc).subset h)
  have hlength : (t.take c).length = c :=
    List.length_take_of_le (Nat.le_trans hc t.firstLine_prefix_self.length_le)
  refine ⟨s ++ t.take c, t.drop c, ?_, ?_⟩
  · rw [List.append_assoc, List.take_append_drop]
  · rw [List.count_append, List.count_eq_zero.2 hn, Nat.add_zero, lastLine_append hlast, lastLine_eq_self hn, hlength]

theorem position_mem_cells (S : Text) (offset : Int) : (ofText S).position offset ∈ (ofText S).cells := by
  obtain ⟨s, t, hcut, -, hposition, -⟩ := exists_cut_clamp S offset
  rw [hposition]
  exact cut_mem_cells hcut

theorem placeOf_position {place : Int} (h : place ∈ Set.Icc (0 : Int) S.length) :
    (ofText S).placeOf ((ofText S).position place) = place := by
  obtain ⟨hlo, hhi⟩ := h
  obtain ⟨s, t, hcut, hlength, hposition, -⟩ := exists_cut_clamp S place
  rw [clamp_eq] at hlength
  rw [hposition, placeOf_cut hcut, hlength]
  omega

theorem placeOf_mem_places {p : Position} (hp : p ∈ (ofText S).cells) :
    (ofText S).placeOf p ∈ Set.Icc (0 : Int) S.length := by
  obtain ⟨s, t, hcut, rfl⟩ := exists_cut_of_mem_cells hp
  have hlength : s.length + t.length = S.length := by rw [← hcut, List.length_append]
  rw [placeOf_cut hcut]
  exact ⟨by omega, by omega⟩

theorem position_placeOf {p : Position} (hp : p ∈ (ofText S).cells) :
    (ofText S).position ((ofText S).placeOf p) = p := by
  obtain ⟨s, t, hcut, rfl⟩ := exists_cut_of_mem_cells hp
  rw [placeOf_cut hcut, position_cut hcut rfl]

/-! ## Order -/

/-- Of two places, the later one stands on a later line, or on the same line in a later column. -/
theorem key_lt_key {i j : Nat} (hij : i < j) (hj : j ≤ S.length) :
    ((ofText S).position i).key < ((ofText S).position j).key := by
  have hcount : (S.take i).count '\n' ≤ (S.take j).count '\n' :=
    (List.take_sublist_take_left (Nat.le_of_lt hij)).count_le _
  have hstart := lastStart_take_le S i
  rw [position_ofText, position_ofText, clamp_of_le (by omega), clamp_of_le hj]
  apply Prod.Lex.toLex_lt_toLex.2
  dsimp only
  by_cases hn : '\n' ∈ (S.take j).drop i
  · left
    have hne : (S.take i).count '\n' ≠ (S.take j).count '\n' :=
      fun h => (count_take_eq_iff (Nat.le_of_lt hij)).1 h hn
    omega
  · right
    have hsame := (count_take_eq_iff (Nat.le_of_lt hij)).2 hn
    rw [lastStart_take_eq (Nat.le_of_lt hij) hn]
    omega

theorem strictMonoOn_key (S : Text) :
    StrictMonoOn (fun place => ((ofText S).position place).key) (Set.Icc (0 : Int) S.length) := by
  rintro i ⟨hi, -⟩ j ⟨-, hj⟩ hij
  obtain ⟨i, rfl⟩ := Int.eq_ofNat_of_zero_le hi
  obtain ⟨j, rfl⟩ := Int.eq_ofNat_of_zero_le (hi.trans hij.le)
  exact key_lt_key (Int.ofNat_lt.1 hij) (Int.ofNat_le.1 hj)

/-- Offsets outside the text have the position of one of its ends, and so they come first or last. -/
theorem monotone_key (S : Text) : Monotone fun offset => ((ofText S).position offset).key := by
  intro i j hij
  have hmem : ∀ offset, ((ofText S).clamp offset : Int) ∈ Set.Icc (0 : Int) S.length := fun offset =>
    ⟨Int.natCast_nonneg _, Int.ofNat_le.2 (clamp_le S offset)⟩
  have hclamp : ((ofText S).clamp i : Int) ≤ (ofText S).clamp j := by
    rw [clamp_eq, clamp_eq]
    omega
  have h := (strictMonoOn_key S).monotoneOn (hmem i) (hmem j) hclamp
  rwa [position_clamp, position_clamp] at h

end Order

/-- **Places and positions correspond, in order.** The positions of the places of a text are strictly increasing, are the
positions of its table, each of them once, and lead back to the places. Over all offsets the positions are increasing, and
so no span ends before it starts. -/
theorem positions_in_order (S : Text) :
    let t := ofText S
    let places := Set.Icc (0 : Int) S.length
    StrictMonoOn (fun place => (t.position place).key) places ∧
      Set.BijOn t.position places t.cells ∧ Set.InvOn t.placeOf t.position places t.cells ∧
      Monotone (fun offset => (t.position offset).key) ∧
      ∀ s : Span, (t.position s.start).key ≤ (t.position s.stop).key := by
  intro t places
  have hinv : Set.InvOn t.placeOf t.position places t.cells := by
    constructor
    · intro place hplace
      exact placeOf_position hplace
    · intro p hp
      exact position_placeOf hp
  have hbij : Set.BijOn t.position places t.cells := by
    apply hinv.bijOn
    · intro place _
      exact position_mem_cells S place
    · intro p hp
      exact placeOf_mem_places hp
  refine ⟨strictMonoOn_key S, hbij, hinv, monotone_key S, ?_⟩
  intro s
  exact monotone_key S (Int.ofNat_le.2 s.start_le_stop)

end LineTable

end CodeFrame
