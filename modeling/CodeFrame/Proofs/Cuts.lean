import CodeFrame.Proofs.Lines

/-!
# Texts cut at a place

A place cuts its text in two. Its column is the length of what stands before it on its line (`Text.lastLine`), and the
line is this and what stands behind it up to the next newline (`Text.firstLine`). So the answers for the place are known
from the two parts (`LineTable.position_cut`, `LineTable.lineAt_cut`). Every offset is answered like the place nearest to
it (`LineTable.exists_cut_clamp`), and every line starts at a place (`Text.exists_cut_count`).
-/

namespace CodeFrame

namespace Text

/-! ## The first and the last line -/

/-- What stands in a text before its first newline. -/
def firstLine (t : Text) : Text := t.takeWhile (· ≠ '\n')

/-- What stands in a text behind its last newline. -/
def lastLine (t : Text) : Text := t.rtakeWhile (· ≠ '\n')

variable {s t : Text}

theorem lastLine_eq_reverse (t : Text) : t.lastLine = (firstLine t.reverse).reverse := rfl

theorem lastLine_concat (t : Text) (c : Char) :
    lastLine (t ++ [c]) = if c = '\n' then [] else t.lastLine ++ [c] := by
  unfold lastLine
  rw [List.rtakeWhile_concat]
  by_cases hc : c = '\n' <;> simp [hc]

theorem firstLine_cons (c : Char) (t : Text) :
    firstLine (c :: t) = if c = '\n' then [] else c :: t.firstLine := by
  unfold firstLine
  rw [List.takeWhile_cons]
  by_cases hc : c = '\n' <;> simp [hc]

/-- Text that begins with the end of a line adds nothing to the first line before it. -/
theorem firstLine_append (s : Text) (ht : t.firstLine = []) : firstLine (s ++ t) = s.firstLine := by
  induction s with
  | nil => exact ht
  | cons c s ih => rw [List.cons_append, firstLine_cons, firstLine_cons, ih]

/-- Text that ends with the end of a line adds nothing to the last line after it. -/
theorem lastLine_append (hs : s.lastLine = []) (t : Text) : lastLine (s ++ t) = t.lastLine := by
  have hs' : firstLine s.reverse = [] := List.reverse_eq_nil_iff.1 hs
  rw [lastLine_eq_reverse, List.reverse_append, firstLine_append _ hs', ← lastLine_eq_reverse]

theorem firstLine_eq_nil (h : t = [] ∨ t.head? = some '\n') : t.firstLine = [] := by
  rcases h with rfl | h
  · rfl
  · obtain ⟨rest, rfl⟩ := List.head?_eq_some_iff.1 h
    exact (firstLine_cons _ _).trans (if_pos rfl)

theorem lastLine_eq_nil (h : t = [] ∨ t.getLast? = some '\n') : t.lastLine = [] := by
  rcases h with rfl | h
  · rfl
  · obtain ⟨rest, rfl⟩ := List.getLast?_eq_some_iff.1 h
    exact (lastLine_concat _ _).trans (if_pos rfl)

/-- The last line reaches from the last start to the end. -/
theorem length_lastLine (t : Text) : t.lastLine.length = t.length - t.lastStart := by
  rw [lastLine, ← drop_lastStart, List.length_drop]

theorem lastStart_add_length_lastLine (t : Text) : t.lastStart + t.lastLine.length = t.length := by
  have hle := t.lastStart_le
  have hlen := t.length_lastLine
  omega

theorem drop_lastStart_append (s t : Text) : (s ++ t).drop s.lastStart = s.lastLine ++ t := by
  rw [List.drop_append_of_le_length s.lastStart_le, drop_lastStart, lastLine]

theorem firstLine_prefix_self (t : Text) : t.firstLine <+: t := List.takeWhile_prefix _

/-- The line at a cut stands in the text from the last start before the cut on. -/
theorem line_prefix_drop (s t : Text) : s.lastLine ++ t.firstLine <+: (s ++ t).drop s.lastStart := by
  rw [drop_lastStart_append]
  exact (List.prefix_append_right_inj _).2 t.firstLine_prefix_self

theorem newline_notMem_firstLine (t : Text) : '\n' ∉ t.firstLine := by
  intro h
  exact absurd (List.mem_takeWhile_imp h) (by decide)

/-- What a text begins with, up to a column of its first line, is a part of this line. -/
theorem take_prefix_firstLine {c : Nat} (hc : c ≤ t.firstLine.length) : t.take c <+: t.firstLine := by
  apply List.prefix_of_prefix_length_le (List.take_prefix c t) t.firstLine_prefix_self
  exact Nat.le_trans (List.length_take_le c t) hc

/-- A text without a newline is a single line. -/
theorem lastLine_eq_self (h : '\n' ∉ t) : t.lastLine = t := by
  refine List.rtakeWhile_eq_self_iff.2 fun c hc => ?_
  simp only [ne_eq, decide_eq_true_eq]
  rintro rfl
  exact h hc

/-- A text can be cut at the start of each of its lines. -/
theorem exists_cut_count (S : Text) {line : Nat} (h : line ≤ S.count '\n') :
    ∃ s t : Text, s ++ t = S ∧ s.count '\n' = line ∧ s.lastLine = [] := by
  induction S using List.reverseRecOn with
  | nil => exact ⟨[], [], rfl, (Nat.le_zero.1 h).symm, rfl⟩
  | append_singleton S c ih =>
    rw [List.count_append, List.count_singleton] at h
    by_cases hline : line ≤ S.count '\n'
    · obtain ⟨s, t, rfl, hcount, hlast⟩ := ih hline
      exact ⟨s, t ++ [c], (List.append_assoc _ _ _).symm, hcount, hlast⟩
    · -- the line starts behind the last character, which is a newline
      by_cases hc : c = '\n'
      · rw [hc] at h ⊢
        refine ⟨S ++ ['\n'], [], List.append_nil _, ?_, ?_⟩
        · rw [List.count_append, List.count_singleton_self]
          simp only [beq_self_eq_true, if_true] at h
          omega
        · rw [lastLine_concat, if_pos rfl]
      · simp only [beq_iff_eq, hc, if_false] at h
        exact absurd h hline

end Text

open Text

/-! ## Two places -/

section Places

variable {S : Text} {p q : Nat}

theorem take_eq_append (S : Text) (h : p ≤ q) : S.take q = S.take p ++ (S.take q).drop p := by
  have htake : (S.take q).take p = S.take p := by rw [List.take_take, Nat.min_eq_left h]
  rw [← htake, List.take_append_drop]

/-- Two places have the same newlines before them exactly if there is none between them. -/
theorem count_take_eq_iff (h : p ≤ q) :
    (S.take p).count '\n' = (S.take q).count '\n' ↔ '\n' ∉ (S.take q).drop p := by
  have hcount := congrArg (List.count '\n') (take_eq_append S h)
  rw [List.count_append] at hcount
  rw [← List.count_eq_zero]
  omega

/-- Two places without a newline between them lie on lines with the same start. -/
theorem lastStart_take_eq (h : p ≤ q) (hn : '\n' ∉ (S.take q).drop p) :
    lastStart (S.take q) = lastStart (S.take p) := by
  rw [take_eq_append S h, lastStart_append _ hn]

theorem lastStart_take_le (S : Text) (p : Nat) : lastStart (S.take p) ≤ p :=
  Nat.le_trans (lastStart_le _) (List.length_take_le _ _)

end Places

/-! ## The answers at a cut -/

namespace LineTable

section Cut

variable {S s t : Text} {place : Int} (hS : s ++ t = S) (hplace : place = s.length)
include hS hplace

theorem clamp_cut : (ofText S).clamp place = s.length := by
  have hle : s.length ≤ S.length := by rw [← hS, List.length_append]; omega
  rw [hplace, clamp_of_le hle]

/-- The position between two texts: the newlines before it, and what stands before it on its line. -/
theorem position_cut : (ofText S).position place = ⟨s.count '\n', s.lastLine.length⟩ := by
  have htake : S.take s.length = s := by rw [← hS, List.take_left]
  rw [position_ofText, clamp_cut hS hplace]
  dsimp only
  rw [htake, ← length_lastLine]

/-- The line between two texts is the last one of the first text and the first one of the second. -/
theorem lineAt_cut : (ofText S).lineAt place = withoutReturn (s.lastLine ++ t.firstLine) := by
  have htake : S.take s.length = s := by rw [← hS, List.take_left]
  have hdrop : S.drop s.lastStart = s.lastLine ++ t := by rw [← hS, drop_lastStart_append]
  rw [lineAt_ofText, clamp_cut hS hplace, htake, lineFrom, hdrop,
    List.takeWhile_append_of_pos fun c (hc : c ∈ s.lastLine) => List.mem_rtakeWhile_imp hc, firstLine]

end Cut

theorem place_of_le {S : Text} {o : Nat} (ho : o ≤ S.length) : (o : Int) = (S.take o).length := by
  rw [List.length_take_of_le ho]

/-- The answers for any offset are those at a cut. -/
theorem exists_cut_clamp (S : Text) (offset : Int) :
    ∃ s t : Text, s ++ t = S ∧ s.length = (ofText S).clamp offset ∧
      (ofText S).position offset = ⟨s.count '\n', s.lastLine.length⟩ ∧
      (ofText S).lineAt offset = withoutReturn (s.lastLine ++ t.firstLine) := by
  have hplace := place_of_le (clamp_le S offset)
  have hcut := List.take_append_drop ((ofText S).clamp offset) S
  refine ⟨_, _, hcut, List.length_take_of_le (clamp_le S offset), ?_, ?_⟩
  · rw [← position_clamp, position_cut hcut hplace]
  · rw [← lineAt_clamp, lineAt_cut hcut hplace]

end LineTable

end CodeFrame
