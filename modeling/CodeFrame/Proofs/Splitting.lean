import CodeFrame.Proofs.Cuts

/-!
# Lines by splitting

Splitting a text at its newlines gives one entry more than there are newlines (`Text.length_splitOn`), and the entry of
a place has as many others before it as the place has newlines before it (`Text.getElem?_splitOn_append`). So a line
table answers with an entry, less one return at its end (`LineTable.lineAt_by_splitting`).

A column counts the characters of the entry. Where a return was left out, the line is shorter than the entry by this one
character, and so only the place just after the return has a column behind its line (`LessReturn.length_lt_iff`).
-/

namespace CodeFrame

/-! ## Entries -/

namespace Text

theorem length_splitOn (t : Text) : (t.splitOn '\n').length = t.count '\n' + 1 := by
  induction t with
  | nil => rfl
  | cons c t ih =>
    rw [List.splitOn_cons_eq_if_modifyHead, List.count_cons]
    by_cases hc : c = '\n' <;> simp [hc, ih]

theorem head?_splitOn (t : Text) : (t.splitOn '\n').head? = some t.firstLine := by
  induction t with
  | nil => rfl
  | cons c t ih =>
    rw [List.splitOn_cons_eq_if_modifyHead, firstLine_cons]
    by_cases hc : c = '\n'
    · simp [hc]
    · simp [hc, ih]

/-- The entry at a cut: what stands before the cut on its line, and what stands behind it. -/
theorem getElem?_splitOn_append (s t : Text) :
    ((s ++ t).splitOn '\n')[s.count '\n']? = some (s.lastLine ++ t.firstLine) := by
  induction s using List.reverseRecOn generalizing t with
  | nil =>
    rw [List.nil_append, List.count_nil, ← List.head?_eq_getElem?, head?_splitOn]
    rfl
  | append_singleton s c ih =>
    rw [List.append_assoc, List.singleton_append, List.count_append, lastLine_concat]
    by_cases hc : c = '\n'
    · -- the entries of the text before the newline are all those before the entry
      subst hc
      have hcount : s.count '\n' + ['\n'].count '\n' = (s.splitOn '\n').length := (length_splitOn s).symm
      rw [List.splitOn_append_cons_self, hcount, List.getElem?_append_right (Nat.le_refl _), Nat.sub_self,
        ← List.head?_eq_getElem?, head?_splitOn, if_pos rfl, List.nil_append]
    · have hcount : [c].count '\n' = 0 := by simp [hc]
      rw [hcount, Nat.add_zero, ih, firstLine_cons, if_neg hc, if_neg hc, List.append_assoc, List.singleton_append]

end Text

open Text

/-! ## A return at the end of an entry -/

/-- The line is the entry without one return at its end. -/
inductive LessReturn : Text → Text → Prop
  | dropped (line : Text) : LessReturn line (line ++ ['\r'])
  | kept {line : Text} (h : ¬ ['\r'] <:+ line) : LessReturn line line

theorem lessReturn_withoutReturn (t : Text) : LessReturn (withoutReturn t) t := by
  unfold withoutReturn
  by_cases h : t.getLast? = some '\r'
  · obtain ⟨line, rfl⟩ := List.getLast?_eq_some_iff.1 h
    rw [if_pos h, List.dropLast_concat]
    exact .dropped line
  · rw [if_neg h]
    apply LessReturn.kept
    rintro ⟨s, rfl⟩
    exact h List.getLast?_concat

namespace LessReturn

variable {line entry : Text} (h : LessReturn line entry)
include h

theorem isPrefix : line <+: entry := by
  cases h with
  | dropped => exact List.prefix_append _ _
  | kept => exact List.prefix_rfl

theorem length_le : entry.length ≤ line.length + 1 := by
  cases h with
  | dropped => simp
  | kept => omega

/-- A column of the entry lies behind the line only if a return was left out there. -/
theorem length_lt_iff {column : Nat} (hcolumn : column ≤ entry.length) :
    line.length < column ↔ entry = line ++ ['\r'] ∧ column = line.length + 1 := by
  have hentry := h.length_le
  constructor
  · intro hlt
    cases h with
    | dropped => exact ⟨rfl, by omega⟩
    | kept => omega
  · rintro ⟨-, hpast⟩
    omega

end LessReturn

/-- A return that was left out stands in the text just behind the line. -/
theorem getElem?_of_return {S line : Text} {start : Nat} (h : line ++ ['\r'] <+: S.drop start) :
    S[start + line.length]? = some '\r' := by
  obtain ⟨rest, hrest⟩ := h
  rw [← List.getElem?_drop, ← hrest, List.append_assoc, List.getElem?_append_right (Nat.le_refl _), Nat.sub_self]
  rfl

namespace LineTable

/-- **The text of a line.** The line of an offset, which is found in any case, is the entry of the text at the number of
the line, less one return at its end. It holds no newline, and stands in the text from the place of the offset less its
column on. The column lies behind the line only if a return was left out there and the place is just after it. -/
theorem lineAt_by_splitting (S : Text) (offset : Int) :
    let t := ofText S
    let p := (max 0 (min offset S.length)).toNat
    let line := t.lineAt offset
    ∃ (k column start : Nat) (entry : Text),
      t.position offset = ⟨k, column⟩ ∧ start + column = p ∧ t.Finds p k start ∧
      (S.splitOn '\n')[k]? = some entry ∧ LessReturn line entry ∧
      '\n' ∉ line ∧ line <+: S.drop start ∧ column ≤ line.length + 1 ∧
      (line.length < column ↔
        entry = line ++ ['\r'] ∧ S[start + line.length]? = some '\r' ∧ p = start + line.length + 1) := by
  intro t p line
  obtain ⟨a, b, rfl, hplace, hposition, hline⟩ := exists_cut_clamp S offset
  have hp : a.length = p := hplace.trans (clamp_eq _ offset)
  have hstart : a.lastStart + a.lastLine.length = p := a.lastStart_add_length_lastLine.trans hp
  have hless : LessReturn line (a.lastLine ++ b.firstLine) := by
    have h := lessReturn_withoutReturn (a.lastLine ++ b.firstLine)
    rwa [← hline] at h
  have hentry := line_prefix_drop a b
  have hcolumn : a.lastLine.length ≤ (a.lastLine ++ b.firstLine).length := (List.prefix_append _ _).length_le
  refine ⟨_, _, _, _, hposition, hstart, hp ▸ finds_append a b, getElem?_splitOn_append a b, hless,
    newline_notMem_lineAt _ offset, hless.isPrefix.trans hentry, Nat.le_trans hcolumn hless.length_le, ?_⟩
  rw [hless.length_lt_iff hcolumn]
  constructor
  · rintro ⟨hreturn, hpast⟩
    rw [hreturn] at hentry
    exact ⟨hreturn, getElem?_of_return hentry, by omega⟩
  · rintro ⟨hreturn, -, hpast⟩
    exact ⟨hreturn, by omega⟩

/-- Between a return and a newline, the column is one behind the line; before them it is not. -/
theorem lineAt_between_return_and_newline :
    let S : Text := ['k', '\n', 'x', '\r', '\n']
    let t := ofText S
    t.position 4 = ⟨1, 2⟩ ∧ t.lineAt 4 = ['x'] ∧ (S.splitOn '\n')[1]? = some (t.lineAt 4 ++ ['\r']) ∧
      t.position 3 = ⟨1, 1⟩ ∧ t.lineAt 3 = ['x'] := by
  intro S t
  have hposition : t.position 4 = ⟨1, 2⟩ := by
    rw [position_ofText]
    decide
  have hline : t.lineAt 4 = ['x'] := by
    rw [lineAt_ofText]
    decide
  obtain ⟨k, column, start, entry, hcell, -, -, hentry, -, -, -, -, hpast⟩ := lineAt_by_splitting S 4
  rw [hposition, Position.mk.injEq] at hcell
  obtain ⟨hreturn, -⟩ := hpast.1 (by rw [hline, List.length_singleton]; omega)
  have hk : k = 1 := by omega
  rw [hk, hreturn] at hentry
  refine ⟨hposition, hline, hentry, ?_, ?_⟩
  · rw [position_ofText]
    decide
  · rw [lineAt_ofText]
    decide

end LineTable

end CodeFrame
