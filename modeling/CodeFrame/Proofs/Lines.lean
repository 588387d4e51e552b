import Mathlib.Data.List.DropRight
import CodeFrame.LineTable
import CodeFrame.Proofs.Halving

/-!
# Lines, read off the text

The answers of a line table, without its table. A place of a text lies on the line whose number is the count of the
newlines before it; that line starts just after the last of them (`Text.lastStart`) and reaches to the next newline
(`LineTable.stopOf_append`). The search finds it, and the table holds its start (`LineTable.finds_ofText`). Hence the
position of an offset (`LineTable.position_ofText`) and the text of its line (`Text.lineFrom`,
`LineTable.lineAt_ofText`).

All of it comes from cutting the text at the place: the starts up to there are those of the first part, and all others
lie beyond it (`lineStarts_cut`).
-/

namespace CodeFrame

namespace Text

/-- The offset at which the last line of a text starts: just after its last newline, `0` if it has none. -/
def lastStart (t : Text) : Nat := (t.rdropWhile (· ≠ '\n')).length

/-- The text from an offset to the end of the line, without one carriage return there. -/
def lineFrom (t : Text) (start : Nat) : Text := withoutReturn ((t.drop start).takeWhile (· ≠ '\n'))

theorem lastStart_le (t : Text) : t.lastStart ≤ t.length := (List.rdropWhile_prefix _ t).length_le

theorem lastStart_concat (t : Text) (c : Char) :
    lastStart (t ++ [c]) = if c = '\n' then t.length + 1 else t.lastStart := by
  unfold lastStart
  rw [List.rdropWhile_concat]
  by_cases hc : c = '\n' <;> simp [hc]

/-- Text without a newline starts no line. -/
theorem lastStart_append (s : Text) {t : Text} (ht : '\n' ∉ t) : lastStart (s ++ t) = s.lastStart := by
  induction t using List.reverseRecOn with
  | nil => rw [List.append_nil]
  | append_singleton t c ih =>
    rw [List.mem_append, List.mem_singleton, not_or] at ht
    rw [← List.append_assoc, lastStart_concat, if_neg fun h => ht.2 h.symm, ih ht.1]

theorem withoutReturn_prefix_self (t : Text) : withoutReturn t <+: t := by
  unfold withoutReturn
  split
  · exact List.dropLast_prefix t
  · exact List.prefix_rfl

theorem lineFrom_prefix_drop (t : Text) (start : Nat) : t.lineFrom start <+: t.drop start :=
  (withoutReturn_prefix_self _).trans (List.takeWhile_prefix _)

/-- What follows the last newline holds none. -/
theorem drop_lastStart (t : Text) : t.drop t.lastStart = t.rtakeWhile (· ≠ '\n') := by
  have h : t.rdropWhile (· ≠ '\n') ++ t.rtakeWhile (· ≠ '\n') = t := List.rdropWhile_append_rtakeWhile
  calc t.drop t.lastStart = (t.rdropWhile (· ≠ '\n') ++ t.rtakeWhile (· ≠ '\n')).drop t.lastStart := by rw [h]
    _ = t.rtakeWhile (· ≠ '\n') := List.drop_left' rfl

/-- The offsets just after the newlines of a text whose first character ends at `next`. -/
def afterNewlines (t : Text) (next : Nat) : List Nat :=
  (t.zipIdx next).filterMap fun (c, next) => if c = '\n' then some next else none

theorem afterNewlines_cons (c : Char) (t : Text) (next : Nat) :
    afterNewlines (c :: t) next = (if c = '\n' then [next] else []) ++ afterNewlines t (next + 1) := by
  unfold afterNewlines
  rw [List.zipIdx_cons, List.filterMap_cons]
  by_cases hc : c = '\n' <;> simp [hc]

theorem afterNewlines_append (s t : Text) (next : Nat) :
    afterNewlines (s ++ t) next = afterNewlines s next ++ afterNewlines t (next + s.length) := by
  unfold afterNewlines
  rw [List.zipIdx_append, List.filterMap_append]

theorem length_afterNewlines (t : Text) (next : Nat) : (afterNewlines t next).length = t.count '\n' := by
  induction t generalizing next with
  | nil => rfl
  | cons c t ih =>
    rw [afterNewlines_cons, List.length_append, ih, List.count_cons]
    by_cases hc : c = '\n' <;> simp [hc, Nat.add_comm]

theorem bounds_of_mem_afterNewlines {t : Text} {next v : Nat} (h : v ∈ afterNewlines t next) :
    next ≤ v ∧ v < next + t.length := by
  obtain ⟨⟨c, v'⟩, hmem, hv⟩ := List.mem_filterMap.1 h
  dsimp only at hv
  split at hv
  · cases hv
    obtain ⟨h₁, h₂, -⟩ := List.mem_zipIdx hmem
    exact ⟨h₁, h₂⟩
  · cases hv

/-- The first newline of a text is where its first line ends. -/
theorem head?_afterNewlines (t : Text) (next : Nat) :
    (afterNewlines t next).head? =
      if '\n' ∈ t then some (next + (t.takeWhile (· ≠ '\n')).length) else none := by
  induction t generalizing next with
  | nil => rfl
  | cons c t ih =>
    rw [afterNewlines_cons]
    by_cases hc : c = '\n'
    · simp [hc]
    · have hc' : ¬ '\n' = c := fun h => hc h.symm
      simp only [if_neg hc, List.nil_append, ih, List.mem_cons, hc', false_or]
      split
      · simp [hc]; omega
      · rfl

end Text

open Text

/-! ## The starts of lines -/

theorem lineStarts_eq (t : Text) : lineStarts t = 0 :: afterNewlines t 1 := rfl

theorem length_lineStarts (t : Text) : (lineStarts t).length = t.count '\n' + 1 := by
  rw [lineStarts_eq, List.length_cons, length_afterNewlines]

/-- The starts of the lines of a text in two parts. -/
theorem lineStarts_cut (s t : Text) : lineStarts (s ++ t) = lineStarts s ++ afterNewlines t (1 + s.length) := by
  rw [lineStarts_eq, lineStarts_eq, afterNewlines_append, List.cons_append]

theorem le_of_mem_lineStarts {t : Text} {v : Nat} (h : v ∈ lineStarts t) : v ≤ t.length := by
  rcases List.mem_cons.1 h with rfl | h
  · exact Nat.zero_le _
  · have := bounds_of_mem_afterNewlines h
    omega

/-- The last start is that of the last line. -/
theorem getElem?_lineStarts_count (t : Text) : (lineStarts t)[t.count '\n']? = some t.lastStart := by
  induction t using List.reverseRecOn with
  | nil => rfl
  | append_singleton t c ih =>
    have hlen := length_lineStarts t
    rw [lineStarts_cut, lastStart_concat, List.count_append]
    by_cases hc : c = '\n'
    · -- a newline at the end starts a line of its own
      subst hc
      rw [List.getElem?_append_right (by simp [hlen])]
      simp [hlen, afterNewlines, Nat.add_comm]
    · have hcount : [c].count '\n' = 0 := by simp [hc]
      rw [hcount, Nat.add_zero, List.getElem?_append_left (by omega), ih, if_neg hc]

/-- Of the starts of a text in two parts, those within the first part come first. -/
theorem divides_lineStarts (s t : Text) :
    Halving.Divides (lineStarts (s ++ t)).toArray s.length (s.count '\n') := by
  intro j v hv
  have hlen := length_lineStarts s
  rw [List.getElem?_toArray, lineStarts_cut] at hv
  by_cases hj : j < (lineStarts s).length
  · rw [List.getElem?_append_left hj] at hv
    have := le_of_mem_lineStarts (List.mem_of_getElem? hv)
    omega
  · rw [List.getElem?_append_right (by omega)] at hv
    have := bounds_of_mem_afterNewlines (List.mem_of_getElem? hv)
    omega

/-! ## The answers of a line table -/

namespace LineTable

/-- The search for a place finds a line, and the table holds the start of this line. -/
def Finds (t : LineTable) (place line start : Nat) : Prop :=
  Halving.last? t.starts place = some line ∧ t.starts[line]? = some start

section Found

variable {t : LineTable} {place line start : Nat} (h : t.Finds place line start)
include h

theorem Finds.lineOf_eq : t.lineOf place = line := by
  obtain ⟨hline, -⟩ := h
  unfold lineOf
  rw [hline, Option.getD_some]

theorem Finds.startOf_eq : t.startOf line = start := by
  obtain ⟨-, hstart⟩ := h
  unfold startOf
  rw [hstart, Option.getD_some]

end Found

variable (s t : Text)

/-- A line is found for a place: neither does the search read outside the table, nor does the read of the start. -/
theorem finds_append : (ofText (s ++ t)).Finds s.length (s.count '\n') s.lastStart := by
  have hlen := length_lineStarts s
  have hs : s.count '\n' < (lineStarts (s ++ t)).toArray.size := by
    rw [List.size_toArray, length_lineStarts, List.count_append]
    omega
  constructor
  · exact Halving.last?_eq_some (divides_lineStarts s t) hs
  · rw [starts_ofText, List.getElem?_toArray, lineStarts_cut, List.getElem?_append_left (by omega),
      getElem?_lineStarts_count]

theorem startOf_append : (ofText (s ++ t)).startOf (s.count '\n') = s.lastStart := (finds_append s t).startOf_eq

theorem stopOf_append :
    (ofText (s ++ t)).stopOf (s.count '\n') = s.length + (t.takeWhile (· ≠ '\n')).length := by
  have hnext : (ofText (s ++ t)).starts[s.count '\n' + 1]? = (afterNewlines t (1 + s.length)).head? := by
    rw [starts_ofText, List.getElem?_toArray, lineStarts_cut, ← length_lineStarts,
      List.getElem?_append_right (Nat.le_refl _), Nat.sub_self, List.head?_eq_getElem?]
  unfold stopOf
  rw [hnext, head?_afterNewlines]
  by_cases ht : '\n' ∈ t
  · rw [if_pos ht]
    dsimp only
    omega
  · -- on the last line the table has no next start, and the line reaches to the end of the text
    have hall : t.takeWhile (· ≠ '\n') = t :=
      List.takeWhile_eq_self_iff.2 fun c hc => by
        simp only [ne_eq, decide_eq_true_eq]
        rintro rfl
        exact ht hc
    rw [if_neg ht, hall, source_ofText, List.length_append]

/-- The line of a place reaches from the last newline before it to the next one. -/
theorem line_append :
    ((s ++ t).take ((ofText (s ++ t)).stopOf (s.count '\n'))).drop s.lastStart =
      ((s ++ t).drop s.lastStart).takeWhile (· ≠ '\n') := by
  have hdrop : ∀ u : Text, (s ++ u).drop s.lastStart = s.rtakeWhile (· ≠ '\n') ++ u := fun u => by
    rw [List.drop_append_of_le_length s.lastStart_le, drop_lastStart]
  have htake : t.take (t.takeWhile (· ≠ '\n')).length = t.takeWhile (· ≠ '\n') :=
    (List.prefix_iff_eq_take.1 (List.takeWhile_prefix _)).symm
  rw [stopOf_append, List.take_length_add_append, htake, hdrop, hdrop,
    List.takeWhile_append_of_pos fun c (hc : c ∈ s.rtakeWhile (· ≠ '\n')) => List.mem_rtakeWhile_imp hc]

/-! Every place cuts its text in two, so the answers above are those for any place. -/

theorem finds_ofText {S : Text} {p : Nat} (hp : p ≤ S.length) :
    (ofText S).Finds p ((S.take p).count '\n') (Text.lastStart (S.take p)) := by
  have h := finds_append (S.take p) (S.drop p)
  rwa [List.take_append_drop, List.length_take_of_le hp] at h

theorem lineOf_ofText {S : Text} {p : Nat} (hp : p ≤ S.length) : (ofText S).lineOf p = (S.take p).count '\n' :=
  (finds_ofText hp).lineOf_eq

theorem startOf_ofText (S : Text) (p : Nat) :
    (ofText S).startOf ((S.take p).count '\n') = Text.lastStart (S.take p) := by
  have h := startOf_append (S.take p) (S.drop p)
  rwa [List.take_append_drop] at h

theorem clamp_le (S : Text) (offset : Int) : (ofText S).clamp offset ≤ S.length := Nat.min_le_right _ _

theorem clamp_eq (S : Text) (offset : Int) : (ofText S).clamp offset = (max 0 (min offset S.length)).toNat := by
  unfold clamp
  rw [source_ofText]
  omega

theorem clamp_of_le {S : Text} {p : Nat} (hp : p ≤ S.length) : (ofText S).clamp p = p := by
  unfold clamp
  rw [source_ofText]
  omega

/-! An offset outside the text is answered like the end of the text that is nearer to it. -/

theorem position_clamp (S : Text) (offset : Int) :
    (ofText S).position ((ofText S).clamp offset) = (ofText S).position offset := by
  unfold position
  rw [clamp_of_le (clamp_le S offset)]

theorem lineAt_clamp (S : Text) (offset : Int) :
    (ofText S).lineAt ((ofText S).clamp offset) = (ofText S).lineAt offset := by
  unfold lineAt
  rw [clamp_of_le (clamp_le S offset)]

/-- The position of an offset: the newlines before it, and how far the last of them lies back. -/
theorem position_ofText (S : Text) (offset : Int) :
    (ofText S).position offset =
      let p := (ofText S).clamp offset
      ⟨(S.take p).count '\n', (p - Text.lastStart (S.take p) : Nat)⟩ := by
  unfold position
  rw [lineOf_ofText (clamp_le S offset), startOf_ofText]

/-- The text of the line in which an offset lies: it starts after the last newline before the offset. -/
theorem lineAt_ofText (S : Text) (offset : Int) :
    (ofText S).lineAt offset = S.lineFrom (Text.lastStart (S.take ((ofText S).clamp offset))) := by
  have h := line_append (S.take ((ofText S).clamp offset)) (S.drop ((ofText S).clamp offset))
  rw [List.take_append_drop] at h
  unfold lineAt Text.lineFrom
  dsimp only
  rw [lineOf_ofText (clamp_le S offset), startOf_ofText, source_ofText, h]

/-- A line of a text holds no newline, wherever there are newlines in the text. -/
theorem newline_notMem_lineAt (S : Text) (offset : Int) : '\n' ∉ (ofText S).lineAt offset := by
  rw [lineAt_ofText]
  intro hmem
  exact absurd (List.mem_takeWhile_imp ((withoutReturn_prefix_self _).subset hmem)) (by decide)

end LineTable

end CodeFrame
