import CodeFrame.Proofs.Surroundings

/-!
# Returns at the ends of lines

Two ways to end a line: by a newline, or by a return and a newline. `Text.withReturns` sets a return before each newline
of a text, which moves its places (`Text.afterReturns`). A return stands at the end of a line, so it is in no column
before a place of the old text (`Text.lastLine_withReturns`), and it is the one character that is left out of the text of
the line (`withoutReturn_line`). Hence neither the answers for the places nor the excerpts of the spans change
(`excerpt_with_returns`).
-/

namespace CodeFrame

namespace Text

/-- The text with a return set before each of its newlines. -/
def withReturns (t : Text) : Text := t.flatMap fun c => if c = '\n' then ['\r', '\n'] else [c]

/-- Where a place of the text lies after a return was set before each newline. -/
def afterReturns (t : Text) (place : Nat) : Nat := place + (t.take place).count '\n'

theorem afterReturns_mono (t : Text) : ∀ i j, i ≤ j → t.afterReturns i ≤ t.afterReturns j := by
  intro i j hij
  have hcount : (t.take i).count '\n' ≤ (t.take j).count '\n' := (List.take_sublist_take_left hij).count_le _
  unfold afterReturns
  omega

theorem withReturns_append (s t : Text) : withReturns (s ++ t) = s.withReturns ++ t.withReturns :=
  List.flatMap_append

theorem withReturns_cons (c : Char) (t : Text) :
    withReturns (c :: t) = (if c = '\n' then ['\r', '\n'] else [c]) ++ t.withReturns :=
  List.flatMap_cons

theorem length_withReturns (t : Text) : t.withReturns.length = t.length + t.count '\n' := by
  induction t with
  | nil => rfl
  | cons c t ih =>
    rw [withReturns_cons, List.length_append, ih, List.length_cons, List.count_cons]
    by_cases hc : c = '\n' <;> simp [hc] <;> omega

theorem count_withReturns (t : Text) : t.withReturns.count '\n' = t.count '\n' := by
  induction t with
  | nil => rfl
  | cons c t ih =>
    rw [withReturns_cons, List.count_append, ih, List.count_cons, Nat.add_comm]
    by_cases hc : c = '\n' <;> simp [hc]

/-- The last line has no newline, so no return was set in it. -/
theorem lastLine_withReturns (t : Text) : t.withReturns.lastLine = t.lastLine := by
  induction t using List.reverseRecOn with
  | nil => rfl
  | append_singleton t c ih =>
    rw [withReturns_append, lastLine_concat]
    by_cases hc : c = '\n'
    · have hset : withReturns [c] = ['\r'] ++ ['\n'] := by rw [hc]; rfl
      rw [hset, ← List.append_assoc, lastLine_concat, if_pos rfl, if_pos hc]
    · have hset : withReturns [c] = [c] := by simp [withReturns, hc]
      rw [hset, lastLine_concat, if_neg hc, if_neg hc, ih]

/-- The first line ends in the return that was set before its newline, if it has one. -/
theorem firstLine_withReturns (t : Text) :
    t.withReturns.firstLine = t.firstLine ++ if '\n' ∈ t then ['\r'] else [] := by
  induction t with
  | nil => rfl
  | cons c t ih =>
    rw [withReturns_cons, firstLine_cons]
    by_cases hc : c = '\n'
    · rw [if_pos hc, if_pos hc, if_pos (List.mem_cons.2 (Or.inl hc.symm))]
      rfl
    · have hmem : '\n' ∈ c :: t ↔ '\n' ∈ t := by simp [Ne.symm hc]
      rw [if_neg hc, if_neg hc, List.singleton_append, firstLine_cons, if_neg hc, ih]
      simp only [hmem, List.cons_append]

/-- A text cut at a place, with its returns set on either side. -/
theorem withReturns_cut (t : Text) (place : Nat) :
    withReturns (t.take place) ++ withReturns (t.drop place) = t.withReturns := by
  rw [← withReturns_append, List.take_append_drop]

theorem afterReturns_eq_length {t : Text} {place : Nat} (h : place ≤ t.length) :
    (t.afterReturns place : Int) = (withReturns (t.take place)).length := by
  rw [length_withReturns, List.length_take_of_le h, afterReturns]

end Text

open Text

/-! ## One return at the end of a line -/

theorem withoutReturn_concat (t : Text) : withoutReturn (t ++ ['\r']) = t := by
  unfold withoutReturn
  rw [List.getLast?_concat, if_pos rfl, List.dropLast_concat]

theorem withoutReturn_eq_self {t : Text} (h : '\r' ∉ t) : withoutReturn t = t :=
  if_neg fun hlast => h (List.mem_of_getLast? hlast)

/-- On a line without returns, the return that was set before its newline is left out. -/
theorem withoutReturn_line {s t : Text} (hs : '\r' ∉ s) (ht : '\r' ∉ t) :
    withoutReturn (s.withReturns.lastLine ++ t.withReturns.firstLine) =
      withoutReturn (s.lastLine ++ t.firstLine) := by
  have hline : '\r' ∉ s.lastLine ++ t.firstLine := by
    rw [List.mem_append, not_or]
    exact ⟨fun h => hs ((List.rtakeWhile_suffix _ s).subset h), fun h => ht ((List.takeWhile_prefix _).subset h)⟩
  rw [lastLine_withReturns, firstLine_withReturns, withoutReturn_eq_self hline, ← List.append_assoc]
  by_cases hn : '\n' ∈ t
  · rw [if_pos hn, withoutReturn_concat]
  · -- the last line of a text gets no return
    rw [if_neg hn, List.append_nil, withoutReturn_eq_self hline]

namespace LineTable

variable {S : Text} {o : Nat}

/-- Setting returns changes no position. -/
theorem position_withReturns (ho : o ≤ S.length) :
    (ofText S.withReturns).position (S.afterReturns o) = (ofText S).position o := by
  rw [position_cut (withReturns_cut S o) (afterReturns_eq_length ho),
    position_cut (List.take_append_drop o S) (place_of_le ho), count_withReturns, lastLine_withReturns]

/-- Setting returns changes no line of a text that has none. -/
theorem lineAt_withReturns (hr : '\r' ∉ S) (ho : o ≤ S.length) :
    (ofText S.withReturns).lineAt (S.afterReturns o) = (ofText S).lineAt o := by
  have hs : '\r' ∉ S.take o := fun h => hr (List.mem_of_mem_take h)
  have ht : '\r' ∉ S.drop o := fun h => hr (List.mem_of_mem_drop h)
  rw [lineAt_cut (withReturns_cut S o) (afterReturns_eq_length ho),
    lineAt_cut (List.take_append_drop o S) (place_of_le ho), withoutReturn_line hs ht]

end LineTable

/-- **The ends of lines do not change an excerpt.** In a text without returns, one is set before each newline, and the
places are moved accordingly. Each of them keeps its position and the text of its line, and so the same is drawn as the
excerpt of a span; and it is drawn whole unless the text is too long for its places to be written. -/
theorem excerpt_with_returns {S : Text} (hr : '\r' ∉ S) :
    (∀ o ≤ S.length,
      (LineTable.ofText S.withReturns).position (S.afterReturns o) = (LineTable.ofText S).position o ∧
        (LineTable.ofText S.withReturns).lineAt (S.afterReturns o) = (LineTable.ofText S).lineAt o) ∧
    ∀ {σ ε : Type} {find find' : Finder σ ε} {st st' : σ} {name : Text} {s : Span} (l : Limits) (message : Text),
      s.source = some name → s.stop ≤ S.length → (find name st).1 = .ok (LineTable.ofText S).view →
      (find' name st').1 = .ok (LineTable.ofText S.withReturns).view →
      let moved := s.moved S.afterReturns S.afterReturns_mono
      ∃ d : Drawing,
        (perform find (excerptScript l (some s) message) st).1 = .drawn name d ∧
        (perform find' (excerptScript l (some moved) message) st').1 = .drawn name d ∧
        (Text.Fits (S.length + 1) → d.fault = none) := by
  refine ⟨fun o ho => ⟨LineTable.position_withReturns ho, LineTable.lineAt_withReturns hr ho⟩, ?_⟩
  intro σ ε find find' st st' name s l message hs hstop hf hf' moved
  have hstart : s.start ≤ S.length := Nat.le_trans s.start_le_stop hstop
  have hlowers : LineView.Lowers 0 (LineTable.ofText S).view s (LineTable.ofText S.withReturns).view moved :=
    ⟨(LineTable.position_withReturns hstart).trans (by rw [Int.add_zero]; rfl),
      (LineTable.position_withReturns hstop).trans (by rw [Int.add_zero]; rfl),
      LineTable.lineAt_withReturns hr hstart⟩
  have hdrawing := hlowers.drawing_eq l name message
  rw [Int.add_zero] at hdrawing
  refine ⟨_, outcome_excerptScript l message hs hf, ?_, fun hfits => ?_⟩
  · rw [outcome_excerptScript (s := moved) l message hs hf', hdrawing]
    rfl
  · exact (Excerpt.fault_ofRows_eq_none_iff _ _ _ _).2 (LineTable.position_fits hfits s.start)

/-- A span from the end of an empty line to the end of the line below it. -/
theorem excerpt_over_set_return :
    let S : Text := ['\n', '\t', 'x', '\n', 'y']
    let S' : Text := ['\r', '\n', '\t', 'x', '\r', '\n', 'y']
    let c := Catalog.empty.add ['t'] { text := S }
    let c' := Catalog.empty.add ['t'] { text := S' }
    let s : Span := { source := some ['t'], start := 0, stop := 3 }
    let moved : Span := { source := some ['t'], start := 0, stop := 4 }
    '\r' ∉ S ∧ s.source = some ['t'] ∧ s.stop ≤ S.length ∧
      (Catalog.find ['t'] c).1 = .ok (LineTable.ofText S).view ∧
      (Catalog.find ['t'] c').1 = .ok (LineTable.ofText S').view ∧
      (LineTable.ofText S').position 4 = ⟨1, 2⟩ ∧ (LineTable.ofText S').lineAt 4 = ['\t', 'x'] ∧
      ∃ runs,
        (perform Catalog.find (excerptScript .standard (some s) []) c).1 = ⟨runs, [['t']], none⟩ ∧
        (perform Catalog.find (excerptScript .standard (some moved) []) c').1 = ⟨runs, [['t']], none⟩ := by
  intro S S' c c' s moved
  have hr : '\r' ∉ S := by decide
  have hf : (Catalog.find ['t'] c).1 = .ok (LineTable.ofText S).view := congrArg Prod.fst (Catalog.find_eq_ok rfl)
  have hf' : (Catalog.find ['t'] c').1 = .ok (LineTable.ofText S').view := congrArg Prod.fst (Catalog.find_eq_ok rfl)
  obtain ⟨hanswers, hexcerpts⟩ := excerpt_with_returns hr
  obtain ⟨hposition, hline⟩ := hanswers 3 (by decide)
  obtain ⟨⟨runs, fault⟩, hruns, hruns', hnone⟩ := hexcerpts (s := s) .standard [] rfl (by decide) hf hf'
  cases hnone (by decide)
  refine ⟨hr, rfl, by decide, hf, hf', hposition.trans ?_, hline.trans ?_, runs, hruns, hruns'⟩
  · rw [LineTable.position_ofText]
    decide
  · rw [LineTable.lineAt_ofText]
    decide

end CodeFrame
