import CodeFrame.Proofs.Catalog
import CodeFrame.Proofs.Cuts
import CodeFrame.Proofs.Layout

/-!
# What surrounds a line

Of the text before a place only the number of newlines counts, apart from the line itself (`LineTable.position_cut`,
`LineTable.lineAt_cut`). So whole lines that are added above or below leave the columns and the lines of a text as they
are, and move them down by the number of lines above (`LineTable.position_between`, `LineTable.lineAt_between`).

An excerpt asks a view for two positions and one line. Two views that give the same answers, but for a number of lines
between them (`LineView.Lowers`), have excerpts that differ in the numbers of their lines only
(`LineView.Lowers.drawing_eq`, `excerpt_among_lines`).
-/

namespace CodeFrame

open Text

/-! ## Lines above and below a text -/

namespace LineTable

section Between

variable {P S Q : Text} {o : Nat}

/-- A place of a text that stands between two others, with all of it cut there. -/
theorem cut_between (P S Q : Text) (o : Nat) : (P ++ S.take o) ++ (S.drop o ++ Q) = P ++ S ++ Q := by
  rw [List.append_assoc P (S.take o), ← List.append_assoc (S.take o), List.take_append_drop, List.append_assoc]

theorem place_between (P : Text) (ho : o ≤ S.length) : (P.length + o : Int) = (P ++ S.take o).length := by
  rw [List.length_append, List.length_take_of_le ho, Int.natCast_add]

/-- Whole lines above a text lower its places and change no column. -/
theorem position_between (hP : P.lastLine = []) (Q : Text) (ho : o ≤ S.length) :
    (ofText (P ++ S ++ Q)).position (P.length + o) =
      ⟨((ofText S).position o).line + P.count '\n', ((ofText S).position o).column⟩ := by
  rw [position_cut (cut_between P S Q o) (place_between P ho),
    position_cut (List.take_append_drop o S) (place_of_le ho), lastLine_append hP, List.count_append]
  simp only [Position.mk.injEq, and_true]
  omega

/-- Whole lines above and below a text change none of its lines. -/
theorem lineAt_between (hP : P.lastLine = []) (hQ : Q.firstLine = []) (ho : o ≤ S.length) :
    (ofText (P ++ S ++ Q)).lineAt (P.length + o) = (ofText S).lineAt o := by
  rw [lineAt_cut (cut_between P S Q o) (place_between P ho),
    lineAt_cut (List.take_append_drop o S) (place_of_le ho), lastLine_append hP, firstLine_append _ hQ]

end Between

end LineTable

/-! ## Excerpts with the same answers -/

/-- The span with both of its places moved, by a function that keeps their order. -/
def Span.moved (s : Span) (f : Nat → Nat) (hf : ∀ i j, i ≤ j → f i ≤ f j) : Span where
  source := s.source
  start := f s.start
  stop := f s.stop
  start_le_stop := hf _ _ s.start_le_stop

theorem Span.moved_eq_self {s : Span} {f : Nat → Nat} {hf : ∀ i j, i ≤ j → f i ≤ f j} (h : ∀ i, f i = i) :
    s.moved f hf = s := by
  unfold moved
  simp only [h]

/-- A view answers for the span `s'` as another one does for the span `s`, but `k` lines further down. -/
structure LineView.Lowers (k : Int) (v : LineView) (s : Span) (v' : LineView) (s' : Span) : Prop where
  start : v'.position s'.start = ⟨(v.position s.start).line + k, (v.position s.start).column⟩
  stop : v'.position s'.stop = ⟨(v.position s.stop).line + k, (v.position s.stop).column⟩
  line : v'.lineAt s'.start = v.lineAt s.start

namespace LineView.Lowers

open Excerpt

variable {k : Int} {v v' : LineView} {s s' : Span} (h : LineView.Lowers k v s v' s')
include h

theorem line_eq_iff :
    (v'.position s'.start).line = (v'.position s'.stop).line ↔ (v.position s.start).line = (v.position s.stop).line := by
  rw [h.start, h.stop]
  dsimp only
  omega

theorem wholeLine_eq : wholeLine v' s' = wholeLine v s := by
  unfold wholeLine stopColumn
  simp only [h.line_eq_iff]
  rw [h.line, h.start, h.stop]

theorem goesOn_eq (l : Limits) (name message : Text) :
    (ofView l v' name s' message).goesOn = (ofView l v name s message).goesOn := by
  unfold goesOn
  rw [decide_eq_decide]
  exact not_congr h.line_eq_iff

/-- The excerpts have the same source and the same carets, and of their frames only the line differs. -/
theorem drawing_eq (l : Limits) (name message : Text) :
    (ofView l v' name s' message).drawing =
      .ofRows (rows name message ⟨(v.position s.start).line + k, (v.position s.start).column⟩
        (ofView l v name s message).source (ofView l v name s message).carets) := by
  have hline : (ofView l v' name s' message).line = (ofView l v name s message).line :=
    congrArg (·.shorten l) h.wholeLine_eq
  have hsource : (ofView l v' name s' message).source = (ofView l v name s message).source := by
    unfold source
    rw [h.goesOn_eq, hline]
  have hcarets : (ofView l v' name s' message).carets = (ofView l v name s message).carets := by
    unfold carets
    rw [h.goesOn_eq, hline]
  unfold drawing
  rw [hsource, hcarets, ← h.start]
  rfl

end LineView.Lowers

/-! ## Excerpts among other lines -/

/-- **Other lines do not change an excerpt.** Whole lines are added above and below a text. Its places keep their columns
and the texts of their lines, and are lowered by the number of lines above. So the excerpt of a span is drawn with the
same source and the same carets, and of its frame nothing changes but the line, as numbered in the heading and in the
margin, and the room for this number; and lines below alone change nothing. Both excerpts are whole unless the text is too
long for its places to be written. -/
theorem excerpt_among_lines {P S Q : Text} (hP : P = [] ∨ P.getLast? = some '\n')
    (hQ : Q = [] ∨ Q.head? = some '\n') :
    (∀ o ≤ S.length,
      (LineTable.ofText (P ++ S ++ Q)).position (P.length + o) =
          ⟨((LineTable.ofText S).position o).line + P.count '\n', ((LineTable.ofText S).position o).column⟩ ∧
        (LineTable.ofText (P ++ S ++ Q)).lineAt (P.length + o) = (LineTable.ofText S).lineAt o) ∧
    ∀ {σ ε : Type} {find find' : Finder σ ε} {st st' : σ} {name : Text} {s : Span} (l : Limits) (message : Text),
      s.source = some name → s.stop ≤ S.length → (find name st).1 = .ok (LineTable.ofText S).view →
      (find' name st').1 = .ok (LineTable.ofText (P ++ S ++ Q)).view →
      let p := (LineTable.ofText S).position s.start
      let q : Position := ⟨p.line + P.count '\n', p.column⟩
      let lowered := s.moved (P.length + ·) fun _ _ h => Nat.add_le_add_left h _
      let o := (perform find (excerptScript l (some s) message) st).1
      let o' := (perform find' (excerptScript l (some lowered) message) st').1
      ∃ source carets,
        o = .drawn name (.ofRows (Excerpt.rows name message p source carets)) ∧
        o' = .drawn name (.ofRows (Excerpt.rows name message q source carets)) ∧
        (Text.Fits ((P ++ S ++ Q).length + 1) →
          o = ⟨Excerpt.framed name message p source carets, [name], none⟩ ∧
            o' = ⟨Excerpt.framed name message q source carets, [name], none⟩) ∧
        (P = [] → (perform find' (excerptScript l (some s) message) st').1 = o) := by
  have hP' := lastLine_eq_nil hP
  have hQ' := firstLine_eq_nil hQ
  refine ⟨fun o ho => ⟨LineTable.position_between hP' Q ho, LineTable.lineAt_between hP' hQ' ho⟩, ?_⟩
  intro σ ε find find' st st' name s l message hs hstop hf hf' p q lowered o o'
  have hstart : s.start ≤ S.length := Nat.le_trans s.start_le_stop hstop
  have hlowers : LineView.Lowers (P.count '\n') (LineTable.ofText S).view s (LineTable.ofText (P ++ S ++ Q)).view
      lowered :=
    ⟨LineTable.position_between hP' Q hstart, LineTable.position_between hP' Q hstop,
      LineTable.lineAt_between hP' hQ' hstart⟩
  have hdrawing := hlowers.drawing_eq l name message
  have ho : o = .drawn name (Excerpt.ofView l (LineTable.ofText S).view name s message).drawing :=
    outcome_excerptScript l message hs hf
  have ho' : o' = .drawn name (Excerpt.ofView l (LineTable.ofText (P ++ S ++ Q)).view name lowered message).drawing :=
    outcome_excerptScript (s := lowered) l message hs hf'
  rw [hdrawing] at ho'
  refine ⟨_, _, ho, ho', fun hfits => ⟨?_, ?_⟩, fun hnil => ?_⟩
  · have hS : Text.Fits (S.length + 1) := Text.fits_of_natAbs_le (by simp; omega) hfits
    exact ho.trans (congrArg _ (Excerpt.ofRows_of_fits _ _ _ _ (LineTable.position_fits hS s.start)))
  · have hq : q.Fits := by
      have hlow := LineTable.position_fits hfits (P.length + s.start)
      rwa [LineTable.position_between hP' Q hstart] at hlow
    exact ho'.trans (congrArg _ (Excerpt.ofRows_of_fits _ _ _ _ hq))
  · -- without lines above, the span stays where it is
    subst hnil
    have hsame : lowered = s := Span.moved_eq_self Nat.zero_add
    rw [hsame, List.count_nil, Int.natCast_zero, Int.add_zero] at hdrawing
    rw [ho, outcome_excerptScript l message hs hf', hdrawing]
    rfl

/-- A span up to the end of a line that ends in a return, with a line above and one below it. -/
theorem excerpt_of_line_between_lines :
    let P : Text := ['u', '\n']
    let S : Text := ['\t', 'x', '\r']
    let Q : Text := ['\n', 'y']
    let c := Catalog.empty.add ['t'] { text := S }
    let c' := Catalog.empty.add ['t'] { text := P ++ S ++ Q }
    let s : Span := { source := some ['t'], start := 1, stop := 3 }
    let lowered : Span := { source := some ['t'], start := 3, stop := 5 }
    (P = [] ∨ P.getLast? = some '\n') ∧ (Q = [] ∨ Q.head? = some '\n') ∧ s.source = some ['t'] ∧
      s.stop ≤ S.length ∧ (Catalog.find ['t'] c).1 = .ok (LineTable.ofText S).view ∧
      (Catalog.find ['t'] c').1 = .ok (LineTable.ofText (P ++ S ++ Q)).view ∧
      (LineTable.ofText (P ++ S ++ Q)).position 5 = ⟨1, 3⟩ ∧
      ∃ source carets,
        (perform Catalog.find (excerptScript .standard (some s) []) c).1 =
          ⟨Excerpt.framed ['t'] [] ⟨0, 1⟩ source carets, [['t']], none⟩ ∧
        (perform Catalog.find (excerptScript .standard (some lowered) []) c').1 =
          ⟨Excerpt.framed ['t'] [] ⟨1, 1⟩ source carets, [['t']], none⟩ := by
  intro P S Q c c' s lowered
  have hP : P = [] ∨ P.getLast? = some '\n' := by decide
  have hQ : Q = [] ∨ Q.head? = some '\n' := by decide
  have hf : (Catalog.find ['t'] c).1 = .ok (LineTable.ofText S).view := congrArg Prod.fst (Catalog.find_eq_ok rfl)
  have hf' : (Catalog.find ['t'] c').1 = .ok (LineTable.ofText (P ++ S ++ Q)).view :=
    congrArg Prod.fst (Catalog.find_eq_ok rfl)
  obtain ⟨hanswers, hexcerpts⟩ := excerpt_among_lines hP (S := S) hQ
  have hstart : (LineTable.ofText S).position s.start = ⟨0, 1⟩ := by
    rw [LineTable.position_ofText]
    decide
  have hend : (LineTable.ofText S).position (3 : Nat) = ⟨0, 3⟩ := by
    rw [LineTable.position_ofText]
    decide
  have hlowered := (hanswers 3 (by decide)).1
  obtain ⟨source, carets, -, -, hwhole, -⟩ := hexcerpts (s := s) .standard [] rfl (by decide) hf hf'
  obtain ⟨hruns, hruns'⟩ := hwhole (by decide)
  refine ⟨hP, hQ, rfl, by decide, hf, hf', ?_, source, carets, ?_, ?_⟩
  · rw [hend] at hlowered
    exact hlowered
  · rw [hstart] at hruns
    exact hruns
  · rw [hstart] at hruns'
    exact hruns'

end CodeFrame
