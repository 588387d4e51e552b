import CodeFrame.Script

/-!
# Following a script

What becomes of a script, told without the state of its finder.

- One script after another is the first one, and the second one if the first does not fail (`perform_append_of_done`,
  `perform_append_of_failed`); of several scripts, all are followed to their end or one of them fails, and then those
  before it are complete and those behind it are not begun (`perform_flatMap_cases`).
- A finder may answer as a function of the name does, whatever it keeps in its state (`Finder.Follows`). Then a script
  has the same outcome as with that function (`perform_of_follows`), and this outcome depends only on the answers for
  the names in the script (`perform_eq_of_agree`). Several scripts do not fail exactly if none of them does
  (`failure_flatMap_eq_none_iff`).
-/

namespace CodeFrame

/-- The name that an instruction looks up. -/
def Instruction.name? : Instruction → Option Text
  | .write _ => none
  | .quote name _ => some name

/-- The names that a script looks up if none of them is missing. -/
def Script.names (script : Script) : List Text := script.filterMap Instruction.name?

theorem Script.names_append (a b : Script) : Script.names (a ++ b) = Script.names a ++ Script.names b :=
  List.filterMap_append

theorem Script.names_flatMap {α : Type} (f : α → Script) (xs : List α) :
    Script.names (xs.flatMap f) = xs.flatMap fun x => Script.names (f x) :=
  List.filterMap_flatMap

/-- What became of two scripts, if the first one did not fail. -/
def Outcome.andThen {ε : Type} (o o' : Outcome ε) : Outcome ε where
  written := o.written ++ o'.written
  lookups := o.lookups ++ o'.lookups
  failure := o'.failure

theorem Outcome.result_of_done {ε : Type} {o : Outcome ε} (h : o.failure = none) (p : Painter) :
    o.result p = .ok (o.text p) := by
  unfold Outcome.result
  rw [h]

variable {σ ε : Type}

/-! ## One instruction -/

section Instruction

variable {find : Finder σ ε} {rest : Script} {s s' : σ} {name : Text} {draw : LineView → Drawing}

theorem perform_write (find : Finder σ ε) (runs : List Run) (rest : Script) (s : σ) :
    perform find (.write runs :: rest) s =
      ((⟨runs, [], none⟩ : Outcome ε).andThen (perform find rest s).1, (perform find rest s).2) :=
  rfl

theorem perform_quote_of_drawn {v : LineView} (h : find name s = (.ok v, s')) (hd : (draw v).fault = none) :
    perform find (.quote name draw :: rest) s =
      ((Outcome.drawn name (draw v)).andThen (perform find rest s').1, (perform find rest s').2) := by
  simp [perform, h, hd, Outcome.andThen, Outcome.drawn]

theorem perform_quote_of_fault {v : LineView} {f : Fault} (h : find name s = (.ok v, s'))
    (hd : (draw v).fault = some f) :
    perform find (.quote name draw :: rest) s = (.drawn name (draw v), s') := by
  simp [perform, h, hd]

theorem perform_quote_of_missing {e : ε} (h : find name s = (.error e, s')) :
    perform find (.quote name draw :: rest) s = (⟨[], [name], some (.missing e)⟩, s') := by
  simp [perform, h]

/-- **What a quotation can do**: miss its source, draw a part, or draw the whole and leave the rest to the script. -/
theorem perform_quote_cases (find : Finder σ ε) (name : Text) (draw : LineView → Drawing) (rest : Script) (s : σ) :
    (∃ e s', find name s = (.error e, s') ∧
      perform find (.quote name draw :: rest) s = (⟨[], [name], some (.missing e)⟩, s')) ∨
    (∃ v f s', find name s = (.ok v, s') ∧ (draw v).fault = some f ∧
      perform find (.quote name draw :: rest) s = (.drawn name (draw v), s')) ∨
    ∃ v s', find name s = (.ok v, s') ∧ (draw v).fault = none ∧
      perform find (.quote name draw :: rest) s =
        ((Outcome.drawn name (draw v)).andThen (perform find rest s').1, (perform find rest s').2) := by
  rcases hf : find name s with ⟨e | v, s'⟩
  · exact Or.inl ⟨e, s', rfl, perform_quote_of_missing hf⟩
  · cases hd : (draw v).fault with
    | some f => exact Or.inr (Or.inl ⟨v, f, s', rfl, hd, perform_quote_of_fault hf hd⟩)
    | none => exact Or.inr (Or.inr ⟨v, s', rfl, hd, perform_quote_of_drawn hf hd⟩)

theorem Outcome.failure_drawn (name : Text) (d : Drawing) :
    (Outcome.drawn name d : Outcome ε).failure = d.fault.map .fault :=
  rfl

/-- A quotation alone: what its source gives is drawn, whole or not. -/
theorem perform_quote_of_found {v : LineView} (h : find name s = (.ok v, s')) :
    perform find [.quote name draw] s = (.drawn name (draw v), s') := by
  cases hd : (draw v).fault with
  | some f => exact perform_quote_of_fault h hd
  | none =>
    rw [perform_quote_of_drawn h hd]
    simp [perform, Outcome.andThen, Outcome.drawn, Outcome.nothing, hd]

end Instruction

/-! ## Scripts one after another -/

section Append

variable {find : Finder σ ε} {a b : Script} {s : σ}

theorem perform_append_of_done (h : (perform find a s).1.failure = none) :
    perform find (a ++ b) s =
      ((perform find a s).1.andThen (perform find b (perform find a s).2).1,
        (perform find b (perform find a s).2).2) := by
  rw [perform_append]
  generalize perform find a s = done at h ⊢
  obtain ⟨⟨written, lookups, failure⟩, s'⟩ := done
  cases h
  rfl

theorem perform_append_of_failed {e : Failure ε} (h : (perform find a s).1.failure = some e) :
    perform find (a ++ b) s = perform find a s := by
  rw [perform_append]
  generalize perform find a s = failed at h ⊢
  obtain ⟨⟨written, lookups, failure⟩, s'⟩ := failed
  cases h
  rfl

theorem failure_append_eq_none_iff :
    (perform find (a ++ b) s).1.failure = none ↔
      (perform find a s).1.failure = none ∧ (perform find b (perform find a s).2).1.failure = none := by
  cases h : (perform find a s).1.failure with
  | none =>
    rw [perform_append_of_done h]
    exact ⟨fun hb => ⟨rfl, hb⟩, And.right⟩
  | some e =>
    rw [perform_append_of_failed h, h]
    exact ⟨fun hn => (by cases hn), And.left⟩

/-- **Several scripts** are followed to their end, or one of them fails: those before it are complete, and nothing of
those behind it is done. -/
theorem perform_flatMap_cases {α : Type} (find : Finder σ ε) (f : α → Script) : ∀ (xs : List α) (s : σ),
    (perform find (xs.flatMap f) s).1.failure = none ∨
      ∃ before x after e, xs = before ++ x :: after ∧
        (perform find (before.flatMap f) s).1.failure = none ∧
        (perform find (f x) (perform find (before.flatMap f) s).2).1.failure = some e ∧
        (perform find (xs.flatMap f) s).1 =
          (perform find (before.flatMap f) s).1.andThen
            (perform find (f x) (perform find (before.flatMap f) s).2).1
  | [], _ => Or.inl rfl
  | x :: xs, s => by
    rw [List.flatMap_cons]
    cases hx : (perform find (f x) s).1.failure with
    | some e => exact Or.inr ⟨[], x, xs, e, rfl, rfl, hx, congrArg Prod.fst (perform_append_of_failed hx)⟩
    | none =>
      rcases perform_flatMap_cases find f xs (perform find (f x) s).2 with hxs | ⟨before, y, after, e, rfl, hb, hy, ho⟩
      · exact Or.inl (failure_append_eq_none_iff.2 ⟨hx, hxs⟩)
      · refine Or.inr ⟨x :: before, y, after, e, rfl, ?_⟩
        rw [List.flatMap_cons, perform_append_of_done hx, perform_append_of_done hx]
        refine ⟨hb, hy, ?_⟩
        rw [ho]
        simp only [Outcome.andThen, List.append_assoc]

end Append

/-! ## What is looked up and written -/

/-- A script that does not fail looks up all of its names, each in its turn. -/
theorem lookups_of_done {find : Finder σ ε} : ∀ {script : Script} {s : σ},
    (perform find script s).1.failure = none → (perform find script s).1.lookups = Script.names script
  | [], _, _ => rfl
  | .write runs :: rest, s, h => by
    rw [perform_write] at h ⊢
    have ih : (perform find rest s).1.lookups = Script.names rest := lookups_of_done h
    exact ih
  | .quote name draw :: rest, s, h => by
    rcases perform_quote_cases find name draw rest s with ⟨e, s', -, ho⟩ | ⟨v, f, s', -, hd, ho⟩ | ⟨v, s', -, -, ho⟩ <;>
      rw [ho] at h
    · cases h
    · rw [Outcome.failure_drawn, hd] at h
      cases h
    · have ih : (perform find rest s').1.lookups = Script.names rest := lookups_of_done h
      rw [ho]
      exact congrArg (name :: ·) ih

/-- The states to which lookups may bring a finder. -/
inductive Finder.Leads (find : Finder σ ε) (s : σ) : σ → Prop
  | here : Leads find s s
  | next {s' : σ} (name : Text) (h : Leads find s s') : Leads find s (find name s').2

theorem Finder.Leads.after {find : Finder σ ε} {name : Text} {s s' : σ} (h : find.Leads (find name s).2 s') :
    find.Leads s s' := by
  induction h with
  | here => exact .next name .here
  | next name' _ ih => exact .next name' ih

/-- Whatever is written was written by the script or drawn from a source that was found. -/
theorem mem_written {find : Finder σ ε} {r : Run} : ∀ {script : Script} {s : σ},
    r ∈ (perform find script s).1.written →
      (∃ runs, .write runs ∈ script ∧ r ∈ runs) ∨
        ∃ name draw s' v, .quote name draw ∈ script ∧ find.Leads s s' ∧ (find name s').1 = .ok v ∧ r ∈ (draw v).runs
  | [], _, h => by cases h
  | .write runs :: rest, s, h => by
    rw [perform_write] at h
    rcases List.mem_append.1 h with h | h
    · exact Or.inl ⟨runs, List.mem_cons_self, h⟩
    · rcases mem_written h with ⟨runs', hi, hr⟩ | ⟨name, draw, s', v, hi, hv⟩
      · exact Or.inl ⟨runs', List.mem_cons_of_mem _ hi, hr⟩
      · exact Or.inr ⟨name, draw, s', v, List.mem_cons_of_mem _ hi, hv⟩
  | .quote name draw :: rest, s, h => by
    rcases perform_quote_cases find name draw rest s with ⟨e, s', -, ho⟩ | ⟨v, f, s', hf, -, ho⟩ | ⟨v, s', hf, -, ho⟩ <;>
      rw [ho] at h
    · cases h
    · exact Or.inr ⟨name, draw, s, v, List.mem_cons_self, .here, by rw [hf], h⟩
    · rcases List.mem_append.1 h with h | h
      · exact Or.inr ⟨name, draw, s, v, List.mem_cons_self, .here, by rw [hf], h⟩
      · rcases mem_written h with ⟨runs, hi, hr⟩ | ⟨name', draw', s'', v', hi, hleads, hv⟩
        · exact Or.inl ⟨runs, List.mem_cons_of_mem _ hi, hr⟩
        · have hnext : find.Leads (find name s).2 s'' := by rw [hf]; exact hleads
          exact Or.inr ⟨name', draw', s'', v', List.mem_cons_of_mem _ hi, hnext.after, hv⟩

/-- The runs of a kind that several scripts write are counted over their list if they are counted script by script and
none of the scripts fails. -/
theorem countP_written_flatMap {find : Finder σ ε} {α : Type} {f : α → Script} {q : Run → Bool} {w : List α → Nat}
    (hnil : w [] = 0) (hcons : ∀ x xs, w (x :: xs) = w [x] + w xs)
    (hone : ∀ x s, (perform find (f x) s).1.failure = none → (perform find (f x) s).1.written.countP q = w [x]) :
    ∀ {xs : List α} {s : σ}, (perform find (xs.flatMap f) s).1.failure = none →
      (perform find (xs.flatMap f) s).1.written.countP q = w xs
  | [], _, _ => hnil.symm
  | x :: xs, s, h => by
    rw [List.flatMap_cons] at h ⊢
    obtain ⟨hx, hxs⟩ := failure_append_eq_none_iff.1 h
    have ih := countP_written_flatMap hnil hcons hone hxs
    rw [perform_append_of_done hx, hcons, ← hone x s hx, ← ih]
    exact List.countP_append

/-! ## Finders that answer as a function -/

/-- The finder that answers by a function of the name and leaves its state as it is. -/
def Finder.ofFunction (locate : Text → Except ε LineView) : Finder σ ε := fun name s => (locate name, s)

theorem Finder.ofFunction_eq {locate : Text → Except ε LineView} {name : Text} {answer : Except ε LineView}
    (h : locate name = answer) (s : σ) : Finder.ofFunction locate name s = (answer, s) :=
  congrArg (·, s) h

/-- In every state of a set that it does not leave, the finder answers as a function of the name does. -/
structure Finder.Follows (find : Finder σ ε) (states : σ → Prop) (locate : Text → Except ε LineView) : Prop where
  answer : ∀ s name, states s → (find name s).1 = locate name
  stays : ∀ s name, states s → states (find name s).2

theorem Finder.Follows.of_leads {find : Finder σ ε} {states : σ → Prop} {locate : Text → Except ε LineView}
    (hf : find.Follows states locate) {s s' : σ} (hs : states s) (h : find.Leads s s') : states s' := by
  induction h with
  | here => exact hs
  | next name _ ih => exact hf.stays _ name ih

/-- What a finder keeps in its state does not show if it answers as a function. -/
theorem perform_of_follows {find : Finder σ ε} {states : σ → Prop} {locate : Text → Except ε LineView}
    (hf : find.Follows states locate) : ∀ (script : Script) {s : σ}, states s →
      (perform find script s).1 = (perform (Finder.ofFunction locate) script ()).1 ∧
        states (perform find script s).2
  | [], _, hs => ⟨rfl, hs⟩
  | .write runs :: rest, s, hs => by
    obtain ⟨ho, hs'⟩ := perform_of_follows hf rest hs
    rw [perform_write, perform_write, ho]
    exact ⟨rfl, hs'⟩
  | .quote name draw :: rest, s, hs => by
    have hans := hf.answer s name hs
    have hstay := hf.stays s name hs
    rcases perform_quote_cases find name draw rest s with ⟨e, s', hl, ho⟩ | ⟨v, f, s', hl, hd, ho⟩ | ⟨v, s', hl, hd, ho⟩ <;>
      rw [hl] at hans hstay <;> rw [ho]
    · rw [perform_quote_of_missing (Finder.ofFunction_eq hans.symm ())]
      exact ⟨rfl, hstay⟩
    · rw [perform_quote_of_fault (Finder.ofFunction_eq hans.symm ()) hd]
      exact ⟨rfl, hstay⟩
    · obtain ⟨hrest, hs'⟩ := perform_of_follows hf rest hstay
      rw [perform_quote_of_drawn (Finder.ofFunction_eq hans.symm ()) hd, hrest]
      exact ⟨rfl, hs'⟩

section OfFunction

variable {locate locate' : Text → Except ε LineView} {s : σ}

theorem perform_ofFunction_snd (locate : Text → Except ε LineView) (script : Script) (s : σ) :
    (perform (Finder.ofFunction locate) script s).2 = s :=
  have hf : Finder.Follows (Finder.ofFunction locate) (fun s' => s' = s) locate := ⟨fun _ _ _ => rfl, fun _ _ h => h⟩
  (perform_of_follows hf script rfl).2

/-- The outcome of a script depends only on the answers for its names. -/
theorem perform_eq_of_agree : ∀ (script : Script), (∀ name ∈ Script.names script, locate name = locate' name) →
    perform (Finder.ofFunction locate) script s = perform (Finder.ofFunction locate') script s
  | [], _ => rfl
  | .write runs :: rest, h => by
    rw [perform_write, perform_write, perform_eq_of_agree rest h]
  | .quote name draw :: rest, h => by
    obtain ⟨hname, hrest⟩ := List.forall_mem_cons.1 (show ∀ n ∈ name :: Script.names rest, _ from h)
    have ih := perform_eq_of_agree rest hrest
    cases hl : locate name with
    | error e =>
      rw [perform_quote_of_missing (Finder.ofFunction_eq hl s),
        perform_quote_of_missing (Finder.ofFunction_eq (hname.symm.trans hl) s)]
    | ok v =>
      have hl' : locate' name = .ok v := hname.symm.trans hl
      cases hd : (draw v).fault with
      | some f =>
        rw [perform_quote_of_fault (Finder.ofFunction_eq hl s) hd, perform_quote_of_fault (Finder.ofFunction_eq hl' s) hd]
      | none =>
        rw [perform_quote_of_drawn (Finder.ofFunction_eq hl s) hd,
          perform_quote_of_drawn (Finder.ofFunction_eq hl' s) hd, ih]

/-- Several scripts do not fail exactly if none of them does. -/
theorem failure_flatMap_eq_none_iff {α : Type} (f : α → Script) {xs : List α} :
    (perform (Finder.ofFunction locate) (xs.flatMap f) s).1.failure = none ↔
      ∀ x ∈ xs, (perform (Finder.ofFunction locate) (f x) s).1.failure = none := by
  induction xs with
  | nil => exact ⟨fun _ x h => (by cases h), fun _ => rfl⟩
  | cons x xs ih => rw [List.flatMap_cons, failure_append_eq_none_iff, perform_ofFunction_snd, ih, List.forall_mem_cons]

/-- If none of several scripts fails, then together they write what each of them writes. -/
theorem written_flatMap_of_done {α : Type} (f : α → Script) : ∀ {xs : List α},
    (perform (Finder.ofFunction locate) (xs.flatMap f) s).1.failure = none →
      (perform (Finder.ofFunction locate) (xs.flatMap f) s).1.written =
        xs.flatMap fun x => (perform (Finder.ofFunction locate) (f x) s).1.written
  | [], _ => rfl
  | x :: xs, h => by
    rw [List.flatMap_cons] at h ⊢
    obtain ⟨hx, hxs⟩ := failure_append_eq_none_iff.1 h
    rw [perform_ofFunction_snd] at hxs
    rw [perform_append_of_done hx, perform_ofFunction_snd, List.flatMap_cons, ← written_flatMap_of_done f hxs]
    rfl

end OfFunction

end CodeFrame
