import ApiBindings.Proofs.Template.Agreement

/-!
Nodes that write a known text and leave the scope as it is. There is one rule
for each kind of node; of the scope the rules ask only what its names stand for.
-/

namespace ApiBindings.Template

theorem Expr.eval_field {s : Scope} {e : Expr} {fields : List (String × Value)}
    (known : e.eval s = .ok (.ofFields fields)) (n : String) :
    (Expr.field e n).eval s = .ok (Value.given n fields) := by
  rw [Expr.eval, known, Outcome.ok_bind, Value.field_ofFields]

def filled (o : Option String) : Option String := o.filter (· ≠ "")

def ifGiven (o : Option String) (write : String → String) : String :=
  (filled o).elim "" write

/-- A test of a text asks whether it is filled. -/
theorem filled_cases (o : Option String) :
    ((Value.ofOption o).isTrue = false ∧ filled o = none) ∨
      ∃ x, o = some x ∧ (Value.ofOption o).isTrue = true ∧
        filled o = some x := by
  cases o with
  | none => exact .inl ⟨rfl, rfl⟩
  | some x =>
      by_cases empty : x = ""
      · rw [empty]
        exact .inl ⟨rfl, rfl⟩
      · exact .inr ⟨x, rfl, decide_eq_true empty, by simp [filled, empty]⟩

/-- What the two names of a loop stand for in one of its rounds. -/
structure Scope.Inside (n : String) (item loop : Value) (s : Scope) :
    Prop where
  item : (Expr.name n).eval s = .ok item
  loop : n ≠ "loop" → (Expr.name "loop").eval s = .ok loop

theorem Scope.inside_round {s : Scope} {f : Frame} {n : String}
    (within : f.Within ["loop", n]) (v o : Value) :
    Inside n v o (s.round f n v o) where
  item := by rw [Expr.eval, lookup_round within, if_pos rfl]
  loop different := by
    rw [Expr.eval, lookup_round within, if_neg different, if_pos rfl]

section Loops

variable {α : Type} {n : String} {s : Scope} {body : Scope → Output}
  {items : List Value} {value : α → Value} {write : α × Nat → String}

theorem roundStep_writes {f : Frame} (within : f.Within ["loop", n])
    (text : String) {more : String} {v : Value} {i : Nat}
    (round : ∀ inner, Scope.Inside n v (loopObject items i) inner →
      body inner = .ok (inner, more)) :
    ∃ g, Frame.Within ["loop", n] g ∧
      roundStep n items body (s.enter f, text) (v, i) =
        .ok (s.enter g, text ++ more) := by
  have inside : Frame.Within ["loop", n]
      (Entries.put n v (Entries.put "loop" (loopObject items i) f)) :=
    (within.put (by simp) _).put (by simp) v
  refine ⟨_, inside, ?_⟩
  have ran := round (s.round f n v (loopObject items i))
    (Scope.inside_round within v _)
  simp only [roundStep, Target.store, Scope.assign_enter, Outcome.ok_bind]
  rw [Scope.round] at ran
  rw [ran]
  rfl

theorem foldlM_roundStep {xs : List (α × Nat)} {f : Frame}
    (within : f.Within ["loop", n]) (text : String)
    (each : ∀ x ∈ xs, ∀ inner,
      Scope.Inside n (value x.1) (loopObject items x.2) inner →
        body inner = .ok (inner, write x)) :
    ∃ g, (xs.map (Prod.map value id)).foldlM (roundStep n items body)
        (s.enter f, text) =
      .ok (s.enter g, text ++ String.join (xs.map write)) := by
  -- Each round finds a frame in which only the names of the loop stand.
  induction xs generalizing f text with
  | nil => exact ⟨f, by simp [pure, Except.pure]⟩
  | cons x xs induction =>
      obtain ⟨g, left, first⟩ :=
        roundStep_writes within text (each x List.mem_cons_self)
      obtain ⟨h, rest⟩ := induction left (text ++ write x)
        fun y listed => each y (List.mem_cons_of_mem x listed)
      refine ⟨h, ?_⟩
      rw [List.map_cons, List.foldlM_cons, Prod.map, id, first,
        Outcome.ok_bind, rest, List.map_cons, String.join_cons,
        String.append_assoc]

theorem rounds_writes {xs : List α}
    (each : ∀ x ∈ xs.zipIdx, ∀ inner,
      Scope.Inside n (value x.1) (loopObject (xs.map value) x.2) inner →
        body inner = .ok (inner, write x)) :
    ∃ f, rounds (.name n) (xs.map value) body s.push =
      .ok (s.enter f, String.join (xs.zipIdx.map write)) := by
  obtain ⟨f, ran⟩ := foldlM_roundStep (f := []) nofun "" each
  refine ⟨f, ?_⟩
  rw [← List.zipIdx_map, String.empty_append] at ran
  exact ran

end Loops

theorem runAll_append {embed : Embed} {levels : Nat} {s : Scope}
    (nodes others : List Node) :
    runAll embed levels s (nodes ++ others) = do
      let (s, text) ← runAll embed levels s nodes
      let (s, more) ← runAll embed levels s others
      return (s, text ++ more) := by
  induction nodes generalizing s with
  | nil =>
      rw [List.nil_append, runAll, Outcome.ok_bind]
      cases ran : runAll embed levels s others with
      | error e => simp [ran]
      | ok rest => simp [ran, pure, Except.pure]
  | cons node nodes induction =>
      rw [List.cons_append, runAll, runAll]
      cases node.run embed levels s with
      | error e => rfl
      | ok first =>
          simp only [Outcome.ok_bind, induction]
          cases runAll embed levels first.1 nodes with
          | error e => rfl
          | ok second =>
              simp only [Outcome.ok_bind, pure, Except.pure]
              cases runAll embed levels second.1 others with
              | error e => rfl
              | ok third => simp [String.append_assoc]

/-! What a node or a list of nodes writes in a scope. -/

def Node.Writes (embed : Embed) (levels : Nat) (s : Scope) (node : Node)
    (text : String) : Prop :=
  node.run embed levels s = .ok (s, text)

def AllWrite (embed : Embed) (levels : Nat) (s : Scope) (nodes : List Node)
    (text : String) : Prop :=
  runAll embed levels s nodes = .ok (s, text)

section Rules

variable {embed : Embed} {levels : Nat} {s : Scope} {node : Node}
  {nodes others : List Node} {e : Expr} {v : Value} {t u : String}

namespace AllWrite

theorem nil : AllWrite embed levels s [] "" := by
  rw [AllWrite, runAll]

theorem cons (first : node.Writes embed levels s t)
    (rest : AllWrite embed levels s nodes u) :
    AllWrite embed levels s (node :: nodes) (t ++ u) := by
  rw [AllWrite] at rest ⊢
  rw [runAll, first, Outcome.ok_bind]
  simp only [rest, Outcome.ok_bind]
  rfl

theorem one (only : node.Writes embed levels s t) :
    AllWrite embed levels s [node] t := by
  simpa using cons only nil

theorem append (first : AllWrite embed levels s nodes t)
    (rest : AllWrite embed levels s others u) :
    AllWrite embed levels s (nodes ++ others) (t ++ u) := by
  rw [AllWrite] at *
  rw [runAll_append, first, Outcome.ok_bind]
  simp only [rest, Outcome.ok_bind]
  rfl

end AllWrite

namespace Node.Writes

theorem text (t : String) : (Node.text t).Writes embed levels s t := by
  rw [Writes, Node.run]

theorem output (value : e.eval s = .ok v) (printed : v.print = t) :
    (Node.output e).Writes embed levels s t := by
  rw [Writes, Node.run, value, ← printed]
  rfl

theorem value (value : e.eval s = .ok (.text t)) :
    (Node.output e).Writes embed levels s t :=
  output value rfl

theorem ifTrue (tested : e.eval s = .ok v) (holds : v.isTrue = true)
    (yes : AllWrite embed levels s nodes t) :
    (Node.ifElse e nodes others).Writes embed levels s t := by
  rw [Writes, Node.run, tested, Outcome.ok_bind, if_pos holds]
  exact yes

theorem ifFalse (tested : e.eval s = .ok v) (fails : v.isTrue = false)
    (no : AllWrite embed levels s others u) :
    (Node.ifElse e nodes others).Writes embed levels s u := by
  rw [Writes, Node.run, tested, Outcome.ok_bind, if_neg (by simp [fails])]
  exact no

theorem ifElse {p : Prop} [Decidable p] (tested : e.eval s = .ok v)
    (holds : v.isTrue = true ↔ p) (yes : p → AllWrite embed levels s nodes t)
    (no : ¬p → AllWrite embed levels s others u) :
    (Node.ifElse e nodes others).Writes embed levels s
      (if p then t else u) := by
  by_cases h : p
  · rw [if_pos h]
    exact ifTrue tested (holds.mpr h) (yes h)
  · rw [if_neg h]
    exact ifFalse tested (Bool.eq_false_iff.mpr (mt holds.mp h)) (no h)

theorem optional {p : Prop} [Decidable p] (tested : e.eval s = .ok v)
    (holds : v.isTrue = true ↔ p) (yes : p → AllWrite embed levels s nodes t) :
    (Node.ifElse e nodes []).Writes embed levels s (if p then t else "") :=
  ifElse tested holds yes fun _ => .nil

theorem given {o : Option String} {write : String → String}
    (tested : e.eval s = .ok (.ofOption o))
    (yes : ∀ x, e.eval s = .ok (.text x) →
      AllWrite embed levels s nodes (write x)) :
    (Node.ifElse e nodes []).Writes embed levels s (ifGiven o write) := by
  unfold ifGiven
  rcases filled_cases o with ⟨fails, absent⟩ | ⟨x, rfl, holds, present⟩
  · rw [absent]
    exact ifFalse tested fails .nil
  · rw [present]
    exact ifTrue tested holds (yes x tested)

theorem note {o : Option String} {before after : String}
    (tested : e.eval s = .ok (.ofOption o)) :
    (Node.ifElse e
      [.text before, .output (.filter "escape_jsdoc" e []), .text after]
      []).Writes embed levels s
      (ifGiven o fun x => before ++ (escapeComment x ++ after)) := by
  refine given tested fun x known => ?_
  refine .cons (text before) (.cons (value ?_) (.one (text after)))
  rw [Expr.eval, known]
  rfl

theorem outputGiven {o : Option String} {yes : Expr} {write : String → String}
    (tested : e.eval s = .ok (.ofOption o))
    (shown : ∀ x, e.eval s = .ok (.text x) →
      yes.eval s = .ok (.text (write x))) :
    (Node.output (.ifElse e yes none)).Writes embed levels s
      (ifGiven o write) := by
  unfold ifGiven
  rcases filled_cases o with ⟨fails, absent⟩ | ⟨x, rfl, holds, present⟩
  · rw [absent]
    refine output (v := .undefined) ?_ rfl
    rw [Expr.eval, tested, Outcome.ok_bind, if_neg (by simp [fails]), evalElse]
  · rw [present]
    refine value ?_
    rw [Expr.eval, tested, Outcome.ok_bind, if_pos holds]
    exact shown x tested

section Loops

variable {α : Type} {xs : List α} {item : α → Value} {n : String}

theorem loop {write : α × Nat → String}
    (listed : e.eval s = .ok (.list (xs.map item)))
    (each : ∀ x ∈ xs.zipIdx, ∀ inner,
      Scope.Inside n (item x.1) (loopObject (xs.map item) x.2) inner →
        AllWrite embed levels inner nodes (write x)) :
    (Node.loop (.name n) e none nodes []).Writes embed (levels + 1) s
      (String.join (xs.zipIdx.map write)) := by
  obtain ⟨f, ran⟩ : ∃ f, rounds (.name n) (xs.map item)
      (runBody embed levels nodes) s.push =
        .ok (s.enter f, String.join (xs.zipIdx.map write)) := by
    refine rounds_writes fun x inList inner inside => ?_
    rw [runBody]
    exact each x inList inner inside
  rw [Writes, run_loop_of_list listed, ran, Outcome.ok_bind]
  cases xs with
  | nil => exact AllWrite.nil
  | cons x xs => rfl

/-- The rounds of the loop do not ask for their number. -/
theorem each {write : α → String}
    (listed : e.eval s = .ok (.list (xs.map item)))
    (each : ∀ x ∈ xs, ∀ inner o, Scope.Inside n (item x) o inner →
      AllWrite embed levels inner nodes (write x)) :
    (Node.loop (.name n) e none nodes []).Writes embed (levels + 1) s
      (String.join (xs.map write)) := by
  have writes : (Node.loop (.name n) e none nodes []).Writes embed (levels + 1)
      s (String.join (xs.zipIdx.map (write ∘ Prod.fst))) :=
    loop listed fun x inList inner inside =>
      each x.1 (List.fst_mem_of_mem_zipIdx inList) inner _ inside
  rwa [← List.map_map, List.zipIdx_map_fst] at writes

end Loops

theorem embedded {name : String} {run : Scope → Output}
    (found : embed levels name = some run) (ran : run s = .ok (s, t)) :
    (Node.embed (.const (.text name)) false).Writes embed levels s t := by
  rw [Writes, run_embed_of_found found, ran]

end Node.Writes

end Rules

end ApiBindings.Template
