import ApiBindings.Proofs.Template.Form

/-!
A check for nodes: they use names as the forms of these allow, assign to none,
and embed templates whose signatures fit the place. Two runs of accepted nodes
in scopes that fit write the same text and leave the scopes as they are. Of
embedded templates only their signatures are needed for that, so a library whose
templates all keep to their signatures renders in two contexts that fit, and
with the same text.
-/

namespace ApiBindings.Template

variable {K : Type} [DecidableEq K]

def Signature.allowedAt (sig : Signature K) (levels : Nat)
    (env : List (String × Form K)) : Bool :=
  embedCost + sig.levels ≤ levels &&
    sig.names.all fun (n, f) => Entries.find? n env = some f

def roundEnv (n : String) (item : Form K) (env : List (String × Form K)) :
    List (String × Form K) :=
  (n, item) :: ("loop", .loop) :: env

mutual
def Node.accepted (catalog : Catalog K) (embeds : List String) (levels : Nat)
    (env : List (String × Form K)) : Node → Bool
  | .text _ => true
  | .output e => e.isPlain catalog env
  | .ifElse test yes no =>
    test.isPlain catalog env && allAccepted catalog embeds levels env yes &&
      allAccepted catalog embeds levels env no
  | .loop (.name n) e none body ifEmpty =>
    match levels, e.form? catalog env with
    | below + 1, some (.list item) =>
      allAccepted catalog embeds below (roundEnv n item env) body &&
        allAccepted catalog embeds (below + 1) env ifEmpty
    | _, _ => false
  | .embed (.const (.text name)) false =>
    embeds.contains name &&
      (catalog.signature? name).any (Signature.allowedAt · levels env)
  | _ => false

def allAccepted (catalog : Catalog K) (embeds : List String) (levels : Nat)
    (env : List (String × Form K)) : List Node → Bool
  | [] => true
  | node :: nodes =>
    node.accepted catalog embeds levels env &&
      allAccepted catalog embeds levels env nodes
end

/-- Both runs write the same text, and each leaves its scope as it is. -/
def Agree (s t : Scope) (x y : Output) : Prop :=
  ∃ text, x = .ok (s, text) ∧ y = .ok (t, text)

def Conforms (catalog : Catalog K) (embed : Embed) (embeds : List String)
    (room : Nat) : Prop :=
  ∀ name ∈ embeds, ∀ sig, catalog.signature? name = some sig →
    ∀ levels, embedCost + sig.levels ≤ levels → levels < room →
      ∃ run, embed levels name = some run ∧
        ∀ s t, Fits catalog sig.names s t → Agree s t (run s) (run t)

theorem Signature.enough_of_allowedAt {sig : Signature K} {levels : Nat}
    {env : List (String × Form K)} (allowed : sig.allowedAt levels env = true) :
    embedCost + sig.levels ≤ levels := by
  rw [allowedAt, Bool.and_eq_true] at allowed
  exact of_decide_eq_true allowed.1

theorem Signature.fits_of_allowedAt {catalog : Catalog K}
    {env : List (String × Form K)} {s t : Scope} {sig : Signature K}
    {levels : Nat} (allowed : sig.allowedAt levels env = true)
    (fits : Fits catalog env s t) : Fits catalog sig.names s t := by
  rw [allowedAt, Bool.and_eq_true, List.all_eq_true] at allowed
  intro n f asked
  have listed := Entries.mem_of_find? asked
  exact fits n f (of_decide_eq_true (allowed.2 (n, f) listed))

section Scopes

omit [DecidableEq K]

variable {catalog : Catalog K} {env : List (String × Form K)} {s t : Scope}

/-- The names that a loop assigns are all that its frame holds. -/
def Frame.Within (names : List String) (f : Frame) : Prop :=
  ∀ m ∈ f.map Prod.fst, m ∈ names

theorem Frame.Within.put {names : List String} {f : Frame} {n : String}
    (within : f.Within names) (known : n ∈ names) (v : Value) :
    Frame.Within names (Entries.put n v f) := by
  intro m listed
  rcases Entries.mem_keys_put.mp listed with rfl | listed
  · exact known
  · exact within m listed

theorem Frame.Within.find?_eq_none {names : List String} {f : Frame}
    {m : String} (within : f.Within names) (other : m ∉ names) :
    Entries.find? m f = none :=
  Entries.find?_eq_none.mpr fun listed => other (within m listed)

def Scope.round (s : Scope) (f : Frame) (n : String) (v o : Value) : Scope :=
  s.enter (Entries.put n v (Entries.put "loop" o f))

theorem lookup_round {f : Frame} {n : String} {v o : Value}
    (within : f.Within ["loop", n]) (m : String) :
    (s.round f n v o).lookup m =
      if n = m then v else if "loop" = m then o else s.lookup m := by
  by_cases item : n = m
  · rw [if_pos item]
    exact Scope.lookup_enter_of_some (by rw [Entries.find?_put, if_pos item])
  · by_cases loop : "loop" = m
    · rw [if_neg item, if_pos loop]
      exact Scope.lookup_enter_of_some (by
        rw [Entries.find?_put, if_neg item, Entries.find?_put, if_pos loop])
    · rw [if_neg item, if_neg loop]
      have other : m ∉ ["loop", n] := by
        simp [Ne.symm loop, Ne.symm item]
      exact Scope.lookup_enter_of_none (by
        rw [Entries.find?_put, if_neg item, Entries.find?_put, if_neg loop,
          within.find?_eq_none other])

theorem Fits.round {f g : Frame} {n : String} {v w x y : Value}
    {item : Form K} (fits : Fits catalog env s t)
    (left : f.Within ["loop", n]) (right : g.Within ["loop", n])
    (items : Alike catalog item v w) (loops : Alike catalog .loop x y) :
    Fits catalog (roundEnv n item env) (s.round f n v x)
      (t.round g n w y) := by
  intro m form known
  rw [lookup_round left, lookup_round right]
  rw [roundEnv, Entries.find?, Entries.find?] at known
  split at known
  next first =>
    cases known
    rw [if_pos first, if_pos first]
    exact items
  next first =>
    rw [if_neg first, if_neg first]
    split at known
    next second =>
      cases known
      rw [if_pos second, if_pos second]
      exact loops
    next second =>
      rw [if_neg second, if_neg second]
      exact fits m form known

end Scopes

theorem Agree.append {s t : Scope} {x y : Output} {f g : Scope → Output}
    (first : Agree s t x y) (second : Agree s t (f s) (g t)) :
    Agree s t
      (do let (s, text) ← x; let (s, more) ← f s; return (s, text ++ more))
      (do let (t, text) ← y; let (t, more) ← g t; return (t, text ++ more)) := by
  obtain ⟨text, rfl, rfl⟩ := first
  obtain ⟨more, left, right⟩ := second
  refine ⟨text ++ more, ?_, ?_⟩
  · simp only [Outcome.ok_bind, left]
    rfl
  · simp only [Outcome.ok_bind, right]
    rfl

section Rounds

omit [DecidableEq K]

variable {catalog : Catalog K} {env : List (String × Form K)} {s t : Scope}
  {n : String} {item : Form K} {left right : Scope → Output}

def roundStep (n : String) (items : List Value) (body : Scope → Output)
    (a : Scope × String) (x : Value × Nat) : Output := do
  let s ← (Target.name n).store (a.1.assign "loop" (loopObject items x.2)) x.1
  let (s, more) ← body s
  return (s, a.2 ++ more)

/-- What two loops have come to: the same text, and a frame of their own. -/
def RoundsAgree (n : String) (s t : Scope) (a b : Scope × String) : Prop :=
  ∃ f g text, Frame.Within ["loop", n] f ∧ Frame.Within ["loop", n] g ∧
    a = (s.enter f, text) ∧ b = (t.enter g, text)

theorem roundStep_agree {vs ws : List Value} (same : vs.length = ws.length)
    (fits : Fits catalog env s t)
    (agree : ∀ s t, Fits catalog (roundEnv n item env) s t →
      Agree s t (left s) (right t))
    {v w : Value} (alike : Alike catalog item v w) (i : Nat)
    {a b : Scope × String} (before : RoundsAgree n s t a b) :
    ∃ a' b', roundStep n vs left a (v, i) = .ok a' ∧
      roundStep n ws right b (w, i) = .ok b' ∧ RoundsAgree n s t a' b' := by
  obtain ⟨f, g, text, inF, inG, rfl, rfl⟩ := before
  have inside := fits.round inF inG alike (.loop i same)
  obtain ⟨more, first, second⟩ := agree _ _ inside
  refine ⟨(s.round f n v (loopObject vs i), text ++ more),
    (t.round g n w (loopObject ws i), text ++ more), ?_, ?_, ?_⟩
  · simp only [roundStep, Target.store, Scope.assign_enter, Outcome.ok_bind]
    rw [Scope.round] at first
    rw [first]
    rfl
  · simp only [roundStep, Target.store, Scope.assign_enter, Outcome.ok_bind]
    rw [Scope.round] at second
    rw [second]
    rfl
  · exact ⟨_, _, _, (inF.put (by simp) _).put (by simp) v,
      (inG.put (by simp) _).put (by simp) w, rfl, rfl⟩

theorem rounds_agree {vs ws : List Value}
    (items : List.Forall₂ (Alike catalog item) vs ws)
    (fits : Fits catalog env s t)
    (agree : ∀ s t, Fits catalog (roundEnv n item env) s t →
      Agree s t (left s) (right t)) :
    ∃ f g text, rounds (.name n) vs left s.push = .ok (s.enter f, text) ∧
      rounds (.name n) ws right t.push = .ok (t.enter g, text) := by
  have start : RoundsAgree n s t (s.push, "") (t.push, "") :=
    ⟨[], [], "", nofun, nofun, rfl, rfl⟩
  obtain ⟨a, b, first, second, f, g, text, -, -, rfl, rfl⟩ :=
    Outcome.foldlM_related (f := roundStep n vs left)
      (g := roundStep n ws right) (forall₂_zipIdx items 0)
      (fun x y ⟨alike, place⟩ a b before => by
        have step := roundStep_agree items.length_eq fits agree alike x.2 before
        rw [Prod.eta, place, Prod.eta] at step
        exact step)
      start
  exact ⟨f, g, text, first, second⟩

end Rounds

theorem run_loop_of_list {embed : Embed} {levels : Nat} {s : Scope}
    {target : Target} {e : Expr} {body ifEmpty : List Node}
    {items : List Value} (evaluated : e.eval s = .ok (.list items)) :
    (Node.loop target e none body ifEmpty).run embed (levels + 1) s = do
      let (inner, text) ←
        rounds target items (runBody embed levels body) s.push
      if items.isEmpty then runAll embed (levels + 1) inner.pop ifEmpty
      else return (inner.pop, text) := by
  rw [Node.run, evaluated]
  rfl

theorem run_embed_of_found {embed : Embed} {levels : Nat} {name : String}
    {run : Scope → Output} (found : embed levels name = some run) (s : Scope) :
    (Node.embed (.const (.text name)) false).run embed levels s = run s := by
  rw [Node.run, Expr.eval, Outcome.ok_bind]
  simp [embedded, firstOf, found]

section Nodes

variable {catalog : Catalog K} {embed : Embed} {embeds : List String}
  {room : Nat}

mutual
/-- By recursion on the node, with the levels and the environment of the place.
Nodes of other kinds than these are not accepted. -/
theorem Node.run_agree (embedding : Conforms catalog embed embeds room) :
    ∀ (node : Node) {needed levels : Nat} {env : List (String × Form K)}
      {s t : Scope}, node.accepted catalog embeds needed env = true →
      Fits catalog env s t → needed ≤ levels → levels < room →
      Agree s t (node.run embed levels s) (node.run embed levels t)
  | .text text, _, _, _, _, _, _, _, _, _ =>
      ⟨text, by rw [Node.run], by rw [Node.run]⟩
  | .output e, _, _, _, _, _, accepted, fits, _, _ => by
      obtain ⟨v, left, right⟩ := e.eval_same fits accepted
      refine ⟨v.print, ?_, ?_⟩
      · rw [Node.run, left]
        rfl
      · rw [Node.run, right]
        rfl
  | .ifElse test yes no, _, levels, _, s, t, accepted, fits, enough, few => by
      rw [Node.accepted, Bool.and_eq_true, Bool.and_eq_true] at accepted
      obtain ⟨⟨plain, first⟩, second⟩ := accepted
      obtain ⟨v, left, right⟩ := test.eval_same fits plain
      rw [Node.run, Node.run, left, right, Outcome.ok_bind, Outcome.ok_bind]
      cases v.isTrue with
      | true => exact runAll_agree embedding yes first fits enough few
      | false => exact runAll_agree embedding no second fits enough few
  | .loop (.name n) e none body ifEmpty, needed, levels, env, s, t, accepted,
      fits, enough, few => by
      unfold Node.accepted at accepted
      split at accepted
      case h_2 => nomatch accepted
      case h_1 below item known =>
        rw [Bool.and_eq_true] at accepted
        obtain ⟨levels, rfl⟩ := Nat.exists_eq_add_of_le' (by omega : 1 ≤ levels)
        obtain ⟨v, w, left, right, alike⟩ := e.eval_alike fits _ known
        obtain ⟨vs, ws, rfl, rfl, items⟩ := alike.items
        have bodies (s t : Scope)
            (inside : Fits catalog (roundEnv n item env) s t) :
            Agree s t (runBody embed levels body s)
              (runBody embed levels body t) := by
          rw [runBody, runBody]
          exact runAll_agree embedding body accepted.1 inside
            (Nat.le_of_succ_le_succ enough) (Nat.lt_of_succ_lt few)
        obtain ⟨f, g, text, first, second⟩ := rounds_agree items fits bodies
        have same : ws.isEmpty = vs.isEmpty := by
          cases items <;> rfl
        rw [run_loop_of_list left, run_loop_of_list right]
        rw [first, second, same, Outcome.ok_bind, Outcome.ok_bind]
        cases vs.isEmpty with
        | true => exact runAll_agree embedding ifEmpty accepted.2 fits enough few
        | false => exact ⟨text, rfl, rfl⟩
  | .embed (.const (.text name)) false, _, levels, _, s, t, accepted, fits,
      enough, few => by
      rw [Node.accepted, Bool.and_eq_true, List.contains_iff_mem,
        Option.any_eq_true] at accepted
      obtain ⟨listed, sig, known, allowed⟩ := accepted
      obtain ⟨run, found, agree⟩ := embedding name listed sig known levels
        (Nat.le_trans (sig.enough_of_allowedAt allowed) enough) few
      rw [run_embed_of_found found, run_embed_of_found found]
      exact agree s t (sig.fits_of_allowedAt allowed fits)

theorem runAll_agree (embedding : Conforms catalog embed embeds room) :
    ∀ (nodes : List Node) {needed levels : Nat}
      {env : List (String × Form K)} {s t : Scope},
      allAccepted catalog embeds needed env nodes = true →
      Fits catalog env s t → needed ≤ levels → levels < room →
      Agree s t (runAll embed levels s nodes) (runAll embed levels t nodes)
  | [], _, _, _, _, _, _, _, _, _ => ⟨"", by rw [runAll], by rw [runAll]⟩
  | node :: nodes, _, levels, _, s, t, accepted, fits, enough, few => by
      rw [allAccepted, Bool.and_eq_true] at accepted
      have first := node.run_agree embedding accepted.1 fits enough few
      have rest := runAll_agree embedding nodes accepted.2 fits enough few
      rw [runAll, runAll]
      exact first.append (f := (runAll embed levels · nodes))
        (g := (runAll embed levels · nodes)) rest
end

end Nodes

namespace Library

variable {catalog : Catalog K} {library : Library}

def Conforms (catalog : Catalog K) (library : Library) : Prop :=
  ∀ name nodes, Entries.find? name library = some nodes →
    ∃ sig, catalog.signature? name = some sig ∧
      allAccepted catalog sig.embeds sig.levels sig.names nodes = true ∧
      ∀ other ∈ sig.embeds, other ∈ library.map Prod.fst

theorem exists_nodes {name : String} (listed : name ∈ library.map Prod.fst) :
    ∃ nodes, Entries.find? name library = some nodes := by
  rw [← Option.isSome_iff_exists, Option.isSome_iff_ne_none]
  exact fun missing => Entries.find?_eq_none.mp missing listed

theorem embed_of_found {name : String} {nodes : List Node}
    (found : Entries.find? name library = some nodes) (nesting : Nat)
    {levels : Nat} (deep : embedCost ≤ levels) :
    ∃ run, library.embed (nesting + 1) levels name = some run ∧
      ∀ s result, runAll (library.embed nesting) (levels - embedCost) s nodes =
        .ok result → run s = .ok result := by
  refine ⟨_, by rw [embed, found, Option.map_some], fun s result ran => ?_⟩
  simp only [if_neg (Nat.not_lt.mpr deep), ran]

theorem render_of_found {name : String} {nodes : List Node}
    (found : Entries.find? name library = some nodes)
    {context : List (Value × Value)} {s : Scope} {text : String}
    (ran : runAll (library.embed (depthLimit / embedCost + 1)) depthLimit
      (.start context) nodes = .ok (s, text)) :
    library.render name context = .ok text := by
  simp only [render, found, ran, Outcome.map_ok]

/-- By induction on the templates that may still be nested: the levels that are
left do not last longer than these. -/
theorem embed_conforms (conforms : library.Conforms catalog) (nesting : Nat) :
    Template.Conforms catalog (library.embed nesting) (library.map Prod.fst)
      (embedCost * nesting) := by
  induction nesting with
  | zero => exact fun _ _ _ _ _ _ few => nomatch few
  | succ nesting induction =>
      intro name listed sig known levels enough few
      obtain ⟨nodes, found⟩ := exists_nodes listed
      obtain ⟨other, stated, accepted, closed⟩ := conforms name nodes found
      obtain rfl : sig = other := Option.some.inj (known.symm.trans stated)
      obtain ⟨run, embedded, ran⟩ :=
        embed_of_found found nesting (Nat.le_of_add_right_le enough)
      have inner : Template.Conforms catalog (library.embed nesting) sig.embeds
          (embedCost * nesting) :=
        fun other asked => induction other (closed other asked)
      have less : levels - embedCost < embedCost * nesting := by
        rw [Nat.mul_succ] at few
        omega
      refine ⟨run, embedded, fun s t fits => ?_⟩
      obtain ⟨text, left, right⟩ := runAll_agree inner nodes accepted fits
        (Nat.le_sub_of_add_le' enough) less
      exact ⟨text, ran s _ left, ran t _ right⟩

theorem render_agree (conforms : library.Conforms catalog) {name : String}
    {sig : Signature K} {context other : List (Value × Value)}
    (listed : name ∈ library.map Prod.fst)
    (known : catalog.signature? name = some sig)
    (enough : sig.levels ≤ depthLimit)
    (fits : Fits catalog sig.names (.start context) (.start other)) :
    ∃ text, library.render name context = .ok text ∧
      library.render name other = .ok text := by
  obtain ⟨nodes, found⟩ := exists_nodes listed
  obtain ⟨stated, same, accepted, closed⟩ := conforms name nodes found
  obtain rfl : sig = stated := Option.some.inj (known.symm.trans same)
  have inner : Template.Conforms catalog
      (library.embed (depthLimit / embedCost + 1)) sig.embeds
      (embedCost * (depthLimit / embedCost + 1)) :=
    fun other asked => embed_conforms conforms _ other (closed other asked)
  obtain ⟨text, left, right⟩ :=
    runAll_agree inner nodes accepted fits enough (by decide)
  exact ⟨text, render_of_found found left, render_of_found found right⟩

end Library

end ApiBindings.Template
