import ApiBindings.Proofs.Rendering.Forms
import ApiBindings.Rendering.Basic

/-!
The built-in templates never fail: each of them keeps to its signature, so
rendering with them gives a text for all bindings. Values that are given under
names of their own do not change this text.
-/

namespace ApiBindings

namespace Template

def parseChars (cs : List Char) : Except TemplateError (List Node) := do
  let cs := withoutLastNewline cs
  let segments := cut true (cs.length + 1) cs
  let (nodes, _) ← readNodes nestingLimit [] segments (4 * segments.length + 4)
  return nodes

theorem parse_eq (source : String) : parse source = parseChars source.toList :=
  rfl

def Signature.accepts {K : Type} [DecidableEq K] (catalog : Catalog K)
    (sig : Signature K) (cs : List Char) : Bool :=
  (parseChars cs).toOption.any
    (allAccepted catalog sig.embeds sig.levels sig.names)

end Template

namespace Rendering

open Template

def Accepted (template : String × String) : Prop :=
  ∃ sig nodes, catalog.signature? template.1 = some sig ∧
    parse template.2 = .ok nodes ∧
    allAccepted catalog sig.embeds sig.levels sig.names nodes = true

theorem accepted_of_accepts {template : String × String}
    (accepts : (catalog.signature? template.1).any
      (·.accepts catalog template.2.toList) = true) : Accepted template := by
  obtain ⟨sig, known, accepts⟩ := (Option.any_eq_true _ _).mp accepts
  rw [Signature.accepts, Option.any_eq_true] at accepts
  obtain ⟨nodes, read, accepted⟩ := accepts
  refine ⟨sig, nodes, known, ?_, accepted⟩
  rw [parse_eq]
  cases outcome : parseChars template.2.toList with
  | error e => simp [outcome, Except.toOption] at read
  | ok found => simpa [outcome, Except.toOption] using read

/-- The templates that the names of a list embed are in the list. -/
def Closed (names : List String) : Prop :=
  ∀ name ∈ names, ∀ sig ∈ catalog.signature? name,
    ∀ other ∈ sig.embeds, other ∈ names

instance (names : List String) : Decidable (Closed names) :=
  inferInstanceAs (Decidable (∀ name ∈ names,
    ∀ sig ∈ catalog.signature? name, ∀ other ∈ sig.embeds, other ∈ names))

theorem library_conforms {templates : List (String × String)}
    (accepted : ∀ t ∈ templates, Accepted t)
    (closed : Closed (templates.map Prod.fst)) :
    ∃ l, library templates = .ok l ∧
      l.map Prod.fst = templates.map Prod.fst ∧ l.Conforms catalog := by
  have read : ∀ t ∈ templates, ∃ entry : String × List Node,
      entry.1 = t.1 ∧ parse t.2 = .ok entry.2 ∧
        ∃ sig, catalog.signature? t.1 = some sig ∧
          allAccepted catalog sig.embeds sig.levels sig.names entry.2 = true := by
    intro t listed
    obtain ⟨sig, nodes, known, read, checked⟩ := accepted t listed
    exact ⟨(t.1, nodes), rfl, read, sig, known, checked⟩
  obtain ⟨l, entries⟩ := exists_forall₂_iff.mpr read
  have names : templates.map Prod.fst = l.map Prod.fst :=
    map_eq_of_forall₂ entries fun t entry ⟨same, _⟩ => same.symm
  refine ⟨l, ?_, names.symm, ?_⟩
  · refine Outcome.mapM_eq_ok.mpr (entries.imp ?_)
    rintro ⟨name, text⟩ ⟨_, nodes⟩ ⟨rfl, parsed, _⟩
    simp only [parsed, Outcome.ok_bind]
    rfl
  · intro name nodes found
    obtain ⟨t, listed, rfl, _, sig, known, checked⟩ :=
      exists_of_mem_right entries (Entries.mem_of_find? found)
    refine ⟨sig, known, checked, ?_⟩
    rw [← names]
    exact closed t.1 (List.mem_map_of_mem listed) sig known

def builtInTemplates : List (String × String) :=
  [("request", request), ("type", fromLines typeLines),
    ("method", fromLines methodLines), ("class", fromLines clientLines),
    ("types_wrapper", fromLines typesWrapperLines),
    ("class_wrapper", fromLines classWrapperLines)]

set_option maxRecDepth 100000 in
theorem accepted_of_builtIn : ∀ t ∈ builtInTemplates, Accepted t := by
  simp only [builtInTemplates, List.forall_mem_cons]
  refine ⟨?_, ?_, ?_, ?_, ?_, ?_, nofun⟩
  all_goals
    apply accepted_of_accepts
    simp only [request, fromLines, requestLines, typeLines, methodLines,
      clientLines, typesWrapperLines, classWrapperLines, put, tag,
      List.map_cons, List.map_nil, String.toList_join, String.toList_append,
      List.flatMap_cons, List.flatMap_nil]
    -- The check starts from characters: it would be slow to get them from the
    -- bytes of the lines.
    repeat rw [String.toList_ofList]
    decide +kernel

theorem sources_of_mode {mode : Mode} (known : mode ≠ .custom) :
    ∃ entry templates sig, sources mode {} = .ok (entry, templates) ∧
      (∀ t ∈ templates, t ∈ builtInTemplates) ∧
      Closed ("request" :: templates.map Prod.fst) ∧
      entry ∈ templates.map Prod.fst ∧ catalog.signature? entry = some sig ∧
      sig.names = rootForms ∧ sig.levels ≤ depthLimit := by
  cases mode with
  | client =>
      refine ⟨"class",
        [("class", fromLines clientLines), ("method", fromLines methodLines),
          ("type", fromLines typeLines)],
        _, ?_, ?_, by decide, by decide, rfl, rfl, by decide⟩
      · simp only [sources, builtIn, Option.none_or, Option.getD_some]
      · simp [builtInTemplates]
  | types =>
      refine ⟨"types_wrapper",
        [("types_wrapper", fromLines typesWrapperLines),
          ("type", fromLines typeLines)],
        _, ?_, ?_, by decide, by decide, rfl, rfl, by decide⟩
      · simp only [sources, builtIn, Option.none_or, Option.getD_some]
      · simp [builtInTemplates]
  | classWrapper =>
      refine ⟨"class_wrapper",
        [("class_wrapper", fromLines classWrapperLines),
          ("method", fromLines methodLines), ("type", fromLines typeLines)],
        _, ?_, ?_, by decide, by decide, rfl, rfl, by decide⟩
      · simp only [sources, builtIn, Option.none_or, Option.getD_some]
      · simp [builtInTemplates]
  | custom => exact absurd rfl known

end Rendering

namespace Bindings

open Rendering

variable {b : Bindings} {mode : Mode} {extra : OrderedMap String Json}

theorem result_render {overrides : TemplateSet} {entry : String}
    {templates : List (String × String)} {l : Template.Library}
    (chosen : sources mode overrides = .ok (entry, templates))
    (read : library (("request", request) :: templates) = .ok l) :
    (b.render mode overrides extra).result =
      (l.render entry (context b extra.entries)).mapError .template := by
  have keys := Traced.result_forIn_of_ok (ε := RenderError)
    (f := fun key => Traced.note .debug ("extra context key `" ++ key ++ "`"))
    (fun _ => rfl) extra.keys
  unfold render
  rw [Traced.result_bind_of_ok chosen, Traced.result_bind_of_ok keys,
    Traced.result_bind_of_ok (Traced.result_note _ _)]
  split
  · rw [Traced.result_bind_of_ok (Traced.result_note _ _),
      Traced.result_ofExcept, read, Outcome.ok_bind]
  · rw [Traced.result_ofExcept, read, Outcome.ok_bind]

/-- With the built-in templates all bindings can be rendered, and values that
are given under other names than those of the bindings do not change the
text. -/
theorem built_in_rendering_is_safe (known : mode ≠ .custom)
    (fresh : ∀ key ∈ extra.keys, key ∉ (bindingsFields b).map Prod.fst) :
    ∃ text, (b.render mode {} extra).result = .ok text ∧
      (b.render mode {} ∅).result = .ok text := by
  obtain ⟨entry, templates, sig, chosen, builtIn, closed, listed, signed, names,
    levels⟩ := sources_of_mode known
  have accepted : ∀ t ∈ ("request", request) :: templates, Accepted t := by
    refine List.forall_mem_cons.mpr ⟨?_, fun t listed => ?_⟩
    · exact accepted_of_builtIn _ List.mem_cons_self
    · exact accepted_of_builtIn t (builtIn t listed)
  obtain ⟨l, read, same, conforms⟩ := library_conforms accepted closed
  have fits := context_fits fresh
  rw [← names] at fits
  obtain ⟨text, left, right⟩ := l.render_agree conforms
    (same ▸ List.mem_cons_of_mem _ listed) signed levels fits
  refine ⟨text, ?_, ?_⟩
  · rw [result_render chosen read, left, Outcome.mapError_ok]
  · rw [result_render chosen read]
    exact congrArg (Except.mapError RenderError.template) right

/-- A method without any documentation, and a type that refers to itself. -/
def aviary : Bindings where
  info := { className := "Aviary", moduleName := "*/", imports := [""] }
  methods :=
    [{ name := "feed", verb := .post, path := "/feed", pathTemplate := "/feed",
       summary := none, externalDocs := none, tags := [], deprecated := true,
       security := {}, arguments := [], headers := [], responseType := "void",
       responseImport := none }]
  definitions :=
    [{ name := "Bird", description := some "",
       type := TypeExpr.array (TypeExpr.reference "Bird") }]

def shadows : OrderedMap String Json :=
  ⟨[("loop", .string ""), ("method", .null), ("definition", .int 1)], by simp⟩

theorem shadows_leave_the_aviary :
    Mode.client ≠ .custom ∧
      (∀ key ∈ shadows.keys, key ∉ (bindingsFields aviary).map Prod.fst) ∧
      ∃ text, (aviary.render .client {} shadows).result = .ok text ∧
        (aviary.render .client {} ∅).result = .ok text := by
  have fresh : ∀ key ∈ shadows.keys,
      key ∉ (bindingsFields aviary).map Prod.fst := by decide
  exact ⟨by decide, fresh, built_in_rendering_is_safe (by decide) fresh⟩

end Bindings

end ApiBindings
