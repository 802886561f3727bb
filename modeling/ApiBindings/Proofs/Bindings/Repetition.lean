import ApiBindings.Proofs.Bindings.Assembly
import ApiBindings.Proofs.Conversion.Warnings
import ApiBindings.Proofs.Tables
import ApiBindings.Proofs.Text.Cutting

/-!
Methods of one name. An assembly keeps them all, each under the name that its
operation gives it, and leaves one warning for each but the first.
-/

namespace ApiBindings

structure Heading where
  name : String
  verb : Verb
  path : String
  deriving DecidableEq

def Method.heading (m : Method) : Heading := ⟨m.name, m.verb, m.path⟩

/-- The operation of a route under its own identifier, or else a name made of
its verb and path. -/
def Document.Route.heading (r : Document.Route) : Heading :=
  ⟨r.operation.operationId.elim (Naming.methodName r.verb r.path)
    Naming.identifier, r.verb, r.path⟩

/-- Those of the headings whose name an earlier one has. -/
def repeated (hs : List Heading) : List Heading :=
  (hs.zipIdx.filter fun (h, i) => (hs.take i).any (·.name = h.name)).map Prod.fst

def Bindings.repetitions (b : Bindings) : List Heading :=
  repeated (b.methods.map Method.heading)

def Heading.warning (h : Heading) : LogRecord where
  level := .warn
  message := "duplicate method name `" ++ h.name ++ "` (" ++ h.verb.name ++ " " ++
    h.path ++ ")"

def LogRecord.IsRepetition (r : LogRecord) : Prop :=
  r.level = .warn ∧ "duplicate method name `".toList <+: r.message.toList

instance : DecidablePred LogRecord.IsRepetition := fun _ =>
  inferInstanceAs (Decidable (_ ∧ _))

/-- Whatever the messages tell of, it is no repetition. -/
abbrev Traced.Quiet {ε α : Type} (x : Traced ε α) : Prop :=
  x.Tells fun r => ¬ r.IsRepetition

theorem repeated_concat (hs : List Heading) (h : Heading) :
    repeated (hs ++ [h]) =
      repeated hs ++ if hs.any (·.name = h.name) then [h] else [] := by
  have before : hs.zipIdx.filter (fun (g, i) =>
        ((hs ++ [h]).take i).any (·.name = g.name)) =
      hs.zipIdx.filter fun (g, i) => (hs.take i).any (·.name = g.name) := by
    apply List.filter_congr
    rintro ⟨g, i⟩ member
    have bound := (List.mem_zipIdx' member).1
    simp only [List.take_append_of_le_length (Nat.le_of_lt bound)]
  rw [repeated, List.zipIdx_append, List.filter_append, before, List.map_append,
    repeated]
  congr 1
  simp
  split <;> simp_all

/-- Each heading is the first of its name or a repetition. -/
theorem length_repeated (hs : List Heading) :
    (repeated hs).length + (hs.map (·.name)).eraseDups.length = hs.length := by
  induction hs using List.reverseRecOn with
  | nil => rfl
  | append_singleton hs h induction =>
      have known : hs.any (·.name = h.name) = true ↔
          h.name ∈ (hs.map (·.name)).eraseDups := by
        simp
      rw [repeated_concat, List.map_append, List.map_singleton, eraseDups_concat,
        List.length_append, List.length_append, List.length_singleton, ← induction]
      by_cases again : hs.any (·.name = h.name) = true
      · rw [if_pos again, if_pos (known.mp again), List.length_singleton]
        omega
      · rw [if_neg again, if_neg (known.not.mp again), List.length_append,
          List.length_singleton, List.length_nil]
        omega

theorem isRepetition_warning (h : Heading) : h.warning.IsRepetition := by
  refine ⟨rfl, ?_⟩
  unfold Heading.warning
  simp only [String.append_assoc]
  exact Text.prefix_toList_append List.prefix_rfl _

theorem not_isRepetition_of_isCycle {r : LogRecord} (cycle : r.IsCycle) :
    ¬ r.IsRepetition := by
  rintro ⟨-, rest, same⟩
  obtain ⟨name, rfl⟩ := cycle
  have start := congrArg List.head? same
  simp at start

namespace Document

open Traced

variable {doc : Document} {options : Options} {b : Bindings}

theorem quiet_conversion (doc : Document) (active : List String) (s : Schema) :
    (Conversion.convert doc active s).Quiet :=
  (Conversion.tells_convert doc active s).mono fun _ => not_isRepetition_of_isCycle

theorem quiet_note {level : Level} (mild : level ≠ .warn) (message : String) :
    (note level message : Traced AssemblyError Unit).Quiet :=
  tells_note fun again => mild again.1

theorem quiet_argument (doc : Document) (use : ParameterUse) :
    (doc.argument use).Quiet := by
  have converted (p : Parameter) :
      ((p.typeSchema.toType doc).mapError AssemblyError.convert >>= fun type =>
        pure (some (p.toArgument type))).Quiet :=
    ((quiet_conversion doc [] p.typeSchema).mapError _).bind fun _ => tells_pure _
  unfold argument
  split
  · exact (quiet_note (by decide) _).bind fun _ => tells_pure _
  · extract_lets rest
    have told : ∀ p, (rest p).Quiet := by
      intro p
      dsimp only [rest]
      split
      · exact (quiet_note (by decide) _).bind fun _ => tells_pure _
      · split
        next word => exact (quiet_note (by decide) _).bind fun _ => converted p
        next => exact converted p
    split
    · exact (tells_ofExcept _).bind told
    · exact (tells_pure _).bind told

theorem quiet_method (doc : Document) (options : Options) (r : Route) :
    (doc.method options r.path r.verb r.operation r.shared).Quiet := by
  have arguments := tells_mapM (quiet_argument doc)
    (r.operation.parameters ++ r.shared)
  have success : (doc.successType r.operation).Quiet :=
    (tells_ofExcept _).bind fun s => quiet_conversion doc [] s
  unfold method
  extract_lets label rest
  refine success.attempt.bind fun response => ?_
  have told : ∀ type, (rest type).Quiet := by
    intro type
    refine arguments.bind fun found => ?_
    split
    next => exact tells_pure _
    next segment =>
      split
      · exact tells_pure _
      · exact (quiet_note (by decide) _).bind fun _ => tells_pure _
  split
  next => exact (tells_pure _).bind told
  next => exact (quiet_note (by decide) _).bind fun _ => (tells_pure _).bind told

theorem quiet_typeDeclaration (doc : Document) (entry : String × Schema) :
    (doc.typeDeclaration entry.1 entry.2).Quiet :=
  ((quiet_conversion doc [entry.1] entry.2).mapError _).bind fun _ => tells_pure _

theorem repetitions_addMethod (b : Bindings) (m : Method) :
    (b.addMethod m).repetitions =
      b.repetitions ++ if b.hasMethod m.name then [m.heading] else [] := by
  have known : (b.methods.map Method.heading).any (·.name = m.heading.name) =
      b.hasMethod m.name := List.any_map ..
  rw [Bindings.repetitions, Bindings.addMethod, List.map_append, List.map_singleton,
    repeated_concat, known, Bindings.repetitions]

theorem messages_addRoute (options : Options) (state : Bindings × Nat) (r : Route)
    (state' : Bindings × Nat) (ran : (doc.addRoute options state r).result = .ok state') :
    state.1.repetitions.map Heading.warning ++
        (doc.addRoute options state r).messages LogRecord.IsRepetition =
      state'.1.repetitions.map Heading.warning := by
  unfold addRoute at ran ⊢
  obtain ⟨o, made, recorded, all⟩ := messages_bind LogRecord.IsRepetition ran
  rw [all, messages_of_tells _ (quiet_method doc options r), List.nil_append]
  cases o with
  | none =>
      cases recorded
      exact List.append_nil _
  | some m =>
      dsimp only at recorded ⊢
      by_cases known : state.1.hasMethod m.name
      · rw [if_pos known] at recorded ⊢
        cases recorded
        rw [repetitions_addMethod, if_pos known, List.map_append, List.map_singleton]
        exact congrArg _ (messages_note _ (isRepetition_warning m.heading) _)
      · rw [if_neg known] at recorded ⊢
        cases recorded
        rw [repetitions_addMethod, if_neg known, List.append_nil]
        exact List.append_nil _

theorem messages_addDefinition (b : Bindings) (entry : String × Schema) (b' : Bindings)
    (ran : (doc.addDefinition b entry).result = .ok b') :
    b.repetitions.map Heading.warning ++
        (doc.addDefinition b entry).messages LogRecord.IsRepetition =
      b'.repetitions.map Heading.warning := by
  unfold addDefinition at ran ⊢
  obtain ⟨d, _, added, all⟩ := messages_bind LogRecord.IsRepetition ran
  rw [all, messages_of_tells _ (quiet_typeDeclaration doc entry)]
  cases added
  exact List.append_nil _

theorem messages_bindings (ok : (doc.bindings options).result = .ok b) :
    (doc.bindings options).messages LogRecord.IsRepetition =
      b.repetitions.map Heading.warning := by
  unfold bindings at ok ⊢
  obtain ⟨_, _, ok, all⟩ := messages_bind LogRecord.IsRepetition ok
  rw [all, messages_of_tells _ (tells_ofExcept _), List.nil_append]
  obtain ⟨state, routes, ok, all⟩ := messages_bind LogRecord.IsRepetition ok
  rw [all]
  obtain ⟨last, definitions, ok, all⟩ := messages_bind LogRecord.IsRepetition ok
  rw [all]
  cases ok
  have routed := messages_foldlM _
    (fun state : Bindings × Nat => state.1.repetitions.map Heading.warning)
    (messages_addRoute options) routes
  have defined := messages_foldlM _
    (fun b : Bindings => b.repetitions.map Heading.warning)
    messages_addDefinition definitions
  have summed (message : String) :
      (do note .info message; return b : Traced AssemblyError Bindings).messages
        LogRecord.IsRepetition = [] :=
    messages_of_tells _ ((quiet_note (by decide) message).bind fun _ => tells_pure _)
  rw [summed, List.append_nil, ← defined, ← routed]
  rfl

/-- Of the routes that are kept each method has its own name, verb and path. All
repetitions of names are left in their order, one warning for each. -/
theorem repetitions_are_reported (ok : (doc.bindings options).result = .ok b) :
    b.methods.map Method.heading = (doc.keptRoutes options).map Route.heading ∧
      (doc.bindings options).log.filter LogRecord.IsRepetition =
        (repeated (b.methods.map Method.heading)).map Heading.warning ∧
      ((doc.bindings options).log.filter LogRecord.IsRepetition).length +
        (b.methods.map (·.name)).eraseDups.length = b.methods.length := by
  have warned := messages_bindings ok
  refine ⟨?_, warned, ?_⟩
  · refine (map_eq_of_forall₂ (assembled_of_bindings ok).methods ?_).symm
    rintro r m ⟨arguments, _, rfl⟩
    rfl
  · have counted := length_repeated (b.methods.map Method.heading)
    rw [List.map_map, List.length_map] at counted
    rw [← messages, warned, List.length_map]
    exact counted

/-- The operations of four paths come to one name. -/
def namesakes : Document :=
  { version := supportedVersion
    info := { title := "Pets", version := "1" }
    paths :=
      ⟨[("/pets", { operations := ⟨[(.get, {})], by simp⟩ }),
        ("/store",
          { operations := ⟨[(.get, { operationId := some "getPets" })], by simp⟩ }),
        ("/Pets/",
          { operations :=
              ⟨[(.get, { operationId := some "getPets" }),
                (.post, { operationId := some "get-pets" })], by simp⟩ }),
        ("/pets/", { operations := ⟨[(.get, {})], by simp⟩ })],
        by simp⟩ }

theorem namesakes_leave_two_warnings :
    ∃ b, (namesakes.bindings { pathFilter := some "pets" }).result = .ok b ∧
      b.methods.map Method.heading =
        [⟨"getPets", .get, "/pets"⟩, ⟨"getPets", .get, "/Pets/"⟩,
          ⟨"get_pets", .post, "/Pets/"⟩, ⟨"getPets", .get, "/pets/"⟩] ∧
      (namesakes.bindings { pathFilter := some "pets" }).log.filter
          LogRecord.IsRepetition =
        [⟨.warn, "duplicate method name `getPets` (GET /Pets/)"⟩,
          ⟨.warn, "duplicate method name `getPets` (GET /pets/)"⟩] := by
  have unused : namesakes.routes.flatMap Route.uses = [] := rfl
  have succeeds : (namesakes.bindings { pathFilter := some "pets" }).Succeeds := by
    refine succeeds_bindings.mpr ⟨rfl, ?_, nofun⟩
    intro r listed use used
    have some_use := List.mem_flatMap.mpr ⟨r, listed, used⟩
    rw [unused] at some_use
    cases some_use
  obtain ⟨b, ok⟩ := succeeds
  obtain ⟨names, warned, _⟩ := repetitions_are_reported ok
  have headings : (namesakes.keptRoutes { pathFilter := some "pets" }).map Route.heading =
      [⟨"getPets", .get, "/pets"⟩, ⟨"getPets", .get, "/Pets/"⟩,
          ⟨"get_pets", .post, "/Pets/"⟩, ⟨"getPets", .get, "/pets/"⟩] := by
    decide
  rw [headings] at names
  rw [names] at warned
  exact ⟨b, ok, names, warned⟩

end Document

end ApiBindings
