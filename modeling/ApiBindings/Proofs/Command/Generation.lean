import ApiBindings.Command.Run
import ApiBindings.Proofs.Files.Changes
import ApiBindings.Proofs.Outcome
import ApiBindings.Proofs.Rendering.Files

/-!
What commands do to the files. All that comes before the writing of a generated
text only reads, so a failure up to there leaves the files as they are.
-/

namespace ApiBindings

/-- The failures that come when a text is complete and is being written. -/
def CommandError.whileWriting : CommandError → Bool
  | noDirectory _ => true
  | unwritable _ => true
  | _ => false

namespace Command

/-- A part of a command, on files that are a value. -/
abbrev Action (α : Type) := ExceptT CommandError (StateM FileTree) α

variable {α β : Type} {t : FileTree}

def outcome (x : Action α) (t : FileTree) : Except CommandError α :=
  (x.run.run t).1

def after (x : Action α) (t : FileTree) : FileTree :=
  (x.run.run t).2

def Keeps (x : Action α) : Prop :=
  ∀ t, after x t = t

section Parts

variable {x : Action α} {f : α → Action β}

theorem keeps_pure (a : α) : Keeps (pure a : Action α) :=
  fun _ => rfl

theorem keeps_throw (e : CommandError) : Keeps (throw e : Action α) :=
  fun _ => rfl

theorem keeps_read (path : String) :
    Keeps (liftM (FileSystem.read? path : StateM FileTree (Option String))) :=
  fun _ => rfl

theorem keeps_isPresent (path : String) :
    Keeps (liftM (FileSystem.isPresent path : StateM FileTree Bool)) :=
  fun _ => rfl

theorem run_of_keeps (keeps : Keeps x) (t : FileTree) :
    x.run.run t = (outcome x t, t) :=
  Prod.ext rfl (keeps t)

/-- After a part that changes nothing the rest meets the same files. -/
theorem run_bind_of_keeps (keeps : Keeps x) (t : FileTree) :
    (x >>= f).run.run t =
      match outcome x t with
      | .ok a => (f a).run.run t
      | .error e => (.error e, t) := by
  rw [ExceptT.run_bind, StateT.run_bind, run_of_keeps keeps]
  cases outcome x t <;> rfl

theorem keeps_bind (keeps : Keeps x) (rest : ∀ a, Keeps (f a)) :
    Keeps (x >>= f) := by
  intro t
  rw [after, run_bind_of_keeps keeps]
  cases outcome x t with
  | error e => rfl
  | ok a => exact rest a t

theorem outcome_bind (keeps : Keeps x) (t : FileTree) :
    outcome (x >>= f) t = outcome x t >>= fun a => outcome (f a) t := by
  rw [outcome, run_bind_of_keeps keeps]
  cases outcome x t <;> rfl

theorem keeps_mapM {f : String → Action β}
    (each : ∀ path, Keeps (f path)) (path : Option String) :
    Keeps (path.mapM f) := by
  cases path with
  | none => exact keeps_pure none
  | some path =>
      exact keeps_bind (each path) fun text => keeps_pure (some text)

theorem keeps_traverse {f : String → Action String}
    (each : ∀ path, Keeps (f path)) (paths : TemplateSet) :
    Keeps (paths.traverse f) := by
  unfold TemplateSet.traverse
  refine keeps_bind (keeps_mapM each _) fun client => ?_
  refine keeps_bind (keeps_mapM each _) fun method => ?_
  refine keeps_bind (keeps_mapM each _) fun type => ?_
  refine keeps_bind (keeps_mapM each _) fun typesWrapper => ?_
  refine keeps_bind (keeps_mapM each _) fun classWrapper => ?_
  exact keeps_pure _

end Parts

theorem keeps_loadConfig : Keeps (loadConfig : Action Config) := by
  unfold loadConfig
  refine keeps_bind (keeps_isPresent _) fun found => ?_
  cases found with
  | false => exact keeps_pure _
  | true =>
      refine keeps_bind (keeps_read _) fun text => ?_
      cases text with
      | none => exact keeps_throw _
      | some text =>
          cases parsed : Config.ofText? text with
          | none => simpa only [parsed] using keeps_throw _
          | some config => simpa only [parsed] using keeps_pure _

theorem keeps_loadDocument (path : String) :
    Keeps (loadDocument path : Action Document) := by
  unfold loadDocument
  refine keeps_bind (keeps_read _) fun text => ?_
  cases text with
  | none => exact keeps_throw _
  | some text =>
      cases parsed : (Document.ofText (formatOf path) text).result with
      | error e => simpa only [parsed] using keeps_throw _
      | ok doc => simpa only [parsed] using keeps_pure _

theorem keeps_loadTemplate (path : String) :
    Keeps (loadTemplate path : Action String) := by
  unfold loadTemplate
  refine keeps_bind (keeps_read _) fun text => ?_
  cases text with
  | none => exact keeps_throw _
  | some text => exact keeps_pure _

theorem keeps_prepare (input output : Option String) :
    Keeps (prepare input output : Action Generated) := by
  unfold prepare
  refine keeps_bind keeps_loadConfig fun config => ?_
  refine keeps_bind (keeps_loadDocument _) fun doc => ?_
  cases (doc.bindings config.options).result with
  | error e => exact fun _ => rfl
  | ok bindings =>
      refine keeps_bind (keeps_pure _) fun bindings => ?_
      refine keeps_bind (keeps_traverse keeps_loadTemplate _) fun templates => ?_
      cases (bindings.render config.render.mode templates
          config.render.extraContext).result with
      | error e => exact keeps_throw _
      | ok text => exact keeps_pure _

theorem keeps_checkDocument (input : String) :
    Keeps (checkDocument input : Action Report) :=
  keeps_bind (keeps_loadDocument input) fun doc => keeps_pure (validationReport doc)

theorem keeps_printDigest (input : String) (format : SummaryFormat) :
    Keeps (printDigest input format : Action Report) := by
  unfold printDigest
  refine keeps_bind (keeps_loadDocument _) fun doc => ?_
  refine keeps_bind keeps_loadConfig fun config => ?_
  cases (doc.bindings config.options).result with
  | error e => exact keeps_throw _
  | ok bindings => exact keeps_pure _

/-- All that comes before the writing went well, on what the files say. -/
inductive Rendered (t : FileTree) (input output : Option String)
    (g : Generated) : Prop
  | intro (config : Config) (doc : Document) (templates : TemplateSet)
      (configured : outcome loadConfig t = .ok config)
      (read : outcome (loadDocument (input.getD config.input)) t = .ok doc)
      (assembled : (doc.bindings config.options).result = .ok g.bindings)
      (overridden : outcome ((config.render.templates.relativeTo
        (Path.parent Config.fileName)).traverse loadTemplate) t = .ok templates)
      (rendered : (g.bindings.render config.render.mode templates
        config.render.extraContext).result = .ok g.text)
      (meant : g.output = output.getD config.output)

/-- A text is prepared when all goes well, and then it is the rendered one. -/
theorem prepare_eq_ok {input output : Option String} {g : Generated} :
    outcome (prepare input output) t = .ok g ↔ Rendered t input output g := by
  rw [prepare, outcome_bind keeps_loadConfig, Outcome.bind_eq_ok]
  constructor
  · rintro ⟨config, configured, done⟩
    rw [outcome_bind (keeps_loadDocument _), Outcome.bind_eq_ok] at done
    obtain ⟨doc, read, done⟩ := done
    cases assembled : (doc.bindings config.options).result with
    | error e =>
        rw [assembled] at done
        cases done
    | ok bindings =>
        rw [assembled] at done
        change outcome (TemplateSet.traverse loadTemplate _ >>= _) t = _ at done
        rw [outcome_bind (keeps_traverse keeps_loadTemplate _),
          Outcome.bind_eq_ok] at done
        obtain ⟨templates, overridden, done⟩ := done
        cases rendered : (bindings.render config.render.mode templates
            config.render.extraContext).result with
        | error e =>
            rw [rendered] at done
            cases done
        | ok text =>
            rw [rendered] at done
            cases done
            exact ⟨config, doc, templates, configured, read, assembled,
              overridden, rendered, rfl⟩
  · rintro ⟨config, doc, templates, configured, read, assembled, overridden,
      rendered, meant⟩
    refine ⟨config, configured, ?_⟩
    rw [outcome_bind (keeps_loadDocument _), read, Outcome.ok_bind, assembled]
    change outcome (TemplateSet.traverse loadTemplate _ >>= _) t = _
    rw [outcome_bind (keeps_traverse keeps_loadTemplate _), overridden,
      Outcome.ok_bind, rendered, ← meant]
    rfl

section Saving

/-- The text is where it is meant to be, or the writing has failed. -/
inductive Saved (before : FileTree) (g : Generated) :
    Except CommandError Unit × FileTree → Prop
  | written {after : FileTree} (only : before.WritesOnly after g.output g.text) :
      Saved before g (.ok (), after)
  | failed {e : CommandError} {after : FileTree} (late : e.whileWriting = true) :
      Saved before g (.error e, after)

variable {g : Generated}

/-- What follows a change meets the changed files. -/
theorem run_change (change : StateM FileTree Bool) (f : Bool → Action β) :
    ((liftM change : Action Bool) >>= f).run.run t =
      (f (change t).1).run.run (change t).2 := rfl

def writing (path text : String) : Action Unit := do
  unless ← FileSystem.write (m := StateM FileTree) path text do
    throw (.unwritable path)

theorem run_writing (path text : String) :
    (writing path text).run.run t =
      match t.write path text with
      | (true, after) => (.ok (), after)
      | (false, after) => (.error (.unwritable path), after) := by
  have same : (FileSystem.write path text : StateM FileTree Bool) t =
      t.write path text := rfl
  rw [writing, run_change, same]
  rcases t.write path text with ⟨_ | _, after⟩ <;> rfl

theorem run_save_here (here : Path.parent g.output = "") :
    (g.save : Action Unit).run.run t = (writing g.output g.text).run.run t := by
  unfold Generated.save
  simp only [here, if_true]
  rfl

theorem run_save_below (below : Path.parent g.output ≠ "") :
    (g.save : Action Unit).run.run t =
      match t.createDirectories (Path.parent g.output) with
      | (true, made) => (writing g.output g.text).run.run made
      | (false, made) => (.error (.noDirectory (Path.parent g.output)), made) := by
  have same : (FileSystem.createDirectories (Path.parent g.output) :
      StateM FileTree Bool) t = t.createDirectories (Path.parent g.output) := rfl
  unfold Generated.save
  simp only [below, if_false]
  rw [run_change, same]
  rcases t.createDirectories (Path.parent g.output) with ⟨_ | _, made⟩ <;> rfl

theorem saved_writing {before : FileTree} (home : t.home = before.home)
    (added : ∀ other, t.node? other ≠ before.node? other →
      FileTree.Created before t other ∧
        t.Passes (Path.parent g.output) other) :
    Saved before g ((writing g.output g.text).run.run t) := by
  have only (done : (t.write g.output g.text).1 = true) :=
    FileTree.writesOnly_of_write home added done
  rw [run_writing]
  generalize t.write g.output g.text = result at only ⊢
  rcases result with ⟨_ | _, after⟩
  · exact .failed rfl
  · exact .written (only rfl)

/-- Directories for the text are made, if need be, before it is written. -/
theorem saved_save (g : Generated) (t : FileTree) :
    Saved t g ((g.save : Action Unit).run.run t) := by
  rcases eq_or_ne (Path.parent g.output) "" with here | below
  · rw [run_save_here here]
    exact saved_writing rfl fun other changed => absurd rfl changed
  · have made (other) : (t.createDirectories (Path.parent g.output)).2.node? other ≠
        t.node? other → _ :=
      FileTree.created_createDirectories
    have home := FileTree.home_createDirectories t (Path.parent g.output)
    rw [run_save_below below]
    generalize t.createDirectories (Path.parent g.output) = result at made home ⊢
    rcases result with ⟨_ | _, after⟩
    · exact .failed rfl
    · exact saved_writing home made

theorem run_save_of_free {made : FileTree} {place : List String}
    (below : Path.parent g.output ≠ "")
    (created : t.createDirectories (Path.parent g.output) = (true, made))
    (located : made.locate? g.output = some place)
    (free : made.node? place ≠ some .directory) :
    (g.save : Action Unit).run.run t =
      (.ok (), made.put place (.file g.text)) := by
  rw [run_save_below below, created]
  dsimp only
  rw [run_writing, FileTree.write_of_free located free]

end Saving

def effect (c : Command) (t : FileTree) : Report × FileTree :=
  (run c : StateM FileTree Report).run t

theorem effect_eq (c : Command) (x : Action Report) (t : FileTree)
    (same : (run c : StateM FileTree Report) = do
      match ← x.run with
      | .ok report => return report
      | .error e => return .ofError e) :
    effect c t = match x.run.run t with
      | (.ok report, after) => (report, after)
      | (.error e, after) => (.ofError e, after) := by
  rw [effect, same, StateT.run_bind]
  rcases x.run.run t with ⟨_ | _, after⟩ <;> rfl

theorem effect_of_keeps {c : Command} {x : Action Report} (keeps : Keeps x)
    (same : (run c : StateM FileTree Report) = do
      match ← x.run with
      | .ok report => return report
      | .error e => return .ofError e) (t : FileTree) :
    (effect c t).2 = t := by
  rw [effect_eq c x t same, run_of_keeps keeps]
  cases outcome x t <;> rfl

theorem effect_generate (input output : Option String) (t : FileTree) :
    effect (.generate input output) t =
      match outcome (prepare input output) t with
      | .error e => (.ofError e, t)
      | .ok g =>
        match (g.save : Action Unit).run.run t with
        | (.ok (), after) => ({ notes := [g.note] }, after)
        | (.error e, after) => (.ofError e, after) := by
  rw [effect_eq _ (generateBindings input output) t rfl, generateBindings,
    run_bind_of_keeps (keeps_prepare input output)]
  cases outcome (prepare input output) t with
  | error e => rfl
  | ok g =>
      simp only [ExceptT.run_bind, StateT.run_bind]
      rcases (g.save : Action Unit).run.run t with ⟨_ | _, after⟩ <;> rfl

/-- It stops before anything is written, or what was rendered is saved. -/
theorem effect_generate_cases (input output : Option String) (t : FileTree) :
    (∃ e, effect (.generate input output) t = (.ofError e, t)) ∨
      ∃ g, Rendered t input output g ∧
        ((∃ after, effect (.generate input output) t =
            ({ notes := [g.note] }, after) ∧
            t.WritesOnly after g.output g.text) ∨
          ∃ e after, effect (.generate input output) t = (.ofError e, after) ∧
            e.whileWriting = true) := by
  rw [effect_generate]
  cases prepared : outcome (prepare input output) t with
  | error e => exact .inl ⟨e, rfl⟩
  | ok g =>
      refine .inr ⟨g, prepare_eq_ok.mp prepared, ?_⟩
      have saved := saved_save g t
      dsimp only
      generalize (g.save : Action Unit).run.run t = result at saved ⊢
      cases saved with
      | written only => exact .inl ⟨_, rfl, only⟩
      | failed late => exact .inr ⟨_, _, rfl, late⟩

/-- `generate` changes nothing unless a text was rendered, and then only the
file that the text is for and the directories missing above it. Checking a
document and summing it up change nothing at all. -/
theorem generate_changes_only_its_output (t : FileTree) :
    (∀ input output report after,
      effect (.generate input output) t = (report, after) →
        (∀ e, report.failure = some e → e.whileWriting = false → after = t) ∧
        ((¬∃ g, Rendered t input output g) → after = t) ∧
        (report.failure = none → ∃ g, Rendered t input output g ∧
          t.WritesOnly after g.output g.text)) ∧
      (∀ input, (effect (.validate input) t).2 = t) ∧
      ∀ input format, (effect (.inspect input format) t).2 = t := by
  refine ⟨fun input output report after ran => ?_, fun input => ?_,
    fun input format => ?_⟩
  · rcases effect_generate_cases input output t with
      ⟨e, stopped⟩ | ⟨g, rendered, ⟨after, wrote, only⟩ | ⟨e, after, failed, late⟩⟩
    · cases ran.symm.trans stopped
      exact ⟨fun _ _ _ => rfl, fun _ => rfl, nofun⟩
    · cases ran.symm.trans wrote
      exact ⟨nofun, fun unrendered => absurd ⟨g, rendered⟩ unrendered,
        fun _ => ⟨g, rendered, only⟩⟩
    · cases ran.symm.trans failed
      refine ⟨?_, fun unrendered => absurd ⟨g, rendered⟩ unrendered, nofun⟩
      rintro _ ⟨⟩ early
      rw [late] at early
      cases early
  · exact effect_of_keeps (keeps_checkDocument input) rfl t
  · exact effect_of_keeps (keeps_printDigest input format) rfl t

def orchard : FileTree :=
  .ofFiles [("orchard.yaml",
    "swagger: '2.0'\n" ++
    "info:\n" ++
    "  title: Orchard\n" ++
    "  version: '1'\n" ++
    "paths:\n" ++
    "  /trees:\n" ++
    "    get:\n" ++
    "      operationId: listTrees\n" ++
    "      responses:\n" ++
    "        default:\n" ++
    "          description: All trees.\n")]

theorem rendered_orchard :
    ∃ g, Rendered orchard (some "orchard.yaml") (some "out/orchard.ts") g ∧
      g.output = "out/orchard.ts" := by
  have assembles : (outcome (loadDocument "orchard.yaml") orchard >>= fun doc =>
      (doc.bindings {}).result.mapError (.unassembled "orchard.yaml")).isOk =
        true := by
    decide +kernel
  cases ran : (outcome (loadDocument "orchard.yaml") orchard >>= fun doc =>
      (doc.bindings {}).result.mapError (.unassembled "orchard.yaml")) with
  | error e =>
      rw [ran] at assembles
      cases assembles
  | ok bindings =>
      have rendered : (bindings.render .client {} ∅).result =
          .ok (Rendering.written (Rendering.clientLayout.parts bindings)) :=
        Bindings.result_render_of_layout rfl fun _ listed =>
          absurd listed List.not_mem_nil
      rw [Outcome.bind_eq_ok] at ran
      obtain ⟨doc, read, assembled⟩ := ran
      rw [Outcome.mapError_eq_ok] at assembled
      exact ⟨⟨bindings, _, "out/orchard.ts"⟩, ⟨{}, doc, {}, rfl, read, assembled,
        rfl, rendered, rfl⟩, rfl⟩

/-- The directory for the text is made, and there is nothing in it. -/
theorem made_orchard :
    ∃ made place, orchard.createDirectories "out" = (true, made) ∧
      made.locate? "out/orchard.ts" = some place ∧
      made.node? place ≠ some .directory := by
  refine ⟨_, ["home", "out", "orchard.ts"], Prod.ext ?_ rfl, ?_, ?_⟩ <;>
    decide +kernel

theorem orchard_written_or_kept :
    (effect (.generate (some "grove.yaml") none) orchard).1.failure =
        some (.unreadable "grove.yaml") ∧
      (effect (.generate (some "grove.yaml") none) orchard).2 = orchard ∧
      ∃ report after g,
        effect (.generate (some "orchard.yaml") (some "out/orchard.ts")) orchard =
          (report, after) ∧
        report.failure = none ∧
        Rendered orchard (some "orchard.yaml") (some "out/orchard.ts") g ∧
        orchard.WritesOnly after g.output g.text := by
  have sound := (generate_changes_only_its_output orchard).1
  refine ⟨rfl, (sound (some "grove.yaml") none _ _ rfl).1 _ rfl rfl, ?_⟩
  obtain ⟨g, rendered, meant⟩ := rendered_orchard
  obtain ⟨made, place, created, located, free⟩ := made_orchard
  have above : Path.parent "out/orchard.ts" = "out" := by decide +kernel
  rw [← above, ← meant] at created
  rw [← meant] at located
  have ran := effect_generate (some "orchard.yaml") (some "out/orchard.ts") orchard
  rw [prepare_eq_ok.mpr rendered] at ran
  simp only [run_save_of_free (meant ▸ above ▸ by decide) created located free]
    at ran
  obtain ⟨g', rendered, only⟩ := (sound _ _ _ _ ran).2.2 rfl
  exact ⟨_, _, g', ran, rfl, rendered, only⟩

end Command

end ApiBindings
