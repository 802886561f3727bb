import ApiBindings.Proofs.Bindings.Records

/-!
The mechanisms of authentication. The lists of requirements are merged entry by
entry, but all that counts is which schemes they name: a mechanism is needed if
some scheme of its kind is named anywhere in them.
-/

namespace ApiBindings

def SecurityFlags.has (f : SecurityFlags) : SchemeType → Bool
  | .oauth2 => f.token
  | .apiKey => f.apiKey
  | .basic => f.basic

namespace Security

def Names (requirements : Option (List Requirement)) (name : String) : Prop :=
  ∃ rs ∈ requirements, ∃ r ∈ rs, name ∈ r.keys

variable {doc : Document} {op : Operation} {name : String} {k : SchemeType}

theorem any_mergeRequirements (document operation : List Requirement) :
    (mergeRequirements document operation).any (·.contains name) = true ↔
      (∃ r ∈ document, name ∈ r.keys) ∨ ∃ r ∈ operation, name ∈ r.keys := by
  induction document, operation using mergeRequirements.induct with
  | case1 operation => simp [mergeRequirements]
  | case2 document => cases document <;> simp [mergeRequirements]
  | case3 d document o operation induction =>
      rw [mergeRequirements, List.any_cons, Bool.or_eq_true, induction]
      simp only [List.contains_iff_mem, List.mem_append, List.exists_mem_cons_iff]
      exact or_or_or_comm

theorem names_iff (requirements : Option (List Requirement)) :
    Names requirements name ↔ ∃ r ∈ requirements.getD [], name ∈ r.keys := by
  cases requirements <;> simp [Names]

theorem has_addScheme (flags : SecurityFlags) (type : SchemeType) :
    (addScheme flags type).has k = (flags.has k || decide (type = k)) := by
  cases type <;> cases k <;> simp [addScheme, SecurityFlags.has]

theorem isSecure_addScheme (flags : SecurityFlags) (type : SchemeType) :
    (addScheme flags type).isSecure = flags.isSecure := by
  cases type <;> rfl

section Schemes

variable (used : String → Bool) (schemes : List (String × SecurityScheme))
  (start : SecurityFlags)

def addSchemes : SecurityFlags :=
  schemes.foldl (fun flags (name, scheme) =>
    if used name then addScheme flags scheme.type else flags) start

theorem has_addSchemes :
    (addSchemes used schemes start).has k =
      (start.has k || schemes.any fun e => decide (e.2.type = k) && used e.1) := by
  unfold addSchemes
  induction schemes generalizing start with
  | nil => simp
  | cons e schemes induction =>
      rw [List.foldl_cons, induction]
      cases use : used e.1 <;> simp [use, has_addScheme, Bool.or_assoc]

theorem isSecure_addSchemes :
    (addSchemes used schemes start).isSecure = start.isSecure := by
  unfold addSchemes
  induction schemes generalizing start with
  | nil => rfl
  | cons e schemes induction =>
      rw [List.foldl_cons, induction]
      cases use : used e.1 <;> simp [use, isSecure_addScheme]

end Schemes

theorem flags_eq (doc : Document) (op : Operation) :
    flags doc op =
      addSchemes
        (fun name => (mergeRequirements (doc.security.getD [])
          (op.security.getD [])).any (·.contains name))
        (doc.securityDefinitions.elim [] OrderedMap.entries)
        { isSecure := doc.security.isSome || op.security.isSome } := by
  unfold flags
  cases doc.securityDefinitions <;> rfl

theorem isSecure_flags :
    (flags doc op).isSecure = true ↔
      doc.security.isSome = true ∨ op.security.isSome = true := by
  rw [flags_eq, isSecure_addSchemes, Bool.or_eq_true]

theorem has_flags :
    (flags doc op).has k = true ↔
      ∃ schemes ∈ doc.securityDefinitions, ∃ e ∈ schemes.entries,
        e.2.type = k ∧ (Names doc.security e.1 ∨ Names op.security e.1) := by
  have start : SecurityFlags.has
      { isSecure := doc.security.isSome || op.security.isSome } k = false := by
    cases k <;> rfl
  rw [flags_eq, has_addSchemes, start, Bool.false_or, List.any_eq_true]
  simp only [Bool.and_eq_true, decide_eq_true_eq, any_mergeRequirements,
    names_iff]
  cases doc.securityDefinitions <;> simp

theorem secure_of_names {requirements : Option (List Requirement)}
    (named : Names requirements name) : requirements.isSome = true := by
  obtain ⟨rs, given, _⟩ := named
  exact Option.isSome_of_mem given

/-- The guard of `SecurityFlags.absorb` never stops a mechanism. -/
theorem isSecure_of_has (needed : (flags doc op).has k = true) :
    (flags doc op).isSecure = true := by
  obtain ⟨_, _, e, _, _, named⟩ := has_flags.mp needed
  exact isSecure_flags.mpr (named.imp secure_of_names secure_of_names)

end Security

namespace Document

variable {doc : Document} {options : Options} {b : Bindings} {m : Method}

theorem security_of_mem_methods (assembled : doc.Assembled options b)
    (member : m ∈ b.methods) :
    ∃ r ∈ doc.keptRoutes options,
      m.security = Security.flags doc r.operation := by
  obtain ⟨r, kept, arguments, _, rfl⟩ :=
    exists_of_mem_right assembled.methods member
  exact ⟨r, kept, rfl⟩

theorem has_security (ok : (doc.bindings options).result = .ok b)
    (k : SchemeType) :
    b.security.has k = true ↔ ∃ m ∈ b.methods, m.security.has k = true := by
  have needed : b.security.has k = b.methods.any (Bindings.needs (·.has k)) := by
    rw [eq_ofRecords_of_bindings ok, Bindings.ofRecords_eq]
    cases k <;> rfl
  rw [needed, List.any_eq_true]
  refine exists_congr fun m => and_congr_right fun member => ?_
  obtain ⟨r, _, same⟩ :=
    security_of_mem_methods (assembled_of_bindings ok) member
  rw [Bindings.needs, Bool.and_eq_true, same]
  exact and_iff_right_of_imp Security.isSecure_of_has

end Document

namespace Security

/-- An operation is secure as soon as a list of requirements is there, and needs
the mechanisms of the schemes that the lists name. How the names are spread over
the lists does not matter, and the bindings need what their methods need. -/
theorem flags_follow_the_requirements (doc : Document) (op : Operation) :
    ((flags doc op).isSecure = true ↔
      doc.security.isSome = true ∨ op.security.isSome = true) ∧
    (∀ k, (flags doc op).has k = true ↔
      ∃ schemes ∈ doc.securityDefinitions, ∃ e ∈ schemes.entries,
        e.2.type = k ∧ (Names doc.security e.1 ∨ Names op.security e.1)) ∧
    (∀ document operation : Option (List Requirement),
      (∀ name, Names document name ∨ Names operation name ↔
        Names doc.security name ∨ Names op.security name) →
      ∀ k, (flags { doc with security := document }
          { op with security := operation }).has k = (flags doc op).has k) ∧
    (∀ k, (flags doc op).has k = true → (flags doc op).isSecure = true) ∧
    ∀ options b, (doc.bindings options).result = .ok b → ∀ k,
      b.security.has k = true ↔ ∃ m ∈ b.methods, m.security.has k = true := by
  refine ⟨isSecure_flags, fun _ => has_flags, ?_, fun _ => isSecure_of_has,
    fun _ _ ok k => Document.has_security ok k⟩
  intro document operation same k
  rw [Bool.eq_iff_iff, has_flags, has_flags]
  simp only [same]

/-- The second requirement names a scheme that is not defined. -/
def opening : Operation :=
  { operationId := some "open"
    security := some [∅, ⟨[("key", []), ("ghost", [])], by simp⟩] }

def vault : Document :=
  { version := Document.supportedVersion
    info := { title := "Vault", version := "1" }
    paths :=
      ⟨[("/vault", { operations := ⟨[(.post, opening)], by simp⟩ })], by simp⟩
    securityDefinitions :=
      some ⟨[("login", { type := .oauth2 }), ("key", { type := .apiKey }),
        ("staff", { type := .basic })], by simp⟩
    security := some [⟨[("login", [])], by simp⟩] }

theorem succeeds_vault : (vault.bindings {}).Succeeds := by
  rw [Document.succeeds_bindings]
  refine ⟨rfl, ?_, nofun⟩
  intro r listed use used
  obtain rfl : r = ⟨"/vault", .post, opening, []⟩ := by
    simpa [Document.routes, vault] using listed
  cases used

/-- The operation takes over the list of the document, and the document that of
the operation. -/
theorem vault_needs_login_and_key :
    (∀ k, (flags { vault with security := opening.security }
        { opening with security := vault.security }).has k =
          (flags vault opening).has k) ∧
      flags vault opening =
        { isSecure := true, token := true, apiKey := true, basic := false } ∧
      ∃ b, (vault.bindings {}).result = .ok b ∧ b.security.has .apiKey = true := by
  obtain ⟨_, _, spread, _, whole⟩ := flags_follow_the_requirements vault opening
  obtain ⟨b, ok⟩ := succeeds_vault
  have needs : flags vault opening =
      { isSecure := true, token := true, apiKey := true, basic := false } := by
    decide
  obtain ⟨m, _, ⟨arguments, _, rfl⟩, _, listed⟩ :=
    List.forall₂_cons_left_iff.mp (Document.assembled_of_bindings ok).methods
  refine ⟨spread _ _ fun _ => or_comm, needs, b, ok,
    (whole {} b ok .apiKey).mpr ⟨_, by rw [listed]; exact .head _, ?_⟩⟩
  exact congrArg (SecurityFlags.has · .apiKey) needs

end Security

end ApiBindings
