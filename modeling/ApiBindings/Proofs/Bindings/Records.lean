import ApiBindings.Proofs.Bindings.Assembly

/-!
Bindings are determined by their description, methods and definitions. An
assembly that changes the methods one by one, or leaves some out, gives the
bindings of the changed records.
-/

namespace ApiBindings

namespace Bindings

def ofRecords (info : BindingsInfo) (methods : List Method)
    (definitions : List TypeDeclaration) : Bindings :=
  definitions.foldl addDefinition (methods.foldl addMethod { info })

/-- The bindings of the methods that are kept, some of them changed. -/
def filterMapMethods (keep : Method → Option Method) (b : Bindings) : Bindings :=
  ofRecords b.info (b.methods.filterMap keep) b.definitions

def needs (mechanism : SecurityFlags → Bool) (m : Method) : Bool :=
  m.security.isSecure && mechanism m.security

theorem foldl_absorb (ms : List Method) (flags : SecurityFlags) :
    ms.foldl (fun flags m => flags.absorb m.security) flags =
      { flags with
        token := flags.token || ms.any (needs (·.token))
        apiKey := flags.apiKey || ms.any (needs (·.apiKey))
        basic := flags.basic || ms.any (needs (·.basic)) } := by
  induction ms generalizing flags with
  | nil => simp
  | cons m ms induction =>
      rw [List.foldl_cons, induction]
      cases secure : m.security.isSecure with
      | false => simp [SecurityFlags.absorb, needs, secure]
      | true =>
          simp [SecurityFlags.absorb, needs, secure, Bool.or_assoc]

variable (info : BindingsInfo) (methods : List Method)
  (definitions : List TypeDeclaration)

theorem ofRecords_eq :
    ofRecords info methods definitions =
      { info
        security :=
          { token := methods.any (needs (·.token))
            apiKey := methods.any (needs (·.apiKey))
            basic := methods.any (needs (·.basic)) }
        methods
        definitions
        imports :=
          (importNames (methods.flatMap Method.importTargets ++
            definitions.flatMap (·.type.importTarget.toList))).eraseDups } := by
  have imported := foldl_addImport [] (methods.flatMap Method.importTargets ++
    definitions.flatMap (·.type.importTarget.toList))
  rw [List.eraseDups_nil, List.nil_append, List.foldl_append] at imported
  rw [ofRecords, foldl_addMethod, foldl_addDefinition, foldl_absorb]
  simp [imported]

@[simp] theorem info_ofRecords :
    (ofRecords info methods definitions).info = info := by
  rw [ofRecords_eq]

@[simp] theorem methods_ofRecords :
    (ofRecords info methods definitions).methods = methods := by
  rw [ofRecords_eq]

@[simp] theorem definitions_ofRecords :
    (ofRecords info methods definitions).definitions = definitions := by
  rw [ofRecords_eq]

end Bindings

namespace Document

theorem result_bindings_ofRecords (doc : Document) (options : Options) :
    (doc.bindings options).result =
      if doc.version = supportedVersion then do
        let methods ← doc.routes.filterMapM (doc.methodOf options)
        let declarations ← doc.definitions.entries.mapM doc.declarationOf
        return .ofRecords (doc.bindingsInfo options) methods declarations
      else .error (.unsupportedVersion doc.version) :=
  result_bindings doc options

variable {doc changed : Document} {options other : Options}

theorem eq_ofRecords_of_bindings {b : Bindings}
    (ok : (doc.bindings options).result = .ok b) :
    b = .ofRecords b.info b.methods b.definitions := by
  obtain ⟨_, outcomes, declarations, _, _, rfl⟩ := result_bindings_eq_ok.mp ok
  rw [← Bindings.ofRecords]
  simp

/-- Assemblies of one description and the same definitions, of which one
changes or leaves out the methods of the other. -/
theorem result_bindings_filterMapMethods (keep : Method → Option Method)
    (version : changed.version = doc.version)
    (info : changed.bindingsInfo other = doc.bindingsInfo options)
    (declared : changed.definitions.entries.mapM changed.declarationOf =
      doc.definitions.entries.mapM doc.declarationOf)
    (methods : changed.routes.filterMapM (changed.methodOf other) =
      (doc.routes.filterMapM (doc.methodOf options)).map
        (List.filterMap keep)) :
    (changed.bindings other).result =
      (doc.bindings options).result.map (Bindings.filterMapMethods keep) := by
  rw [result_bindings_ofRecords, result_bindings_ofRecords, version, info,
    declared, methods]
  by_cases supported : doc.version = supportedVersion
  · rw [if_pos supported, if_pos supported]
    cases doc.routes.filterMapM (doc.methodOf options) with
    | error e => rfl
    | ok kept =>
        cases doc.definitions.entries.mapM doc.declarationOf with
        | error e => rfl
        | ok declarations =>
            simp [Bindings.filterMapMethods, pure, Except.pure]
  · rw [if_neg supported, if_neg supported]
    rfl

end Document

end ApiBindings
