import ApiBindings.Proofs.Bindings.Assembly
import ApiBindings.Proofs.Conversion.Steps
import ApiBindings.Proofs.Naming
import ApiBindings.Proofs.Rendering.Parts

/-!
The address of a request is written as a template literal in which arguments
stand for the placeholders of the path. It says what the path says if the path
is plain and its placeholders are names of arguments that need no quotes.
-/

namespace ApiBindings

/-- A path and the literal for it are read as signs and names of arguments. -/
inductive UrlPart
  | sign (c : Char)
  | argument (name : String)
  deriving DecidableEq

namespace UrlPart

/-- The parts of a path. The first argument holds what has been read of a
placeholder, backwards. -/
def readFrom : Option (List Char) → List Char → List UrlPart
  | none, [] => []
  | some name, [] => ('\x7b' :: name.reverse).map sign
  | none, c :: cs =>
    if c = '\x7b' then readFrom (some []) cs else sign c :: readFrom none cs
  | some name, c :: cs =>
    if c = '\x7d' then
      argument (String.ofList name.reverse) :: readFrom none cs
    else readFrom (some (c :: name)) cs

def ofPath (path : String) : List UrlPart := readFrom none path.toList

def inPath : UrlPart → List Char
  | sign c => [c]
  | argument name => '\x7b' :: (name.toList ++ ['\x7d'])

/-- A part of a path that stands for itself in a template literal. -/
def Plain : UrlPart → Prop
  | sign c => c ∉ ['\x60', '\\', '\r', '\x7b']
  | argument name => ∀ c ∈ name.toList, c ≠ '\x7b' ∧ c ≠ '\x7d'

def value (values : String → String) : UrlPart → List Char
  | sign c => [c]
  | argument name => (values name).toList

/-- How a template literal is read, between its quotes. A sign must not end the
literal or change what stands for it, and no dollar and brace may stand next to
each other but for a reference. -/
inductive Reads : List Char → List UrlPart → Prop
  | nil : Reads [] []
  -- A backtick ends the literal, a backslash is an escape, and a carriage
  -- return is read as the end of a line.
  | sign {c : Char} {rest : List Char} {parts : List UrlPart}
      (plain : c ∉ ['\x60', '\\', '\r'])
      (apart : c = '$' → rest.head? ≠ some '\x7b') (read : Reads rest parts) :
      Reads (c :: rest) (.sign c :: parts)
  | argument {name : String} {rest : List Char} {parts : List UrlPart}
      (closed : ∀ c ∈ name.toList, c ≠ '\x7b' ∧ c ≠ '\x7d')
      (read : Reads rest parts) :
      Reads ("$\x7bparameters.".toList ++ (name.toList ++ '\x7d' :: rest))
        (.argument name :: parts)

def rewritten (cs : List Char) : List Char :=
  cs.flatMap fun c => if c = '\x7b' then "$\x7bparameters.".toList else [c]

theorem toList_pathTemplate (path : String) :
    (pathTemplate path).toList = rewritten path.toList :=
  String.toList_ofList

section Rewritten

variable {c : Char} {cs name rest : List Char}

@[simp] theorem rewritten_brace :
    rewritten ('\x7b' :: cs) = "$\x7bparameters.".toList ++ rewritten cs := by
  rw [rewritten, List.flatMap_cons, if_pos rfl, rewritten]

theorem rewritten_cons (other : c ≠ '\x7b') :
    rewritten (c :: cs) = c :: rewritten cs := by
  rw [rewritten, List.flatMap_cons, if_neg other, rewritten,
    List.singleton_append]

theorem rewritten_append :
    rewritten (cs ++ rest) = rewritten cs ++ rewritten rest :=
  List.flatMap_append

theorem rewritten_closed (closed : ∀ c ∈ name, c ≠ '\x7b') :
    rewritten name = name := by
  induction name with
  | nil => rfl
  | cons c name induction =>
      rw [List.forall_mem_cons] at closed
      rw [rewritten_cons closed.1, induction closed.2]

/-- A rewritten path begins with a sign of its own or with a reference. -/
theorem rewritten_eq_cons (begins : rewritten cs = c :: rest) :
    (∃ more, cs = '\x7b' :: more ∧ c = '$' ∧
      rest = "\x7bparameters.".toList ++ rewritten more) ∨
    ∃ more, cs = c :: more ∧ c ≠ '\x7b' ∧ rest = rewritten more := by
  cases cs with
  | nil => nomatch begins
  | cons d cs =>
      by_cases brace : d = '\x7b'
      · subst brace
        rw [rewritten_brace] at begins
        obtain ⟨rfl, rfl⟩ := List.cons.inj begins
        exact .inl ⟨cs, rfl, rfl, rfl⟩
      · rw [rewritten_cons brace] at begins
        obtain ⟨rfl, rfl⟩ := List.cons.inj begins
        exact .inr ⟨cs, rfl, brace, rfl⟩

theorem head?_rewritten (cs : List Char) :
    (rewritten cs).head? ≠ some '\x7b' := by
  cases begins : rewritten cs with
  | nil => nofun
  | cons c rest =>
      rcases rewritten_eq_cons begins with ⟨_, _, rfl, _⟩ | ⟨_, _, other, _⟩
      · simp
      · simpa using other

theorem rewritten_eq_append (closed : ∀ c ∈ name, c ≠ '\x7b')
    (begins : rewritten cs = name ++ '\x7d' :: rest) :
    ∃ more, cs = name ++ '\x7d' :: more ∧ rest = rewritten more := by
  -- A brace in the path would show in the name.
  induction name generalizing cs with
  | nil =>
      rcases rewritten_eq_cons begins with ⟨_, _, other, _⟩ | ⟨more, rfl, _, same⟩
      · simp at other
      · exact ⟨more, rfl, same⟩
  | cons c name induction =>
      rw [List.forall_mem_cons] at closed
      rcases rewritten_eq_cons begins with ⟨_, _, _, brace⟩ | ⟨more, rfl, _, same⟩
      · cases name with
        | nil => nomatch brace
        | cons d name => exact absurd (List.cons.inj brace).1 (closed.2 d (.head _))
      · obtain ⟨last, rfl, read⟩ := induction closed.2 same.symm
        exact ⟨last, rfl, read⟩

end Rewritten

theorem reads_rewritten {parts : List UrlPart} (plain : ∀ p ∈ parts, p.Plain) :
    Reads (rewritten (parts.flatMap inPath)) parts := by
  induction parts with
  | nil => exact .nil
  | cons p parts induction =>
      rw [List.forall_mem_cons] at plain
      obtain ⟨first, others⟩ := plain
      have rest := induction others
      cases p with
      | sign c =>
          simp only [Plain, List.mem_cons, not_or] at first
          rw [List.flatMap_cons, inPath, List.singleton_append,
            rewritten_cons (by simp [first])]
          exact .sign (by simp [first]) (fun _ => head?_rewritten _) rest
      | argument name =>
          rw [List.flatMap_cons, inPath, List.cons_append, rewritten_brace,
            List.append_assoc, rewritten_append,
            rewritten_closed fun c listed => (first c listed).1,
            List.singleton_append, rewritten_cons (by decide)]
          exact .argument first rest

/-- There is only one path behind what is read, and it is plain. -/
theorem eq_of_reads_rewritten {text : List Char} {parts : List UrlPart}
    (read : Reads text parts) {cs : List Char} (same : rewritten cs = text) :
    cs = parts.flatMap inPath ∧ ∀ p ∈ parts, p.Plain := by
  induction read generalizing cs with
  | nil =>
      cases cs with
      | nil => exact ⟨rfl, nofun⟩
      | cons c cs =>
          by_cases brace : c = '\x7b'
          · rw [brace, rewritten_brace] at same
            nomatch same
          · rw [rewritten_cons brace] at same
            nomatch same
  | sign plain apart read induction =>
      rcases rewritten_eq_cons same with ⟨_, _, dollar, opens⟩ |
        ⟨more, rfl, other, rewrites⟩
      · exact absurd (opens ▸ rfl) (apart dollar)
      · obtain ⟨rfl, others⟩ := induction rewrites.symm
        refine ⟨rfl, List.forall_mem_cons.mpr ⟨?_, others⟩⟩
        simp only [List.mem_cons, not_or] at plain
        simp [Plain, plain, other]
  | argument closed read induction =>
      rcases rewritten_eq_cons same with ⟨more, rfl, _, opens⟩ |
        ⟨more, _, _, rewrites⟩
      · obtain ⟨last, rfl, rewrites⟩ :=
          rewritten_eq_append (fun c listed => (closed c listed).1)
            (List.append_cancel_left opens).symm
        obtain ⟨rfl, others⟩ := induction rewrites.symm
        exact ⟨by simp [inPath], List.forall_mem_cons.mpr ⟨closed, others⟩⟩
      · exact absurd (rewrites ▸ rfl) (head?_rewritten more)

theorem flatMap_inPath_sign (cs : List Char) :
    (cs.map sign).flatMap inPath = cs := by
  rw [List.flatMap_map]
  exact List.flatMap_singleton' cs

/-- Nothing of a path is lost in its parts. -/
theorem flatMap_readFrom (cs : List Char) :
    (readFrom none cs).flatMap inPath = cs ∧
      ∀ name, (readFrom (some name) cs).flatMap inPath =
        '\x7b' :: (name.reverse ++ cs) := by
  induction cs with
  | nil =>
      refine ⟨rfl, fun name => ?_⟩
      rw [readFrom, flatMap_inPath_sign, List.append_nil]
  | cons c cs induction =>
      refine ⟨?_, fun name => ?_⟩
      · rw [readFrom]
        split
        next brace => rw [induction.2, brace]; rfl
        next => rw [List.flatMap_cons, induction.1]; rfl
      · rw [readFrom]
        split
        next brace =>
          rw [List.flatMap_cons, induction.1, inPath, String.toList_ofList,
            brace]
          simp
        next =>
          rw [induction.2]
          simp

theorem readFrom_name {acc name rest : List Char}
    (closed : ∀ c ∈ name, c ≠ '\x7d') :
    readFrom (some acc) (name ++ '\x7d' :: rest) =
      argument (String.ofList (acc.reverse ++ name)) :: readFrom none rest := by
  induction name generalizing acc with
  | nil => simp [readFrom]
  | cons c name induction =>
      rw [List.forall_mem_cons] at closed
      rw [List.cons_append, readFrom, if_neg closed.1, induction closed.2,
        List.reverse_cons, List.append_assoc, List.singleton_append]

theorem readFrom_inPath {parts : List UrlPart} (plain : ∀ p ∈ parts, p.Plain) :
    readFrom none (parts.flatMap inPath) = parts := by
  induction parts with
  | nil => rfl
  | cons p parts induction =>
      rw [List.forall_mem_cons] at plain
      rw [List.flatMap_cons]
      cases p with
      | sign c =>
          have other : c ≠ '\x7b' := by
            rintro rfl
            exact plain.1 (by simp)
          rw [inPath, List.singleton_append, readFrom, if_neg other,
            induction plain.2]
      | argument name =>
          rw [inPath, List.cons_append, readFrom, if_pos rfl,
            List.append_assoc, List.singleton_append,
            readFrom_name fun c listed => (plain.1 c listed).2,
            induction plain.2]
          simp

theorem reads_pathTemplate {path : String} {parts : List UrlPart} :
    Reads (pathTemplate path).toList parts ↔
      parts = ofPath path ∧ ∀ p ∈ parts, p.Plain := by
  rw [toList_pathTemplate]
  constructor
  · intro read
    obtain ⟨spelled, plain⟩ := eq_of_reads_rewritten read rfl
    exact ⟨by rw [ofPath, spelled, readFrom_inPath plain], plain⟩
  · rintro ⟨rfl, plain⟩
    have read := reads_rewritten plain
    rwa [ofPath, (flatMap_readFrom _).1] at read

end UrlPart

def fill (values : String → String) (path : String) : List Char :=
  (UrlPart.ofPath path).flatMap (UrlPart.value values)

/-- The literal of a method refers to arguments that stand in the signature
under these very names, and it gives the path with their values put in. -/
def Method.UrlFollowsSignature (m : Method) : Prop :=
  ∃ parts, UrlPart.Reads m.pathTemplate.toList parts ∧
    (∀ name, .argument name ∈ parts →
      ∃ a ∈ m.arguments, a.name = name ∧ Naming.propertyKey a.name = name) ∧
    ∀ values, parts.flatMap (UrlPart.value values) = fill values m.path

namespace Document

open Rendering

variable {doc : Document} {options : Options} {r : Route} {m : Method}
  {b : Bindings}

/-- The signs of the path are plain, and its placeholders are names of kept
parameters that need no quotes. -/
def Route.HasPlainPath (doc : Document) (r : Route) : Prop :=
  (∀ p ∈ UrlPart.ofPath r.path, p.Plain) ∧
    ∀ name, .argument name ∈ UrlPart.ofPath r.path →
      Naming.isBareKey name.toList = true ∧
        ∃ p ∈ doc.keptParameters r, p.name = name

theorem urlFollowsSignature_iff (described : doc.Describes options r m) :
    m.UrlFollowsSignature ↔ r.HasPlainPath doc := by
  obtain ⟨arguments, given, rfl⟩ := described
  constructor
  · rintro ⟨parts, read, known, -⟩
    obtain ⟨rfl, plain⟩ := UrlPart.reads_pathTemplate.mp read
    refine ⟨plain, fun name listed => ?_⟩
    obtain ⟨a, taken, rfl, bare⟩ := known name listed
    obtain ⟨p, kept, t, _, rfl⟩ := exists_of_mem_right given taken
    exact ⟨Naming.propertyKey_eq_self.mp bare, p, kept, rfl⟩
  · rintro ⟨plain, known⟩
    refine ⟨_, UrlPart.reads_pathTemplate.mpr ⟨rfl, plain⟩,
      fun name listed => ?_, fun _ => rfl⟩
    obtain ⟨bare, p, kept, rfl⟩ := known name listed
    obtain ⟨_, taken, t, _, rfl⟩ := exists_of_mem_left given kept
    exact ⟨_, taken, rfl, Naming.propertyKey_eq_self.mpr bare⟩

/-- The address stands between the quotes of a template literal. -/
theorem exists_sendCode (m : Method) :
    ∃ before after, sendCode m =
      before ++ "',\n      url: this.domain + `" ++ m.pathTemplate ++
        "`,\n      query,\n      headers,\n" ++ after := by
  unfold sendCode
  exact ⟨_, _, by rw [String.append_assoc, String.append_assoc,
    String.append_assoc, String.append_assoc]⟩

/-- The literal in the code of a method follows the signature just if the path
of its route is plain. -/
theorem urls_follow_signatures_iff
    (ok : (doc.bindings options).result = .ok b) :
    List.Forall₂ (fun r m => m.path = r.path ∧
      (∃ before after, sendCode m =
        before ++ "',\n      url: this.domain + `" ++ m.pathTemplate ++
          "`,\n      query,\n      headers,\n" ++ after) ∧
      (m.UrlFollowsSignature ↔ r.HasPlainPath doc))
      (doc.keptRoutes options) b.methods := by
  refine (assembled_of_bindings ok).methods.imp fun r m described => ?_
  refine ⟨?_, exists_sendCode m, urlFollowsSignature_iff described⟩
  obtain ⟨_, _, rfl⟩ := described
  rfl

def named (name : String) : Parameter :=
  { name, location := .path, type := some .string, required := true }

/-- A path with one placeholder, and a parameter of the path with its name. -/
def clinic (name : String) : Document :=
  { version := supportedVersion
    info := { title := "Clinic", version := "1" }
    paths :=
      ⟨[("/pets/\x7b" ++ name ++ "\x7d",
          { operations := ⟨[(.get, { parameters := [.inline (named name)] })],
              by simp⟩ })], by simp⟩ }

theorem toType_named (doc : Document) (name : String) :
    ((named name).typeSchema.toType doc).result =
      .ok (TypeExpr.primitive "string") := by
  rw [Schema.toType, Conversion.convert_of_primitive rfl]
  rfl

theorem succeeds_clinic (name : String) :
    ((clinic name).bindings {}).Succeeds := by
  rw [succeeds_bindings]
  refine ⟨rfl, ?_, nofun⟩
  intro r listed use used
  obtain rfl : r = ⟨"/pets/\x7b" ++ name ++ "\x7d", .get,
      { parameters := [.inline (named name)] }, []⟩ := by
    simpa [routes, clinic] using listed
  obtain rfl : use = .inline (named name) := by
    simpa [Route.uses] using used
  rw [succeeds_argument]
  refine ⟨_, rfl, ?_⟩
  rintro p ⟨⟩
  exact ⟨_, toType_named _ name⟩

theorem keptRoutes_clinic (name : String) :
    (clinic name).keptRoutes {} =
      [⟨"/pets/\x7b" ++ name ++ "\x7d", .get,
        { parameters := [.inline (named name)] }, []⟩] := rfl

theorem methods_clinic {name : String}
    (assembled : (clinic name).Assembled {} b) :
    ∃ m a, b.methods = [m] ∧ m.arguments = [a] ∧ a.name = name ∧
      m.pathTemplate = pathTemplate ("/pets/\x7b" ++ name ++ "\x7d") := by
  have methods := assembled.methods
  rw [keptRoutes_clinic] at methods
  obtain ⟨m, _, ⟨arguments, given, rfl⟩, ⟨⟩, only⟩ :=
    List.forall₂_cons_left_iff.mp methods
  obtain ⟨a, _, ⟨t, _, rfl⟩, ⟨⟩, rfl⟩ := List.forall₂_cons_left_iff.mp given
  exact ⟨_, _, only, rfl, rfl, rfl⟩

theorem clinic_url_follows :
    ∃ b, ((clinic "petId").bindings {}).result = .ok b ∧
      ∃ m, b.methods = [m] ∧
        m.pathTemplate = "/pets/$\x7bparameters.petId\x7d" ∧
        m.UrlFollowsSignature := by
  obtain ⟨b, ok⟩ := succeeds_clinic "petId"
  obtain ⟨m, _, only, _, _, literal⟩ := methods_clinic (assembled_of_bindings ok)
  have all := urls_follow_signatures_iff ok
  rw [only, keptRoutes_clinic] at all
  obtain ⟨⟨_, _, follows⟩, _⟩ := List.forall₂_cons.mp all
  refine ⟨b, ok, m, only, by rw [literal]; decide, follows.mpr ?_⟩
  have parts : UrlPart.ofPath ("/pets/\x7b" ++ "petId" ++ "\x7d") =
      [.sign '/', .sign 'p', .sign 'e', .sign 't', .sign 's', .sign '/',
        .argument "petId"] := by
    decide
  rw [Route.HasPlainPath, parts]
  refine ⟨by simp [UrlPart.Plain], fun name listed => ?_⟩
  obtain rfl : name = "petId" := by simpa using listed
  exact ⟨by decide, named "petId", .head _, rfl⟩

/-- The dash makes the reference a difference. -/
theorem clinic_url_misses :
    ∃ b, ((clinic "pet-id").bindings {}).result = .ok b ∧
      ∃ m, b.methods = [m] ∧
        m.pathTemplate = "/pets/$\x7bparameters.pet-id\x7d" ∧
        m.arguments.map (Naming.propertyKey ·.name) = ["\"pet-id\""] ∧
        ¬ m.UrlFollowsSignature := by
  obtain ⟨b, ok⟩ := succeeds_clinic "pet-id"
  obtain ⟨m, a, only, taken, name, literal⟩ :=
    methods_clinic (assembled_of_bindings ok)
  refine ⟨b, ok, m, only, ?_, ?_, ?_⟩
  · rw [literal]
    decide
  · rw [taken, List.map_singleton, name]
    decide
  · rintro ⟨parts, read, known, -⟩
    rw [literal] at read
    obtain ⟨rfl, _⟩ := UrlPart.reads_pathTemplate.mp read
    obtain ⟨other, listed, _, bare⟩ := known "pet-id" (by decide)
    rw [taken, List.mem_singleton] at listed
    rw [listed, name] at bare
    revert bare
    decide

end Document

end ApiBindings
