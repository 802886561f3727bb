import ApiBindings.Proofs.Document.Verb
import ApiBindings.Proofs.Naming.Identifiers
import ApiBindings.Proofs.Text.Cutting

/-!
The names of operations that have none of their own. Such a name is made of the
verb and of the parts of the path, and the verb can be read off it.
-/

namespace ApiBindings.Naming

open Text (isAscii words lowerCamel capitalizeFirst joinWith dropPrefix? dropSuffix?)

/-- The parts between slashes that are not empty. -/
def segments (path : List Char) : List (List Char) :=
  (path.splitOn '/').filter (· ≠ [])

variable {c : Char} {path other rest segment : List Char}

theorem segments_append (left right : List Char) :
    segments (left ++ '/' :: right) = segments left ++ segments right := by
  rw [segments, List.splitOn_append_cons_self, List.filter_append, segments,
    segments]

theorem segments_withoutLast (path : List Char) :
    segments ((dropSuffix? ['/'] path).getD path) = segments path := by
  cases found : dropSuffix? ['/'] path with
  | none => rfl
  | some rest =>
      rw [Text.eq_append_of_dropSuffix? found, segments_append]
      exact (List.append_nil _).symm

theorem segments_withoutFirst (path : List Char) :
    segments ((dropPrefix? ['/'] path).getD path) = segments path := by
  cases found : dropPrefix? ['/'] path with
  | none => rfl
  | some rest =>
      rw [Text.eq_append_of_dropPrefix? found]
      exact (segments_append [] rest).symm

theorem flatMap_filter_ne_nil {α β : Type} {f : List α → List β}
    (nothing : f [] = []) (parts : List (List α)) :
    (parts.filter (· ≠ [])).flatMap f = parts.flatMap f := by
  induction parts with
  | nil => rfl
  | cons part parts induction =>
      cases part with
      | nil =>
          rw [List.filter_cons_of_neg (by simp), induction, List.flatMap_cons,
            nothing, List.nil_append]
      | cons c part =>
          rw [List.filter_cons_of_pos (by simp), List.flatMap_cons, induction,
            List.flatMap_cons]

/-- An empty segment has no words, wherever it stands. -/
theorem words_pathWords (path : List Char) :
    words (pathWords path) =
      (segments path).flatMap fun segment => words (segmentWords segment) := by
  rw [pathWords, Text.words_joinWith (by decide), Text.splitAt_eq_splitOn,
    List.flatMap_map, ← flatMap_filter_ne_nil rfl, ← segments,
    segments_withoutFirst, segments_withoutLast]

theorem methodName_eq (verb : Verb) (path : String) :
    methodName verb path = String.ofList (verb.lower ++ capitalizeFirst
      (lowerCamel (joinWith ['-'] ((segments path.toList).map segmentWords)))) := by
  have camel : lowerCamel (pathWords path.toList) =
      lowerCamel (joinWith ['-'] ((segments path.toList).map segmentWords)) := by
    apply Text.lowerCamel_congr
    rw [words_pathWords, Text.words_joinWith (by decide), List.flatMap_map]
  rw [methodName, ← camel]
  split
  next root =>
    have nothing : lowerCamel (pathWords path.toList) = [] := by
      rcases root with rfl | rfl <;> rfl
    rw [nothing]
    exact congrArg String.ofList (List.append_nil _).symm
  next => rfl

/-- Slashes only keep the segments apart. -/
theorem method_names_follow_segments (verb : Verb) :
    (∀ path other : String, segments path.toList = segments other.toList →
      methodName verb path = methodName verb other) ∧
    ∀ path : String, segments path.toList = [] →
      methodName verb path = String.ofList verb.lower := by
  constructor
  · intro path other same
    rw [methodName_eq, methodName_eq, same]
  · intro path none
    rw [methodName_eq, none]
    exact congrArg String.ofList (List.append_nil _)

theorem slashes_leave_shelves_by_id :
    segments "//shelves//\x7bid\x7d/".toList = segments "shelves/\x7bid\x7d".toList ∧
      methodName .get "//shelves//\x7bid\x7d/" = methodName .get "shelves/\x7bid\x7d" ∧
      methodName .get "shelves/\x7bid\x7d" = "getShelvesById" ∧
      segments "//".toList = [] ∧ methodName .get "//" = "get" := by
  have slashes : segments "//shelves//\x7bid\x7d/".toList =
      segments "shelves/\x7bid\x7d".toList := by decide
  have none : segments "//".toList = [] := by decide
  obtain ⟨follows, root⟩ := method_names_follow_segments .get
  exact ⟨slashes, follows _ _ slashes, by decide +kernel, none,
    (root _ none).trans (by decide)⟩

theorem ascii_segmentWords (ascii : ∀ c ∈ segment, isAscii c = true) :
    ∀ c ∈ segmentWords segment, isAscii c = true := by
  unfold segmentWords
  split
  next name found =>
    obtain ⟨inner, opened, closed⟩ := Option.bind_eq_some_iff.mp found
    rw [Text.eq_append_of_dropPrefix? opened,
      Text.eq_append_of_dropSuffix? closed] at ascii
    have named : ∀ c ∈ name, isAscii c = true := fun c member =>
      ascii c (by simp [member])
    rw [List.forall_mem_cons, List.forall_mem_cons]
    exact ⟨by decide, by decide, Text.ascii_capitalizeFirst named⟩
  next => exact ascii

theorem ascii_joined_segments (ascii : ∀ c ∈ path, isAscii c = true) :
    ∀ c ∈ joinWith ['-'] ((segments path).map segmentWords),
      isAscii c = true := by
  intro c member
  rcases Text.mem_of_mem_joinWith member with dash | ⟨_, listed, inside⟩
  · rw [List.mem_singleton.mp dash]
    rfl
  · obtain ⟨segment, kept, rfl⟩ := List.mem_map.mp listed
    have cut := (List.mem_filter.mp kept).1
    refine ascii_segmentWords (fun d within => ?_) c inside
    have part := List.mem_flatten_of_mem cut within
    rw [Text.flatten_splitOn] at part
    exact ascii d (List.mem_of_mem_filter part)

/-- After the verb comes a capital, a digit or nothing. -/
theorem takeWhile_methodName (verb : Verb) {path : String}
    (ascii : ∀ c ∈ path.toList, isAscii c = true) :
    (methodName verb path).toList.takeWhile Char.isLower = verb.lower := by
  have clean := ascii_joined_segments ascii
  have first := Text.head?_capitalizeFirst_lowerCamel clean
  rw [methodName_eq, String.toList_ofList,
    List.takeWhile_append_of_pos Verb.isLower_of_mem_lower]
  generalize capitalizeFirst (lowerCamel _) = camel at first
  cases camel with
  | nil => exact List.append_nil _
  | cons d camel =>
      rw [List.head?_cons, eq_comm, Option.map_eq_some_iff] at first
      obtain ⟨c, found, rfl⟩ := first
      have capital : c.toUpper.isLower = false :=
        Text.ascii_of_forall (P := fun c => c.toUpper.isLower = false)
          (by decide +kernel) (clean c (List.mem_of_find?_eq_some found))
      rw [List.takeWhile_cons_of_neg (by simp [capital]), List.append_nil]

theorem isAlpha_of_mem_lower {verb : Verb} (member : c ∈ verb.lower) :
    c.isAlpha = true := by
  change (c.isUpper || c.isLower) = true
  rw [Verb.isLower_of_mem_lower c member, Bool.or_true]

theorem alphanum_methodName (verb : Verb) {path : String}
    (ascii : ∀ c ∈ path.toList, isAscii c = true) :
    ∀ c ∈ (methodName verb path).toList, c.isAlphanum = true := by
  rw [methodName_eq, String.toList_ofList, List.forall_mem_append]
  constructor
  · intro c member
    rw [Char.isAlphanum, isAlpha_of_mem_lower member, Bool.true_or]
  · exact Text.alphanum_capitalizeFirst_lowerCamel (ascii_joined_segments ascii)

theorem isIdentifier_methodName (verb : Verb) {path : String}
    (ascii : ∀ c ∈ path.toList, isAscii c = true) :
    IsIdentifier (methodName verb path) := by
  rw [← String.ofList_toList (s := methodName verb path),
    isIdentifier_of_alphanum (alphanum_methodName verb ascii), methodName_eq,
    String.toList_ofList]
  cases spelled : verb.lower with
  | nil => exact absurd spelled verb.lower_ne_nil
  | cons c rest =>
      exact isAlpha_of_mem_lower (spelled ▸ List.mem_cons_self)

/-- A verb is all that the name of an operation begins with in small letters, so
the names of different verbs differ. -/
theorem method_names_show_verbs :
    (∀ (verb : Verb) (path : String), (∀ c ∈ path.toList, isAscii c = true) →
      IsIdentifier (methodName verb path) ∧
      (∀ c ∈ (methodName verb path).toList, c.isAlphanum = true) ∧
      (methodName verb path).toList.takeWhile Char.isLower = verb.lower) ∧
    ∀ (verb other : Verb) (path path' : String),
      (∀ c ∈ path.toList, isAscii c = true) →
      (∀ c ∈ path'.toList, isAscii c = true) →
      verb ≠ other → methodName verb path ≠ methodName other path' := by
  constructor
  · intro verb path ascii
    exact ⟨isIdentifier_methodName verb ascii, alphanum_methodName verb ascii,
      takeWhile_methodName verb ascii⟩
  · intro verb other path path' ascii ascii' different same
    apply different
    apply Verb.lower_injective
    rw [← takeWhile_methodName verb ascii, same, takeWhile_methodName other ascii']

theorem lock_and_unlock_differ :
    (∀ c ∈ "/un/1st-door".toList, isAscii c = true) ∧
      methodName .lock "/un/1st-door" = "lockUn1stDoor" ∧
      "lockUn1stDoor".toList.takeWhile Char.isLower = Verb.lower .lock ∧
      Verb.lock ≠ .unlock ∧
      methodName .lock "/un/1st-door" ≠ methodName .unlock "1st-door" := by
  have ascii : ∀ c ∈ "/un/1st-door".toList, isAscii c = true :=
    List.all_eq_true.mp (by decide)
  have ascii' : ∀ c ∈ "1st-door".toList, isAscii c = true :=
    List.all_eq_true.mp (by decide)
  have name : methodName .lock "/un/1st-door" = "lockUn1stDoor" := by
    decide +kernel
  obtain ⟨shows, differ⟩ := method_names_show_verbs
  obtain ⟨_, _, verb⟩ := shows .lock _ ascii
  exact ⟨ascii, name, name ▸ verb, by decide,
    differ .lock .unlock _ _ ascii ascii' (by decide)⟩

end ApiBindings.Naming
