import ApiBindings.Proofs.Tables
import ApiBindings.Rendering.Context
import ApiBindings.Template.Evaluation

/-!
What is found under a name: in a map that is made of named fields, and in the
frame that a loop puts on a scope.
-/

namespace ApiBindings.Template

namespace Value

theorem order_text_eq {s : String} {v : Value} :
    order (text s) v = .eq ↔ v = text s := by
  cases v with
  | text t =>
      rw [order, Std.compare_eq_iff_eq, text.injEq]
      exact eq_comm
  | _ => simp [order, rank, compare, compareOfLessAndEq]

theorem order_eq_text {s : String} {v : Value} :
    order v (text s) = .eq ↔ v = text s := by
  cases v with
  | text t => rw [order, Std.compare_eq_iff_eq, text.injEq]
  | _ => simp [order, rank, compare, compareOfLessAndEq]

variable {name other : String} {v : Value} {members : List (Value × Value)}

theorem member?_cons_of_eq :
    member? (text name) ((text name, v) :: members) = some v := by
  rw [member?, List.find?_cons_of_pos (by simp [order_eq_text])]
  rfl

theorem member?_cons_of_ne {key : Value} (different : key ≠ text name) :
    member? (text name) ((key, v) :: members) =
      member? (text name) members := by
  rw [member?, List.find?_cons_of_neg (by simp [order_eq_text, different])]
  rfl

theorem member?_putMember_self :
    member? (text name) (putMember (text name) v members) = some v := by
  induction members with
  | nil => exact member?_cons_of_eq
  | cons m members induction =>
      obtain ⟨key, w⟩ := m
      rw [putMember]
      cases placed : order (text name) key with
      | lt => exact member?_cons_of_eq
      | eq =>
          rw [order_text_eq.mp placed]
          exact member?_cons_of_eq
      | gt =>
          have different : key ≠ text name := by
            rw [Ne, ← order_text_eq, placed]
            nofun
          exact (member?_cons_of_ne different).trans induction

theorem member?_putMember_of_ne (different : other ≠ name) :
    member? (text name) (putMember (text other) v members) =
      member? (text name) members := by
  have apart : text other ≠ text name := by simpa using different
  induction members with
  | nil => exact member?_cons_of_ne apart
  | cons m members induction =>
      obtain ⟨key, w⟩ := m
      rw [putMember]
      cases placed : order (text other) key with
      | lt => exact member?_cons_of_ne apart
      | eq =>
          rw [order_text_eq.mp placed, member?_cons_of_ne apart,
            member?_cons_of_ne apart]
      | gt =>
          by_cases found : key = text name
          · rw [found]
            exact member?_cons_of_eq.trans member?_cons_of_eq.symm
          · rw [member?_cons_of_ne found, member?_cons_of_ne found, induction]

theorem member?_foldl_putMember (fields : List (String × Value)) :
    member? (text name)
        (fields.foldl (fun ms (k, v) => putMember (text k) v ms) members) =
      (Entries.find? name fields.reverse).or (member? (text name) members) := by
  induction fields generalizing members with
  | nil => rfl
  | cons f fields induction =>
      obtain ⟨key, v⟩ := f
      rw [List.foldl_cons, induction, List.reverse_cons, Entries.find?_append,
        Option.or_assoc]
      congr 1
      by_cases same : key = name
      · rw [same, member?_putMember_self]
        simp [Entries.find?]
      · rw [member?_putMember_of_ne same]
        simp [Entries.find?, same]

theorem ofFields_eq (fields : List (String × Value)) :
    ofFields fields =
      map (fields.foldl (fun ms (k, v) => putMember (text k) v ms) []) := by
  rw [ofFields, ofMembers, List.foldl_map]

def given (name : String) (fields : List (String × Value)) : Value :=
  (Entries.find? name fields.reverse).getD undefined

theorem given_congr {k : String} {w : Value}
    (before after : List (String × Value)) (other : k ≠ name) :
    given name (before ++ (k, v) :: after) =
      given name (before ++ (k, w) :: after) := by
  simp [given, Entries.find?_append, Entries.find?, other]

theorem getD_member?_foldl_putMember (fields : List (String × Value)) :
    (member? (text name)
      (fields.foldl (fun ms (k, v) => putMember (text k) v ms) [])).getD
        undefined = given name fields := by
  rw [member?_foldl_putMember, given, show member? (text name) [] =
    Option.none from rfl, Option.or_none]

theorem field_ofFields (fields : List (String × Value)) (name : String) :
    (ofFields fields).field name = .ok (given name fields) := by
  rw [ofFields_eq, field, getD_member?_foldl_putMember]

end Value

namespace Scope

variable {s : Scope} {f : Frame} {name : String} {v : Value}

def enter (s : Scope) (f : Frame) : Scope := { s with frames := f :: s.frames }

@[simp] theorem assign_enter :
    (s.enter f).assign name v = s.enter (Entries.put name v f) := rfl

theorem lookup_enter_of_some (found : Entries.find? name f = some v) :
    (s.enter f).lookup name = v := by
  rw [lookup, find?, enter, List.findSome?_cons, found]
  rfl

theorem lookup_enter_of_none (missing : Entries.find? name f = none) :
    (s.enter f).lookup name = s.lookup name := by
  rw [lookup, lookup, find?, find?, enter, List.findSome?_cons, missing]

theorem lookup_start {context : List (Value × Value)}
    (found : Value.member? (.text name) context = some v) :
    (start context).lookup name = v := by
  have same : (start context).find? name = some v := by
    rw [find?, start, List.findSome?_cons]
    exact found
  rw [lookup, same]

end Scope

end ApiBindings.Template
