import ApiBindings.OrderedMap
import Mathlib.Data.List.Induction

/-!
An entry of a table is what looking up its key finds. Tables with other values
and with fewer entries, and tables made of a list of entries.
-/

namespace ApiBindings

variable {κ α : Type} [DecidableEq κ]

theorem Entries.find?_of_mem {k : κ} {a : α} {es : List (κ × α)}
    (distinct : (es.map Prod.fst).Nodup) (member : (k, a) ∈ es) :
    find? k es = some a := by
  induction es with
  | nil => cases member
  | cons e es induction =>
      obtain ⟨fresh, rest⟩ := List.nodup_cons.mp distinct
      rcases List.mem_cons.mp member with rfl | tail
      · simp [find?]
      · have different : e.1 ≠ k := by
          rintro rfl
          exact fresh (List.mem_map.mpr ⟨_, tail, rfl⟩)
        rw [find?, if_neg different]
        exact induction rest tail

theorem Entries.find?_append {k : κ} (es others : List (κ × α)) :
    find? k (es ++ others) = (find? k es).or (find? k others) := by
  induction es with
  | nil => rfl
  | cons e es induction =>
      by_cases here : e.1 = k
      · simp [find?, here]
      · simp [find?, here, induction]

omit [DecidableEq κ] in
theorem fresh_of_nodup {done es : List (κ × α)} {e : κ × α}
    (distinct : ((done ++ e :: es).map Prod.fst).Nodup) : e.1 ∉ done.map Prod.fst := by
  rw [List.map_append, List.map_cons] at distinct
  intro known
  exact (List.nodup_append.mp distinct).2.2 e.1 known e.1 List.mem_cons_self rfl

theorem Entries.find?_concat {k : κ} (es : List (κ × α)) (e : κ × α) :
    find? k (es ++ [e]) = (find? k es).or (if e.1 = k then some e.2 else none) :=
  find?_append es [e]

theorem eraseDups_concat (ks : List κ) (k : κ) :
    (ks ++ [k]).eraseDups =
      if k ∈ ks.eraseDups then ks.eraseDups else ks.eraseDups ++ [k] := by
  rw [List.eraseDups_append]
  by_cases known : k ∈ ks
  · simp [known, List.removeAll]
  · simp [known, List.removeAll, List.eraseDups_cons]

theorem OrderedMap.mem_entries_iff {m : OrderedMap κ α} {k : κ} {a : α} :
    (k, a) ∈ m.entries ↔ m.get? k = some a :=
  ⟨Entries.find?_of_mem m.nodup, mem_entries_of_get?⟩

namespace OrderedMap

def mapValues {β : Type} (f : α → β) (m : OrderedMap κ α) : OrderedMap κ β :=
  ⟨m.entries.map fun e => (e.1, f e.2), by rw [List.map_map]; exact m.nodup⟩

def filter (p : κ → α → Bool) (m : OrderedMap κ α) : OrderedMap κ α :=
  ⟨m.entries.filter fun e => p e.1 e.2,
    m.nodup.sublist (List.filter_sublist.map _)⟩

def update (k : κ) (f : α → α) (m : OrderedMap κ α) : OrderedMap κ α :=
  ⟨m.entries.map fun e => (e.1, if e.1 = k then f e.2 else e.2),
    by rw [List.map_map]; exact m.nodup⟩

theorem get?_filter {p : κ → α → Bool} {m : OrderedMap κ α} {k : κ} :
    (m.filter p).get? k = (m.get? k).filter (p k) := by
  ext a
  rw [← mem_entries_iff, Option.filter_eq_some_iff, ← mem_entries_iff, filter,
    List.mem_filter]

theorem keys_insert (m : OrderedMap κ α) (k : κ) (a : α) :
    (m.insert k a).keys = if k ∈ m.keys then m.keys else m.keys ++ [k] := by
  change (Entries.put k a m.entries).map Prod.fst = _
  unfold keys
  induction m.entries with
  | nil => simp [Entries.put]
  | cons e es induction =>
      by_cases here : e.1 = k
      · simp [Entries.put, here]
      · have other : k ≠ e.1 := fun same => here same.symm
        rw [Entries.put, if_neg here, List.map_cons, induction, List.map_cons]
        by_cases known : k ∈ es.map Prod.fst
        · simp [known]
        · rw [if_neg known, if_neg (List.not_mem_cons_of_ne_of_not_mem other known)]
          rfl

theorem ofList_concat (es : List (κ × α)) (e : κ × α) :
    ofList (es ++ [e]) = (ofList es).insert e.1 e.2 :=
  List.foldl_append

/-- Of entries put in one after the other, each key stands at the place of its
first one. -/
theorem keys_ofList (es : List (κ × α)) :
    (ofList es).keys = (es.map Prod.fst).eraseDups := by
  induction es using List.reverseRecOn with
  | nil => rfl
  | append_singleton es e induction =>
      rw [ofList_concat, keys_insert, induction, List.map_append]
      exact (eraseDups_concat (es.map Prod.fst) e.1).symm

theorem get?_ofList (es : List (κ × α)) (k : κ) :
    (ofList es).get? k = Entries.find? k es.reverse := by
  induction es using List.reverseRecOn with
  | nil => rfl
  | append_singleton es e induction =>
      rw [ofList_concat, get?_insert, induction, List.reverse_append]
      rfl

end OrderedMap

end ApiBindings
