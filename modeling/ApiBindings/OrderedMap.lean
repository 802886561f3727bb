/-!
Tables in which each key occurs once and keeps the place of its first insertion.
-/

namespace ApiBindings

variable {κ α : Type}

/-! Association lists, the form in which tables are read and written. -/
namespace Entries

variable [DecidableEq κ]

def find? (k : κ) : List (κ × α) → Option α
  | [] => none
  | e :: es => if e.1 = k then some e.2 else find? k es

/-- A known key keeps its place and takes the new value. -/
def put (k : κ) (a : α) : List (κ × α) → List (κ × α)
  | [] => [(k, a)]
  | e :: es => if e.1 = k then (k, a) :: es else e :: put k a es

theorem mem_keys_put {k j : κ} {a : α} {es : List (κ × α)} :
    j ∈ (put k a es).map Prod.fst ↔ j = k ∨ j ∈ es.map Prod.fst := by
  induction es with
  | nil => simp [put]
  | cons e es ih =>
    by_cases he : e.1 = k
    · simp [put, he]
    · rw [put, if_neg he, List.map_cons, List.mem_cons, ih, List.map_cons, List.mem_cons]
      exact or_left_comm

theorem nodup_keys_put {k : κ} {a : α} {es : List (κ × α)} (h : (es.map Prod.fst).Nodup) :
    ((put k a es).map Prod.fst).Nodup := by
  induction es with
  | nil => simp [put]
  | cons e es ih =>
    have ⟨hfresh, hrest⟩ := List.nodup_cons.mp h
    by_cases he : e.1 = k
    · rw [put, if_pos he]
      exact he ▸ h
    · rw [put, if_neg he, List.map_cons, List.nodup_cons, mem_keys_put]
      exact ⟨fun hmem => hmem.elim he hfresh, ih hrest⟩

theorem find?_put {k j : κ} {a : α} {es : List (κ × α)} :
    find? j (put k a es) = if k = j then some a else find? j es := by
  induction es with
  | nil => simp [put, find?]
  | cons e es ih =>
    by_cases he : e.1 = k
    · by_cases hj : k = j <;> simp [put, find?, he, hj]
    · by_cases hj : e.1 = j
      · have hkj : k ≠ j := fun hkj => he (hj.trans hkj.symm)
        rw [put, if_neg he, find?, if_pos hj, if_neg hkj, find?, if_pos hj]
      · simp [put, find?, he, hj, ih]

theorem mem_of_find? {k : κ} {a : α} {es : List (κ × α)} (h : find? k es = some a) :
    (k, a) ∈ es := by
  induction es with
  | nil => simp [find?] at h
  | cons e es ih =>
    by_cases he : e.1 = k
    · rw [find?, if_pos he, Option.some.injEq] at h
      exact List.mem_cons.mpr (.inl (by rw [← he, ← h]))
    · rw [find?, if_neg he] at h
      exact List.mem_cons_of_mem e (ih h)

theorem find?_eq_none {k : κ} {es : List (κ × α)} :
    find? k es = none ↔ k ∉ es.map Prod.fst := by
  induction es with
  | nil => simp [find?]
  | cons e es ih =>
    by_cases he : e.1 = k
    · simp [find?, he]
    · rw [find?, if_neg he, ih, List.map_cons, List.mem_cons, not_or]
      exact ⟨fun h => ⟨fun hk => he hk.symm, h⟩, And.right⟩

end Entries

structure OrderedMap (κ α : Type) where
  entries : List (κ × α)
  nodup : (entries.map Prod.fst).Nodup

namespace OrderedMap

def empty : OrderedMap κ α := ⟨[], List.nodup_nil⟩

instance : EmptyCollection (OrderedMap κ α) := ⟨empty⟩

instance : Inhabited (OrderedMap κ α) := ⟨empty⟩

def keys (m : OrderedMap κ α) : List κ := m.entries.map Prod.fst

def values (m : OrderedMap κ α) : List α := m.entries.map Prod.snd

def size (m : OrderedMap κ α) : Nat := m.entries.length

def isEmpty (m : OrderedMap κ α) : Bool := m.entries.isEmpty

variable [DecidableEq κ]

def get? (m : OrderedMap κ α) (k : κ) : Option α := Entries.find? k m.entries

def insert (m : OrderedMap κ α) (k : κ) (a : α) : OrderedMap κ α :=
  ⟨Entries.put k a m.entries, Entries.nodup_keys_put m.nodup⟩

/-- The other entries keep their order. -/
def erase (m : OrderedMap κ α) (k : κ) : OrderedMap κ α :=
  ⟨m.entries.filter (·.1 ≠ k), m.nodup.sublist (List.filter_sublist.map _)⟩

def ofList (es : List (κ × α)) : OrderedMap κ α :=
  es.foldl (fun m e => m.insert e.1 e.2) ∅

@[simp] theorem get?_insert {m : OrderedMap κ α} {k j : κ} {a : α} :
    (m.insert k a).get? j = if k = j then some a else m.get? j :=
  Entries.find?_put

theorem mem_entries_of_get? {m : OrderedMap κ α} {k : κ} {a : α} (h : m.get? k = some a) :
    (k, a) ∈ m.entries :=
  Entries.mem_of_find? h

end OrderedMap

end ApiBindings
