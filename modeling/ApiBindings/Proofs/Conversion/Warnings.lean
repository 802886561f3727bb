import ApiBindings.Proofs.Conversion.Recursion
import ApiBindings.Proofs.Messages

/-!
The only messages of a conversion are the warnings of definitions that inherit
from themselves.
-/

namespace ApiBindings

def LogRecord.IsCycle (r : LogRecord) : Prop :=
  ∃ name, r = ⟨.warn, "allOf cycle through `" ++ name ++ "`, not inheriting again"⟩

namespace Conversion

open Traced

variable {doc : Document} {inner : Answers}

/-- What a call has whenever its own calls have it, the conversion has. The
calls that are not made are answered by `idle`. -/
theorem convert_of_level {P : Traced ConvertError TypeExpr → Prop}
    {idle : Traced ConvertError TypeExpr} (start : P idle)
    (step : ∀ inner : Answers, (∀ active s, P (inner active s)) →
      ∀ active s, P (level doc inner active s))
    (active : List String) (s : Schema) : P (convert doc active s) := by
  classical
  generalize call : (active, s) = first
  induction first using (wellFounded_calls doc).induction generalizing active s
  next first induction =>
    subst call
    let answered : Answers := fun later t =>
      if Calls doc (active, s) (later, t) then convert doc later t else idle
    have same : level doc (convert doc) active s = level doc answered active s :=
      level_congr fun next called => (if_pos called).symm
    rw [convert_eq_level, same]
    refine step answered (fun later t => ?_) active s
    by_cases called : Calls doc (active, s) (later, t)
    · rw [show answered later t = _ from if_pos called]
      exact induction (later, t) called later t rfl
    · rw [show answered later t = _ from if_neg called]
      exact start

theorem tells_memberProperties
    (answered : ∀ active s, (inner active s).Tells LogRecord.IsCycle)
    (active : List String) (member : Schema) :
    (memberProperties doc inner active member).Tells LogRecord.IsCycle := by
  cases member with
  | inline body => exact (answered active _).map _
  | reference path =>
      rw [memberProperties]
      cases doc.definition path with
      | error e => exact tells_fail _
      | ok entry =>
          obtain ⟨name, parent⟩ := entry
          have warned : LogRecord.IsCycle ⟨.warn, "allOf cycle through `" ++ name ++
              "`, not inheriting again"⟩ := ⟨name, rfl⟩
          by_cases busy : name ∈ active
          · simp only [busy, if_true]
            exact (tells_note warned).bind fun _ => tells_pure _
          · simp only [busy, if_false]
            exact (answered _ parent).map _

theorem tells_level
    (answered : ∀ active s, (inner active s).Tells LogRecord.IsCycle)
    (active : List String) (s : Schema) :
    (level doc inner active s).Tells LogRecord.IsCycle := by
  unfold level
  split
  next => exact tells_fail _
  next =>
    split
    next => exact tells_fail _
    next => exact tells_pure _
  next => exact tells_pure _
  next => exact tells_pure _
  next items shape => exact (answered active items).map _
  next values shape => exact (answered active values).map _
  next body shape =>
    have inherited :
        (body.allOf.mapM (memberProperties doc inner active)).Tells LogRecord.IsCycle :=
      tells_mapM (tells_memberProperties answered active) _
    have own : (body.properties.mapM
        (ownProperty inner active body.required)).Tells LogRecord.IsCycle :=
      tells_mapM (fun entry : String × Schema => (answered active entry.2).map _) _
    exact inherited.bind fun _ => own.bind fun _ => tells_pure _

theorem tells_convert (doc : Document) (active : List String) (s : Schema) :
    (convert doc active s).Tells LogRecord.IsCycle :=
  convert_of_level (tells_pure (.primitive "")) (fun _ => tells_level) active s

end Conversion

end ApiBindings
