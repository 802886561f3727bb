import ApiBindings.Log

/-!
Reading typed values out of a text: how it fails and what it keeps count of.
-/

namespace ApiBindings.Reading

/-- The text itself is broken, or it holds a value of another shape than the one asked for. -/
inductive Fault
  | malformed
  | mismatch
  deriving DecidableEq

structure Progress where
  log : List LogRecord
  /-- References to earlier nodes of the text that have been followed. -/
  followed : Nat

abbrev Read := ExceptT Fault (StateM Progress)

def Progress.start : Progress := ⟨[], 0⟩

def malformed {α : Type} : Read α := throw .malformed

def mismatch {α : Type} : Read α := throw .mismatch

def note (level : Level) (message : String) : Read Unit :=
  modify fun p => { p with log := p.log ++ [⟨level, message⟩] }

def Read.run {α : Type} (read : Read α) : Traced Fault α :=
  let (result, progress) := ExceptT.run read Progress.start
  ⟨progress.log, result⟩

end ApiBindings.Reading
