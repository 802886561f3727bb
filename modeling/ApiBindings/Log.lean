/-!
Messages that a computation leaves behind, kept also when it fails.
-/

namespace ApiBindings

inductive Level
  | debug
  | info
  | warn
  deriving DecidableEq

def Level.name : Level → String
  | .debug => "DEBUG"
  | .info => "INFO"
  | .warn => "WARN"

structure LogRecord where
  level : Level
  message : String
  deriving DecidableEq

structure Traced (ε α : Type) where
  log : List LogRecord
  result : Except ε α

namespace Traced

variable {ε ε' α β : Type}

def ok (a : α) : Traced ε α := ⟨[], .ok a⟩

def fail (e : ε) : Traced ε α := ⟨[], .error e⟩

def bind (x : Traced ε α) (f : α → Traced ε β) : Traced ε β :=
  match x.result with
  | .error e => ⟨x.log, .error e⟩
  | .ok a => ⟨x.log ++ (f a).log, (f a).result⟩

instance : Monad (Traced ε) where
  pure := ok
  bind := bind

def note (level : Level) (message : String) : Traced ε Unit := ⟨[⟨level, message⟩], .ok ()⟩

def ofExcept (x : Except ε α) : Traced ε α := ⟨[], x⟩

def mapError (f : ε → ε') (x : Traced ε α) : Traced ε' α := ⟨x.log, x.result.mapError f⟩

/-- A failure becomes a value; its messages stay. -/
def attempt (x : Traced ε α) : Traced ε' (Except ε α) := ⟨x.log, .ok x.result⟩

@[simp] theorem result_pure (a : α) : (pure a : Traced ε α).result = .ok a := rfl

@[simp] theorem result_bind (x : Traced ε α) (f : α → Traced ε β) :
    (x >>= f).result = x.result >>= fun a => (f a).result := by
  show (Traced.bind x f).result = _
  rw [Traced.bind]
  cases x.result <;> rfl

@[simp] theorem result_fail (e : ε) : (fail e : Traced ε α).result = .error e := rfl

@[simp] theorem result_note (level : Level) (message : String) :
    (note level message : Traced ε Unit).result = .ok () := rfl

@[simp] theorem result_ofExcept (x : Except ε α) : (ofExcept x).result = x := rfl

@[simp] theorem result_mapError (f : ε → ε') (x : Traced ε α) :
    (x.mapError f).result = x.result.mapError f := rfl

@[simp] theorem result_attempt (x : Traced ε α) :
    (x.attempt : Traced ε' (Except ε α)).result = .ok x.result := rfl

end Traced

end ApiBindings
