namespace Handover

inductive Level where
  | debug
  | info
  | warning
  | error
  deriving DecidableEq, Repr

def Level.label : Level → String
  | .debug => "DEBUG"
  | .info => "INFO"
  | .warning => "WARNING"
  | .error => "ERROR"

inductive Event where
  | logged (level : Level) (text : String)
  | printed (line : String)
  deriving DecidableEq, Repr

structure Result (σ ε α : Type) where
  value : Except ε α
  state : σ
  journal : List Event

def Action (σ ε α : Type) := σ → Result σ ε α

namespace Action

variable {σ τ ε δ α β : Type}

def pure (a : α) : Action σ ε α :=
  fun s => ⟨.ok a, s, []⟩

def bind (x : Action σ ε α) (f : α → Action σ ε β) : Action σ ε β :=
  fun s =>
    match x s with
    | ⟨.ok a, s, journal⟩ =>
        let r := f a s
        ⟨r.value, r.state, journal ++ r.journal⟩
    | ⟨.error e, s, journal⟩ => ⟨.error e, s, journal⟩

instance : Monad (Action σ ε) where
  pure := pure
  bind := bind

def fail (e : ε) : Action σ ε α :=
  fun s => ⟨.error e, s, []⟩

def lift (x : Except ε α) : Action σ ε α :=
  fun s => ⟨x, s, []⟩

def get : Action σ ε σ :=
  fun s => ⟨.ok s, s, []⟩

def modify (f : σ → σ) : Action σ ε Unit :=
  fun s => ⟨.ok (), f s, []⟩

def log (level : Level) (text : String) : Action σ ε Unit :=
  fun s => ⟨.ok (), s, [.logged level text]⟩

def print (line : String) : Action σ ε Unit :=
  fun s => ⟨.ok (), s, [.printed line]⟩

def mapError (f : ε → δ) (x : Action σ ε α) : Action σ δ α :=
  fun s =>
    match x s with
    | ⟨.ok a, s, journal⟩ => ⟨.ok a, s, journal⟩
    | ⟨.error e, s, journal⟩ => ⟨.error (f e), s, journal⟩

def attempt (x : Action σ ε α) : Action σ δ (Except ε α) :=
  fun s =>
    match x s with
    | ⟨a, s, journal⟩ => ⟨.ok a, s, journal⟩

def zoom (part : σ → τ) (put : τ → σ → σ) (x : Action τ ε α) : Action σ ε α :=
  fun s =>
    match x (part s) with
    | ⟨a, t, journal⟩ => ⟨a, put t s, journal⟩

theorem bind_apply (x : Action σ ε α) (f : α → Action σ ε β) (s : σ) :
    (x >>= f) s =
      match x s with
      | ⟨.ok a, s, journal⟩ => ⟨(f a s).value, (f a s).state, journal ++ (f a s).journal⟩
      | ⟨.error e, s, journal⟩ => ⟨.error e, s, journal⟩ :=
  rfl

theorem pure_apply (a : α) (s : σ) : (Pure.pure a : Action σ ε α) s = ⟨.ok a, s, []⟩ :=
  rfl

end Action

end Handover
