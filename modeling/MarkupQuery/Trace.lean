import MarkupQuery.Fault

/-! Results together with what is reported on the way to them. Reports made before a fault are
kept. -/

namespace MarkupQuery

inductive Level
  | debug
  | info
  | warning
  | error
  | critical
  deriving DecidableEq, Repr

namespace Level

def name : Level → String
  | debug => "DEBUG"
  | info => "INFO"
  | warning => "WARNING"
  | error => "ERROR"
  | critical => "CRITICAL"

def rank : Level → Nat
  | debug => 10
  | info => 20
  | warning => 30
  | error => 40
  | critical => 50

def all : List Level := [debug, info, warning, error, critical]

def ofName? (name : String) : Option Level := all.find? fun l => l.name == name

end Level

structure Report where
  level : Level
  source : String
  message : String
  deriving DecidableEq, Repr

inductive Event (β : Type)
  | report (r : Report)
  | observed (b : β)

structure Traced (β α : Type) where
  events : List (Event β)
  outcome : Except Fault α

namespace Traced

variable {β α : Type}

def ok (a : α) : Traced β α := ⟨[], .ok a⟩

def ofExcept (r : Except Fault α) : Traced β α := ⟨[], r⟩

def fail (fault : Fault) : Traced β α := ⟨[], .error fault⟩

def report (level : Level) (source message : String) : Traced β Unit :=
  ⟨[.report ⟨level, source, message⟩], .ok ()⟩

def observe (b : β) : Traced β Unit := ⟨[.observed b], .ok ()⟩

def bind {γ : Type} (t : Traced β α) (f : α → Traced β γ) : Traced β γ :=
  match t.outcome with
  | .error fault => ⟨t.events, .error fault⟩
  | .ok a => ⟨t.events ++ (f a).events, (f a).outcome⟩

instance : Monad (Traced β) where
  pure := ok
  bind := bind

instance : MonadExceptOf Fault (Traced β) where
  throw := fail
  tryCatch t handle :=
    match t.outcome with
    | .error fault => ⟨t.events ++ (handle fault).events, (handle fault).outcome⟩
    | .ok _ => t

def reports (t : Traced β α) (least : Level) : List Report :=
  t.events.filterMap fun
    | .report r => if least.rank ≤ r.level.rank then some r else none
    | .observed _ => none

def observations (t : Traced β α) : List β :=
  t.events.filterMap fun
    | .report _ => none
    | .observed b => some b

end Traced

def Traced.each {β α γ : Type} (f : α → Traced β γ) : List α → Traced β (List γ)
  | [] => .ok []
  | a :: as => Traced.bind (f a) fun c => Traced.bind (each f as) fun cs => .ok (c :: cs)

end MarkupQuery
