import BoolCalc.Rejection

/-!
# The trail of an evaluation

What a log reader sees of an evaluation: the operators that precedence sent off, the tokens of
the reverse Polish sequence as they are taken with the depth of the stack after each, and the
outcome. A computation that is logged gives its trail together with its outcome, so one run tells
both; what comes next tells its own part behind what was told before.
-/

namespace BoolCalc

/-- An entry of the trail. -/
inductive Event where
  /-- An arriving operator sent this one off. -/
  | displaced (op : Operator)
  /-- A token was taken, and the stack then held `depth` values. -/
  | taken (token : Char) (depth : Nat)
  /-- A parenthesis was met in a reverse Polish sequence. -/
  | parenthesis (token : Char)
  /-- The expression has a value. -/
  | evaluated (expression : String) (value : Bool)
  /-- The expression was rejected. -/
  | rejected (expression : String) (reason : Rejection)
deriving DecidableEq, Repr

namespace Event

/-- The line of the log: level, message and fields. -/
def line : Event → String
  | .displaced op => s!"TRACE pop on precedence operator={op.name}"
  | .taken c n => s!"TRACE postfix token consumed token={c} depth={n}"
  | .parenthesis c => s!"WARN parenthesis in postfix sequence token={c}"
  | .evaluated e b => s!"DEBUG expression evaluated expression={e} result={b}"
  | .rejected e r =>
    s!"WARN expression rejected expression={e} error={r.message} kind={r.kind.name}"

end Event

/-- The outcome of a computation and what it told on the way there. -/
structure Told (ε α : Type) where
  trail : List Event
  outcome : Except ε α

namespace Told

variable {ε ε' α β : Type}

/-- An outcome of which nothing is told. -/
def untold (r : Except ε α) : Told ε α := ⟨[], r⟩

/-- Goes on from a result; after a fault nothing more is told. -/
def bind (m : Told ε α) (f : α → Told ε β) : Told ε β :=
  match m.outcome with
  | .ok a => ⟨m.trail ++ (f a).trail, (f a).outcome⟩
  | .error e => ⟨m.trail, .error e⟩

instance : Monad (Told ε) where
  pure a := untold (.ok a)
  bind := bind

/-- The same with another name for the fault. -/
def mapError (g : ε → ε') (m : Told ε α) : Told ε' α := ⟨m.trail, m.outcome.mapError g⟩

variable {m : Told ε α} {f : α → Told ε β}

@[simp] theorem trail_pure (a : α) : (pure a : Told ε α).trail = [] := rfl

@[simp] theorem outcome_pure (a : α) : (pure a : Told ε α).outcome = .ok a := rfl

theorem trail_bind_ok {a : α} (h : m.outcome = .ok a) :
    (m >>= f).trail = m.trail ++ (f a).trail := by
  change (m.bind f).trail = _
  rw [bind, h]

theorem trail_bind_error {e : ε} (h : m.outcome = .error e) : (m >>= f).trail = m.trail := by
  change (m.bind f).trail = _
  rw [bind, h]

theorem trail_bind_untold (m : Told ε α) (r : α → Except ε β) :
    (m >>= fun a => untold (r a)).trail = m.trail := by
  cases h : m.outcome with
  | ok a => rw [trail_bind_ok h, untold, List.append_nil]
  | error e => rw [trail_bind_error h]

/-- What is told has no part in the outcome. -/
@[simp] theorem outcome_bind (m : Told ε α) (f : α → Told ε β) :
    (m >>= f).outcome = m.outcome >>= fun a => (f a).outcome := by
  change (m.bind f).outcome = _
  rw [bind]
  cases m.outcome <;> rfl

@[simp] theorem outcome_mapError (g : ε → ε') (m : Told ε α) :
    (m.mapError g).outcome = m.outcome.mapError g := rfl

@[simp] theorem outcome_foldlM (f : α → β → Told ε α) (a : α) (xs : List β) :
    (xs.foldlM f a).outcome = xs.foldlM (fun a x => (f a x).outcome) a := by
  induction xs generalizing a with
  | nil => rfl
  | cons x xs ih => simp only [List.foldlM_cons, outcome_bind, ih]

end Told

end BoolCalc
