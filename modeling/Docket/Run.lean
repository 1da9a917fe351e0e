/-
Runs: what a piece of work does, thing by thing, where it says something
about itself or prints, and what it comes to, which may be a problem.  A
run that meets a problem has said and printed what came before.

Main statements: runs are composed by appending what they do, and nothing
follows a problem; behind a run that ends well, only the value that it gives
matters for what comes next.
-/
import Docket.Event
import Docket.Problem

namespace Docket

/-- One thing that a run does: say something, or print a text and a line end
behind it.  The problem is that of an output which does not take the text. -/
inductive Deed where
  | say (event : Event)
  | print (text : String) (refusal : Problem)
deriving DecidableEq, Repr

namespace Deed

/-- The event that a deed says, if it says one. -/
def event? : Deed → Option Event
  | say event => some event
  | print _ _ => none

/-- The text that a deed prints, if it prints one. -/
def text? : Deed → Option String
  | say _ => none
  | print text _ => some text

end Deed

/-- A piece of work. -/
structure Run (α : Type) where
  deeds : List Deed
  result : Except Problem α

namespace Run

variable {α β γ : Type}

/-- What a run says. -/
def events (run : Run α) : List Event := run.deeds.filterMap Deed.event?

/-- The texts that a run prints.  Every one is followed by a line end. -/
def printed (run : Run α) : List String := run.deeds.filterMap Deed.text?

/-- A run that only gives a value. -/
def done (a : α) : Run α := ⟨[], .ok a⟩

/-- A run that only meets a problem. -/
def fail (problem : Problem) : Run α := ⟨[], .error problem⟩

/-- A run that only says something. -/
def say (event : Event) : Run Unit := ⟨[.say event], .ok ()⟩

/-- A run that only says some things. -/
def tell (events : List Event) : Run Unit := ⟨events.map .say, .ok ()⟩

/-- A run that only prints texts, and meets a problem of a given kind where
the output does not take them. -/
def put (refusal : Problem) (texts : List String) : Run Unit :=
  ⟨texts.map (.print · refusal), .ok ()⟩

/-- A run that only prints lines. -/
def print (texts : List String) : Run Unit := put .unwritableLine texts

/-- A run that gives a value or meets a problem. -/
def ofExcept (result : Except Problem α) : Run α := ⟨[], result⟩

/-- One run after another, unless the first meets a problem. -/
def andThen (run : Run α) (next : α → Run β) : Run β :=
  match run.result with
  | .ok a => ⟨run.deeds ++ (next a).deeds, (next a).result⟩
  | .error problem => ⟨run.deeds, .error problem⟩

instance : Monad Run where
  pure := done
  bind := andThen

/-- A run that goes on after a problem, which becomes its value. -/
def attempt (run : Run α) : Run (Except Problem α) := ⟨run.deeds, .ok run.result⟩

/-- All that a run prints. -/
def output (run : Run α) : String := String.join (run.printed.map (· ++ "\n"))

/-- A value goes on to the next run. -/
@[simp]
theorem done_bind (a : α) (next : α → Run β) : done a >>= next = next a := by
  simp [bind, andThen, done]

/-- Nothing follows a problem. -/
@[simp]
theorem fail_bind (problem : Problem) (next : α → Run β) :
    fail problem >>= next = fail problem := rfl

/-- Runs compose associatively. -/
theorem bind_assoc (run : Run α) (f : α → Run β) (g : β → Run γ) :
    run >>= f >>= g = run >>= fun a => f a >>= g := by
  rcases run with ⟨deeds, result⟩
  cases result with
  | error problem => rfl
  | ok a =>
    simp only [bind, andThen]
    cases hf : (f a).result with
    | error problem => simp
    | ok b => simp

-- ======================================= what runs say and print

theorem printed_put (refusal : Problem) (texts : List String) :
    (put refusal texts).printed = texts := by
  unfold printed put
  induction texts with
  | nil => rfl
  | cons text texts ih => exact congrArg (text :: ·) ih

theorem printed_print (texts : List String) : (print texts).printed = texts :=
  printed_put .unwritableLine texts

theorem events_tell (events : List Event) : (tell events).events = events := by
  unfold Run.events tell
  induction events with
  | nil => rfl
  | cons event events ih => exact congrArg (event :: ·) ih

theorem printed_tell (events : List Event) : (tell events).printed = [] := by
  unfold printed tell
  rw [List.filterMap_map]
  exact List.filterMap_eq_nil_iff.2 fun _ _ => rfl

-- ============================================== runs that end well

/-- Behind a run that ends well, the next one does its part. -/
theorem deeds_bind {run : Run α} {a : α} (h : run.result = .ok a) (next : α → Run β) :
    (run >>= next).deeds = run.deeds ++ (next a).deeds := by
  simp only [bind, andThen, h]

/-- A run that gives its value unchanged is left as it is. -/
@[simp]
theorem bind_done (run : Run α) : run >>= done = run := by
  rcases run with ⟨deeds, result⟩
  cases result with
  | error problem => rfl
  | ok a => simp [bind, andThen, done]

/-- Behind a run that ends well, the next one decides how both end. -/
theorem result_bind {run : Run α} {a : α} (h : run.result = .ok a) (next : α → Run β) :
    (run >>= next).result = (next a).result := by
  simp only [bind, andThen, h]

/-- Behind a run that ends well, the next one prints. -/
theorem printed_bind {run : Run α} {a : α} (h : run.result = .ok a) (next : α → Run β) :
    (run >>= next).printed = run.printed ++ (next a).printed := by
  unfold printed
  rw [deeds_bind h, List.filterMap_append]

/-- Behind a run that ends well, the next one says its part. -/
theorem events_bind {run : Run α} {a : α} (h : run.result = .ok a) (next : α → Run β) :
    (run >>= next).events = run.events ++ (next a).events := by
  unfold events
  rw [deeds_bind h, List.filterMap_append]

/-- The output of two runs is that of one behind that of the other. -/
theorem output_bind {run : Run α} {a : α} (h : run.result = .ok a) (next : α → Run β) :
    (run >>= next).output = run.output ++ (next a).output := by
  unfold output
  rw [printed_bind h, List.map_append, String.join_append]

/-- What comes next only matters for the value that a run gives. -/
theorem bind_congr {run : Run α} {a : α} (h : run.result = .ok a) {next next' : α → Run β}
    (heq : next a = next' a) : run >>= next = run >>= next' := by
  simp only [bind, andThen, h, heq]

/-- Two runs end well exactly when the first does and the second does on
its value. -/
theorem result_bind_eq_ok_iff {run : Run α} {next : α → Run β} {b : β} :
    (run >>= next).result = .ok b ↔ ∃ a, run.result = .ok a ∧ (next a).result = .ok b := by
  cases h : run.result with
  | error problem => simp [bind, andThen, h]
  | ok a => simp [bind, andThen, h]

-- ======================================================= how runs end

/-- Two runs end as the second does on the value of the first. -/
theorem result_bind_eq (run : Run α) (next : α → Run β) :
    (run >>= next).result = run.result.bind fun a => (next a).result := by
  cases h : run.result <;> simp [bind, andThen, h, Except.bind]

/-- Behind a run that meets a problem nothing is done. -/
theorem deeds_bind_of_error {run : Run α} {problem : Problem} (h : run.result = .error problem)
    (next : α → Run β) : (run >>= next).deeds = run.deeds := by
  simp only [bind, andThen, h]

/-- Behind a run that meets a problem nothing is printed. -/
theorem printed_bind_of_error {run : Run α} {problem : Problem} (h : run.result = .error problem)
    (next : α → Run β) : (run >>= next).printed = run.printed := by
  unfold printed
  rw [deeds_bind_of_error h]

/-- Two runs print nothing if neither does, however the first one ends. -/
theorem printed_bind_of_silent {run : Run α} {next : α → Run β} (h : run.printed = [])
    (hnext : ∀ a, (next a).printed = []) : (run >>= next).printed = [] := by
  cases hresult : run.result with
  | error problem => rw [printed_bind_of_error hresult, h]
  | ok a => rw [printed_bind hresult, h, hnext, List.nil_append]

/-- Runs that print the same have the same output. -/
theorem output_congr {run : Run α} {run' : Run β} (h : run.printed = run'.printed) :
    run.output = run'.output := by
  unfold output
  rw [h]

end Run

end Docket
