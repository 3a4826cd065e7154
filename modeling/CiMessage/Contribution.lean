import CiMessage.Redirect

/-!
# Contributing a message to a run

All variables of a message are decided about first, in ascending order of their names and against the environment as it
is at the start. Then those to inject are set, and last the message itself is delivered: by a file and its pointer
variable, or as the variable of the message. The report tells what was done.
-/

namespace CiMessage

/-- How a message came into the environment. -/
inductive Delivery where
  /-- In a file, to which the pointer variable points. -/
  | file (path : String)
  /-- As a variable, since it could not go to a file; the cause is written as its wording. -/
  | fallback (cause : RedirectError)
  /-- As a variable, since it was not to go to a file. -/
  | direct
  deriving DecidableEq

/-- What a contribution did. -/
structure Report where
  /-- The variables that were set, in their order. -/
  injected : List String
  skipped : List (String × SkipReason)
  message : Option Delivery
  deriving DecidableEq

namespace Report

/-- Nothing was done. -/
def empty : Report := ⟨[], [], none⟩

/-- Was nothing done? -/
def isEmpty (r : Report) : Bool := r.injected.isEmpty && r.skipped.isEmpty && r.message.isNone

end Report

/-- What contributes to runs: the variables of a message, the names reserved by the job, and a configuration. -/
structure Contributor where
  params : Option (SortedMap String String)
  reserved : ReservedNames
  config : Config

/-- A message that is to be delivered. -/
structure Message where
  name : String
  value : String
  pointer : String
  file : String
  deriving DecidableEq

/-- What a contribution results in. -/
structure Contribution (σ : Type) where
  env : Option Environment
  store : σ
  report : Report
  records : List Record

namespace Decision

/-- The message that a decision holds back. -/
def message? : Decision → Option Message
  | redirect name value pointer file => some ⟨name, value, pointer, file⟩
  | _ => none

/-- The name that a decision sets at once. -/
def injectedName? : Decision → Option String
  | inject name _ => some name
  | _ => none

/-- The name that a decision leaves out, with the reason. -/
def skipped? : Decision → Option (String × SkipReason)
  | skip name reason => some (name, reason)
  | _ => none

/-- The environment after a decision; a message is held back. -/
def apply (env : Environment) : Decision → Environment
  | inject name value => env.set name value
  | _ => env

end Decision

namespace Contributor

variable {σ : Type} [FileStore σ]

/-- Is the pointer variable reserved or set? -/
def isTaken (c : Contributor) (env : Environment) (pointer : String) : Bool :=
  c.reserved.contains pointer || env.isSet pointer

/-- Sets a message as its variable after all. -/
def fallBack (env : Environment) (store : σ) (m : Message) (cause : RedirectError) (events : List Event) :
    Outcome σ (Environment × Delivery) :=
  ⟨(env.set m.name m.value, .fallback cause), store, events ++ [.ofFallback m.name m.value]⟩

/-- Delivers a message. -/
def deliver (c : Contributor) (run : Run) (env : Environment) (store : σ) (m : Message) :
    Outcome σ (Environment × Delivery) :=
  if !c.config.redirectEnabled then ⟨(env.set m.name m.value, .direct), store, []⟩
  else if c.isTaken env m.pointer then
    fallBack env store m (.pointerUnavailable m.pointer) [.pointerUnavailable m.pointer]
  else
    let out := run.redirect c.config store m.pointer m.file m.value
    match out.value with
    | .ok p => ⟨(env.set p.name p.path, .file p.path), out.store, out.events⟩
    | .error cause => fallBack env out.store m cause out.events

/-- The variable that a delivery sets. -/
def deliveredName (m : Message) : Delivery → String
  | .file _ => m.pointer
  | _ => m.name

/-- Contributes the variables of a message. -/
def contributeParams (c : Contributor) (params : SortedMap String String) (run : Run) (env : Environment) (store : σ) :
    Contribution σ :=
  let decisions := Decision.classify params.entries c.reserved env
  let applied := decisions.foldl Decision.apply env
  let injected := decisions.filterMap Decision.injectedName?
  let skipped := decisions.filterMap Decision.skipped?
  let decided := decisions.map Event.ofDecision
  let record (events : List Event) : List Record := events.map (⟨·, some run.id⟩)
  match decisions.findSome? Decision.message? with
  | none => ⟨some applied, store, ⟨injected, skipped, none⟩, record decided⟩
  | some m =>
    let out := c.deliver run applied store m
    ⟨some out.value.1, out.store, ⟨injected ++ [deliveredName m out.value.2], skipped, some out.value.2⟩,
      record (decided ++ out.events)⟩

/-- Contributes to a run. Without variables or without an environment nothing is done. -/
def contribute (c : Contributor) (run : Run) (env : Option Environment) (store : σ) : Contribution σ :=
  match c.params, env with
  | some params, some env => c.contributeParams params run env store
  | _, env => ⟨env, store, .empty, []⟩

end Contributor

end CiMessage
