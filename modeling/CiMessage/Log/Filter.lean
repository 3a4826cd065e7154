import CiMessage.Environment.Raw
import CiMessage.Log.Directive

/-!
# What is logged

A filter is a list of directives, written with commas between them. For an event the static directive that is most to
the point counts. What happens in the span of a contribution is also logged up to the threshold of the dynamic
directives for the span. Of directives for the same case the last one counts.
-/

namespace CiMessage.Log

/-- What is logged of which target and in which span. -/
structure Filter where
  directives : List Directive
  deriving DecidableEq

namespace Filter

/-- The same threshold for all targets. -/
def ofThreshold (t : Threshold) : Filter := ⟨[⟨none, none, none, t⟩]⟩

/-- The filter of a text; without directives only errors are logged. -/
def ofText (text : String) : Except DirectiveError Filter :=
  match (text.splitOn ",").filter (· != "") with
  | [] => .ok (ofThreshold (some .error))
  | pieces =>
    match pieces.mapM fun piece => Directive.ofText piece.toList with
    | .ok ds => .ok ⟨ds⟩
    | .error e => .error e

/-! ## Directives that count -/

/-- The directives without those of which a later one is for the same case. -/
def lastOfCases : List Directive → List Directive
  | [] => []
  | d :: rest => if rest.any d.sameCase then lastOfCases rest else d :: lastOfCases rest

/-- The directives that count. -/
def counting (f : Filter) : List Directive := lastOfCases f.directives

/-- The greatest threshold of all directives. To compare values of fields every span has to be opened. -/
def most (f : Filter) : Threshold :=
  if f.directives.any (·.hasTest) then some .trace else Threshold.maximum (f.directives.map (·.most))

/-- The one of some directives that is most to the point. -/
def foremost (ds : List Directive) : Option Directive :=
  ds.foldl (fun best d => if best.all d.outranks then some d else best) none

/-- Is an event of a level, a target and some fields logged wherever it happens? -/
def admitsAnywhere (f : Filter) (level : Level) (target : String) (fields : List String) : Bool :=
  (foremost (f.counting.filter fun d => d.isStatic && d.coversTarget target && d.coversFields fields)).any
    (·.most.admits level)

/-! ## The span of a contribution -/

/-- The dynamic directives for the span. -/
def spanDirectives (f : Filter) : List Directive :=
  f.counting.filter fun d => d.isDynamic && d.coversTarget Event.variableTarget &&
    d.span.all (· == Record.spanName) && d.coversFields [Record.runKey]

/-- The threshold in the span of a run: the greatest one of the directives whose tests it passes. -/
def spanThreshold (f : Filter) (run : String) : Threshold :=
  let passed := f.spanDirectives.filter fun d => d.field.all fun c => c.test.all (·.passes run)
  Threshold.maximum (passed.map (·.most))

/-- Is the span opened? A static directive counts for it whatever its field is. -/
def opensSpan (f : Filter) : Bool :=
  let static := f.counting.filter fun d => d.isStatic && d.coversTarget Event.variableTarget
  f.most.admits .info && (!f.spanDirectives.isEmpty || (foremost static).any (·.most.admits .info))

/-- Is an event logged that happens in the span of a run, or in none? -/
def admits (f : Filter) (r : Record) : Bool :=
  f.admitsAnywhere r.event.level r.event.target r.event.fieldNames ||
    (f.opensSpan && r.run.any fun run => (f.spanThreshold run).admits r.event.level)

/-! ## The filter of the process -/

/-- The variable of the filter. -/
def variableName : String := "CIENV_LOG"

/-- The variable of the filter of last resort. -/
def fallbackName : String := "RUST_LOG"

/-- The filter of a text; none if there is no text or it is malformed. -/
def ofOptionalText (text : Option String) : Except DirectiveError (Option Filter) :=
  match text.map ofText with
  | none | some (.error .malformed) => .ok none
  | some (.error e) => .error e
  | some (.ok f) => .ok (some f)

/-- The filter that the process asks for, or else all events up to a level. A malformed text is passed over, and so is
an empty one in the first variable. -/
def ofEnvironment (env : Environment.Raw) (level : Level) : Except DirectiveError Filter := do
  let own := ((env.get? variableName).map Text.trim).filter (· != "")
  match ← ofOptionalText own with
  | some f => return f
  | none =>
    let fallback ← ofOptionalText (env.get? fallbackName)
    return fallback.getD (ofThreshold (some level))

end Filter

end CiMessage.Log
