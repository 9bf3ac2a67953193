import Roster.Api.Endpoint
import Roster.Api.Error
import Roster.Fleet.Cluster
import Roster.Fleet.Page
/-!
# Plans

What a listing does, step by step: it asks for instances, for clusters and for the selection, it
prints, and in the end it has a value or fails. Each step says how to go on from its answer. A plan
is run against anything that answers its steps; the answers may change a state.
-/

namespace Roster

/-- Why a listing failed: a call, or the selection, which fails in ways of its own. -/
inductive Plan.Error (σ : Type) where
  | api (error : ApiError)
  | selection (error : σ)

inductive Plan (σ α : Type) where
  | finish (result : Except (Plan.Error σ) α)
  | print (text : String) (next : Plan σ α)
  | instances (params : ListParams) (next : Except ApiError Page → Plan σ α)
  | clusters (params : ListParams) (next : Except ApiError (List Cluster) → Plan σ α)
  | selection (next : Except σ (Option String) → Plan σ α)

namespace Plan

variable {σ α β ω : Type}

/-- Goes on with the value of a plan. -/
def andThen (f : α → Plan σ β) : Plan σ α → Plan σ β
  | finish (.ok a) => f a
  | finish (.error e) => finish (.error e)
  | print text next => print text (next.andThen f)
  | instances params next => instances params fun a => (next a).andThen f
  | clusters params next => clusters params fun a => (next a).andThen f
  | selection next => selection fun a => (next a).andThen f

instance : Monad (Plan σ) where
  pure a := finish (.ok a)
  bind p f := p.andThen f

/-! ### Steps -/

/-- Prints a text. -/
def say (text : String) : Plan σ Unit := print text (finish (.ok ()))

/-- Asks for a page of instances, and fails if the call does. -/
def getInstances (params : ListParams) : Plan σ Page :=
  instances params fun answer => finish (answer.mapError .api)

/-- Asks for clusters, and fails if the call does. -/
def getClusters (params : ListParams) : Plan σ (List Cluster) :=
  clusters params fun answer => finish (answer.mapError .api)

/-- Asks which instance is selected, and fails if that cannot be told. -/
def getSelection : Plan σ (Option String) :=
  selection fun answer => finish (answer.mapError .selection)

/-! ### Running -/

/-- What answers the steps of a plan. -/
structure Handler (σ ω : Type) where
  instances : ListParams → ω → Except ApiError Page × ω
  clusters : ListParams → ω → Except ApiError (List Cluster) × ω
  selection : ω → Except σ (Option String) × ω

/-- What came of a plan: all that was printed, how it ended, and the state afterwards. -/
structure Run (σ α ω : Type) where
  out : String
  result : Except (Error σ) α
  state : ω

/-- Runs a plan; `out` has been printed before. -/
def runFrom (h : Handler σ ω) (out : String) : Plan σ α → ω → Run σ α ω
  | finish result, s => ⟨out, result, s⟩
  | print text next, s => next.runFrom h (out ++ text) s
  | instances params next, s =>
    let (a, s) := h.instances params s
    (next a).runFrom h out s
  | clusters params next, s =>
    let (a, s) := h.clusters params s
    (next a).runFrom h out s
  | selection next, s =>
    let (a, s) := h.selection s
    (next a).runFrom h out s

def run (h : Handler σ ω) (p : Plan σ α) (s : ω) : Run σ α ω := p.runFrom h "" s

/-- Goes on from a run that has a value. -/
def Run.andThen (r : Run σ α ω) (f : String → α → ω → Run σ β ω) : Run σ β ω :=
  match r.result with
  | .ok a => f r.out a r.state
  | .error e => ⟨r.out, .error e, r.state⟩

theorem runFrom_bind (h : Handler σ ω) (f : α → Plan σ β) (p : Plan σ α) (out : String) (s : ω) :
    (p >>= f).runFrom h out s =
      (p.runFrom h out s).andThen fun out a s => (f a).runFrom h out s := by
  change (p.andThen f).runFrom h out s = _
  induction p generalizing out s with
  | finish result => cases result <;> rfl
  | print text next ih => exact ih _ _
  | instances params next ih => exact ih _ _ _
  | clusters params next ih => exact ih _ _ _
  | selection next ih => exact ih _ _ _

/-! ### Traces -/

/-- A step that reaches outside. -/
inductive Effect where
  | instances (params : ListParams)
  | clusters (params : ListParams)
  | selection
  deriving Repr, DecidableEq

/-- Fixed answers to the steps of a plan. -/
structure Answers (σ : Type) where
  instances : ListParams → Except ApiError Page
  clusters : ListParams → Except ApiError (List Cluster)
  selection : Except σ (Option String)

/-- Gives fixed answers and notes the steps in their order. -/
def Answers.handler (a : Answers σ) : Handler σ (List Effect) where
  instances params effects := (a.instances params, effects ++ [.instances params])
  clusters params effects := (a.clusters params, effects ++ [.clusters params])
  selection effects := (a.selection, effects ++ [.selection])

/-- Runs a plan against fixed answers; the state at the end lists the steps that were taken. -/
def trace (a : Answers σ) (p : Plan σ α) : Run σ α (List Effect) := p.run a.handler []

end Plan

end Roster
