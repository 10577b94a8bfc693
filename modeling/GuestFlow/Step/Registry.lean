import GuestFlow.Step.Renderer

/-!
# The registry of renderers

The registry says which renderer shows which kind of node.  Kinds without one are shown
by the fallback; for a kind that the library does not know this is noted in the journal,
once for each such kind.
-/

set_option autoImplicit false

namespace GuestFlow

structure Registry where
  /-- The renderers by kind of node. -/
  renderers : List (String × Renderer)
  fallback : Renderer
  /-- The unknown kinds that were noted. -/
  noted : List String
  deriving DecidableEq

namespace Registry

def empty : Registry := ⟨[], ⟨.generic, none⟩, []⟩

def contains (registry : Registry) (kind : String) : Bool :=
  registry.renderers.any fun entry => entry.1 == kind

/-- Sets the renderer of a kind; replacing one is noted. -/
def register (registry : Registry) (kind : String) (renderer : Renderer) : Registry × Journal :=
  ({ registry with
      renderers := (kind, renderer) :: registry.renderers.filter fun entry => entry.1 != kind },
    if registry.contains kind then [.info ("Replacing renderer for node type " ++ kind)] else [])

def unregister (registry : Registry) (kind : String) : Registry :=
  { registry with renderers := registry.renderers.filter fun entry => entry.1 != kind }

/-- The renderer of a kind, and whether it is the fallback. -/
def resolve (registry : Registry) (kind : String) : Registry × Journal × Renderer × Bool :=
  match registry.renderers.lookup kind with
  | some renderer => (registry, [], renderer, false)
  | none =>
    if Kind.isKnown kind || registry.noted.contains kind then
      (registry, [], registry.fallback, true)
    else
      ({ registry with noted := kind :: registry.noted },
        [.warning ("Unknown step type " ++ kind ++ ", using generic step")],
        registry.fallback, true)

/-- Triggers, conditions and delays have renderers of their own. -/
def usual : Registry :=
  { empty with
    renderers := (Kind.known.filter Kind.isTrigger).map (fun kind => (kind, ⟨.trigger, none⟩)) ++
      [(Kind.condition, ⟨.condition, none⟩), (Kind.delay, ⟨.delay, none⟩)] }

end Registry

end GuestFlow
