import Exemplar.Synthesis.Assembly
import Exemplar.Synthesis.Registry
import Exemplar.Synthesis.RequestPath

/-!
The resolver finds a triple of values for every type it can. It remembers the triple of each
resolved type, so equal requests share one answer. A type requested again while it is being
resolved gets a hollow placeholder, which ends the recursion on cyclic types. The factory of a type
goes first; if it declines the type, or there is none, the values are assembled from its layout.
-/

set_option autoImplicit false
set_option relaxedAutoImplicit false

namespace Exemplar

/-- Where values come from: factories and layouts. -/
structure Sources where
  registry : Registry
  catalog : Catalog

namespace Sources

/-- The values of a type assembled from its layout, where every fault is final. -/
def assemble (sources : Sources) (request : Request) (d : Descriptor) : Resolution Triple :=
  (Assembly.create request sources.catalog d).fatal

/-- The values of a type by its factory, or else by its layout. -/
def create (sources : Sources) (request : Request) (d : Descriptor) : Resolution Triple :=
  match sources.registry.lookup? d.identity with
  | none => sources.assemble request d
  | some factory => (factory.create request d).orIfUnsupported (sources.assemble request d)

end Sources

namespace Resolution

/-- The placeholder for a type, always the same one. -/
def hollow (d : Descriptor) : Resolution SharedTriple := do
  match (← memory).hollows.get? d with
  | some shared => return shared
  | none =>
    let triple ← ofFresh (Triple.hollow d)
    let shared ← ofFresh triple.share
    modifyMemory fun memory ↦ ⟨memory.cache, memory.hollows.insert d shared⟩
    return shared

/-- Remembers the triple of a resolved type. -/
def remember (d : Descriptor) (triple : Triple) : Resolution SharedTriple := do
  let shared ← ofFresh triple.share
  modifyMemory fun memory ↦ ⟨memory.cache.insert d shared, memory.hollows⟩
  return shared

end Resolution

namespace Sources

/-- The triple of a type requested within the requests on a path. At most `depth` requests may be
nested, this one included. -/
def resolveWithin (sources : Sources) : Nat → RequestPath → Request
  | 0, _, _ => throw .tooDeep
  | depth + 1, path, d => do
    match (← Resolution.memory).cache.get? d with
    | some shared => return shared
    | none =>
      if path.contains d then Resolution.hollow d
      else
        let triple ← sources.create (resolveWithin sources depth (path.extend d)) d
        Resolution.remember d triple

end Sources

/-- A resolver: its sources, how deeply requests may be nested, and what it remembers. The limit
only makes requests total. Types that require ever larger types meet any limit, and a type that reaches
fewer types than the limit is answered as under every higher one. -/
structure Resolver where
  sources : Sources
  depthLimit : Nat
  memory : Memory

namespace Resolver

/-- The usual limit, which types written by hand stay far below. What is proved of resolvers and of
fixtures holds of any limit, or of any that is high enough. -/
def usualDepthLimit : Nat :=
  2000

/-- A resolver with the usual limit that has not resolved anything. -/
def ofSources (registry : Registry) (catalog : Catalog) : Resolver :=
  ⟨⟨registry, catalog⟩, usualDepthLimit, Memory.empty⟩

variable {α : Type}

/-- The answer of a run, with the resolver as the run leaves it. -/
def perform (resolver : Resolver) (run : Resolution α) : Fresh (Except Failure α × Resolver) :=
  fun unused ↦
    match run ⟨resolver.memory, unused⟩ with
    | .ok answer progress =>
      ((.ok answer, { resolver with memory := progress.memory }), progress.unused)
    | .error failure progress =>
      ((.error failure, { resolver with memory := progress.memory }), progress.unused)

/-- How types are requested within the requests on a path. -/
def request (resolver : Resolver) (path : RequestPath) : Request :=
  resolver.sources.resolveWithin resolver.depthLimit path

/-- The triple of a type requested within the requests on a path. -/
def resolveWithin (resolver : Resolver) (path : RequestPath) (d : Descriptor) :
    Fresh (Except Failure SharedTriple × Resolver) :=
  resolver.perform (resolver.request path d)

/-- The triple of a type. -/
def resolve (resolver : Resolver) (d : Descriptor) :
    Fresh (Except Failure SharedTriple × Resolver) :=
  resolver.resolveWithin RequestPath.empty d

/-- Whether a type is resolved. -/
def isCached (resolver : Resolver) (d : Descriptor) : Bool :=
  resolver.memory.cache.contains d

/-- The number of resolved types. -/
def cachedCount (resolver : Resolver) : Nat :=
  resolver.memory.cache.size

end Resolver

end Exemplar
