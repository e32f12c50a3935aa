import Exemplar.Proofs.Synthesis.Locality

/-!
What a request sees of the requests around it. A path is only ever asked whether a type is on it,
and within a request the only types asked for are those that its type reaches. So two paths that
agree on these types lead to the same answer and the same memory, whatever their order is and
whatever else is on them. In particular the request for one argument of a type does not disturb the
request for the next one.
-/

set_option autoImplicit false
set_option relaxedAutoImplicit false

namespace Exemplar

/-! ### Paths that agree on some types -/

namespace RequestPath

/-- Of the given types, the same ones are on both paths. -/
def AgreesOn (types : Set Descriptor) (path other : RequestPath) : Prop :=
  ∀ e ∈ types, e ∈ path.types ↔ e ∈ other.types

variable {types fewer : Set Descriptor} {path other : RequestPath}

theorem AgreesOn.mono (h : AgreesOn types path other) (hsubset : fewer ⊆ types) :
    AgreesOn fewer path other :=
  fun e he ↦ h e (hsubset he)

/-- Within a request for one more type, two paths agree on what they agreed on before. -/
theorem AgreesOn.extend (h : AgreesOn types path other) (d : Descriptor) :
    AgreesOn types (path.extend d) (other.extend d) := by
  intro e he
  rw [mem_types_extend, mem_types_extend, h e he]

end RequestPath

/-! ### Requests within paths that agree -/

section Requests

variable {request other : Request}

theorem requestAll_congr_of_mem {ds : List Descriptor} (hsame : ∀ d ∈ ds, request d = other d) :
    requestAll request ds = requestAll other ds := by
  induction ds with
  | nil => rfl
  | cons d ds ih =>
    rw [requestAll, requestAll, hsame d List.mem_cons_self,
      ih fun e he ↦ hsame e (List.mem_cons_of_mem d he)]

/-- Following a recipe makes no other requests than those for what the recipe requires. -/
theorem Recipe.follow_congr {recipe : Recipe}
    (hsame : ∀ d ∈ recipe.requirements, request d = other d) :
    recipe.follow request = recipe.follow other := by
  rw [follow, follow, requestAll_congr_of_mem hsame]

end Requests

namespace Sources

variable {sources : Sources} {d : Descriptor} {path other : RequestPath}

/-- Paths that agree on the reachable types lead to the same run. Each nested request is for a type
that reaches no more, within paths that were extended by the same type. -/
theorem resolveWithin_congr_path (hpaths : path.AgreesOn (sources.reachable d) other) (depth : Nat)
    (progress : Progress) :
    sources.resolveWithin depth path d progress = sources.resolveWithin depth other d progress := by
  induction depth generalizing path other d progress with
  | zero => rfl
  | succ depth ih =>
    have hself : d ∈ path.types ↔ d ∈ other.types := hpaths d (sources.mem_reachable_self d)
    cases hcache : progress.memory.cache.get? d with
    | some shared =>
      rw [resolveWithin_of_cached sources depth path hcache,
        resolveWithin_of_cached sources depth other hcache]
    | none =>
      by_cases hpath : d ∈ path.types
      · rw [resolveWithin_of_not_cached hcache, resolveWithin_of_not_cached hcache, if_pos hpath,
          if_pos (hself.1 hpath)]
      · have hother : d ∉ other.types := fun h ↦ hpath (hself.2 h)
        rw [resolveWithin_eq_follow hcache hpath, resolveWithin_eq_follow hcache hother]
        cases hrecipe : sources.recipe d with
        | error fault => rfl
        | ok recipe =>
          have hfollow : recipe.follow (sources.resolveWithin depth (path.extend d)) =
              recipe.follow (sources.resolveWithin depth (other.extend d)) := by
            refine Recipe.follow_congr fun e he ↦ funext fun later ↦ ?_
            have hsubset := Requires.reachable_subset ⟨recipe, hrecipe, he⟩
            exact ih ((hpaths.mono hsubset).extend d) later
          rw [Resolution.ofExcept_ok_bind, Resolution.ofExcept_ok_bind, hfollow]

end Sources

/-! ### New references -/

/-- All references that are remembered keep their numbers, so only new ones get other numbers. -/
structure Memory.IsFixedBy (ρ : Renumbering) (memory : Memory) : Prop where
  cache : ∀ e shared, memory.cache.get? e = some shared → shared.renumber ρ.image = shared
  hollows : ∀ e shared, memory.hollows.get? e = some shared → shared.renumber ρ.image = shared

namespace Memory

variable {ρ : Renumbering} {memory : Memory} {unused : Nat}

theorem isFixedBy_empty (ρ : Renumbering) : Memory.empty.IsFixedBy ρ :=
  ⟨nofun, nofun⟩

theorem get?_eq_map_of_fixed {table : Table Descriptor SharedTriple}
    {rename : SharedTriple → SharedTriple}
    (hfixed : ∀ e shared, table.get? e = some shared → rename shared = shared) (e : Descriptor) :
    table.get? e = (table.get? e).map rename := by
  cases hget : table.get? e with
  | none => rfl
  | some shared => rw [Option.map_some, hfixed e shared hget]

/-- A memory that is kept corresponds to itself, where the supply goes on at another number. -/
theorem IsFixedBy.corresponds (h : memory.IsFixedBy ρ) (hunused : ρ.start ≤ unused) :
    (Progress.mk memory unused).Corresponds ρ ⟨memory, ρ.image unused⟩ :=
  ⟨hunused, rfl, get?_eq_map_of_fixed h.cache, get?_eq_map_of_fixed h.hollows⟩

end Memory

/-! ### Isolation -/

namespace Isolated

/-- A path on which `X` is the only type that `C` reaches. -/
def path : RequestPath :=
  .ofList [Inherited.typeZ, Inherited.typeX, Inherited.typeP]

/-- Another path with `X` and without `C`. -/
def otherPath : RequestPath :=
  .ofList [Inherited.typeX, Inherited.typeE]

theorem agreesOn_typeC : path.AgreesOn (Inherited.sources.reachable Inherited.typeC) otherPath := by
  have hlisted : ∀ e ∈ [Inherited.typeC, Inherited.typeX],
      (e ∈ path.types ↔ e ∈ otherPath.types) := by decide
  exact fun e he ↦ hlisted e (Inherited.reachable_typeC he)

/-- A resolver of records `C` that has not resolved anything. -/
def resolver : Resolver :=
  ⟨Inherited.sources, 10, Memory.empty⟩

end Isolated

namespace Resolver

variable {resolver : Resolver} {d : Descriptor} {path other : RequestPath}

/-- Paths with the same reachable types on them make no difference to a request. With the same
references both requests end with the same answer and leave the same resolver. If the second one
takes other references, and what the type is made of cannot see them, then both fail with the same
failure, or the answers are the same up to these references, and so are all triples and
placeholders that are remembered afterwards. -/
theorem resolveWithin_sees_only_reachable_types
    (hpaths : path.AgreesOn (resolver.sources.reachable d) other) :
    (∀ unused, resolver.resolveWithin path d unused = resolver.resolveWithin other d unused) ∧
    ∀ ρ : Renumbering, resolver.sources.AgreeUpTo ρ resolver.sources d →
      resolver.memory.IsFixedBy ρ → ∀ unused, ρ.start ≤ unused →
        let first := resolver.resolveWithin path d unused
        let second := resolver.resolveWithin other d (ρ.image unused)
        second.1.1 = first.1.1.map (SharedTriple.renumber ρ.image) ∧
        (∀ e, second.1.2.memory.cache.get? e =
          (first.1.2.memory.cache.get? e).map (SharedTriple.renumber ρ.image)) ∧
        ∀ e, second.1.2.memory.hollows.get? e =
          (first.1.2.memory.hollows.get? e).map (SharedTriple.renumber ρ.image) := by
  have hsame (unused : Nat) :
      resolver.resolveWithin path d unused = resolver.resolveWithin other d unused := by
    rw [resolveWithin_eq, resolveWithin_eq, Sources.resolveWithin_congr_path hpaths]
  refine ⟨hsame, fun ρ hblind hfixed unused hunused ↦ ?_⟩
  have hresults := Sources.renumbers_resolveWithin (fun e he ↦ hblind.recipesCorrespond he)
    resolver.depthLimit other _ _ (hfixed.corresponds hunused)
  dsimp only
  rw [hsame, resolveWithin_eq, resolveWithin_eq]
  generalize resolver.sources.resolveWithin resolver.depthLimit other d _ = result at hresults
  generalize resolver.sources.resolveWithin resolver.depthLimit other d _ = result' at hresults
  cases hresults with
  | answered hanswers hprogress =>
    subst hanswers
    exact ⟨rfl, hprogress.cache, hprogress.hollows⟩
  | failed failure hprogress => exact ⟨rfl, hprogress.cache, hprogress.hollows⟩

/-- Two paths that share nothing but `X`, on different places, make no difference to `C`. -/
theorem resolveWithin_isolated_from_other_types :
    Isolated.path.AgreesOn (Isolated.resolver.sources.reachable Inherited.typeC)
      Isolated.otherPath ∧
    Isolated.resolver.resolveWithin Isolated.path Inherited.typeC 0 =
      Isolated.resolver.resolveWithin Isolated.otherPath Inherited.typeC 0 ∧
    (Isolated.resolver.resolveWithin Isolated.otherPath Inherited.typeC 5).1.1 =
      (Isolated.resolver.resolveWithin Isolated.path Inherited.typeC 0).1.1.map
        (SharedTriple.renumber (Renumbering.shift 0 5).image) := by
  have hpaths : Isolated.path.AgreesOn (Isolated.resolver.sources.reachable Inherited.typeC)
      Isolated.otherPath := Isolated.agreesOn_typeC
  obtain ⟨hsame, hrenumbered⟩ := resolveWithin_sees_only_reachable_types hpaths
  obtain ⟨hanswer, -⟩ := hrenumbered (.shift 0 5) (Inherited.agreeUpTo_typeC _)
    (Memory.isFixedBy_empty _) 0 (Nat.le_refl 0)
  exact ⟨hpaths, hsame 0, hanswer⟩

end Resolver

end Exemplar
