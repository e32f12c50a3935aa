import Exemplar.Proofs.Synthesis.Blindness
import Exemplar.Proofs.Synthesis.Evaluation
import Exemplar.Proofs.Synthesis.History
import Exemplar.Proofs.Synthesis.Lockstep
import Exemplar.Proofs.Synthesis.Termination

/-!
What the answer of a resolver depends on. Of the registry it is the factories of the reachable
types, and of the catalog the layouts on the superclass chains of those types that have no factory
or are declined by it. Static fields, ordinary constructors and everything registered under other
names do not matter, and neither do the numbers that references have.
-/

set_option autoImplicit false
set_option relaxedAutoImplicit false

namespace Exemplar

namespace Triple

/-- There is no hollow object in any of the three values. -/
structure HollowFree (triple : Triple) : Prop where
  red : triple.red.HollowFree
  black : triple.black.HollowFree
  redCopy : triple.redCopy.HollowFree

theorem HollowFree.alike_renumber {triple : Triple} (h : triple.HollowFree) (image : Nat → Nat) :
    triple.Alike (triple.renumber image) :=
  ⟨Value.alike_renumber h.red, Value.alike_renumber h.black, Value.alike_renumber h.redCopy⟩

end Triple

/-! ### Agreement -/

namespace Sources

/-- The values of a type are assembled from its layout: it has no factory, or its factory declines
it. -/
def FallsBack (sources : Sources) (d : Descriptor) : Prop :=
  ∀ factory, sources.registry.lookup? d.identity = some factory → factory.Declines d

/-- Two sources agree on what a type is made of. All types that it reaches have related factories,
or none on both sides. Where a reachable type falls back to layouts, all layouts on its superclass
chain tell the same, or are missing on both sides. -/
structure Agree (related : Factory → Factory → Prop) (rename : Value → Value)
    (first second : Sources) (d : Descriptor) : Prop where
  factories : ∀ e ∈ first.reachable d, Option.Rel related (first.registry.lookup? e.identity)
    (second.registry.lookup? e.identity)
  layouts : ∀ e ∈ first.reachable d, first.FallsBack e → ∀ ancestor,
    first.catalog.Descends e ancestor → Option.Rel (Layout.SameStorage rename)
      (first.catalog.layout? ancestor.identity) (second.catalog.layout? ancestor.identity)

/-- Two sources have the same factories and the same layouts for what a type is made of. -/
abbrev AgreeOn (first second : Sources) (d : Descriptor) : Prop :=
  Agree Eq id first second d

/-- Two sources have the same factories and layouts up to a renumbering of references. Sources that
agree with themselves in this way cannot see the references that get other numbers. -/
abbrev AgreeUpTo (ρ : Renumbering) (first second : Sources) (d : Descriptor) : Prop :=
  Agree (Factory.Corresponds ρ) (Value.renumber ρ.image) first second d

/-- What a resolver that has not resolved anything answers to a request for a type. -/
def freshAnswer (sources : Sources) (depthLimit : Nat) (d : Descriptor) (unused : Nat) :
    Except Failure SharedTriple :=
  ((⟨sources, depthLimit, Memory.empty⟩ : Resolver).resolve d unused).1.1

end Sources

/-! ### Sources that agree run in lockstep -/

namespace Sources

variable {ρ : Renumbering} {first second : Sources} {d e : Descriptor}

/-- The recipes of the reachable types correspond. A factory that is asked first declines the type
on both sides or on none of them. -/
theorem Agree.recipesCorrespond (h : first.AgreeUpTo ρ second d) (he : e ∈ first.reachable d) :
    RecipesCorrespond ρ (first.recipe e) (second.recipe e) := by
  have hassembly (hfalls : first.FallsBack e) :=
    Assembly.recipesCorrespond (h.layouts e he hfalls)
  have hfactories := h.factories e he
  unfold recipe
  cases hfactory : first.registry.lookup? e.identity with
  | none =>
    rw [hfactory] at hfactories
    rw [eq_none_of_rel_none hfactories]
    exact hassembly fun factory hfound ↦ by rw [hfactory] at hfound; cases hfound
  | some factory =>
    rw [hfactory] at hfactories
    obtain ⟨other, hother, hcorresponds⟩ := exists_of_rel_some hfactories
    have hrecipes := hcorresponds.recipe e
    rw [hother]
    dsimp only
    generalize hrecipe : factory.recipe e = recipe at hrecipes
    generalize other.recipe e = recipe' at hrecipes
    cases hrecipes with
    | found hfound => exact .found hfound
    | missing fault =>
      dsimp only
      split
      · rename_i hfault
        refine hassembly fun found hfound ↦ ?_
        obtain rfl : factory = found := Option.some.inj (hfactory.symm.trans hfound)
        exact (Factory.declines_iff_of_recipe hrecipe).2 hfault
      · exact .missing fault

/-- A request to the second resolver, which takes its references from the renumbered ones, is
answered as one to the first resolver up to the renumbering. -/
theorem Agree.freshAnswer (h : first.AgreeUpTo ρ second d) (depthLimit : Nat) {unused : Nat}
    (hunused : ρ.start ≤ unused) :
    second.freshAnswer depthLimit d (ρ.image unused) =
      (first.freshAnswer depthLimit d unused).map (SharedTriple.renumber ρ.image) := by
  have hprogress : (Progress.mk Memory.empty unused).Corresponds ρ
      ⟨Memory.empty, ρ.image unused⟩ := ⟨hunused, rfl, fun _ ↦ rfl, fun _ ↦ rfl⟩
  have hresults := renumbers_resolveWithin (fun e he ↦ h.recipesCorrespond he) depthLimit
    RequestPath.empty _ _ hprogress
  unfold Sources.freshAnswer Resolver.resolve
  rw [Resolver.resolveWithin_eq, Resolver.resolveWithin_eq]
  dsimp only
  generalize first.resolveWithin depthLimit RequestPath.empty d _ = result at hresults
  generalize second.resolveWithin depthLimit RequestPath.empty d _ = result' at hresults
  cases hresults with
  | answered hanswers _ =>
    subst hanswers
    rfl
  | failed failure _ => rfl

end Sources

/-! ### References that keep their numbers -/

theorem Value.renumber_identity : Value.renumber Renumbering.identity.image = id :=
  funext fun _ ↦ renumber_eq_self (.of_forall (fun _ _ _ _ ↦ rfl) _)

theorem Triple.renumber_identity : Triple.renumber Renumbering.identity.image = id :=
  funext fun triple ↦ by rw [Triple.renumber, Value.renumber_identity]; rfl

theorem SharedTriple.renumber_identity :
    SharedTriple.renumber Renumbering.identity.image = id :=
  funext fun shared ↦ by rw [SharedTriple.renumber, Triple.renumber_identity]; rfl

theorem Renumbering.carries_identity {α : Type} (action : Fresh α) :
    Renumbering.identity.Carries id action action :=
  fun _ _ ↦ ⟨Nat.zero_le _, rfl⟩

/-- Every factory makes the same with the same references. -/
theorem Factory.corresponds_identity (factory : Factory) :
    factory.Corresponds Renumbering.identity factory := by
  cases factory with
  | constant triple =>
    have hconstant := @Corresponds.constant Renumbering.identity triple
    rwa [Triple.renumber_identity] at hconstant
  | collection build =>
    refine .collection fun d values _ ↦ ?_
    rw [Value.renumber_identity, List.map_id]
    exact Renumbering.carries_identity (build d values)
  | copy underlying convert =>
    refine .copy underlying fun v ↦ ?_
    rw [Value.renumber_identity]
    exact Renumbering.carries_identity (convert v)
  | map => exact .map
  | generic constructor =>
    refine .generic rfl fun values _ ↦ ?_
    rw [Value.renumber_identity, List.map_id]
    exact Renumbering.carries_identity (constructor.call values)

namespace Sources

variable {first second : Sources} {d : Descriptor}

theorem Agree.upTo_identity (h : first.AgreeOn second d) :
    first.AgreeUpTo Renumbering.identity second d where
  factories e he := rel_of_imp (h.factories e he) fun factory _ hsame ↦
    hsame ▸ factory.corresponds_identity
  layouts := Value.renumber_identity ▸ h.layouts

end Sources

theorem Factory.corresponds_primitiveFactory {ρ : Renumbering} (primitive : Primitive) :
    (Registry.primitiveFactory primitive).Corresponds ρ (Registry.primitiveFactory primitive) := by
  cases primitive <;> exact .constant _

theorem Registry.lookup?_identity (registry : Registry) (d : Descriptor) :
    registry.lookup? d.identity = registry.factories.get? d.identity := by
  rw [lookup?, Descriptor.identity, TypeName.trim_text]

/-! ### A type with an inherited field -/

namespace Inherited

def typeC : Descriptor :=
  .ofLetter 'C' rfl rfl []

def typeE : Descriptor :=
  .ofLetter 'E' rfl rfl []

def typeX : Descriptor :=
  .ofLetter 'X' rfl rfl []

def typeZ : Descriptor :=
  .ofLetter 'Z' rfl rfl []

/-- The superclass of `C`, with `X` for its parameter. -/
def typeP : Descriptor :=
  .ofLetter 'P' rfl rfl [typeX]

def layoutP : Layout :=
  ((Layout.ofKind "P" .abstract).withParameters ["E"]).withField "inherited" (.ok typeE)

def layoutC : Layout :=
  ((Layout.ofKind "C" .ordinary).withSuperclass (.ok typeP)).withField "own" (.ok typeX)

/-- Sources of numbers `X` and of records `C`. -/
def sources : Sources where
  registry := Registry.empty.register "X" (Registry.primitiveFactory (.integer .i32))
  catalog := ⟨(Table.empty.insert "P" layoutP).insert "C" layoutC⟩

/-- The same sources with a factory and a layout for `Z`, of which `C` and `P` have static fields,
and with constructors for `C` and `P`. -/
def otherSources : Sources where
  registry := sources.registry.register "Z" .map
  catalog := ⟨((Table.empty.insert "Z" (Layout.ofKind "Z" .interface)).insert "P"
    ((layoutP.withStaticField "shared" (.ok typeZ)).withConstructor fun _ ↦ return .null)).insert
      "C" ((layoutC.withStaticField "count" (.ok typeZ)).withConstructor fun _ ↦ return .null)⟩

/-- The fields of `C`, where the inherited one has the type that `P` is given. -/
def fields : List Field :=
  [⟨"inherited", typeX, false⟩, ⟨"own", typeX, false⟩]

theorem fields_typeC : sources.catalog.fields typeC = .ok fields := by
  have hlayoutC : sources.catalog.layouts.get? typeC.identity = some layoutC := rfl
  have hlayoutP : sources.catalog.layouts.get? typeP.identity = some layoutP := rfl
  exact Catalog.fields_of_superclass hlayoutC rfl (by decide) hlayoutP rfl

theorem recipe_typeC :
    sources.recipe typeC = .ok (.parts [typeX, typeX] (Assembly.record typeC fields)) :=
  have hlayout : sources.catalog.layout? typeC.identity = some layoutC := rfl
  Sources.recipe_of_fields rfl hlayout rfl fields_typeC

theorem reachable_typeC : sources.reachable typeC ⊆ {e | e ∈ [typeC, typeX]} := by
  have hlist : sources.listsRequirements [typeC, typeX] = true := by
    rw [Sources.listsRequirements, recipe_typeC]
    rfl
  exact (Sources.isAcyclic_of_listsRequirements hlist List.mem_cons_self).2

theorem descends_typeC {e : Descriptor} (h : sources.catalog.Descends typeC e) :
    e = typeC ∨ e = typeP := by
  induction h with
  | refl => exact .inl rfl
  | tail _ hstep ih =>
    obtain ⟨layout, superclass, hlayout, hsuperclass, rfl⟩ := hstep
    rcases ih with rfl | rfl
    · obtain rfl : layoutC = layout := Option.some.inj hlayout
      cases hsuperclass
      exact .inr rfl
    · obtain rfl : layoutP = layout := Option.some.inj hlayout
      cases hsuperclass

/-- Only `C` and `X` are reached, and only `C` and `P` are on the superclass chain of `C`. -/
theorem agree_typeC {related : Factory → Factory → Prop} {rename : Value → Value} {other : Sources}
    (hfactories : ∀ e ∈ [typeC, typeX], Option.Rel related
      (sources.registry.factories.get? e.identity) (other.registry.factories.get? e.identity))
    (hlayouts : ∀ e ∈ [typeC, typeP], Option.Rel (Layout.SameStorage rename)
      (sources.catalog.layouts.get? e.identity) (other.catalog.layouts.get? e.identity)) :
    sources.Agree related rename other typeC where
  factories e he := by
    rw [Registry.lookup?_identity, Registry.lookup?_identity]
    exact hfactories e (reachable_typeC he)
  layouts e he hfalls ancestor hancestor := by
    have hmem : e ∈ [typeC, typeX] := reachable_typeC he
    rw [List.mem_cons, List.mem_singleton] at hmem
    rcases hmem with rfl | rfl
    · rw [Catalog.layout?_identity, Catalog.layout?_identity]
      refine hlayouts ancestor ?_
      rw [List.mem_cons, List.mem_singleton]
      exact descends_typeC hancestor
    · exact (hfalls _ rfl).elim

theorem agreeOn_typeC : sources.AgreeOn otherSources typeC := by
  refine agree_typeC ?_ ?_
  · rw [List.forall_mem_cons, List.forall_mem_singleton]
    exact ⟨.none, .some rfl⟩
  · rw [List.forall_mem_cons, List.forall_mem_singleton]
    exact ⟨.some ⟨⟨rfl, rfl, rfl⟩, .ordinary⟩, .some ⟨⟨rfl, rfl, rfl⟩, .abstract⟩⟩

/-- Neither the numbers nor the layouts have any references. -/
theorem agreeUpTo_typeC (ρ : Renumbering) : sources.AgreeUpTo ρ sources typeC := by
  refine agree_typeC ?_ ?_
  · rw [List.forall_mem_cons, List.forall_mem_singleton]
    exact ⟨.none, .some (Factory.corresponds_primitiveFactory (.integer .i32))⟩
  · rw [List.forall_mem_cons, List.forall_mem_singleton]
    exact ⟨.some ⟨⟨rfl, rfl, rfl⟩, .ordinary⟩, .some ⟨⟨rfl, rfl, rfl⟩, .abstract⟩⟩

/-- The object of a record whose fields both have the given value. -/
def record (v : Value) : Object :=
  .record typeC [("inherited", v), ("own", v)]

/-- The answer for `C`, if the first unused reference number is zero. -/
def answer : SharedTriple :=
  ⟨4, .ref 1 (record (Primitive.integer .i32).red), .ref 2 (record (Primitive.integer .i32).black),
    .ref 3 (record (Primitive.integer .i32).red)⟩

theorem freshAnswer_typeC : sources.freshAnswer 10 typeC 0 = .ok answer := by
  have hrun : sources.resolveWithin 10 RequestPath.empty typeC ⟨Memory.empty, 0⟩ =
      ((Resolution.ofExcept (sources.recipe typeC) >>= Recipe.follow (sources.resolveWithin 9
        (RequestPath.empty.extend typeC))) >>= Resolution.remember typeC) ⟨Memory.empty, 0⟩ :=
    Sources.resolveWithin_eq_follow rfl List.not_mem_nil
  rw [Sources.freshAnswer, Resolver.resolve, Resolver.resolveWithin_eq, hrun, recipe_typeC]
  rfl

/-- The heap of this answer and of the one that is made when five references more were taken. -/
def heap : Heap := fun number ↦
  if number = 2 ∨ number = 7 then some (record (Primitive.integer .i32).black)
  else some (record (Primitive.integer .i32).red)

/-- What holds of a value, and of a record with it, holds everywhere in the record if the value is
inline. -/
theorem everywhere_record {P : Value → Prop} {number : Nat} {v : Value} (hv : v.object? = none)
    (hvalue : P v) (hrecord : P (.ref number (record v))) :
    Value.Everywhere P (.ref number (record v)) := by
  refine .of_ref hrecord fun part hpart ↦ ?_
  have hparts : (record v).parts = [v, v] := rfl
  rw [hparts, List.mem_cons, List.mem_singleton, or_self] at hpart
  subst hpart
  exact .of_inline hvalue hv

theorem supports_record {number : Nat} {n : Integer}
    (hheap : heap number = some (record (.integer n))) :
    heap.Supports (.ref number (record (.integer n))) :=
  ⟨everywhere_record rfl trivial trivial, everywhere_record rfl trivial ⟨hheap, trivial⟩⟩

theorem supportedBy_answer : answer.triple.SupportedBy heap :=
  ⟨supports_record rfl, supports_record rfl, supports_record rfl⟩

theorem supportedBy_renumbered_answer :
    (answer.triple.renumber (Renumbering.shift 0 5).image).SupportedBy heap :=
  ⟨supports_record rfl, supports_record rfl, supports_record rfl⟩

theorem hollowFree_answer : answer.triple.HollowFree :=
  ⟨everywhere_record rfl trivial rfl, everywhere_record rfl trivial rfl,
    everywhere_record rfl trivial rfl⟩

end Inherited

namespace Sources

variable {first second : Sources} {d : Descriptor}

/-- The answer of a resolver that has not resolved anything depends on what the type is made of, and
on nothing else. Two resolvers that agree on this answer the same if they take the same references.
If they take other references, and the sources cannot see them, they fail with the same failure or
answer with the same triple up to these references. Then the triples have the same shapes if no
placeholder is left in them, and are equal in each heap in which both live. -/
theorem Agree.freshAnswer_eq_up_to_references (h : first.AgreeOn second d) (depthLimit : Nat) :
    (∀ unused, second.freshAnswer depthLimit d unused = first.freshAnswer depthLimit d unused) ∧
    ∀ ρ : Renumbering, first.AgreeUpTo ρ first d → ∀ unused, ρ.start ≤ unused →
      second.freshAnswer depthLimit d (ρ.image unused) =
        (first.freshAnswer depthLimit d unused).map (SharedTriple.renumber ρ.image) ∧
      ∀ shared, first.freshAnswer depthLimit d unused = .ok shared → shared.triple.HollowFree →
        shared.triple.Alike (shared.triple.renumber ρ.image) ∧
        ∀ heap, shared.triple.SupportedBy heap →
          (shared.triple.renumber ρ.image).SupportedBy heap →
            shared.triple.equal (shared.triple.renumber ρ.image) = true := by
  have hsame (unused : Nat) :
      second.freshAnswer depthLimit d unused = first.freshAnswer depthLimit d unused := by
    have hanswer := h.upTo_identity.freshAnswer depthLimit (Nat.zero_le unused)
    rw [SharedTriple.renumber_identity, Except.map_id] at hanswer
    exact hanswer
  refine ⟨hsame, fun ρ hblind unused hunused ↦ ⟨?_, fun shared _ hsolid ↦ ?_⟩⟩
  · rw [hsame, hblind.freshAnswer depthLimit hunused]
  · have halike := hsolid.alike_renumber ρ.image
    exact ⟨halike, fun heap htriple hother ↦ halike.equal htriple hother⟩

/-- With other static fields, constructors, factories and layouts, the records are the same, and
equal to those made with other references. -/
theorem Agree.freshAnswer_with_inherited_field :
    Inherited.sources.AgreeOn Inherited.otherSources Inherited.typeC ∧
    Inherited.otherSources.freshAnswer 10 Inherited.typeC 0 = .ok Inherited.answer ∧
    Inherited.otherSources.freshAnswer 10 Inherited.typeC 5 =
      .ok (Inherited.answer.renumber (Renumbering.shift 0 5).image) ∧
    Inherited.answer.triple.equal
      (Inherited.answer.triple.renumber (Renumbering.shift 0 5).image) = true := by
  obtain ⟨hsame, hrenumbered⟩ :=
    Agree.freshAnswer_eq_up_to_references Inherited.agreeOn_typeC 10
  obtain ⟨hother, hequal⟩ :=
    hrenumbered (.shift 0 5) (Inherited.agreeUpTo_typeC _) 0 (Nat.le_refl 0)
  rw [Inherited.freshAnswer_typeC] at hother
  have hanswer := Inherited.freshAnswer_typeC
  obtain ⟨-, hequal⟩ := hequal Inherited.answer hanswer Inherited.hollowFree_answer
  exact ⟨Inherited.agreeOn_typeC, (hsame 0).trans hanswer, hother,
    hequal Inherited.heap Inherited.supportedBy_answer Inherited.supportedBy_renumbered_answer⟩

end Sources

end Exemplar
