import Exemplar.Proofs.Synthesis.Blindness
import Exemplar.Proofs.Synthesis.Consistency
import Exemplar.Proofs.Synthesis.Evaluation
import Exemplar.Proofs.Synthesis.Termination

/-!
On acyclic types the resolver answers as plain evaluation does, after every history. A request fails
just where an evaluation fails, because everything that was answered before can be evaluated. What
is remembered of an acyclic type is made of remembered triples only, whatever the histories of
cyclic or failed requests left in the memory, and it has the same shapes as every later evaluation.
All of this is about numbers that equal themselves. A number that does not is equal to itself behind
a shared reference only, and the resolver shares what an evaluation makes twice.
-/

set_option autoImplicit false
set_option relaxedAutoImplicit false

namespace Exemplar

namespace Sources

variable {sources : Sources} {path : RequestPath} {d : Descriptor}

/-! ### Faults -/

/-- What an acyclic type requires is provided by remembered triples only. -/
theorem IsAcyclic.cached_of_provides (hd : sources.IsAcyclic d) {e : Descriptor}
    (hrequires : sources.Requires d e) {memory : Memory} {shared : SharedTriple}
    (hprovides : memory.Provides sources d e shared) : memory.cache.get? e = some shared := by
  rcases hprovides with hcache | ⟨-, hreaches⟩
  · exact hcache
  · exact absurd hreaches (hd.not_reaches hrequires)

/-- The acyclic types that are remembered can be evaluated. -/
def EvaluatesCached (sources : Sources) (progress : Progress) : Prop :=
  progress.memory.Consistent sources ∧ ∀ e shared, progress.memory.cache.get? e = some shared →
    sources.IsAcyclic e → sources.Evaluates e

theorem evaluatesCached_empty (sources : Sources) (unused : Nat) :
    sources.EvaluatesCached ⟨Memory.empty, unused⟩ :=
  ⟨Memory.consistent_empty sources, fun _ _ h ↦ by cases h⟩

theorem keeps_evaluatesCached (sources : Sources) : sources.Keeps sources.EvaluatesCached :=
  sources.keeps_consistent.and_cached (fun e _ ↦ sources.IsAcyclic e → sources.Evaluates e)
    fun _ hcached hrecipe hanswer _ hd ↦ hd.evaluates hrecipe fun e he ↦
      hcached e _ (hd.cached_of_provides ⟨_, hrecipe, he⟩ (hanswer e he))
        (hd.of_requires ⟨_, hrecipe, he⟩)

/-- When a request for an acyclic type fails, so does every evaluation, and with the same fault. -/
theorem IsAcyclic.failsWith_of_resolveWithin (hd : sources.IsAcyclic d) {depth : Nat}
    {progress reached : Progress} {fault : Fault} (hinv : sources.EvaluatesCached progress)
    (hpath : sources.Enclosed path d progress.memory)
    (hrun : sources.resolveWithin depth path d progress = .error (.fault fault) reached) :
    sources.FailsWith d fault := by
  induction depth generalizing path d progress reached with
  | zero => cases hrun
  | succ depth ih =>
    have hanswer := sources.answers_resolveWithin depth path d progress
    rw [hrun] at hanswer
    cases hanswer with
    | unmade hcache hmem hrecipe => exact failsWith_of_unmade hrecipe
    | @failed recipe _ _ hcache hmem hrecipe hparts =>
      obtain ⟨before, e, after, parts, middle, hsplit, hbefore, hlast⟩ :=
        requestAll_eq_error_iff.1 hparts
      have hrequires (f : Descriptor) (hf : f ∈ before ++ e :: after) : sources.Requires d f :=
        ⟨recipe, hrecipe, hsplit ▸ hf⟩
      have hearlier (f : Descriptor) (hf : f ∈ before) : sources.Requires d f :=
        hrequires f (List.mem_append_left _ hf)
      have he : sources.Requires d e := hrequires e (by simp)
      obtain ⟨hmiddle, hgrown⟩ := keeps_requestAll
        (sources.keeps_evaluatesCached.resolveWithin depth) hpath hcache hearlier hinv
      rw [hbefore, Resolution.reached_ok] at hmiddle hgrown
      obtain ⟨answer, -, hanswer, -⟩ := provides_of_requestAll hpath hcache hbefore
      refine hd.failsWith hrecipe hsplit (fun f hf ↦ ?_)
        (ih (hd.of_requires he) hmiddle ((hpath.extend hcache he).of_grows hgrown) hlast)
      exact hmiddle.2 f _ (hd.cached_of_provides (hearlier f hf) (hanswer f hf))
        (hd.of_requires (hearlier f hf))

/-! ### Triples -/

/-- Every later evaluation of a type gives a triple of the same shapes, which lives on top of the
heap of that time. -/
def Refines (sources : Sources) (heap : Heap) (d : Descriptor) (triple : Triple) : Prop :=
  ∀ depth larger number evaluated later, (sources.reachable d).ncard < depth →
    heap.Extends larger → larger.FreshFrom number →
    sources.evaluate depth d number = (.ok evaluated, later) →
    triple.Alike evaluated ∧ ∃ largest : Heap, larger.Extends largest ∧ largest.FreshFrom later ∧
      evaluated.SupportedBy largest

variable {base heap larger : Heap}

theorem Refines.extends {triple : Triple} (h : sources.Refines heap d triple)
    (hlarger : heap.Extends larger) : sources.Refines larger d triple :=
  fun depth largest number evaluated later hdepth hlargest ↦
    h depth largest number evaluated later hdepth (hlarger.trans hlargest)

/-- Evaluations in a row give triples of the shapes of the remembered ones. -/
theorem alike_of_evaluateAll {ds : List Descriptor} {answer : Descriptor → Triple} {depth : Nat}
    (hds : ∀ e ∈ ds, sources.Refines heap e (answer e))
    (hdepth : ∀ e ∈ ds, (sources.reachable e).ncard < depth) (hlarger : heap.Extends larger)
    {number later : Nat} (hfresh : larger.FreshFrom number) {evaluated : List Triple}
    (hrun : evaluateAll (sources.evaluate depth) ds number = (.ok evaluated, later)) :
    List.Forall₂ Triple.Alike (ds.map answer) evaluated ∧ ∃ largest : Heap,
      larger.Extends largest ∧ largest.FreshFrom later ∧
      ∀ triple ∈ evaluated, triple.SupportedBy largest := by
  induction ds generalizing larger number later evaluated with
  | nil =>
    cases hrun
    exact ⟨.nil, larger, .refl larger, hfresh, nofun⟩
  | cons e ds ih =>
    rcases hfirst : sources.evaluate depth e number with ⟨failure | triple, middle⟩
    · rw [evaluateAll_cons_of_error hfirst] at hrun
      cases hrun
    · rw [evaluateAll_cons_of_ok hfirst] at hrun
      rcases hothers : evaluateAll (sources.evaluate depth) ds middle with
        ⟨failure | triples, last⟩
      · rw [hothers] at hrun
        cases hrun
      · rw [hothers] at hrun
        cases hrun
        obtain ⟨halike, first, hextends, hfresh₁, hsupported⟩ := hds e List.mem_cons_self depth
          larger number triple middle (hdepth e List.mem_cons_self) hlarger hfresh hfirst
        obtain ⟨halikes, largest, hextends', hfresh₂, hsupporteds⟩ :=
          ih (fun f hf ↦ hds f (List.mem_cons_of_mem e hf))
            (fun f hf ↦ hdepth f (List.mem_cons_of_mem e hf)) (hlarger.trans hextends) hfresh₁
            hothers
        refine ⟨.cons halike halikes, largest, hextends.trans hextends', hfresh₂, fun t ht ↦ ?_⟩
        rcases List.mem_cons.1 ht with rfl | ht
        · exact hsupported.extends hextends'
        · exact hsupporteds t ht

/-- A triple made of triples that agree with evaluations agrees with evaluations. -/
theorem IsAcyclic.refines (hd : sources.IsAcyclic d) {recipe : Recipe}
    (hrecipe : sources.recipe d = .ok recipe) (hplain : recipe.Plain base)
    (hbase : base.Extends heap) {number : Nat} (hfresh : heap.FreshFrom number)
    {answer : Descriptor → Triple}
    (hsupported : ∀ e ∈ recipe.requirements, (answer e).SupportedBy heap)
    (hanswer : ∀ e ∈ recipe.requirements, sources.Refines heap e (answer e)) :
    sources.Refines heap d (recipe.combine (recipe.requirements.map answer) number).1 := by
  intro depth larger start evaluated later hdepth hlarger hstart hrun
  obtain ⟨depth, rfl⟩ := Nat.exists_eq_add_one_of_ne_zero (Nat.ne_zero_of_lt hdepth)
  rcases hparts : evaluateAll (sources.evaluate depth) recipe.requirements start with
    ⟨failure | triples, middle⟩
  · rw [evaluate_of_error hrecipe hparts] at hrun
    cases hrun
  · rw [evaluate_of_ok hrecipe hparts] at hrun
    cases hrun
    obtain ⟨halike, largest, hextends, hmiddle, htriples⟩ := alike_of_evaluateAll hanswer
      (fun e ↦ hd.ncard_lt_of_lt_succ hrecipe hdepth) hlarger hstart hparts
    have hlength : (recipe.requirements.map answer).length = recipe.requirements.length :=
      List.length_map _
    have hanswers : ∀ triple ∈ recipe.requirements.map answer, triple.SupportedBy heap := by
      intro triple htriple
      obtain ⟨e, he, rfl⟩ := List.mem_map.1 htriple
      exact hsupported e he
    have hlargest := hlarger.trans hextends
    obtain ⟨-, last, hlast, hlater, hmade⟩ := hplain.supported (hbase.trans hlargest) hmiddle
      (halike.length_eq.symm.trans hlength) htriples
    exact ⟨hplain.alike hbase hlargest hfresh hmiddle hlength hanswers htriples halike,
      last, hextends.trans hlast, hlater, hmade⟩

/-- A memory whose triples live in a heap, and agree with later evaluations of acyclic types. -/
structure LivesIn (sources : Sources) (base heap : Heap) (memory : Memory) : Prop where
  base : base.Extends heap
  cache : ∀ d shared, memory.cache.get? d = some shared → shared.triple.SupportedBy heap
  hollows : ∀ d shared, memory.hollows.get? d = some shared → shared.triple.SupportedBy heap
  refines : ∀ d shared, memory.cache.get? d = some shared → sources.IsAcyclic d →
    sources.Refines heap d shared.triple

variable {memory : Memory}

theorem livesIn_empty (sources : Sources) (base : Heap) :
    sources.LivesIn base base Memory.empty where
  base := .refl base
  cache _ _ h := by cases h
  hollows _ _ h := by cases h
  refines _ _ h := by cases h

theorem LivesIn.extends (h : sources.LivesIn base heap memory) (hlarger : heap.Extends larger) :
    sources.LivesIn base larger memory :=
  ⟨h.base.trans hlarger, fun d shared hd ↦ (h.cache d shared hd).extends hlarger,
    fun d shared hd ↦ (h.hollows d shared hd).extends hlarger,
    fun d shared hd hacyclic ↦ (h.refines d shared hd hacyclic).extends hlarger⟩

theorem LivesIn.provides (h : sources.LivesIn base heap memory) {e : Descriptor}
    {shared : SharedTriple} (hprovides : memory.Provides sources d e shared) :
    shared.triple.SupportedBy heap := by
  rcases hprovides with hcache | ⟨hhollow, -⟩
  · exact h.cache e shared hcache
  · exact h.hollows e shared hhollow

theorem supports_hollow {unused : Nat} (hfresh : heap.FreshFrom unused) (d : Descriptor) :
    (heap.allocate unused (.hollow d)).Supports (.ref unused (.hollow d)) :=
  ⟨.of_ref trivial nofun, Heap.holds_allocate hfresh trivial nofun⟩

theorem supportedBy_placeholder {unused : Nat} (hfresh : heap.FreshFrom unused) (d : Descriptor) :
    (Triple.placeholder d unused).SupportedBy
      ((heap.allocate unused (.hollow d)).allocate (unused + 1) (.hollow d)) := by
  have hfresh' := Heap.freshFrom_allocate hfresh (.hollow d)
  have hred := (supports_hollow hfresh d).extends (Heap.extends_allocate hfresh' (.hollow d))
  exact ⟨hred, supports_hollow hfresh' d, hred⟩

/-- Whatever is remembered goes on living in a heap that grows. -/
theorem Blind.keeps_livesIn (hsources : sources.Blind base) (hnumbers : sources.NaNFree) :
    sources.Keeps fun progress ↦ ∃ heap : Heap, heap.FreshFrom progress.unused ∧
      sources.LivesIn base heap progress.memory where
  idle := by
    rintro memory unused later ⟨heap, hfresh, hlives⟩ hle
    exact ⟨heap, hfresh.mono hle, hlives⟩
  hold := by
    rintro memory unused d ⟨heap, hfresh, hlives⟩ -
    have hfresh' := Heap.freshFrom_allocate hfresh (.hollow d)
    have hextends := (Heap.extends_allocate hfresh (.hollow d)).trans
      (Heap.extends_allocate hfresh' (.hollow d))
    have hlarger := hlives.extends hextends
    refine ⟨_, (Heap.freshFrom_allocate hfresh' (.hollow d)).mono (Nat.le_succ _),
      hlarger.base, hlarger.cache, fun e shared he ↦ ?_, hlarger.refines⟩
    rcases Memory.get?_of_hold he with ⟨rfl, rfl⟩ | he
    · exact supportedBy_placeholder hfresh d
    · exact hlarger.hollows e shared he
  remember := by
    rintro memory unused d recipe triple later answer ⟨heap, hfresh, hlives⟩ - hrecipe hanswer -
      hcombine
    have hsupported (e : Descriptor) (he : e ∈ recipe.requirements) :
        (answer e).triple.SupportedBy heap := hlives.provides (hanswer e he)
    have hplain := hsources.plain_recipe hnumbers hrecipe
    obtain ⟨-, larger, hextends, hlater, hmade⟩ :=
      hplain.supported hlives.base hfresh (List.length_map _) (by simpa using hsupported)
    have hrefines (hd : sources.IsAcyclic d) := hd.refines hrecipe hplain hlives.base hfresh
      hsupported fun e he ↦ hlives.refines e _
        (hd.cached_of_provides ⟨recipe, hrecipe, he⟩ (hanswer e he))
        (hd.of_requires ⟨recipe, hrecipe, he⟩)
    rw [hcombine] at hlater hmade hrefines
    have hlarger := hlives.extends hextends
    refine ⟨larger, hlater.mono (Nat.le_succ _), hlarger.base, fun e shared he ↦ ?_,
      hlarger.hollows, fun e shared he hacyclic ↦ ?_⟩
    · rcases Memory.get?_of_remember he with ⟨rfl, rfl⟩ | he
      · exact hmade
      · exact hlarger.cache e shared he
    · rcases Memory.get?_of_remember he with ⟨rfl, rfl⟩ | he
      · exact (hrefines hacyclic).extends hextends
      · exact hlarger.refines e shared he hacyclic

end Sources

/-! ### Maps whose keys share what they require -/

namespace Sharing

def one : Value :=
  (Primitive.integer .i32).red

def two : Value :=
  (Primitive.integer .i32).black

/-- Sources of numbers `A` and `B`, of lists `L`, of maps `M`, and of pairs `S` without an order. -/
def plainSources : Sources where
  registry := ((((Registry.empty.register "A" (.constant ⟨one, two, one⟩)).register "B"
    (.constant ⟨two, one, two⟩)).register "L" (.container true)).register "M" .map).register "S"
    (.generic (Factory.pair "S" false))
  catalog := Catalog.empty

/-- A number that differs from itself. -/
def nan : Value :=
  .floating ⟨.double, 0x7ff8000000000000, by decide⟩

/-- The same sources with one more type `N`, whose constructor makes a number that differs from
itself. -/
def nanSources : Sources where
  registry := plainSources.registry.register "N" (.generic (.unary fun _ ↦ return nan))
  catalog := Catalog.empty

def typeA : Descriptor :=
  .ofLetter 'A' rfl rfl []

def typeB : Descriptor :=
  .ofLetter 'B' rfl rfl []

def typeN : Descriptor :=
  .ofLetter 'N' rfl rfl [typeA]

def listOf (d : Descriptor) : Descriptor :=
  .ofLetter 'L' rfl rfl [d]

def mapOf (key value : Descriptor) : Descriptor :=
  .ofLetter 'M' rfl rfl [key, value]

def pairOf (first second : Descriptor) : Descriptor :=
  .ofLetter 'S' rfl rfl [first, second]

/-- Pairs of maps to one type of lists. Red and black of such a pair have the same maps, and differ
in nothing but the references to the lists. -/
def mapPairOf (d : Descriptor) : Descriptor :=
  pairOf (mapOf typeA (listOf d)) (mapOf typeB (listOf d))

/-- Maps with these pairs as keys. -/
def mapFrom (d : Descriptor) : Descriptor :=
  mapOf (mapPairOf d) typeA

/-- The types that they reach, each before those that it requires. -/
def typesFrom (d : Descriptor) : List Descriptor :=
  [mapFrom d, mapPairOf d, mapOf typeA (listOf d), mapOf typeB (listOf d), listOf d, d, typeA,
    typeB]

/-- A resolver that has not resolved anything. -/
def newResolver (sources : Sources) : Resolver :=
  ⟨sources, 10, Memory.empty⟩

theorem isAcyclic_mapFrom {sources : Sources} {d : Descriptor}
    (hlist : sources.listsRequirements (typesFrom d) = true) :
    sources.IsAcyclic (mapFrom d) ∧ (sources.reachable (mapFrom d)).ncard < 10 := by
  have hmem : mapFrom d ∈ typesFrom d := List.mem_cons_self
  have hfew := Sources.ncard_le_of_listsRequirements hlist hmem
  exact ⟨(Sources.isAcyclic_of_listsRequirements hlist hmem).1,
    Nat.lt_of_le_of_lt hfew (by simp [typesFrom])⟩

theorem blind_of_lookup?_plainSources : ∀ identity factory,
    plainSources.registry.lookup? identity = some factory →
      factory.Blind .empty ∧ factory.NaNFree := by
  have hone : Heap.empty.Supports one := ⟨.of_inline trivial rfl, .of_inline trivial rfl⟩
  have htwo : Heap.empty.Supports two := ⟨.of_inline trivial rfl, .of_inline trivial rfl⟩
  refine Registry.forall_lookup?_register "S"
    ⟨Factory.blind_pair .empty "S" false, Factory.naNFree_pair "S" false⟩ ?_
  refine Registry.forall_lookup?_register "M" ⟨trivial, trivial⟩ ?_
  refine Registry.forall_lookup?_register "L"
    ⟨Factory.blind_container .empty true, Factory.naNFree_container true⟩ ?_
  refine Registry.forall_lookup?_register "B" ?_ (Registry.forall_lookup?_register "A" ?_ nofun)
  · exact ⟨⟨htwo.holds, hone.holds, htwo.holds⟩, htwo.numbers, hone.numbers, htwo.numbers⟩
  · exact ⟨⟨hone.holds, htwo.holds, hone.holds⟩, hone.numbers, htwo.numbers, hone.numbers⟩

theorem blind_plainSources : plainSources.Blind .empty where
  factories identity factory hfactory :=
    (blind_of_lookup?_plainSources identity factory hfactory).1
  layouts _ _ hlayout := by cases hlayout

theorem naNFree_plainSources : plainSources.NaNFree :=
  fun identity factory hfactory ↦ (blind_of_lookup?_plainSources identity factory hfactory).2

theorem blind_nanSources : nanSources.Blind .empty where
  factories := by
    have hnan : Heap.empty.Holds nan := .of_inline trivial rfl
    refine Registry.forall_lookup?_register "N" ?_ blind_plainSources.factories
    refine (IsBlind.fixed hnan).congr fun values hlength ↦ ?_
    obtain ⟨v, rfl⟩ := List.length_eq_one_iff.1 hlength
    rfl
  layouts _ _ hlayout := by cases hlayout

/-- Only the constructor of `N` makes a number that differs from itself. -/
theorem naNFree_of_lookup?_nanSources (identity : String) (triple : Triple)
    (hfactory : nanSources.registry.lookup? identity = some (.constant triple)) :
    (Factory.constant triple).NaNFree := by
  have hplain (identity : String) (factory : Factory)
      (hfound : plainSources.registry.lookup? identity = some factory) (triple : Triple)
      (htriple : factory = .constant triple) : (Factory.constant triple).NaNFree := by
    subst htriple
    exact naNFree_plainSources identity _ hfound
  exact Registry.forall_lookup?_register "N" (fun _ htriple ↦ by cases htriple) hplain identity _
    hfactory triple rfl

end Sharing

/-! ### Resolving and evaluating -/

namespace Resolver

open Sharing

variable {sources : Sources} {start unused : Nat} {resolver : Resolver}

theorem Reached.evaluatesCached (h : Reached sources start resolver unused) :
    sources.EvaluatesCached ⟨resolver.memory, unused⟩ :=
  h.keeps sources.keeps_evaluatesCached (sources.evaluatesCached_empty start)

/-- The resolver agrees with plain evaluation on every acyclic type, after every history. Either it
answers with a triple that has the same shapes as every later evaluation and is equal to it, or it
fails with the fault that every evaluation fails with. -/
theorem Reached.resolve_agrees_with_evaluation {base : Heap} (hsources : sources.Blind base)
    (hnumbers : sources.NaNFree) (hbase : base.FreshFrom start)
    (h : Reached sources start resolver unused) {d : Descriptor} (hd : sources.IsAcyclic d)
    (hlimit : (sources.reachable d).ncard < resolver.depthLimit) :
    (∃ shared, (resolver.resolve d unused).1.1 = .ok shared ∧
      ∀ depth later, (sources.reachable d).ncard < depth →
        (resolver.resolve d unused).2 ≤ later → ∃ triple last,
          sources.evaluate depth d later = (.ok triple, last) ∧ shared.triple.Alike triple ∧
            shared.triple.equal triple = true) ∨
    ∃ fault, (resolver.resolve d unused).1.1 = .error (.fault fault) ∧
      ∀ depth later, (sources.reachable d).ncard < depth → ∃ last,
        sources.evaluate depth d later = (.error (.fault fault), last) := by
  cases hanswer : (resolver.resolve d unused).1.1 with
  | ok shared =>
    refine .inl ⟨shared, rfl, fun depth later hdepth hlater ↦ ?_⟩
    have hcache := cached_of_resolve hanswer
    obtain ⟨heap, hfresh, hlives⟩ := (h.resolve d).keeps (hsources.keeps_livesIn hnumbers)
      ⟨base, hbase, sources.livesIn_empty base⟩
    obtain ⟨triple, last, hrun⟩ :=
      (h.resolve d).evaluatesCached.2 d shared hcache hd depth later hdepth
    obtain ⟨halike, largest, hlargest, -, htriple⟩ := hlives.refines d shared hcache hd depth heap
      later triple last hdepth (.refl heap) (hfresh.mono hlater) hrun
    exact ⟨triple, last, hrun, halike,
      halike.equal ((hlives.cache d shared hcache).extends hlargest) htriple⟩
  | error failure =>
    rw [Resolver.resolve, resolveWithin_eq, h.sources_eq] at hanswer
    cases hrun : sources.resolveWithin resolver.depthLimit RequestPath.empty d
      ⟨resolver.memory, unused⟩ with
    | ok shared reached => rw [hrun] at hanswer; cases hanswer
    | error reason reached =>
      rw [hrun] at hanswer
      cases hanswer
      cases failure with
      | tooDeep => exact absurd hrun (Sources.resolveWithin_ne_tooDeep _ _ hd.finite hlimit reached)
      | fault fault =>
        exact .inr ⟨fault, rfl, hd.failsWith_of_resolveWithin h.evaluatesCached
          (sources.enclosed_empty d resolver.memory) hrun⟩

/-- Without numbers that differ from themselves, maps whose keys share lists are answered as they
are evaluated. -/
theorem Reached.resolve_agrees_with_evaluation_of_shared_lists :
    plainSources.IsAcyclic (mapFrom typeA) ∧
    (plainSources.reachable (mapFrom typeA)).ncard < 10 ∧
    ∃ shared, ((newResolver plainSources).resolve (mapFrom typeA) 0).1.1 = .ok shared ∧
      ∀ depth later, (plainSources.reachable (mapFrom typeA)).ncard < depth →
        ((newResolver plainSources).resolve (mapFrom typeA) 0).2 ≤ later → ∃ triple last,
          plainSources.evaluate depth (mapFrom typeA) later = (.ok triple, last) ∧
            shared.triple.Alike triple ∧ shared.triple.equal triple = true := by
  have hlist : plainSources.listsRequirements (typesFrom typeA) = true := by decide +kernel
  obtain ⟨hd, hlimit⟩ := isAcyclic_mapFrom hlist
  have hanswer :
      ((newResolver plainSources).resolve (mapFrom typeA) 0).1.1.toOption.isSome = true := by
    decide +kernel
  have hagrees := Reached.resolve_agrees_with_evaluation blind_plainSources naNFree_plainSources
    (Heap.freshFrom_empty 0) (@Reached.fresh plainSources 0 10) hd hlimit
  refine ⟨hd, hlimit, hagrees.resolve_right ?_⟩
  rintro ⟨fault, hfault, -⟩
  have hnone := congrArg (fun answer ↦ answer.toOption.isSome) hfault
  exact Bool.false_ne_true (hnone.symm.trans hanswer)

/-- Two runs whose answers are checked end with such answers. -/
theorem exists_answers {α β : Type} {check : α → β → Bool} {first : Except Failure α}
    {second : Except Failure β × Nat}
    (h : (first.toOption.bind fun a ↦ second.1.toOption.map (check a)) = some true) :
    ∃ a b last, first = .ok a ∧ second = (.ok b, last) ∧ check a b = true := by
  obtain ⟨a, b, hfirst, hsecond, hcheck⟩ := exists_oks h
  exact ⟨a, b, second.2, hfirst, Prod.ext hsecond rfl, hcheck⟩

/-- It does not suffice that the fixed values have no number that differs from itself. If a
constructor makes one, the black key equals the red one where both share the lists, so that black
has no entry. An evaluation makes the lists anew, and gives black an entry. -/
theorem Reached.black_differs_from_evaluation_of_shared_lists :
    nanSources.Blind .empty ∧
    (∀ identity triple, nanSources.registry.lookup? identity = some (.constant triple) →
      (Factory.constant triple).NaNFree) ∧
    nanSources.IsAcyclic (mapFrom typeN) ∧
    (nanSources.reachable (mapFrom typeN)).ncard < 10 ∧
    ∃ shared triple last, ((newResolver nanSources).resolve (mapFrom typeN) 0).1.1 = .ok shared ∧
      nanSources.evaluate 10 (mapFrom typeN)
        ((newResolver nanSources).resolve (mapFrom typeN) 0).2 = (.ok triple, last) ∧
      shared.triple.black.object?.bind Object.entries? = some [] ∧
      shared.triple.black.equal triple.black = false := by
  have hlist : nanSources.listsRequirements (typesFrom typeN) = true := by decide +kernel
  obtain ⟨hd, hlimit⟩ := isAcyclic_mapFrom hlist
  have hanswers :
      (((newResolver nanSources).resolve (mapFrom typeN) 0).1.1.toOption.bind fun shared ↦
        (nanSources.evaluate 10 (mapFrom typeN)
          ((newResolver nanSources).resolve (mapFrom typeN) 0).2).1.toOption.map fun triple ↦
            (shared.triple.black.object?.bind Object.entries?).any List.isEmpty &&
              !shared.triple.black.equal triple.black) = some true := by
    decide +kernel
  obtain ⟨shared, triple, last, hshared, htriple, hcheck⟩ := exists_answers hanswers
  refine ⟨blind_nanSources, naNFree_of_lookup?_nanSources, hd, hlimit, shared, triple, last,
    hshared, htriple, ?_⟩
  simpa [Option.any_eq_true] using hcheck

end Resolver

end Exemplar
