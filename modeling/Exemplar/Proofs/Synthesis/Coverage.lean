import Exemplar.Proofs.Synthesis.History
import Exemplar.Proofs.Synthesis.Traversal
import Mathlib.Order.SetNotation

/-!
The resolver traverses the graph of requirements depth first. A request skips the types that are
remembered or being resolved, so it goes where a traversal goes that has visited those types. It
remembers a type only at the end, when the traversal has long left it, but within the requests for
it the type counts as visited too, because it is on their path. So the remembered types of a
resolver whose requests were all answered are the types that the requested ones reach.
-/

set_option autoImplicit false
set_option relaxedAutoImplicit false

namespace Exemplar

/-! ### Visited types -/

namespace Table

variable {κ ν : Type} [DecidableEq κ] {table : Table κ ν} {key other : κ} {value : ν}

theorem contains_of_get? (h : table.get? key = some value) : table.contains key = true := by
  simp [contains, h]

theorem contains_eq_false_iff : table.contains key = false ↔ table.get? key = none := by
  simp [contains]

theorem contains_insert :
    (table.insert key value).contains other = true ↔ key = other ∨ table.contains other = true := by
  unfold contains
  rw [get?_insert]
  split
  · rename_i hkey
    simp [hkey]
  · rename_i hkey
    simp [hkey]

end Table

/-- The listed types are those that requests within a path skip: what is remembered, and what is
being resolved. -/
def Memory.Lists (memory : Memory) (path : RequestPath) (visited : List Descriptor) : Prop :=
  ∀ d, d ∈ visited ↔ memory.cache.contains d = true ∨ d ∈ path.types

namespace Memory

variable {memory : Memory} {path : RequestPath} {visited : List Descriptor} {d : Descriptor}

theorem lists_keys_append (memory : Memory) (path : RequestPath) :
    memory.Lists path (memory.cache.keys ++ path.types) := by
  intro d
  rw [List.mem_append, ← Table.contains_iff]

theorem lists_empty : Memory.empty.Lists RequestPath.empty [] := by
  intro d
  simp [Memory.empty, Table.contains, RequestPath.empty]

/-- At the top level only what is remembered is skipped. -/
theorem Lists.mem_iff (h : memory.Lists .empty visited) :
    d ∈ visited ↔ memory.cache.contains d = true := by
  rw [h d]
  simp [RequestPath.empty]

/-- A type is new if its values have to be made. -/
theorem Lists.not_mem (h : memory.Lists path visited) (hcache : memory.cache.get? d = none)
    (hpath : d ∉ path.types) : d ∉ visited := by
  rw [h d, Table.contains_eq_false_iff.2 hcache]
  simpa using hpath

/-- A type is visited when its own requirements are requested. -/
theorem Lists.extend (h : memory.Lists path visited) (d : Descriptor) :
    memory.Lists (path.extend d) (visited ++ [d]) := by
  intro e
  rw [List.mem_append, h e, path.mem_types_extend d e, List.mem_singleton]
  exact or_assoc

/-- It stays visited when its triple is remembered in the end. -/
theorem Lists.remember (h : memory.Lists (path.extend d) visited) (shared : SharedTriple) :
    (memory.remember d shared).Lists path visited := by
  intro e
  have hremembered : (memory.remember d shared).cache.contains e = true ↔
      d = e ∨ memory.cache.contains e = true := Table.contains_insert
  rw [h e, path.mem_types_extend d e, hremembered, eq_comm (a := d)]
  tauto

end Memory

/-! ### Requests traverse -/

namespace Sources

/-- Requests for some types in a row, within a path, go where a traversal goes. They leave visited
what the traversal has visited, every new type among it has a recipe, and placeholders are made for
visited types only. -/
structure Walks (sources : Sources) (path : RequestPath) (visited types order : List Descriptor)
    (earlier later : Memory) : Prop where
  lists : later.Lists path order
  made : ∀ e ∈ order, e ∈ visited ∨ ∃ recipe, sources.recipe e = .ok recipe
  placed : ∀ e, later.hollows.contains e = true → earlier.hollows.contains e = true ∨ e ∈ order
  leads : ∀ pending, Traversal.Leads sources ⟨visited, types ++ pending⟩ ⟨order, pending⟩

variable {sources : Sources} {path : RequestPath} {d e : Descriptor}
variable {visited types middle order : List Descriptor} {earlier later last : Memory}

namespace Walks

theorem visited_subset (h : sources.Walks path visited types order earlier later) :
    visited ⊆ order :=
  (h.leads []).visited_isPrefix.subset

theorem refl (hlists : earlier.Lists path visited) :
    sources.Walks path visited [] visited earlier earlier where
  lists := hlists
  made _ he := .inl he
  placed _ he := .inl he
  leads _ := .refl

theorem trans {others : List Descriptor}
    (hfirst : sources.Walks path visited types middle earlier later)
    (hnext : sources.Walks path middle others order later last) :
    sources.Walks path visited (types ++ others) order earlier last where
  lists := hnext.lists
  made e he := by
    rcases hnext.made e he with he | hmade
    · exact hfirst.made e he
    · exact .inr hmade
  placed e he := by
    rcases hnext.placed e he with he | he
    · exact (hfirst.placed e he).imp_right fun hmem ↦ hnext.visited_subset hmem
    · exact .inr he
  leads pending := by
    rw [List.append_assoc]
    exact (hfirst.leads (others ++ pending)).trans (hnext.leads pending)

/-- A request for a visited type is answered at once. -/
theorem drop (hlists : earlier.Lists path visited) (hd : d ∈ visited) :
    sources.Walks path visited [d] visited earlier earlier where
  lists := hlists
  made _ he := .inl he
  placed _ he := .inl he
  leads pending := Traversal.leads_drop hd pending

theorem hold (hlists : earlier.Lists path visited) (hd : d ∈ visited) (shared : SharedTriple) :
    sources.Walks path visited [d] visited earlier (earlier.hold d shared) where
  lists := hlists
  made _ he := .inl he
  placed e he := by
    rcases Table.contains_insert.1 he with rfl | he
    · exact .inr hd
    · exact .inl he
  leads pending := Traversal.leads_drop hd pending

/-- A request for a new type visits the type and then goes through its requirements. -/
theorem visit (hd : d ∉ visited) {recipe : Recipe} (hrecipe : sources.recipe d = .ok recipe)
    (hparts : sources.Walks (path.extend d) (visited ++ [d]) recipe.requirements order earlier
      later) (shared : SharedTriple) :
    sources.Walks path visited [d] order earlier (later.remember d shared) where
  lists := hparts.lists.remember shared
  made e he := by
    rcases hparts.made e he with he | hmade
    · rcases List.mem_append.1 he with he | he
      · exact .inl he
      · rw [List.mem_singleton.1 he]
        exact .inr ⟨recipe, hrecipe⟩
    · exact .inr hmade
  placed := hparts.placed
  leads pending := by
    have hvisit := Traversal.leads_visit sources hd pending
    rw [requirements_eq hrecipe] at hvisit
    exact hvisit.trans (hparts.leads pending)

end Walks

/-- Requests in a row traverse if each of them does. -/
theorem walks_requestAll {request : Request}
    (hrequest : ∀ {d visited progress shared last}, progress.memory.Lists path visited →
      request d progress = .ok shared last →
      ∃ order, sources.Walks path visited [d] order progress.memory last.memory)
    {ds : List Descriptor} {progress last : Progress} {parts : List SharedTriple}
    (hlists : progress.memory.Lists path visited)
    (hrun : requestAll request ds progress = .ok parts last) :
    ∃ order, sources.Walks path visited ds order progress.memory last.memory := by
  induction ds generalizing visited progress parts with
  | nil =>
    cases hrun
    exact ⟨visited, .refl hlists⟩
  | cons d ds ih =>
    obtain ⟨shared, next, others, hfirst, hothers, -⟩ := requestAll_cons_eq_ok_iff.1 hrun
    obtain ⟨middle, hwalk⟩ := hrequest hlists hfirst
    obtain ⟨order, hrest⟩ := ih hwalk.lists hothers
    exact ⟨order, hwalk.trans hrest⟩

/-- An answered request traverses. The induction is on the allowed depth: when the requirements of a
type are requested, the type is on the path, and this is what counts it as visited there. -/
theorem walks_resolveWithin {depth : Nat} {progress last : Progress} {shared : SharedTriple}
    (hlists : progress.memory.Lists path visited)
    (hrun : sources.resolveWithin depth path d progress = .ok shared last) :
    ∃ order, sources.Walks path visited [d] order progress.memory last.memory := by
  induction depth generalizing path d visited progress last shared with
  | zero => cases hrun
  | succ depth ih =>
    have hanswer := sources.answers_resolveWithin depth path d progress
    rw [hrun] at hanswer
    cases hanswer with
    | cached hcache =>
      exact ⟨visited, .drop hlists ((hlists d).2 (.inl (Table.contains_of_get? hcache)))⟩
    | held hcache hpath hhollow => exact ⟨visited, .drop hlists ((hlists d).2 (.inr hpath))⟩
    | placed hcache hpath hhollow => exact ⟨visited, .hold hlists ((hlists d).2 (.inr hpath)) _⟩
    | made hcache hpath hrecipe hparts hcombine =>
      obtain ⟨order, hwalk⟩ := walks_requestAll ih (hlists.extend d) hparts
      exact ⟨order, .visit (hlists.not_mem hcache hpath) hrecipe hwalk _⟩

end Sources

/-! ### Two types that require each other -/

namespace Loop

/-- A type without arguments, named by one letter. -/
def named (c : Char) (hletter : Text.isSpace c = false ∧ isDelimiter c = false) : Descriptor :=
  .ofLetter c hletter.1 hletter.2 []

def typeA : Descriptor :=
  named 'A' ⟨rfl, rfl⟩

def typeB : Descriptor :=
  named 'B' ⟨rfl, rfl⟩

def typeX : Descriptor :=
  named 'X' ⟨rfl, rfl⟩

def types : List Descriptor :=
  [typeA, typeB, typeX]

/-- Records with a field of the type `B`, and after it one of the type `X`. -/
def layoutA : Layout :=
  ((Layout.ofKind "A" .ordinary).withField "b" (.ok typeB)).withField "x" (.ok typeX)

/-- Records with a field of the type `A`. -/
def layoutB : Layout :=
  (Layout.ofKind "B" .ordinary).withField "a" (.ok typeA)

/-- The catalog of both layouts. There is none for `X`. -/
def catalog : Catalog :=
  ⟨(Table.empty.insert "A" layoutA).insert "B" layoutB⟩

/-- The catalog is what registering the layouts gives. -/
example : (Catalog.empty.register layoutA).bind (·.register layoutB) = .ok catalog := rfl

/-- Sources where `X` has a factory, so that all three types can be made. -/
def sources : Sources :=
  ⟨Registry.empty.register "X" (Registry.primitiveFactory .bool), catalog⟩

/-- Sources where `X` can be made in no way. -/
def brokenSources : Sources :=
  ⟨Registry.empty, catalog⟩

/-- The fault of the type that cannot be made. -/
def missing : Failure :=
  .fault (.cannotSynthesize "X" .noFactoryOrLayout)

/-- A resolver that has not resolved anything. -/
def newResolver (sources : Sources) : Resolver :=
  ⟨sources, 10, Memory.empty⟩

end Loop

/-! ### Coverage -/

namespace Resolver

/-- A resolver and the next unused reference number, after top-level requests for the listed types
to a resolver that had not resolved anything. All of them were answered. Other references may be
made between them. -/
inductive Answered (sources : Sources) (start : Nat) : List Descriptor → Resolver → Nat → Prop
  | fresh (depthLimit : Nat) :
    Answered sources start [] ⟨sources, depthLimit, Memory.empty⟩ start
  | resolve {ds : List Descriptor} {resolver : Resolver} {unused : Nat} {d : Descriptor}
    {shared : SharedTriple} : Answered sources start ds resolver unused →
      (resolver.resolve d unused).1.1 = .ok shared →
      Answered sources start (ds ++ [d]) (resolver.resolve d unused).1.2
        (resolver.resolve d unused).2
  | idle {ds : List Descriptor} {resolver : Resolver} {unused later : Nat} :
    Answered sources start ds resolver unused → unused ≤ later →
      Answered sources start ds resolver later

variable {sources : Sources} {start unused : Nat} {ds : List Descriptor} {resolver : Resolver}

theorem Answered.reached (h : Answered sources start ds resolver unused) :
    Reached sources start resolver unused := by
  induction h with
  | fresh depthLimit => exact .fresh depthLimit
  | @resolve ds resolver unused d _ _ _ ih => exact ih.resolve d
  | idle _ hle ih => exact ih.idle hle

/-- The run behind an answered top-level request. -/
theorem resolveWithin_of_resolve {d : Descriptor} {shared : SharedTriple}
    (hanswer : (resolver.resolve d unused).1.1 = .ok shared) :
    ∃ last, resolver.sources.resolveWithin resolver.depthLimit RequestPath.empty d
        ⟨resolver.memory, unused⟩ = .ok shared last ∧
      (resolver.resolve d unused).1.2.memory = last.memory := by
  rw [resolve, resolveWithin_eq] at hanswer ⊢
  cases hrun : resolver.sources.resolveWithin resolver.depthLimit RequestPath.empty d
    ⟨resolver.memory, unused⟩ with
  | error failure last => rw [hrun] at hanswer; cases hanswer
  | ok answer last =>
    rw [hrun] at hanswer
    cases hanswer
    exact ⟨last, rfl, rfl⟩

/-- After answered requests the visited types are those that the requested ones reach. -/
theorem Answered.exists_visited (h : Answered sources start ds resolver unused) :
    ∃ visited, resolver.memory.Lists RequestPath.empty visited ∧
      (∀ e, e ∈ visited ↔ ∃ d ∈ ds, e ∈ sources.reachable d) ∧
      ∀ e, resolver.memory.hollows.contains e = true → e ∈ visited := by
  induction h with
  | fresh depthLimit => exact ⟨[], Memory.lists_empty, by simp, fun _ he ↦ by cases he⟩
  | @resolve ds resolver unused d shared hbefore hanswer ih =>
    obtain ⟨visited, hlists, hvisited, hhollows⟩ := ih
    obtain ⟨last, hrun, hmemory⟩ := resolveWithin_of_resolve hanswer
    rw [hbefore.reached.sources_eq] at hrun
    obtain ⟨order, hwalk⟩ := Sources.walks_resolveWithin hlists hrun
    rw [hmemory]
    refine ⟨order, hwalk.lists, fun e ↦ ?_, fun e he ↦ ?_⟩
    · have hmem := Traversal.Leads.mem_iff (e := e) (hwalk.leads [])
      have hlast : (∃ f ∈ ds ++ [d], e ∈ sources.reachable f) ↔
          (∃ f ∈ ds, e ∈ sources.reachable f) ∨ e ∈ sources.reachable d := by
        simp [or_and_right, exists_or]
      rw [hmem, hlast, ← hvisited e]
      simp only [List.append_nil, List.mem_singleton, exists_eq_left]
      constructor
      · exact Or.imp_right Sources.ReachesOutside.reaches
      · rintro (he | he)
        · exact .inl he
        · have hclosed : ∀ f ∈ {f | f ∈ visited}, ∀ g, sources.Requires f g → g ∈ visited := by
            intro f hf g hg
            obtain ⟨c, hc, hreaches⟩ := (hvisited f).1 hf
            exact (hvisited g).2 ⟨c, hc, hreaches.tail hg⟩
          exact Sources.mem_or_reachesOutside hclosed he
    · rcases hwalk.placed e he with he | he
      · exact hwalk.visited_subset (hhollows e he)
      · exact he
  | idle _ _ ih => exact ih

/-- When all requests were answered, the remembered types are those that the requested ones reach. A
type that was met as a placeholder is one of them. -/
theorem Answered.cached_types_are_reachable_types (h : Answered sources start ds resolver unused) :
    ({e | resolver.isCached e = true} = ⋃ d ∈ ds, sources.reachable d) ∧
      ∀ e, resolver.memory.hollows.contains e = true → resolver.isCached e = true := by
  obtain ⟨visited, hlists, hvisited, hhollows⟩ := h.exists_visited
  have hcached (e : Descriptor) : e ∈ visited ↔ resolver.isCached e = true := hlists.mem_iff
  refine ⟨?_, fun e he ↦ (hcached e).1 (hhollows e he)⟩
  ext e
  rw [Set.mem_ofPred_eq, ← hcached e, hvisited e]
  simp

/-- `A` and `B` require each other. The request for `A` meets it again within `B`, where it is
answered by a placeholder, and remembers it in the end. -/
theorem Answered.loop_types_are_remembered :
    ∃ shared, ((Loop.newResolver Loop.sources).resolve Loop.typeA 0).1.1 = .ok shared ∧
      ((Loop.newResolver Loop.sources).resolve
        Loop.typeA 0).1.2.memory.hollows.contains Loop.typeA = true ∧
      ({e | ((Loop.newResolver Loop.sources).resolve Loop.typeA 0).1.2.isCached e = true} =
        ⋃ d ∈ [Loop.typeA], Loop.sources.reachable d) ∧
      ((Loop.newResolver Loop.sources).resolve Loop.typeA 0).1.2.isCached Loop.typeA = true := by
  have hsome :
      ((Loop.newResolver Loop.sources).resolve Loop.typeA 0).1.1.toOption.isSome = true := by
    decide +kernel
  have hhollow : ((Loop.newResolver Loop.sources).resolve
      Loop.typeA 0).1.2.memory.hollows.contains Loop.typeA = true := by decide +kernel
  obtain ⟨shared, hanswer⟩ := exists_ok_of_isSome hsome
  have hcovers := Answered.cached_types_are_reachable_types
    ((@Answered.fresh Loop.sources 0 10).resolve hanswer)
  exact ⟨shared, hanswer, hhollow, hcovers.1, hcovers.2 Loop.typeA hhollow⟩

end Resolver

end Exemplar
