import Exemplar.Proofs.Synthesis.Coverage
import Exemplar.Proofs.Synthesis.Precedence
import Exemplar.Proofs.Synthesis.Standard

/-!
The elements of containers. A standard container of one element holds the colors of its element
type, if that was remembered first. If the container was made within a request for its element type,
that had no values yet. Then the container holds the placeholder of the type for good, because it is
remembered with it.
-/

set_option autoImplicit false
set_option relaxedAutoImplicit false

namespace Exemplar

/-! ### Values that equal themselves -/

/-- Red and black equal themselves. -/
structure Triple.EqualsItself (triple : Triple) : Prop where
  red : triple.red.equal triple.red = true
  black : triple.black.equal triple.black = true

/-- Values made by faithful recipes, and the constants of enumerations, equal themselves. -/
theorem Recipe.equalsItself_of_combine {recipe : Recipe}
    (hrecipe : recipe.Faithful ∨ recipe.IsEnumeration) {answer : Descriptor → Triple}
    {made : Triple} {number later : Nat}
    (hcombine : recipe.combine (recipe.requirements.map answer) number = (made, later)) :
    made.EqualsItself := by
  cases recipe with
  | fixed triple =>
    obtain ⟨-, hred, hblack⟩ := hrecipe.resolve_right id
    cases hcombine
    exact ⟨hred, hblack⟩
  | constants layout first others =>
    cases hcombine
    exact ⟨by simp [Layout.constantValue, Value.equal], by simp [Layout.constantValue, Value.equal]⟩
  | parts types build =>
    have hbuild : IsFaithful _ equalInOrder build := hrecipe.resolve_right id
    have hfits (color : Triple → Value) :
        ((types.map answer).map color).length = types.length := by simp
    rw [combine_parts] at hcombine
    cases hcombine
    exact ⟨hbuild.equal_self (hfits _) _, hbuild.equal_self (hfits _) _⟩
  | conversion source convert =>
    have hconvert : IsFaithful _ Value.equal convert := hrecipe.resolve_right id
    change (conversion source convert).combine [answer source] number = _ at hcombine
    rw [combine_conversion] at hcombine
    cases hcombine
    exact ⟨hconvert.equal_self trivial _, hconvert.equal_self trivial _⟩
  | pairing container key value =>
    cases hcombine
    exact ⟨by simp [Value.equal], by simp [Value.equal]⟩

namespace Sources

variable {sources : Sources} {d : Descriptor}

/-- With faithful factories every recipe is faithful, except that enumerations from any catalog may
have different constants behind one reference. -/
theorem faithful_or_isEnumeration
    (hfactories : ∀ identity factory, sources.registry.lookup? identity = some factory →
      factory.Faithful) {recipe : Recipe} (hrecipe : sources.recipe d = .ok recipe) :
    recipe.Faithful ∨ recipe.IsEnumeration := by
  rcases recipe_eq_ok hrecipe with ⟨factory, hfactory, hfound⟩ | hfound
  · exact .inl (Factory.faithful_recipe (hfactories _ factory hfactory) hfound)
  · rcases Assembly.recipe_eq_ok hfound with ⟨layout, first, others, -, -, rfl⟩ | ⟨fields, -, rfl⟩
    · exact .inr trivial
    · exact .inl (Assembly.isFaithful_record d fields)

end Sources

theorem Memory.Consistent.equalsItself {memory : Memory} {sources : Sources}
    (hconsistent : memory.Consistent sources)
    (hfactories : ∀ identity factory, sources.registry.lookup? identity = some factory →
      factory.Faithful) {d : Descriptor} {shared : SharedTriple}
    (hcache : memory.cache.get? d = some shared) : shared.triple.EqualsItself := by
  obtain ⟨recipe, answer, number, later, hrecipe, -, hcombine⟩ := hconsistent.cache d shared hcache
  exact Recipe.equalsItself_of_combine (Sources.faithful_or_isEnumeration hfactories hrecipe)
    hcombine

/-! ### Containers of one element -/

/-- The value is a collection whose only element equals the other value. -/
def Value.HoldsOnly (container value : Value) : Prop :=
  ∃ element, container.object?.bind Object.elements? = some [element] ∧ element.equal value = true

/-- The values of a container hold those of its element color by color, and the red copy holds red.
-/
structure Triple.HoldsColors (container element : Triple) : Prop where
  red : container.red.HoldsOnly element.red
  black : container.black.HoldsOnly element.black
  redCopy : container.redCopy.HoldsOnly element.red

/-- How a container of one element is made. -/
def Recipe.wrapping (container : Descriptor) (ordered : Bool) (e : Descriptor) : Recipe :=
  .parts [e] fun elements ↦ (Object.collection container.identity ordered elements).alloc

theorem Recipe.holdsColors_of_combine {container e : Descriptor} {ordered : Bool}
    {element made : Triple} {number later : Nat} (helement : element.EqualsItself)
    (hcombine : (wrapping container ordered e).combine [element] number = (made, later)) :
    made.HoldsColors element := by
  cases hcombine
  exact ⟨⟨_, rfl, helement.red⟩, ⟨_, rfl, helement.black⟩, ⟨_, rfl, helement.red⟩⟩

namespace Descriptor

/-- A type of one of the standard containers of one element. -/
structure IsContainerOf (container e : Descriptor) : Prop where
  identity : container.identity ∈ Registry.orderedContainers ++ Registry.unorderedContainers
  arguments : container.arguments = [e]

theorem IsContainerOf.ne {container e : Descriptor} (h : container.IsContainerOf e) :
    e ≠ container := by
  rintro rfl
  have hsmaller := congrArg sizeOf h.arguments
  obtain ⟨name, arguments⟩ := e
  simp only [List.cons.sizeOf_spec, mk.sizeOf_spec] at hsmaller
  omega

end Descriptor

/-- The standard factories with any layouts. -/
def Sources.ofCatalog (catalog : Catalog) (number : Nat) : Sources :=
  ⟨(Registry.standard number).1, catalog⟩

namespace Sources

variable {catalog : Catalog} {number : Nat} {container e : Descriptor}

theorem recipe_container (h : container.IsContainerOf e) :
    (ofCatalog catalog number).recipe container =
      .ok (.wrapping container (decide (container.identity ∈ Registry.orderedContainers)) e) := by
  have hlookup : (ofCatalog catalog number).registry.lookup? container.identity = _ :=
    Registry.lookup?_standard_container h.identity number
  have hfew : ¬1 < container.arguments.length := by simp [h.arguments]
  have hfirst : container.firstArguments 1 = [e] := by
    simp [Descriptor.firstArguments, Descriptor.argumentOrObject, Descriptor.argument?, h.arguments]
  rw [recipe, hlookup]
  simp only [Factory.container, Factory.recipe, if_neg hfew, hfirst]
  rfl

/-- A request that makes a container remembers its element type first. The element type is not on
the path, since the container is the only type there. -/
theorem rememberedBefore_of_resolveWithin (h : container.IsContainerOf e) {depth : Nat}
    {progress last : Progress} {made : SharedTriple}
    (hcache : progress.memory.cache.get? container = none)
    (hrun : (ofCatalog catalog number).resolveWithin depth .empty container progress =
      .ok made last) : last.memory.RememberedBefore e container := by
  cases depth with
  | zero => cases hrun
  | succ depth =>
    have hanswer := (ofCatalog catalog number).answers_resolveWithin depth .empty container progress
    rw [hrun] at hanswer
    cases hanswer with
    | cached hfound => rw [hcache] at hfound; cases hfound
    | held _ hpath => cases hpath
    | placed _ hpath => cases hpath
    | @made recipe parts reached triple unused _ hpath hrecipe hparts hcombine =>
      rw [recipe_container h] at hrecipe
      cases hrecipe
      obtain ⟨source, next, others, hsource, hnone, rfl⟩ := requestAll_cons_eq_ok_iff.1 hparts
      cases hnone
      have hgrows := growsOutside_resolveWithin (ofCatalog catalog number) depth
        (RequestPath.empty.extend container) e progress
      rw [hsource, Resolution.reached_ok] at hgrows
      have hmissing : reached.memory.cache.get? container = none :=
        (hgrows.path container ((RequestPath.empty.mem_types_extend _ _).2 (.inr rfl))).trans hcache
      rw [Memory.rememberedBefore_remember_self hmissing]
      rcases get?_of_resolveWithin hsource with hfound | ⟨-, hmem⟩
      · exact Table.contains_of_get? hfound
      · rcases (RequestPath.empty.mem_types_extend container e).1 hmem with hmem | hsame
        · cases hmem
        · exact absurd hsame h.ne

end Sources

/-! ### Trees -/

namespace Tree

/-- The type of trees. -/
def tree : Descriptor :=
  .ofLetter 'T' rfl rfl []

/-- The type of lists of trees. -/
def trees : Descriptor :=
  ⟨⟨"Vec", isTypeName_of_all (by decide) rfl⟩, [tree]⟩

theorem isContainerOf_trees : trees.IsContainerOf tree :=
  ⟨by decide, rfl⟩

/-- The layout of trees: a tree has a list of trees. -/
def layout : Layout :=
  (Layout.ofKind "T" .ordinary).withField "children" (.ok trees)

/-- The catalog of this layout. -/
def catalog : Catalog :=
  ⟨Table.empty.insert "T" layout⟩

/-- The catalog is what registering the layout gives. -/
example : Catalog.empty.register layout = .ok catalog := rfl

/-- A resolver that has not resolved anything. -/
def newResolver : Resolver :=
  ⟨.ofCatalog catalog 0, 10, Memory.empty⟩

/-- The resolver after a request for trees. -/
def treeResolver : Resolver :=
  (newResolver.resolve tree 6).1.2

/-- The next unused reference number then. -/
def treeUnused : Nat :=
  (newResolver.resolve tree 6).2

end Tree

namespace Resolver

variable {catalog : Catalog} {number start unused : Nat} {resolver : Resolver}
variable {container e : Descriptor}

theorem Reached.rememberedBefore_of_not_cached
    (h : Reached (.ofCatalog catalog number) start resolver unused)
    (hcontainer : container.IsContainerOf e) {made : SharedTriple}
    (hanswer : (resolver.resolve container unused).1.1 = .ok made)
    (hnew : resolver.isCached container = false) :
    (resolver.resolve container unused).1.2.memory.RememberedBefore e container := by
  obtain ⟨last, hrun, hmemory⟩ := resolveWithin_of_resolve hanswer
  rw [h.sources_eq] at hrun
  have hmissing : resolver.memory.cache.get? container = none :=
    Table.contains_eq_false_iff.1 hnew
  rw [hmemory]
  exact Sources.rememberedBefore_of_resolveWithin hcontainer hmissing hrun

/-- A standard container and its element type, both resolved in any state. The container holds the
colors of the element type if that was remembered first, which is so if the container was not
remembered yet. Otherwise the element type reaches the container, and the container holds the
placeholder of the element type. -/
theorem Reached.container_holds_element_colors
    (h : Reached (.ofCatalog catalog number) start resolver unused)
    (hcontainer : container.IsContainerOf e) {made element : SharedTriple}
    (hanswer : (resolver.resolve container unused).1.1 = .ok made)
    (helement : ((resolver.resolve container unused).1.2.resolve e
      (resolver.resolve container unused).2).1.1 = .ok element) :
    (resolver.resolve container unused).1.2.memory.RememberedBefore e container ∧
        made.triple.HoldsColors element.triple ∨
      ¬(resolver.resolve container unused).1.2.memory.RememberedBefore e container ∧
        resolver.isCached container = true ∧
        (Sources.ofCatalog catalog number).Reaches e container ∧
        ∃ hollow, made.triple.HoldsColors (.placeholder e hollow) := by
  have hafter := h.resolve container
  have hconsistent := hafter.keeps (Sources.keeps_consistent _) (Memory.consistent_empty _)
  obtain ⟨recipe, answer, first, later, hrecipe, hprovides, hcombine⟩ :=
    hafter.combinesInOrder (cached_of_resolve hanswer)
  rw [Sources.recipe_container hcontainer] at hrecipe
  cases hrecipe
  rcases hprovides e List.mem_cons_self with ⟨hbefore, hfound⟩ | ⟨hlater, hhollow, hreaches⟩
  -- The container was made of what is remembered for the element type, which is the answer of
  -- every later request for it.
  · have hlimit : (resolver.resolve container unused).1.2.depthLimit ≠ 0 := by
      intro hzero
      rw [hafter.memory_of_depthLimit_eq_zero hzero] at hfound
      cases hfound
    rw [resolve_of_cached hlimit hfound] at helement
    have hsame : answer e = element := by
      cases helement
      rfl
    subst hsame
    exact .inl ⟨hbefore, Recipe.holdsColors_of_combine
      (hconsistent.equalsItself (Registry.faithful_standard number) hfound) hcombine⟩
  -- The element type was being resolved when the container was made.
  · have hcached : resolver.isCached container = true := by
      cases hnew : resolver.isCached container with
      | true => rfl
      | false => exact absurd (h.rememberedBefore_of_not_cached hcontainer hanswer hnew) hlater
    obtain ⟨hollow, hplaceholder⟩ := hconsistent.hollows e _ hhollow
    have hreflexive := Triple.isReflexive_placeholder e hollow
    rw [← hplaceholder] at hreflexive
    have hholds := Recipe.holdsColors_of_combine ⟨hreflexive.red, hreflexive.black⟩ hcombine
    exact .inr ⟨hlater, hcached, hreaches, hollow, hplaceholder ▸ hholds⟩

/-- A request for the list of trees makes it from the trees. -/
theorem Reached.list_of_trees_holds_trees :
    ∃ made element : SharedTriple,
      (Tree.newResolver.resolve Tree.trees 6).1.1 = .ok made ∧
      ((Tree.newResolver.resolve Tree.trees 6).1.2.resolve Tree.tree
        (Tree.newResolver.resolve Tree.trees 6).2).1.1 = .ok element ∧
      made.triple.HoldsColors element.triple := by
  obtain ⟨made, hmade⟩ : ∃ made, (Tree.newResolver.resolve Tree.trees 6).1.1 = .ok made :=
    exists_ok_of_isSome (by decide +kernel)
  obtain ⟨element, helement⟩ : ∃ element, ((Tree.newResolver.resolve Tree.trees 6).1.2.resolve
      Tree.tree (Tree.newResolver.resolve Tree.trees 6).2).1.1 = .ok element :=
    exists_ok_of_isSome (by decide +kernel)
  refine ⟨made, element, hmade, helement, ?_⟩
  rcases Reached.container_holds_element_colors (@Reached.fresh (.ofCatalog Tree.catalog 0) 6 10)
    Tree.isContainerOf_trees hmade helement with ⟨-, hholds⟩ | ⟨-, hcached, -⟩
  · exact hholds
  · cases hcached

/-- A request for trees meets the list of trees within it, and makes that list around a placeholder.
A later request for the list finds it remembered, and its element is no tree. -/
theorem Reached.list_of_trees_holds_placeholder :
    Reached (.ofCatalog Tree.catalog 0) 6 Tree.treeResolver Tree.treeUnused ∧
    Tree.trees.IsContainerOf Tree.tree ∧
    ∃ made element : SharedTriple,
      (Tree.treeResolver.resolve Tree.trees Tree.treeUnused).1.1 = .ok made ∧
      ((Tree.treeResolver.resolve Tree.trees Tree.treeUnused).1.2.resolve Tree.tree
        (Tree.treeResolver.resolve Tree.trees Tree.treeUnused).2).1.1 = .ok element ∧
      ∃ value, made.triple.red.object?.bind Object.elements? = some [value] ∧
        value.equal element.triple.red = false := by
  have hanswers :
      ((Tree.treeResolver.resolve Tree.trees Tree.treeUnused).1.1.toOption.bind fun made ↦
        ((Tree.treeResolver.resolve Tree.trees Tree.treeUnused).1.2.resolve Tree.tree
          (Tree.treeResolver.resolve Tree.trees Tree.treeUnused).2).1.1.toOption.map fun element ↦
            (made.triple.red.object?.bind Object.elements?).any fun elements ↦
              elements.length = 1 && elements.all fun value ↦ !value.equal element.triple.red) =
        some true := by
    decide +kernel
  obtain ⟨made, element, hmade, helement, hdiffer⟩ := exists_oks hanswers
  simp only [Option.any_eq_true, Bool.and_eq_true, decide_eq_true_eq] at hdiffer
  obtain ⟨elements, helements, hlength, hall⟩ := hdiffer
  obtain ⟨value, rfl⟩ := List.length_eq_one_iff.1 hlength
  exact ⟨(@Reached.fresh (.ofCatalog Tree.catalog 0) 6 10).resolve Tree.tree,
    Tree.isContainerOf_trees, made, element, hmade, helement, value, helements, by simpa using hall⟩

end Resolver

end Exemplar
