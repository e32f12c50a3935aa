import Exemplar.Proofs.Storage.Registration
import Exemplar.Proofs.Storage.Superclass
import Exemplar.Proofs.Synthesis.Consistency
import Mathlib.Order.FixedPoints
import Mathlib.Order.CompletePartialOrder

/-!
Which types have two different values. Fixed values and maps differ by themselves, the constants of
an enumeration by their names, and all other values differ if those of a required type do. Types on
a cycle support each other, and their placeholders differ too, so the types with different values
are the greatest set with these properties and not the least one.
-/

set_option autoImplicit false
set_option relaxedAutoImplicit false

namespace Exemplar

/-! ### Faithful calls -/

/-- The values of a triple equal themselves, and the red copy equals red. -/
structure Triple.IsReflexive (triple : Triple) : Prop where
  red : triple.red.equal triple.red = true
  black : triple.black.equal triple.black = true
  redCopy : triple.redCopy.equal triple.red = true

/-- Calls that return a new reference each time. Two of them return equal objects exactly if their
arguments are the same in the given sense. -/
structure IsFaithful {α : Type} (fits : α → Prop) (same : α → α → Bool) (call : α → Fresh Value) :
    Prop where
  isNew : ∀ a unused, fits a → ∃ number object,
    (call a unused).1 = .ref number object ∧ unused ≤ number ∧ number < (call a unused).2
  equal_eq : ∀ a b unused later, fits a → fits b → (call a unused).2 ≤ later →
    (call a unused).1.equal (call b later).1 = same a b ∧
      (call b later).1.equal (call a unused).1 = same b a

namespace IsFaithful

variable {α : Type} {fits : α → Prop} {same : α → α → Bool} {call : α → Fresh Value} {a b : α}

theorem equal_self (hcall : IsFaithful fits same call) (ha : fits a) (unused : Nat) :
    (call a unused).1.equal (call a unused).1 = true := by
  obtain ⟨number, object, hresult, -⟩ := hcall.isNew a unused ha
  simp [hresult, Value.equal]

theorem lt_of_call (hcall : IsFaithful fits same call) (ha : fits a) (unused : Nat) :
    unused < (call a unused).2 := by
  obtain ⟨number, object, -, hle, hlt⟩ := hcall.isNew a unused ha
  exact Nat.lt_of_le_of_lt hle hlt

/-- The results of two calls are different references. -/
theorem sameReference_eq_false (hcall : IsFaithful fits same call) (ha : fits a) (hb : fits b)
    {unused later : Nat} (hlater : (call a unused).2 ≤ later) :
    (call b later).1.sameReference (call a unused).1 = false := by
  obtain ⟨number, object, hfirst, -, hlt⟩ := hcall.isNew a unused ha
  obtain ⟨other, object', hsecond, hle, -⟩ := hcall.isNew b later hb
  simp only [hfirst, hsecond, Value.sameReference, decide_eq_false_iff_not]
  omega

/-- Three calls, of which the third has the same arguments as the first, give different references
to values that equal themselves. The first and the third are equal. -/
theorem of_threeCalls {c : α} (hcall : IsFaithful fits same call) (ha : fits a) (hb : fits b)
    (hc : fits c) (hsame : same c a = true) {number later : Nat} {triple : Triple}
    (hrun : threeCalls call a b c number = (triple, later)) :
    triple.IsReflexive ∧ triple.red.equal triple.black = same a b ∧
      triple.redCopy.sameReference triple.red = false := by
  cases hrun
  have hlater := Nat.le_of_lt (hcall.lt_of_call hb (call a number).2)
  exact ⟨⟨hcall.equal_self ha number, hcall.equal_self hb _,
      (hcall.equal_eq a c number _ ha hc hlater).2.trans hsame⟩,
    (hcall.equal_eq a b number _ ha hb (Nat.le_refl _)).1,
    hcall.sameReference_eq_false ha hc hlater⟩

end IsFaithful

theorem equalInOrder_map (colors others : Triple → Value) (triples : List Triple) :
    equalInOrder (triples.map colors) (triples.map others) =
      triples.all fun triple ↦ (colors triple).equal (others triple) := by
  induction triples with
  | nil => rfl
  | cons triple triples ih => simp [equalInOrder, ih]

theorem equalFields_zip {names : List String} {as bs : List Value} (has : as.length = names.length)
    (hbs : bs.length = names.length) :
    equalFields (names.zip as) (names.zip bs) = equalInOrder as bs := by
  induction names generalizing as bs with
  | nil =>
    cases List.length_eq_zero_iff.1 has
    cases List.length_eq_zero_iff.1 hbs
    rfl
  | cons name names ih =>
    obtain ⟨a, as, rfl⟩ := List.exists_cons_of_length_eq_add_one has
    obtain ⟨b, bs, rfl⟩ := List.exists_cons_of_length_eq_add_one hbs
    simp only [List.length_cons, Nat.add_right_cancel_iff] at has hbs
    simp [equalFields, equalField, equalInOrder, ih has hbs]

/-- Objects of one shape behind new references are faithful if they are equal just as what they are
made of. -/
theorem isFaithful_alloc {α : Type} {fits : α → Prop} {same : α → α → Bool} {object : α → Object}
    (hobject : ∀ a b, fits a → fits b → (object a).equal (object b) = same a b) :
    IsFaithful fits same fun a ↦ (object a).alloc where
  isNew a unused _ := ⟨unused, object a, rfl, Nat.le_refl _, Nat.lt_succ_self _⟩
  equal_eq a b unused later ha hb hlater := by
    change unused + 1 ≤ later at hlater
    have hne : unused ≠ later := by omega
    change (Value.ref unused (object a)).equal (.ref later (object b)) = _ ∧
      (Value.ref later (object b)).equal (.ref unused (object a)) = _
    simp [Value.equal, hne, hne.symm, hobject a b ha hb, hobject b a hb ha]

namespace Factory

/-- What is promised of a factory: fixed values are well-formed and equal to themselves, and calls
that make values are faithful. -/
def Faithful : Factory → Prop
  | constant triple => triple.isWellFormed = true ∧ triple.red.equal triple.red = true ∧
    triple.black.equal triple.black = true
  | collection build => ∀ d, IsFaithful (fun values ↦ values.length = 1) equalInOrder (build d)
  | copy _ convert => IsFaithful (fun _ ↦ True) Value.equal convert
  | map => True
  | generic constructor =>
    IsFaithful (fun values ↦ values.length = constructor.arity) equalInOrder constructor.call

/-- The built-in containers are faithful, whether their elements have an order or not. -/
theorem faithful_container (ordered : Bool) : (container ordered).Faithful := by
  intro d
  refine isFaithful_alloc fun as bs has hbs ↦ ?_
  obtain ⟨a, rfl⟩ := List.length_eq_one_iff.1 has
  obtain ⟨b, rfl⟩ := List.length_eq_one_iff.1 hbs
  cases ordered with
  | true => simp [Object.equal]
  | false =>
    cases hequal : a.equal b <;>
      simp [Object.equal, equalCrossingOut, equalInOrder, hequal, List.findIdx?_cons]

end Factory

theorem Assembly.isFaithful_record (d : Descriptor) (fields : List Field) :
    IsFaithful (fun values ↦ values.length = (fields.map Field.type).length) equalInOrder
      (record d fields) := by
  refine isFaithful_alloc fun as bs has hbs ↦ ?_
  rw [List.length_map] at has hbs
  have hnames : (fields.map Field.name).length = fields.length := List.length_map _
  have hfields := equalFields_zip (has.trans hnames.symm) (hbs.trans hnames.symm)
  simp [Object.equal, hfields]

/-- The constants of an enumeration are told apart by their references: one number is one
constant. -/
def Layout.Interned (layout : Layout) : Prop :=
  ∀ a ∈ layout.constants, ∀ b ∈ layout.constants, a.number = b.number → a = b

/-- The constants that a layout is declared with are made once each. -/
theorem Layout.Declared.interned {layout : Layout} (h : layout.Declared) : layout.Interned :=
  fun _ ha _ hb ↦ List.inj_on_of_nodup_map h.nodup_number ha hb

/-! ### Recipes that tell red from black -/

namespace Recipe

/-- What is promised of a recipe, by the promises of its factory or its layout. -/
def Faithful : Recipe → Prop
  | fixed triple => (Factory.constant triple).Faithful
  | constants _ first others =>
    ∀ second ∈ others.head?, first.number = second.number → first = second
  | parts types build =>
    IsFaithful (fun values ↦ values.length = types.length) equalInOrder build
  | conversion _ convert => IsFaithful (fun _ ↦ True) Value.equal convert
  | pairing _ _ _ => True

/-- Whether red and black come out different if they do so for the given types. -/
def Distinguishes (types : Set Descriptor) : Recipe → Prop
  | fixed _ => True
  | constants _ first others => ∃ second ∈ others.head?, first.name ≠ second.name
  | parts required _ => ∃ e ∈ required, e ∈ types
  | conversion source _ => source ∈ types
  | pairing _ _ _ => True

/-- Whether the values are constants of an enumeration. -/
def IsEnumeration : Recipe → Prop
  | constants _ _ _ => True
  | _ => False

theorem Distinguishes.mono {recipe : Recipe} {types others : Set Descriptor}
    (hsubset : ∀ e ∈ recipe.requirements, e ∈ types → e ∈ others)
    (h : recipe.Distinguishes types) : recipe.Distinguishes others := by
  cases recipe with
  | fixed triple => trivial
  | constants layout first rest => exact h
  | parts required build =>
    obtain ⟨e, he, hmem⟩ := h
    exact ⟨e, he, hsubset e he hmem⟩
  | conversion source convert => exact hsubset source List.mem_cons_self h
  | pairing container key value => trivial

end Recipe

theorem Factory.faithful_recipe {factory : Factory} (hfactory : factory.Faithful) {d : Descriptor}
    {recipe : Recipe} (hrecipe : factory.recipe d = .ok recipe) : recipe.Faithful := by
  cases factory with
  | constant triple =>
    obtain rfl : recipe = .fixed triple := recipe_eq_ok hrecipe
    exact hfactory
  | collection build =>
    obtain rfl : recipe = .parts (d.firstArguments 1) (build d) := recipe_eq_ok hrecipe
    exact hfactory d
  | copy underlying convert =>
    obtain ⟨source, rfl⟩ : ∃ source, recipe = .conversion source convert := recipe_eq_ok hrecipe
    exact hfactory
  | map =>
    obtain rfl : recipe = .pairing _ _ _ := recipe_eq_ok hrecipe
    trivial
  | generic constructor =>
    obtain rfl : recipe = .parts (d.firstArguments constructor.arity) constructor.call :=
      recipe_eq_ok hrecipe
    rw [Recipe.Faithful, Descriptor.length_firstArguments]
    exact hfactory

theorem Assembly.faithful_recipe {catalog : Catalog}
    (hcatalog : ∀ identity layout, catalog.layout? identity = some layout → layout.Interned)
    {d : Descriptor} {recipe : Recipe} (hrecipe : Assembly.recipe catalog d = .ok recipe) :
    recipe.Faithful := by
  rcases recipe_eq_ok hrecipe with
    ⟨layout, first, others, hlayout, hkind, rfl⟩ | ⟨fields, -, rfl⟩
  · have hinterned := hcatalog _ layout hlayout
    simp only [Layout.Interned, Layout.constants, hkind] at hinterned
    intro second hsecond
    exact hinterned first List.mem_cons_self second
      (List.mem_cons_of_mem first (List.mem_of_mem_head? hsecond))
  · exact isFaithful_record d fields

namespace Sources

/-- What is promised of sources: faithful factories, and enumerations whose constants exist once. -/
structure Faithful (sources : Sources) : Prop where
  factories : ∀ identity factory, sources.registry.lookup? identity = some factory →
    factory.Faithful
  layouts : ∀ identity layout, sources.catalog.layout? identity = some layout → layout.Interned

variable {sources : Sources} {d e : Descriptor} {recipe : Recipe}

/-- Layouts that were declared and registered keep their part of the promise. -/
theorem Faithful.of_registered (hfactories : ∀ identity factory,
      sources.registry.lookup? identity = some factory → factory.Faithful)
    (hcatalog : sources.catalog.Registered) : sources.Faithful where
  factories := hfactories
  layouts _ _ hlayout := (hcatalog.declared_of_layout? hlayout).1.interned

theorem Faithful.of_recipe (hsources : sources.Faithful)
    (hrecipe : sources.recipe d = .ok recipe) : recipe.Faithful := by
  rcases recipe_eq_ok hrecipe with ⟨factory, hfactory, hfound⟩ | hfound
  · exact Factory.faithful_recipe (hsources.factories _ factory hfactory) hfound
  · exact Assembly.faithful_recipe hsources.layouts hfound

/-! ### Distinguishable types -/

/-- The types that tell red from black if the types of a set do. -/
def distinguishing (sources : Sources) : Set Descriptor →o Set Descriptor where
  toFun types := {d | ∃ recipe, sources.recipe d = .ok recipe ∧ recipe.Distinguishes types}
  monotone' types others hsubset := by
    rintro d ⟨recipe, hrecipe, h⟩
    exact ⟨recipe, hrecipe, h.mono fun e _ he ↦ hsubset he⟩

/-- The types whose red and black values differ: the greatest set in which a type of fixed values or
of maps is, an enumeration if its first two constants have different names, and any other type if a
type that it requires is in the set. -/
def distinguishable (sources : Sources) : Set Descriptor :=
  OrderHom.gfp sources.distinguishing

theorem mem_distinguishable_iff (hrecipe : sources.recipe d = .ok recipe) :
    d ∈ sources.distinguishable ↔ recipe.Distinguishes sources.distinguishable := by
  have hfixed : sources.distinguishing sources.distinguishable = sources.distinguishable :=
    sources.distinguishing.map_gfp
  constructor
  · intro hd
    rw [← hfixed] at hd
    obtain ⟨found, hfound, h⟩ := hd
    rw [hrecipe] at hfound
    cases hfound
    exact h
  · intro h
    rw [← hfixed]
    exact ⟨recipe, hrecipe, h⟩

/-- Types on a cycle are distinguishable, since each of them requires another one. -/
theorem mem_distinguishable_of_cycle (hrequires : sources.Requires d e)
    (hreaches : sources.Reaches e d) : e ∈ sources.distinguishable := by
  have hcyclic : {f | ∃ g, sources.Requires f g ∧ sources.Reaches g f} ≤
      sources.distinguishable := by
    refine OrderHom.le_gfp _ fun f ⟨g, ⟨recipe, hrecipe, hg⟩, hback⟩ ↦ ⟨recipe, hrecipe, ?_⟩
    have hcycle : ∃ h, sources.Requires g h ∧ sources.Reaches h g := by
      rcases Relation.ReflTransGen.cases_head hback with rfl | ⟨h, hstep, hrest⟩
      · exact ⟨g, ⟨recipe, hrecipe, hg⟩, Relation.ReflTransGen.refl⟩
      · exact ⟨h, hstep, hrest.tail ⟨recipe, hrecipe, hg⟩⟩
    cases recipe with
    | fixed triple => trivial
    | constants layout first others => cases hg
    | parts required build => exact ⟨g, hg, hcycle⟩
    | conversion source convert => exact List.mem_singleton.1 hg ▸ hcycle
    | pairing container key value => trivial
  apply hcyclic
  rcases Relation.ReflTransGen.cases_head hreaches with rfl | ⟨f, hstep, hrest⟩
  · exact ⟨_, hrequires, Relation.ReflTransGen.refl⟩
  · exact ⟨f, hstep, hrest.tail hrequires⟩

end Sources

/-! ### Colors -/

theorem Triple.isReflexive_placeholder (d : Descriptor) (number : Nat) :
    (placeholder d number).IsReflexive :=
  ⟨by simp [placeholder, Value.equal], by simp [placeholder, Value.equal],
    by simp [placeholder, Value.equal]⟩

theorem Triple.red_equal_black_placeholder (d : Descriptor) (number : Nat) :
    (placeholder d number).red.equal (placeholder d number).black = false := by
  simp [placeholder, Value.equal, Object.equal]

namespace Recipe

/-- What a recipe makes of reflexive triples: a reflexive triple, whose red copy is red itself for
an enumeration only, and whose red and black differ if the recipe tells them apart by its parts. -/
structure Colors (recipe : Recipe) (types : Set Descriptor) (triple : Triple) : Prop where
  isReflexive : triple.IsReflexive
  differ : triple.red.equal triple.black = false ↔ recipe.Distinguishes types
  shared : triple.redCopy.sameReference triple.red = true ↔ recipe.IsEnumeration

theorem colors_fixed {triple made : Triple} (hfaithful : (fixed triple).Faithful)
    (types : Set Descriptor) {triples : List Triple} {number later : Nat}
    (hcombine : (fixed triple).combine triples number = (made, later)) :
    (fixed triple).Colors types made := by
  cases hcombine
  obtain ⟨hwell, hred, hblack⟩ := hfaithful
  simp only [Triple.isWellFormed, Bool.and_eq_true, Bool.not_eq_true'] at hwell
  obtain ⟨⟨hdiffer, hcopy⟩, hreference⟩ := hwell
  exact ⟨⟨hred, hblack, hcopy⟩, by simp [hdiffer, Distinguishes],
    by simp [hreference, IsEnumeration]⟩

theorem colors_constants {layout : Layout} {first : Constant} {others : List Constant}
    {made : Triple} (hfaithful : (constants layout first others).Faithful)
    (types : Set Descriptor) {triples : List Triple} {number later : Nat}
    (hcombine : (constants layout first others).combine triples number = (made, later)) :
    (constants layout first others).Colors types made := by
  cases hcombine
  refine ⟨⟨?_, ?_, ?_⟩, ?_, ?_⟩
  · simp [Layout.constantValue, Value.equal]
  · simp [Layout.constantValue, Value.equal]
  · simp [Layout.constantValue, Value.equal]
  · cases others with
    | nil => simp [Layout.constantValue, Value.equal, Distinguishes]
    | cons second rest =>
      have hinterned := hfaithful second rfl
      simp only [Layout.constantValue, Value.equal, Object.equal, List.headD_cons, Distinguishes,
        List.head?_cons, Option.mem_def, Option.some.injEq, exists_eq_left', Bool.or_eq_false_iff,
        decide_eq_false_iff_not, decide_true, Bool.true_and]
      exact ⟨And.right, fun hname ↦ ⟨fun hnumber ↦ hname (by rw [hinterned hnumber]), hname⟩⟩
  · simp [Layout.constantValue, Value.sameReference, IsEnumeration]

theorem colors_parts {types : List Descriptor} {build : List Value → Fresh Value}
    {answer : Descriptor → Triple} {made : Triple} (hfaithful : (parts types build).Faithful)
    (hanswer : ∀ e ∈ types, (answer e).IsReflexive) {number later : Nat}
    (hcombine : (parts types build).combine (types.map answer) number = (made, later)) :
    (parts types build).Colors {e | (answer e).red.equal (answer e).black = false} made := by
  have hfits (color : Triple → Value) :
      ((types.map answer).map color).length = types.length := by simp
  have hself : equalInOrder ((types.map answer).map Triple.red)
      ((types.map answer).map Triple.red) = true := by
    rw [equalInOrder_map]
    simpa using fun e he ↦ (hanswer e he).red
  have hdiffer : equalInOrder ((types.map answer).map Triple.red)
      ((types.map answer).map Triple.black) = false ↔
        ∃ e ∈ types, (answer e).red.equal (answer e).black = false := by
    rw [equalInOrder_map]
    simp
  rw [combine_parts] at hcombine
  obtain ⟨hreflexive, hequal, hshared⟩ :=
    IsFaithful.of_threeCalls hfaithful (hfits _) (hfits _) (hfits _) hself hcombine
  refine ⟨hreflexive, by rw [hequal, hdiffer]; rfl, ?_⟩
  rw [hshared]
  simp [IsEnumeration]

theorem colors_conversion {source : Descriptor} {convert : Value → Fresh Value}
    {answer : Descriptor → Triple} {made : Triple}
    (hfaithful : (conversion source convert).Faithful) (hanswer : (answer source).IsReflexive)
    {number later : Nat}
    (hcombine : (conversion source convert).combine [answer source] number = (made, later)) :
    (conversion source convert).Colors {e | (answer e).red.equal (answer e).black = false}
      made := by
  rw [combine_conversion] at hcombine
  obtain ⟨hreflexive, hequal, hshared⟩ :=
    IsFaithful.of_threeCalls hfaithful trivial trivial trivial hanswer.redCopy hcombine
  refine ⟨hreflexive, by rw [hequal]; rfl, ?_⟩
  rw [hshared]
  simp [IsEnumeration]

/-- Maps differ even if their keys do not, because black has no entry then. -/
theorem colors_pairing {container : String} {key value : Descriptor} {answer : Descriptor → Triple}
    {made : Triple} (hkey : (answer key).IsReflexive) (hvalue : (answer value).IsReflexive)
    (types : Set Descriptor) {number later : Nat}
    (hcombine : (pairing container key value).combine [answer key, answer value] number =
      (made, later)) :
    (pairing container key value).Colors types made := by
  cases hcombine
  refine ⟨⟨?_, ?_, ?_⟩, ?_, ?_⟩
  · simp [Value.equal]
  · simp [Value.equal]
  · simp [Value.equal, Object.equal, foundIn, entryFoundIn, hkey.red, hvalue.black]
  · simp only [Value.equal, Object.equal, Distinguishes]
    cases hequal : (answer key).red.equal (answer key).black <;>
      simp [foundIn, entryFoundIn, hequal]
  · simp only [Value.sameReference, IsEnumeration, decide_eq_true_eq, iff_false]
    omega

/-- A faithful recipe colors its values by the colors of the types it requires. -/
theorem Faithful.colors {recipe : Recipe} (hfaithful : recipe.Faithful)
    (answer : Descriptor → Triple) (hanswer : ∀ e ∈ recipe.requirements, (answer e).IsReflexive)
    {made : Triple} {number later : Nat}
    (hcombine : recipe.combine (recipe.requirements.map answer) number = (made, later)) :
    recipe.Colors {e | (answer e).red.equal (answer e).black = false} made := by
  cases recipe with
  | fixed triple => exact colors_fixed hfaithful _ hcombine
  | constants layout first others => exact colors_constants hfaithful _ hcombine
  | parts types build => exact colors_parts hfaithful hanswer hcombine
  | conversion source convert =>
    exact colors_conversion hfaithful (hanswer source List.mem_cons_self) hcombine
  | pairing container key value =>
    exact colors_pairing (hanswer key List.mem_cons_self)
      (hanswer value (List.mem_cons_of_mem key List.mem_cons_self)) _ hcombine

end Recipe

/-! ### Colors of what is remembered -/

namespace Sources

/-- The colors that a type has for the set of distinguishable types. -/
def Colors (sources : Sources) (d : Descriptor) (triple : Triple) : Prop :=
  ∃ recipe, sources.recipe d = .ok recipe ∧ recipe.Colors sources.distinguishable triple

/-- What the memory provides is reflexive, and its red and black differ just for distinguishable
types: placeholders are provided on cycles only. -/
theorem Faithful.colors_of_provides {sources : Sources} {memory : Memory}
    (hconsistent : memory.Consistent sources)
    (hcached : ∀ e shared, memory.cache.get? e = some shared → sources.Colors e shared.triple)
    {d e : Descriptor} (hrequires : sources.Requires d e) {shared : SharedTriple}
    (hprovides : memory.Provides sources d e shared) :
    shared.triple.IsReflexive ∧
      (shared.triple.red.equal shared.triple.black = false ↔ e ∈ sources.distinguishable) := by
  rcases hprovides with hcache | ⟨hhollow, hreaches⟩
  · obtain ⟨recipe, hrecipe, hcolors⟩ := hcached e shared hcache
    exact ⟨hcolors.isReflexive, by rw [hcolors.differ, mem_distinguishable_iff hrecipe]⟩
  · obtain ⟨number, hplaceholder⟩ := hconsistent.hollows e shared hhollow
    rw [hplaceholder]
    exact ⟨Triple.isReflexive_placeholder e number,
      iff_of_true (Triple.red_equal_black_placeholder e number)
        (mem_distinguishable_of_cycle hrequires hreaches)⟩

/-- Every run keeps the colors of what is remembered. -/
theorem Faithful.keeps_colors {sources : Sources} (hsources : sources.Faithful) :
    sources.Keeps fun progress ↦ progress.memory.Consistent sources ∧
      ∀ e shared, progress.memory.cache.get? e = some shared → sources.Colors e shared.triple := by
  refine sources.keeps_consistent.and_cached sources.Colors
    fun {memory unused d recipe triple later answer} hconsistent hcached hrecipe hanswer
      hcombine ↦ ⟨recipe, hrecipe, ?_⟩
  have hparts (e : Descriptor) (he : e ∈ recipe.requirements) :=
    colors_of_provides hconsistent hcached ⟨recipe, hrecipe, he⟩ (hanswer e he)
  have hcolors := (hsources.of_recipe hrecipe).colors (fun e ↦ (answer e).triple)
    (fun e he ↦ (hparts e he).1) hcombine
  refine ⟨hcolors.isReflexive, hcolors.differ.trans ⟨fun h ↦ ?_, fun h ↦ ?_⟩, hcolors.shared⟩
  · exact h.mono fun e he ↦ (hparts e he).2.1
  · exact h.mono fun e he ↦ (hparts e he).2.2

/-- Whether the values of a type are constants of an enumeration. -/
def IsEnumeration (sources : Sources) (d : Descriptor) : Prop :=
  ∃ recipe, sources.recipe d = .ok recipe ∧ recipe.IsEnumeration

end Sources

namespace Resolver

variable {sources : Sources} {start unused : Nat} {resolver : Resolver}

/-- After every history, each remembered triple and each answer is reflexive, its red and black
differ exactly if its type is distinguishable, and its red copy is another reference than red except
for enumerations. So it is well-formed exactly if both are so. -/
theorem Reached.answered_triple_differs_iff_distinguishable (hsources : sources.Faithful)
    (h : Reached sources start resolver unused) {d : Descriptor} {shared : SharedTriple}
    (hanswer : resolver.memory.cache.get? d = some shared ∨
      (resolver.resolve d unused).1.1 = .ok shared) :
    shared.triple.redCopy.equal shared.triple.red = true ∧
    (shared.triple.red.equal shared.triple.red = true ∧
      shared.triple.black.equal shared.triple.black = true) ∧
    (shared.triple.red.equal shared.triple.black = false ↔ d ∈ sources.distinguishable) ∧
    (shared.triple.redCopy.sameReference shared.triple.red = true ↔ sources.IsEnumeration d) ∧
    (shared.triple.isWellFormed = true ↔
      d ∈ sources.distinguishable ∧ ¬sources.IsEnumeration d) := by
  have hcached {resolver : Resolver} {unused : Nat} (h : Reached sources start resolver unused)
      (hcache : resolver.memory.cache.get? d = some shared) : sources.Colors d shared.triple :=
    (h.keeps hsources.keeps_colors
      ⟨Memory.consistent_empty sources, fun _ _ h ↦ by cases h⟩).2 d shared hcache
  have hcolors : sources.Colors d shared.triple := by
    rcases hanswer with hcache | hanswer
    · exact hcached h hcache
    · exact hcached (h.resolve d) (cached_of_resolve hanswer)
  obtain ⟨recipe, hrecipe, hreflexive, hdiffer, hshared⟩ := hcolors
  have henumeration : recipe.IsEnumeration ↔ sources.IsEnumeration d := by
    refine ⟨fun hkind ↦ ⟨recipe, hrecipe, hkind⟩, ?_⟩
    rintro ⟨found, hfound, hkind⟩
    rw [hrecipe] at hfound
    cases hfound
    exact hkind
  rw [← Sources.mem_distinguishable_iff hrecipe] at hdiffer
  rw [henumeration] at hshared
  refine ⟨hreflexive.redCopy, ⟨hreflexive.red, hreflexive.black⟩, hdiffer, hshared, ?_⟩
  rw [← hdiffer, ← hshared]
  simp [Triple.isWellFormed, hreflexive.redCopy]

end Resolver

/-! ### Records of their own type -/

namespace Endless

/-- A record with one field, of its own type. -/
def typeO : Descriptor :=
  .ofLetter 'O' rfl rfl []

def layout : Layout :=
  (Layout.ofKind "O" .ordinary).withField "next" (.ok typeO)

def sources : Sources :=
  ⟨Registry.empty, ⟨Table.empty.insert "O" layout⟩⟩

theorem faithful_sources : sources.Faithful := by
  have hdeclared : layout.Declared :=
    .declare "next" (.ok typeO) false (.ofKind "O" fun _ h ↦ by cases h)
  exact .of_registered nofun (.register .empty hdeclared rfl)

theorem recipe_typeO : sources.recipe typeO =
    .ok (.parts [typeO] (Assembly.record typeO [⟨"next", typeO, false⟩])) := by
  have hlayout : sources.catalog.layouts.get? typeO.identity = some layout := rfl
  have hfields : sources.catalog.fields typeO = .ok [⟨"next", typeO, false⟩] :=
    Catalog.fields_of_root hlayout rfl
  rw [← Catalog.layout?_identity] at hlayout
  exact Sources.recipe_of_fields rfl hlayout rfl hfields

theorem mem_distinguishable : typeO ∈ sources.distinguishable :=
  Sources.mem_distinguishable_of_cycle ⟨_, recipe_typeO, List.mem_cons_self⟩
    Relation.ReflTransGen.refl

/-- Nothing but the type itself tells its values apart, so no least set has it. -/
theorem not_mem_lfp : typeO ∉ OrderHom.lfp sources.distinguishing := by
  have hclosed : sources.distinguishing {d | d ≠ typeO} ≤ {d | d ≠ typeO} := by
    rintro d ⟨recipe, hrecipe, hdistinguishes⟩ rfl
    cases recipe_typeO.symm.trans hrecipe
    obtain ⟨e, he, hne⟩ := hdistinguishes
    exact hne (List.mem_singleton.1 he)
  exact fun hmem ↦ OrderHom.lfp_le _ hclosed hmem rfl

end Endless

/-- Records that hold nothing but a record of their own type differ all the same, since they end in
different placeholders. -/
theorem Resolver.Reached.endless_records_differ :
    ∃ shared : SharedTriple,
      ((Resolver.mk Endless.sources 2 Memory.empty).resolve Endless.typeO 0).1.1 = .ok shared ∧
      Endless.typeO ∉ OrderHom.lfp Endless.sources.distinguishing ∧
      Endless.typeO ∈ Endless.sources.distinguishable ∧
      ¬Endless.sources.IsEnumeration Endless.typeO ∧ shared.triple.isWellFormed = true := by
  have hkind : ¬Endless.sources.IsEnumeration Endless.typeO := by
    rintro ⟨recipe, hrecipe, hkind⟩
    cases Endless.recipe_typeO.symm.trans hrecipe
    exact hkind
  have hsome : ((Resolver.mk Endless.sources 2 Memory.empty).resolve
      Endless.typeO 0).1.1.toOption.isSome = true := by decide +kernel
  obtain ⟨shared, hanswer⟩ := exists_ok_of_isSome hsome
  obtain ⟨-, -, -, -, hformed⟩ := Reached.answered_triple_differs_iff_distinguishable
    Endless.faithful_sources (@Reached.fresh Endless.sources 0 2) (.inr hanswer)
  exact ⟨shared, hanswer, Endless.not_mem_lfp, Endless.mem_distinguishable, hkind,
    hformed.2 ⟨Endless.mem_distinguishable, hkind⟩⟩

end Exemplar
