import Exemplar.Proofs.Storage.Registration
import Exemplar.Proofs.Synthesis.Containers
import Exemplar.Proofs.Value.Parts

/-!
Red values are red throughout, and black ones black. The leaves of a value have a color of their
own: primitive values, texts, markers, the constants of enumerations and the halves of placeholders.
A collection or a record has the color of all its parts. A map has the color of its keys, while its
values are black in a red map too. With the standard factories every remembered triple is colored in
this way to any depth, because it is made of remembered triples and of placeholders, and making it
carries each color from the parts to the whole.

In a catalog that was filled layout by layout the two colors have no leaf in common, except for the
only constant of an enumeration. So no red leaf is inside of a black value, and a black leaf is
inside of a red value only below a value of a map.
-/

set_option autoImplicit false
set_option relaxedAutoImplicit false

namespace Exemplar

/-! ### Colored values -/

/-- The colors of the two different values of a type. -/
inductive Color
  | red
  | black

/-- The one of two things that goes with a color. -/
def Color.pick {α : Type} (color : Color) (red black : α) : α :=
  match color with
  | .red => red
  | .black => black

/-- The values of a color, where `leaf` lists the leaves of each color. -/
inductive Value.Colored (leaf : Color → Value → Prop) : Color → Value → Prop
  | leaf {color : Color} {v : Value} (hleaf : leaf color v) : Colored leaf color v
  | collection {color : Color} (number : Nat) (container : String) (ordered : Bool)
    {elements : List Value} (helements : ∀ element ∈ elements, Colored leaf color element) :
    Colored leaf color (.ref number (.collection container ordered elements))
  | map {color : Color} (number : Nat) (container : String) {entries : List (Value × Value)}
    (hkeys : ∀ entry ∈ entries, Colored leaf color entry.1)
    (hvalues : ∀ entry ∈ entries, Colored leaf .black entry.2) :
    Colored leaf color (.ref number (.map container entries))
  | record {color : Color} (number : Nat) (d : Descriptor) {fields : List (String × Value)}
    (hfields : ∀ field ∈ fields, Colored leaf color field.2) :
    Colored leaf color (.ref number (.record d fields))

/-- The values of a triple have the colors they are named for. -/
structure Triple.Colored (leaf : Color → Value → Prop) (triple : Triple) : Prop where
  red : triple.red.Colored leaf .red
  black : triple.black.Colored leaf .black
  redCopy : triple.redCopy.Colored leaf .red

namespace Object

/-- Whether the object is made of other values. -/
def isCompound : Object → Bool
  | collection _ _ _ | map _ _ | record _ _ => true
  | _ => false

/-- The parts that have the color of the object, be it red or black: all but the values of a map. -/
def ownParts : Object → List Value
  | map _ entries => entries.map Prod.fst
  | object => object.parts

end Object

namespace Value

/-- The value itself, or a value met inside of it by going from objects to those of their parts that
`inside` lists. -/
inductive Occurs (inside : Object → List Value) (w : Value) : Value → Prop
  | here : Occurs inside w w
  | within {number : Nat} {object : Object} {part : Value} (hpart : part ∈ inside object)
    (h : Occurs inside w part) : Occurs inside w (.ref number object)

variable {leaf larger : Color → Value → Prop} {color other : Color} {v w : Value}

theorem Colored.mono (himp : ∀ color v, leaf color v → larger color v)
    (h : v.Colored leaf color) : v.Colored larger color := by
  induction h with
  | leaf hleaf => exact .leaf (himp _ _ hleaf)
  | collection number container ordered _ ih => exact .collection number container ordered ih
  | map number container _ _ ihkeys ihvalues => exact .map number container ihkeys ihvalues
  | record number d _ ih => exact .record number d ih

/-- No leaf is made of other values. -/
def AtomicLeaves (leaf : Color → Value → Prop) : Prop :=
  ∀ color number object, leaf color (.ref number object) → object.isCompound = false

theorem parts_of_not_isCompound {object : Object} (h : object.isCompound = false) :
    object.parts = [] ∧ object.ownParts = [] := by
  cases object with
  | collection | map | record => cases h
  | text | marker | enumConstant | hollow => exact ⟨rfl, rfl⟩

section Parts

variable {number : Nat} {object : Object} {part : Value}

theorem Colored.ownPart (hatomic : AtomicLeaves leaf)
    (h : Colored leaf color (.ref number object)) (hpart : part ∈ object.ownParts) :
    part.Colored leaf color := by
  cases h with
  | leaf hleaf =>
    rw [(parts_of_not_isCompound (hatomic _ _ _ hleaf)).2] at hpart
    cases hpart
  | collection _ _ _ helements => exact helements part hpart
  | map _ _ hkeys _ =>
    obtain ⟨entry, hentry, rfl⟩ := List.mem_map.1 hpart
    exact hkeys entry hentry
  | record _ _ hfields =>
    obtain ⟨field, hfield, rfl⟩ := List.mem_map.1 hpart
    exact hfields field hfield

/-- In a black value the values of maps are no exception. -/
theorem Colored.part_of_black (hatomic : AtomicLeaves leaf)
    (h : Colored leaf .black (.ref number object)) (hpart : part ∈ object.parts) :
    part.Colored leaf .black := by
  cases h with
  | leaf hleaf =>
    rw [(parts_of_not_isCompound (hatomic _ _ _ hleaf)).1] at hpart
    cases hpart
  | collection _ _ _ helements => exact helements part hpart
  | map _ _ hkeys hvalues =>
    obtain ⟨entry, hentry, hpart⟩ := List.mem_flatMap.1 hpart
    rcases List.mem_pair.1 hpart with rfl | rfl
    · exact hkeys entry hentry
    · exact hvalues entry hentry
  | record _ _ hfields =>
    obtain ⟨field, hfield, rfl⟩ := List.mem_map.1 hpart
    exact hfields field hfield

/-- What goes from an object to some of its parts goes to every value met by way of such parts. -/
theorem Occurs.keeps {inside : Object → List Value} {P : Value → Prop}
    (hpart : ∀ number object, P (.ref number object) → ∀ part ∈ inside object, P part)
    (hw : w.Occurs inside v) (hv : P v) : P w := by
  induction hw with
  | here => exact hv
  | within hmem _ ih => exact ih (hpart _ _ hv _ hmem)

end Parts

/-- A leaf that has a color as a value has it as a leaf. -/
theorem Colored.isLeaf (hatomic : AtomicLeaves leaf) (h : v.Colored leaf color)
    (hv : leaf other v) : leaf color v := by
  cases h with
  | leaf hleaf => exact hleaf
  | collection | map | record => cases hatomic _ _ _ hv

end Value

theorem Triple.Colored.mono {leaf larger : Color → Value → Prop} {triple : Triple}
    (himp : ∀ color v, leaf color v → larger color v) (h : triple.Colored leaf) :
    triple.Colored larger :=
  ⟨h.red.mono himp, h.black.mono himp, h.redCopy.mono himp⟩

/-! ### Making colored values -/

/-- Calls that make a value of a color from values of this color. -/
def CarriesColors (leaf : Color → Value → Prop) (build : List Value → Fresh Value) : Prop :=
  ∀ color values unused, (∀ v ∈ values, v.Colored leaf color) →
    (build values unused).1.Colored leaf color

namespace Recipe

/-- A recipe that makes colored triples of colored ones. -/
def Paints (leaf : Color → Value → Prop) : Recipe → Prop
  | fixed triple => triple.Colored leaf
  | constants layout first others =>
    leaf .red (layout.constantValue first) ∧ leaf .black (layout.constantValue (others.headD first))
  | parts _ build => CarriesColors leaf build
  | conversion _ convert => CarriesColors leaf fun values ↦ convert (values.headD .null)
  | pairing _ _ _ => True

theorem colored_of_combine {leaf : Color → Value → Prop} {recipe : Recipe}
    (hpaints : recipe.Paints leaf) {answer : Descriptor → Triple}
    (hanswer : ∀ e ∈ recipe.requirements, (answer e).Colored leaf) {made : Triple}
    {number later : Nat}
    (hcombine : recipe.combine (recipe.requirements.map answer) number = (made, later)) :
    made.Colored leaf := by
  cases recipe with
  | fixed triple =>
    cases hcombine
    exact hpaints
  | constants layout first others =>
    cases hcombine
    exact ⟨.leaf hpaints.1, .leaf hpaints.2, .leaf hpaints.1⟩
  | parts types build =>
    have hred : ∀ v ∈ (types.map answer).map Triple.red, v.Colored leaf .red := by
      simp only [List.forall_mem_map]
      exact fun e he ↦ (hanswer e he).red
    have hblack : ∀ v ∈ (types.map answer).map Triple.black, v.Colored leaf .black := by
      simp only [List.forall_mem_map]
      exact fun e he ↦ (hanswer e he).black
    cases hcombine
    exact ⟨hpaints _ _ _ hred, hpaints _ _ _ hblack, hpaints _ _ _ hred⟩
  | conversion source convert =>
    have hsource := hanswer source List.mem_cons_self
    change (conversion source convert).combine [answer source] number = _ at hcombine
    rw [combine_conversion] at hcombine
    cases hcombine
    have hconvert {color : Color} {v : Value} (hv : v.Colored leaf color) (unused : Nat) :
        (convert v unused).1.Colored leaf color :=
      hpaints color [v] unused (List.forall_mem_singleton.2 hv)
    exact ⟨hconvert hsource.red _, hconvert hsource.black _, hconvert hsource.redCopy _⟩
  | pairing container key value =>
    have hkey := hanswer key List.mem_cons_self
    have hvalue := hanswer value (List.mem_cons_of_mem _ List.mem_cons_self)
    change (pairing container key value).combine [answer key, answer value] number = _ at hcombine
    rw [combine_pairing] at hcombine
    cases hcombine
    have hblack : ∀ entry ∈ blackEntries (answer key) (answer value),
        entry.1.Colored leaf .black ∧ entry.2.Colored leaf .black := by
      unfold blackEntries
      split <;> simp [hkey.black, hvalue.black]
    refine ⟨.map _ _ ?_ ?_, .map _ _ (fun entry he ↦ (hblack entry he).1)
      (fun entry he ↦ (hblack entry he).2), .map _ _ ?_ ?_⟩
    all_goals simp [hkey.red, hvalue.black]

end Recipe

/-! ### The leaves of the standard types -/

namespace Memory

/-- The red and the black leaves. The constant of an enumeration that is its only one has both
colors, and the halves of a placeholder are known by what the memory holds. -/
inductive IsLeaf (memory : Memory) (catalog : Catalog) (color : Color) : Value → Prop
  | primitive (primitive : Primitive) :
    IsLeaf memory catalog color (color.pick primitive.red primitive.black)
  | text (number : Nat) : IsLeaf memory catalog color (.ref number (.text (color.pick "one" "two")))
  | marker (number : Nat) :
    IsLeaf memory catalog color (.ref number (.marker (color.pick "red" "black")))
  | constant {identity : String} {layout : Layout} {first : Constant} {others : List Constant}
    (hlayout : catalog.layout? identity = some layout)
    (hkind : layout.kind = .enumeration (first :: others)) :
    IsLeaf memory catalog color (layout.constantValue (color.pick first (others.headD first)))
  | hollow {d : Descriptor} {share first : Nat}
    (hhollow : memory.hollows.get? d = some ⟨share, .placeholder d first⟩) :
    IsLeaf memory catalog color (.ref (color.pick first (first + 1)) (.hollow d))

variable {memory earlier later : Memory} {catalog : Catalog} {color : Color} {v : Value}

theorem IsLeaf.mono (hgrows : ∀ d shared, earlier.hollows.get? d = some shared →
      later.hollows.get? d = some shared) (h : earlier.IsLeaf catalog color v) :
    later.IsLeaf catalog color v := by
  cases h with
  | primitive primitive => exact .primitive primitive
  | text number => exact .text number
  | marker number => exact .marker number
  | constant hlayout hkind => exact .constant hlayout hkind
  | hollow hhollow => exact .hollow (hgrows _ _ hhollow)

end Memory

namespace Primitive

theorem object?_red (primitive : Primitive) : primitive.red.object? = none := by
  cases primitive <;> rfl

theorem object?_black (primitive : Primitive) : primitive.black.object? = none := by
  cases primitive <;> rfl

/-- No value is red in one primitive type and black in another. -/
theorem red_ne_black (primitive other : Primitive) : primitive.red ≠ other.black := by
  intro h
  cases primitive with
  | bool | char => cases other <;> cases h
  | integer kind =>
    cases other with
    | bool | char | floating => cases h
    | integer other =>
      have hvalue : (1 : Int) = 2 := congrArg Integer.value (Value.integer.inj h)
      omega
  | floating kind =>
    cases other with
    | bool | char | integer => cases h
    | floating other =>
      have hkind : kind = other := congrArg Floating.kind (Value.floating.inj h)
      have hbits := congrArg Floating.bits (Value.floating.inj h)
      subst hkind
      revert hbits
      cases kind <;> decide

end Primitive

namespace Memory

variable {memory : Memory} {catalog : Catalog}

theorem object?_pick_primitive (color : Color) (primitive : Primitive) :
    (color.pick primitive.red primitive.black).object? = none := by
  cases color
  · exact primitive.object?_red
  · exact primitive.object?_black

theorem atomicLeaves_isLeaf (memory : Memory) (catalog : Catalog) :
    Value.AtomicLeaves (memory.IsLeaf catalog) := by
  intro color number object h
  generalize hv : Value.ref number object = v at h
  cases h with
  | primitive primitive =>
    have hnone := object?_pick_primitive color primitive
    rw [← hv] at hnone
    cases hnone
  | text | marker | constant | hollow =>
    cases hv
    rfl

end Memory

/-! ### Leaves of both colors -/

namespace Catalog

/-- The value is the only constant of an enumeration. -/
def IsOnlyConstant (catalog : Catalog) (v : Value) : Prop :=
  ∃ identity layout only, catalog.layout? identity = some layout ∧
    layout.kind = .enumeration [only] ∧ v = layout.constantValue only

variable {catalog : Catalog}

/-- In a filled catalog the first constant of an enumeration is the second one of none, as the
values of an enumeration name its layout and no two of its constants share a number. -/
theorem Registered.isOnlyConstant_of_eq (hcatalog : catalog.Registered) {identity other : String}
    {layout later : Layout} {first second : Constant} {others rest : List Constant}
    (hlayout : catalog.layout? identity = some layout)
    (hkind : layout.kind = .enumeration (first :: others))
    (hlater : catalog.layout? other = some later)
    (hkindLater : later.kind = .enumeration (second :: rest))
    (heq : layout.constantValue first = later.constantValue (rest.headD second)) :
    catalog.IsOnlyConstant (layout.constantValue first) := by
  obtain ⟨hdeclared, hname⟩ := hcatalog.declared_of_layout? hlayout
  obtain ⟨-, hnameLater⟩ := hcatalog.declared_of_layout? hlater
  injection heq with hnumber hobject
  injection hobject with hidentity
  have hsame : layout = later := by
    rw [hname, hnameLater] at hidentity
    rw [layout?, hidentity] at hlayout
    exact Option.some.inj (hlayout.symm.trans hlater)
  subst hsame
  rw [hkind] at hkindLater
  cases hkindLater
  cases others with
  | nil => exact ⟨identity, layout, first, hlayout, hkind, rfl⟩
  | cons second others =>
    have hnodup := hdeclared.nodup_number
    simp only [Layout.constants, hkind, List.map_cons, List.nodup_cons] at hnodup
    exact absurd (hnumber ▸ List.mem_cons_self) hnodup.1

end Catalog

/-- The two halves of a placeholder are different references. -/
theorem Memory.red_half_ne_black_half {memory : Memory} {d : Descriptor}
    {share first other second : Nat}
    (hhollow : memory.hollows.get? d = some ⟨share, .placeholder d first⟩)
    (hother : memory.hollows.get? d = some ⟨other, .placeholder d second⟩) :
    first ≠ second + 1 := by
  rw [hhollow] at hother
  have hred := congrArg Triple.red (congrArg SharedTriple.triple (Option.some.inj hother))
  injection hred with hfirst
  omega

/-- Only the one constant of an enumeration is a leaf of both colors. -/
theorem Memory.IsLeaf.isOnlyConstant {memory : Memory} {catalog : Catalog}
    (hcatalog : catalog.Registered) {v w : Value} (hred : memory.IsLeaf catalog .red v)
    (hblack : memory.IsLeaf catalog .black w) (hv : v = w) : catalog.IsOnlyConstant v := by
  cases hred with
  | primitive primitive =>
    cases hblack with
    | primitive other => exact absurd hv (primitive.red_ne_black other)
    | text | marker | constant | hollow => cases primitive <;> cases hv
  | text =>
    cases hblack with
    | primitive other => cases other <;> cases hv
    | text => simp [Color.pick] at hv
    | marker | constant | hollow => cases congrArg Value.object? hv
  | marker =>
    cases hblack with
    | primitive other => cases other <;> cases hv
    | marker => simp [Color.pick] at hv
    | text | constant | hollow => cases congrArg Value.object? hv
  | constant hlayout hkind =>
    cases hblack with
    | primitive other => cases other <;> cases hv
    | constant hlater hkindLater =>
      exact hcatalog.isOnlyConstant_of_eq hlayout hkind hlater hkindLater hv
    | text | marker | hollow => cases congrArg Value.object? hv
  | @hollow d share first hhollow =>
    cases hblack with
    | primitive other => cases other <;> cases hv
    | @hollow _ _ second hother =>
      injection hv with hnumber hobject
      cases hobject
      exact absurd hnumber (Memory.red_half_ne_black_half hhollow hother)
    | text | marker | constant => cases congrArg Value.object? hv

/-! ### The recipes of the standard types -/

namespace Factory

/-- What is promised of a factory: fixed values are colored, and calls carry colors. -/
def Paints (leaf : Color → Value → Prop) : Factory → Prop
  | constant triple => triple.Colored leaf
  | collection build => ∀ d, CarriesColors leaf (build d)
  | copy _ convert => CarriesColors leaf fun values ↦ convert (values.headD .null)
  | map => True
  | generic constructor => CarriesColors leaf constructor.call

theorem paints_recipe {leaf : Color → Value → Prop} {factory : Factory}
    (hfactory : factory.Paints leaf) {d : Descriptor} {recipe : Recipe}
    (hrecipe : factory.recipe d = .ok recipe) : recipe.Paints leaf := by
  cases factory with
  | constant triple =>
    obtain rfl : recipe = .fixed triple := recipe_eq_ok hrecipe
    exact hfactory
  | collection build =>
    obtain rfl : recipe = .parts (d.firstArguments 1) (build d) := recipe_eq_ok hrecipe
    exact hfactory d
  | copy underlying convert =>
    obtain ⟨source, rfl⟩ : ∃ source, recipe = .conversion source convert := recipe_eq_ok hrecipe
    exact hfactory
  | map =>
    obtain rfl : recipe = .pairing _ _ _ := recipe_eq_ok hrecipe
    trivial
  | generic constructor =>
    obtain rfl : recipe = .parts (d.firstArguments constructor.arity) constructor.call :=
      recipe_eq_ok hrecipe
    exact hfactory

end Factory

/-- The standard factories make colored values. -/
theorem Registry.paints_standard (memory : Memory) (catalog : Catalog) (unused : Nat) :
    ∀ identity factory, (standard unused).1.lookup? identity = some factory →
      factory.Paints (memory.IsLeaf catalog) := by
  refine forall_lookup?_standard (fun primitive ↦ ?_) (fun number ↦ ?_) (fun number ↦ ?_)
    (fun ordered d color values number hvalues ↦ .collection _ _ _ hvalues) trivial unused
  · exact ⟨.leaf (.primitive primitive), .leaf (.primitive primitive), .leaf (.primitive primitive)⟩
  · exact ⟨.leaf (.text _), .leaf (.text _), .leaf (.text _)⟩
  · exact ⟨.leaf (.marker _), .leaf (.marker _), .leaf (.marker _)⟩

namespace Sources

variable {memory : Memory} {catalog : Catalog} {number : Nat}

theorem paints_recipe (memory : Memory) {d : Descriptor} {recipe : Recipe}
    (hrecipe : (ofCatalog catalog number).recipe d = .ok recipe) :
    recipe.Paints (memory.IsLeaf catalog) := by
  rcases recipe_eq_ok hrecipe with ⟨factory, hfactory, hfound⟩ | hfound
  · exact Factory.paints_recipe
      (Registry.paints_standard memory catalog number _ factory hfactory) hfound
  · rcases Assembly.recipe_eq_ok hfound with
      ⟨layout, first, others, hlayout, hkind, rfl⟩ | ⟨fields, -, rfl⟩
    · exact ⟨.constant hlayout hkind, .constant hlayout hkind⟩
    · intro color values unused hvalues
      exact .record _ _ fun field hfield ↦ hvalues _ (List.of_mem_zip hfield).2

/-! ### What is remembered is colored -/

/-- All remembered triples are colored, as far as the memory holds the placeholders in them. -/
def ColorsCached (sources : Sources) (progress : Progress) : Prop :=
  progress.memory.Consistent sources ∧ ∀ e shared, progress.memory.cache.get? e = some shared →
    shared.triple.Colored (progress.memory.IsLeaf sources.catalog)

theorem colorsCached_empty (sources : Sources) (unused : Nat) :
    sources.ColorsCached ⟨Memory.empty, unused⟩ :=
  ⟨Memory.consistent_empty sources, fun _ _ h ↦ by cases h⟩

/-- What the memory provides for a required type is colored, be it remembered or a placeholder. -/
theorem ColorsCached.colored_of_provides {sources : Sources} {unused : Nat}
    (h : sources.ColorsCached ⟨memory, unused⟩) {d e : Descriptor} {shared : SharedTriple}
    (hprovides : memory.Provides sources d e shared) :
    shared.triple.Colored (memory.IsLeaf sources.catalog) := by
  rcases hprovides with hcache | ⟨hhollow, -⟩
  · exact h.2 e shared hcache
  · obtain ⟨first, hplaceholder⟩ := h.1.hollows e shared hhollow
    obtain ⟨share, triple⟩ := shared
    subst hplaceholder
    have hhalf (color : Color) : memory.IsLeaf sources.catalog color
        (.ref (color.pick first (first + 1)) (.hollow e)) := .hollow hhollow
    exact ⟨.leaf (hhalf .red), .leaf (hhalf .black), .leaf (hhalf .red)⟩

theorem keeps_colorsCached (catalog : Catalog) (number : Nat) :
    (ofCatalog catalog number).Keeps (ofCatalog catalog number).ColorsCached where
  idle h _ := h
  hold {memory unused d} h hhollow := by
    have hgrows : Memory.GrowsOutside RequestPath.empty memory
        (memory.hold d ⟨unused + 2, .placeholder d unused⟩) := Memory.growsOutside_hold hhollow
    exact ⟨(ofCatalog catalog number).keeps_consistent.hold h.1 hhollow,
      fun e shared he ↦ (h.2 e shared he).mono fun _ _ ↦ .mono hgrows.hollows⟩
  remember {memory unused d _ triple later answer} h hcache hrecipe hanswer hexact hcombine := by
    have hhollows : ∀ e held, memory.hollows.get? e = some held →
        (memory.remember d ⟨later, triple⟩).hollows.get? e = some held := fun _ _ h ↦ h
    refine ⟨(ofCatalog catalog number).keeps_consistent.remember h.1 hcache hrecipe hanswer hexact
      hcombine, fun e shared he ↦ ?_⟩
    rcases Memory.get?_of_remember he with ⟨rfl, rfl⟩ | he
    · exact (Recipe.colored_of_combine (paints_recipe memory hrecipe)
        (fun e he ↦ h.colored_of_provides (hanswer e he)) hcombine).mono fun _ _ ↦ .mono hhollows
    · exact (h.2 e shared he).mono fun _ _ ↦ .mono hhollows

end Sources

namespace Resolver

variable {catalog : Catalog} {number start unused : Nat} {resolver : Resolver} {d : Descriptor}
variable {shared : SharedTriple}

/-- With the standard factories and any layouts, after every history, each remembered triple is
colored throughout. If the layouts were registered one by one, a leaf of the other color inside of
its values is the only constant of an enumeration, or it is inside of a red one below a value of a
map. -/
theorem Reached.cached_triple_is_colored_throughout
    (h : Reached (.ofCatalog catalog number) start resolver unused)
    (hcache : resolver.memory.cache.get? d = some shared) :
    shared.triple.Colored (resolver.memory.IsLeaf catalog) ∧
    (catalog.Registered → ∀ leaf,
      (resolver.memory.IsLeaf catalog .red leaf → leaf.Occurs Object.parts shared.triple.black →
        catalog.IsOnlyConstant leaf) ∧
      (resolver.memory.IsLeaf catalog .black leaf →
        leaf.Occurs Object.ownParts shared.triple.red ∨
          leaf.Occurs Object.ownParts shared.triple.redCopy → catalog.IsOnlyConstant leaf)) := by
  have hcolored : shared.triple.Colored (resolver.memory.IsLeaf catalog) :=
    (h.keeps (Sources.keeps_colorsCached catalog number) (Sources.colorsCached_empty _ _)).2 d
      shared hcache
  have hatomic := resolver.memory.atomicLeaves_isLeaf catalog
  refine ⟨hcolored, fun hcatalog leaf ↦ ⟨fun hred hoccurs ↦ ?_, fun hblack hoccurs ↦ ?_⟩⟩
  · have hinside := hoccurs.keeps (fun _ _ h _ ↦ h.part_of_black hatomic) hcolored.black
    exact hred.isOnlyConstant hcatalog (hinside.isLeaf hatomic hred) rfl
  · have hinside : leaf.Colored (resolver.memory.IsLeaf catalog) .red := by
      rcases hoccurs with hoccurs | hoccurs
      · exact hoccurs.keeps (fun _ _ h _ ↦ h.ownPart hatomic) hcolored.red
      · exact hoccurs.keeps (fun _ _ h _ ↦ h.ownPart hatomic) hcolored.redCopy
    exact (hinside.isLeaf hatomic hblack).isOnlyConstant hcatalog hblack rfl

/-- A tree has a list of trees, which is made around a placeholder, and its black value has nothing
red inside. -/
theorem Reached.tree_is_colored_throughout :
    Reached (.ofCatalog Tree.catalog 0) 6 Tree.treeResolver Tree.treeUnused ∧
    Tree.catalog.Registered ∧
    ∃ shared : SharedTriple, Tree.treeResolver.memory.cache.get? Tree.tree = some shared ∧
      shared.triple.Colored (Tree.treeResolver.memory.IsLeaf Tree.catalog) ∧
      ∀ leaf, Tree.treeResolver.memory.IsLeaf Tree.catalog .red leaf →
        ¬leaf.Occurs Object.parts shared.triple.black := by
  have hreached : Reached (.ofCatalog Tree.catalog 0) 6 Tree.treeResolver Tree.treeUnused :=
    (@Reached.fresh (.ofCatalog Tree.catalog 0) 6 10).resolve Tree.tree
  have hdeclared : Tree.layout.Declared :=
    .declare "children" (.ok Tree.trees) false (.ofKind "T" fun _ h ↦ by cases h)
  have hcatalog : Tree.catalog.Registered := .register .empty hdeclared rfl
  obtain ⟨shared, hcache⟩ : ∃ shared, Tree.treeResolver.memory.cache.get? Tree.tree = some shared :=
    Option.isSome_iff_exists.1 (by decide +kernel)
  obtain ⟨hcolored, hleaves⟩ := hreached.cached_triple_is_colored_throughout hcache
  refine ⟨hreached, hcatalog, shared, hcache, hcolored, fun leaf hred hoccurs ↦ ?_⟩
  obtain ⟨identity, layout, only, hlayout, hkind, -⟩ := (hleaves hcatalog leaf).1 hred hoccurs
  rw [Tree.catalog, Catalog.layout?, Table.get?_insert] at hlayout
  split at hlayout <;> cases hlayout
  cases hkind

end Resolver

end Exemplar
