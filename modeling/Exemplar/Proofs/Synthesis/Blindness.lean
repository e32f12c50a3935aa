import Exemplar.Proofs.Synthesis.Recipe
import Exemplar.Proofs.Value.Shape

/-!
Recipes that cannot see references. They take new numbers for new objects, and the shapes of what
they make depend on nothing but the shapes of what they are given. If they also make no number that
differs from itself, then a recipe followed twice, with values of the same shapes behind different
references, makes values of the same shapes.
-/

set_option autoImplicit false
set_option relaxedAutoImplicit false

namespace Exemplar

/-- A value that lives in a heap and has no number that differs from itself. -/
structure Heap.Supports (heap : Heap) (v : Value) : Prop where
  numbers : v.NaNFree
  holds : heap.Holds v

theorem Heap.Supports.extends {heap larger : Heap} {v : Value} (h : heap.Supports v)
    (hextends : heap.Extends larger) : larger.Supports v :=
  ⟨h.numbers, h.holds.extends hextends⟩

theorem Heap.Supports.part {heap : Heap} {number : Nat} {object : Object}
    (h : heap.Supports (.ref number object)) {part : Value} (hpart : part ∈ object.parts) :
    heap.Supports part :=
  ⟨h.numbers.part hpart, h.holds.part hpart⟩

/-! ### Blind calls -/

/-- Arguments that a call may be given: they fit it, and their values live in the heap. -/
structure Heap.Suits {α : Type} (heap : Heap) (fits : α → Prop) (arguments : α → List Value)
    (a : α) : Prop where
  fits : fits a
  supports : ∀ v ∈ arguments a, heap.Supports v

theorem Heap.Suits.extends {α : Type} {heap larger : Heap} {fits : α → Prop}
    {arguments : α → List Value} {a : α} (h : heap.Suits fits arguments a)
    (hextends : heap.Extends larger) : larger.Suits fits arguments a :=
  ⟨h.fits, fun v hv ↦ (h.supports v hv).extends hextends⟩

/-- Calls that cannot see references. A call gives its new objects new numbers, on top of a heap
that has the objects of `base`, and when it is made again later, the shape of its result depends on
the shapes of its arguments only. -/
structure IsBlind {α : Type} (base : Heap) (fits : α → Prop) (arguments : α → List Value)
    (call : α → Fresh Value) : Prop where
  holds : ∀ {heap a unused}, base.Extends heap → heap.FreshFrom unused → fits a →
    (∀ v ∈ arguments a, heap.Holds v) → unused ≤ (call a unused).2 ∧ ∃ larger : Heap,
      heap.Extends larger ∧ larger.FreshFrom (call a unused).2 ∧ larger.Holds (call a unused).1
  alike : ∀ {heap larger a b unused later}, base.Extends heap → heap.Extends larger →
    heap.FreshFrom unused → larger.FreshFrom later → heap.Suits fits arguments a →
    larger.Suits fits arguments b → List.Forall₂ Value.Alike (arguments a) (arguments b) →
    (call a unused).1.Alike (call b later).1

/-- Calls that make no number that differs from itself, unless they are given one. -/
def MakesNoNaN {α : Type} (fits : α → Prop) (arguments : α → List Value)
    (call : α → Fresh Value) : Prop :=
  ∀ a unused, fits a → (∀ v ∈ arguments a, v.NaNFree) → (call a unused).1.NaNFree

/-- Blind calls that make no number that differs from itself. -/
structure IsPlain {α : Type} (base : Heap) (fits : α → Prop) (arguments : α → List Value)
    (call : α → Fresh Value) : Prop where
  blind : IsBlind base fits arguments call
  numbers : MakesNoNaN fits arguments call

namespace Triple

/-- All colors live in a heap. -/
structure SupportedBy (triple : Triple) (heap : Heap) : Prop where
  red : heap.Supports triple.red
  black : heap.Supports triple.black
  redCopy : heap.Supports triple.redCopy

theorem SupportedBy.extends {triple : Triple} {heap larger : Heap} (h : triple.SupportedBy heap)
    (hextends : heap.Extends larger) : triple.SupportedBy larger :=
  ⟨h.red.extends hextends, h.black.extends hextends, h.redCopy.extends hextends⟩

/-- All colors have the same shapes. -/
structure Alike (triple other : Triple) : Prop where
  red : triple.red.Alike other.red
  black : triple.black.Alike other.black
  redCopy : triple.redCopy.Alike other.redCopy

theorem Alike.refl (triple : Triple) : triple.Alike triple :=
  ⟨.refl _, .refl _, .refl _⟩

/-- Triples of the same shapes are equal in one heap. -/
theorem Alike.equal {triple other : Triple} {heap : Heap} (h : triple.Alike other)
    (htriple : triple.SupportedBy heap) (hother : other.SupportedBy heap) :
    triple.equal other = true := by
  have hred : triple.red.equal other.red = true :=
    h.red.equals htriple.red.numbers htriple.red.holds hother.red.holds
  have hblack : triple.black.equal other.black = true :=
    h.black.equals htriple.black.numbers htriple.black.holds hother.black.holds
  have hcopy : triple.redCopy.equal other.redCopy = true :=
    h.redCopy.equals htriple.redCopy.numbers htriple.redCopy.holds hother.redCopy.holds
  simp [Triple.equal, hred, hblack, hcopy]

end Triple

section Calls

variable {α : Type} {base heap : Heap} {fits : α → Prop} {arguments : α → List Value}
variable {call : α → Fresh Value} {object : α → Object}

/-- Objects of one form behind new references are blind if their shape depends on the shapes of
their parts only. -/
theorem IsBlind.alloc (hkeys : ∀ a, fits a → (object a).KeysDiffer)
    (hparts : ∀ a, fits a → ∀ v ∈ (object a).parts, v ∈ arguments a)
    (hhollow : ∀ a, (object a).isHollow = false)
    (hshape : ∀ a b, fits a → fits b → List.Forall₂ Value.Alike (arguments a) (arguments b) →
      (object a).shape = (object b).shape) :
    IsBlind base fits arguments fun a ↦ (object a).alloc where
  holds {heap a unused} _ hfresh ha hheld := by
    change unused ≤ unused + 1 ∧ ∃ larger : Heap, heap.Extends larger ∧
      larger.FreshFrom (unused + 1) ∧ larger.Holds (.ref unused (object a))
    exact ⟨Nat.le_succ unused, heap.allocate unused (object a), Heap.extends_allocate hfresh _,
      Heap.freshFrom_allocate hfresh _,
      Heap.holds_allocate hfresh (hkeys a ha) fun v hv ↦ hheld v (hparts a ha v hv)⟩
  alike {heap larger a b unused later} _ _ _ _ ha hb halike := by
    change (Value.ref unused (object a)).Alike (.ref later (object b))
    simp [Value.Alike, Value.shape_ref, hhollow, hshape a b ha.fits hb.fits halike]

theorem MakesNoNaN.alloc (hparts : ∀ a, fits a → ∀ v ∈ (object a).parts, v ∈ arguments a) :
    MakesNoNaN fits arguments fun a ↦ (object a).alloc :=
  fun a _ ha hnumbers ↦ .of_ref trivial fun v hv ↦ hnumbers v (hparts a ha v hv)

/-- A fixed value that exists is blind. -/
theorem IsBlind.fixed {v : Value} (hv : base.Holds v) :
    IsBlind base fits arguments fun _ ↦ return v where
  holds {heap _ unused} hbase hfresh _ _ :=
    ⟨Nat.le_refl unused, heap, .refl heap, hfresh, hv.extends hbase⟩
  alike _ _ _ _ _ _ _ := .refl v

/-- Being blind is a matter of fitting arguments only. -/
theorem IsBlind.congr {other : α → Fresh Value} (hcall : IsBlind base fits arguments call)
    (hsame : ∀ a, fits a → other a = call a) : IsBlind base fits arguments other where
  holds hbase hfresh ha hheld := by
    rw [hsame _ ha]
    exact hcall.holds hbase hfresh ha hheld
  alike hbase hlarger hfresh hfresh' ha hb halike := by
    rw [hsame _ ha.fits, hsame _ hb.fits]
    exact hcall.alike hbase hlarger hfresh hfresh' ha hb halike

theorem MakesNoNaN.congr {other : α → Fresh Value} (hcall : MakesNoNaN fits arguments call)
    (hsame : ∀ a, fits a → other a = call a) : MakesNoNaN fits arguments other := by
  intro a unused ha hnumbers
  rw [hsame a ha]
  exact hcall a unused ha hnumbers

namespace IsPlain

theorem supported (hcall : IsPlain base fits arguments call) (hbase : base.Extends heap)
    {number : Nat} (hfresh : heap.FreshFrom number) {a : α} (ha : heap.Suits fits arguments a) :
    number ≤ (call a number).2 ∧ ∃ larger : Heap, heap.Extends larger ∧
      larger.FreshFrom (call a number).2 ∧ larger.Supports (call a number).1 := by
  obtain ⟨hle, larger, hlarger, hfresh', hholds⟩ :=
    hcall.blind.holds hbase hfresh ha.fits fun v hv ↦ (ha.supports v hv).holds
  exact ⟨hle, larger, hlarger, hfresh',
    hcall.numbers a number ha.fits fun v hv ↦ (ha.supports v hv).numbers, hholds⟩

theorem supported_threeCalls (hcall : IsPlain base fits arguments call)
    (hbase : base.Extends heap) {number : Nat} (hfresh : heap.FreshFrom number) {a b c : α}
    (ha : heap.Suits fits arguments a) (hb : heap.Suits fits arguments b)
    (hc : heap.Suits fits arguments c) :
    number ≤ (threeCalls call a b c number).2 ∧ ∃ larger : Heap, heap.Extends larger ∧
      larger.FreshFrom (threeCalls call a b c number).2 ∧
      (threeCalls call a b c number).1.SupportedBy larger := by
  obtain ⟨hle, first, hfirst, hfresh₁, hred⟩ := hcall.supported hbase hfresh ha
  obtain ⟨hle', second, hsecond, hfresh₂, hblack⟩ :=
    hcall.supported (hbase.trans hfirst) hfresh₁ (hb.extends hfirst)
  obtain ⟨hle'', third, hthird, hfresh₃, hcopy⟩ :=
    hcall.supported (hbase.trans (hfirst.trans hsecond)) hfresh₂
      (hc.extends (hfirst.trans hsecond))
  exact ⟨hle.trans (hle'.trans hle''), third, hfirst.trans (hsecond.trans hthird), hfresh₃,
    hred.extends (hsecond.trans hthird), hblack.extends hthird, hcopy⟩

theorem freshFrom_call (hcall : IsPlain base fits arguments call) (hbase : base.Extends heap)
    {number : Nat} (hfresh : heap.FreshFrom number) {a : α} (ha : heap.Suits fits arguments a) :
    heap.FreshFrom (call a number).2 :=
  hfresh.mono (hcall.supported hbase hfresh ha).1

/-- All of the three calls are made on top of a heap in which the arguments live, so it does not
matter what the calls before them made. -/
theorem alike_threeCalls (hcall : IsPlain base fits arguments call) (hbase : base.Extends heap)
    {larger : Heap} (hlarger : heap.Extends larger) {number later : Nat}
    (hfresh : heap.FreshFrom number) (hfresh' : larger.FreshFrom later) {a b c a' b' c' : α}
    (ha : heap.Suits fits arguments a) (hb : heap.Suits fits arguments b)
    (hc : heap.Suits fits arguments c) (ha' : larger.Suits fits arguments a')
    (hb' : larger.Suits fits arguments b') (hc' : larger.Suits fits arguments c')
    (haa' : List.Forall₂ Value.Alike (arguments a) (arguments a'))
    (hbb' : List.Forall₂ Value.Alike (arguments b) (arguments b'))
    (hcc' : List.Forall₂ Value.Alike (arguments c) (arguments c')) :
    (threeCalls call a b c number).1.Alike (threeCalls call a' b' c' later).1 := by
  have hbase' := hbase.trans hlarger
  have hfresh₁ := hcall.freshFrom_call hbase hfresh ha
  have hfresh₁' := hcall.freshFrom_call hbase' hfresh' ha'
  have hfresh₂ := hcall.freshFrom_call hbase hfresh₁ hb
  have hfresh₂' := hcall.freshFrom_call hbase' hfresh₁' hb'
  exact ⟨hcall.blind.alike hbase hlarger hfresh hfresh' ha ha' haa',
    hcall.blind.alike hbase hlarger hfresh₁ hfresh₁' hb hb' hbb',
    hcall.blind.alike hbase hlarger hfresh₂ hfresh₂' hc hc' hcc'⟩

end IsPlain

end Calls

/-! ### Blind factories and layouts -/

namespace Factory

/-- What is promised of a factory: its fixed values exist, and its calls are blind. -/
def Blind (base : Heap) : Factory → Prop
  | constant triple =>
    base.Holds triple.red ∧ base.Holds triple.black ∧ base.Holds triple.redCopy
  | collection build => ∀ d, IsBlind base (fun values ↦ values.length = 1) id (build d)
  | copy _ convert => IsBlind base (fun _ ↦ True) (fun v ↦ [v]) convert
  | map => True
  | generic constructor =>
    IsBlind base (fun values ↦ values.length = constructor.arity) id constructor.call

/-- Neither the fixed values of the factory nor its calls bring in a number that differs from
itself. -/
def NaNFree : Factory → Prop
  | constant triple => triple.red.NaNFree ∧ triple.black.NaNFree ∧ triple.redCopy.NaNFree
  | collection build => ∀ d, MakesNoNaN (fun values ↦ values.length = 1) id (build d)
  | copy _ convert => MakesNoNaN (fun _ ↦ True) (fun v ↦ [v]) convert
  | map => True
  | generic constructor =>
    MakesNoNaN (fun values ↦ values.length = constructor.arity) id constructor.call

end Factory

/-- The constants of an enumeration exist. -/
def Layout.ExistsIn (layout : Layout) (base : Heap) : Prop :=
  ∀ c ∈ layout.constants, base c.number = some (.enumConstant layout.identity c.name)

namespace Sources

/-- What is promised of sources: blind factories, and enumerations whose constants exist. -/
structure Blind (sources : Sources) (base : Heap) : Prop where
  factories : ∀ identity factory, sources.registry.lookup? identity = some factory →
    factory.Blind base
  layouts : ∀ identity layout, sources.catalog.layout? identity = some layout →
    layout.ExistsIn base

/-- No factory brings in a number that differs from itself. -/
def NaNFree (sources : Sources) : Prop :=
  ∀ identity factory, sources.registry.lookup? identity = some factory → factory.NaNFree

end Sources

/-- What is promised of a recipe, by the promises of its factory or its layout. -/
def Recipe.Plain (base : Heap) : Recipe → Prop
  | fixed triple => triple.SupportedBy base
  | constants layout first others => ∀ c ∈ first :: others,
    base c.number = some (.enumConstant layout.identity c.name)
  | parts types build => IsPlain base (fun values ↦ values.length = types.length) id build
  | conversion _ convert => IsPlain base (fun _ ↦ True) (fun v ↦ [v]) convert
  | pairing _ _ _ => True

theorem map_shape_eq_of_alike {as bs : List Value} (h : List.Forall₂ Value.Alike as bs) :
    as.map Value.shape = bs.map Value.shape := by
  induction h with
  | nil => rfl
  | cons hab _ ih => rw [List.map_cons, List.map_cons, hab, ih]

/-- Calls that collect their arguments are plain, whether the elements have an order or not. -/
theorem isPlain_collection (base : Heap) (fits : List Value → Prop) (container : String)
    (ordered : Bool) :
    IsPlain base fits id fun values ↦ (Object.collection container ordered values).alloc := by
  refine ⟨.alloc (fun _ _ ↦ trivial) (fun _ _ _ hv ↦ hv) (fun _ ↦ rfl) fun as bs _ _ h ↦ ?_,
    .alloc fun _ _ _ hv ↦ hv⟩
  have hshape : as.map Value.shape = bs.map Value.shape := map_shape_eq_of_alike h
  rw [Object.shape, Object.shape, shapeEach_eq_map, shapeEach_eq_map, hshape]

namespace Factory

theorem blind_container (base : Heap) (ordered : Bool) : (container ordered).Blind base :=
  fun d ↦ (isPlain_collection base _ d.identity ordered).blind

theorem naNFree_container (ordered : Bool) : (container ordered).NaNFree :=
  fun d ↦ (isPlain_collection .empty _ d.identity ordered).numbers

/-- The constructor of a collection of two elements. -/
def pair (container : String) (ordered : Bool) : GenericConstructor :=
  .binary fun v w ↦ (Object.collection container ordered [v, w]).alloc

theorem call_pair (container : String) (ordered : Bool) {values : List Value}
    (hlength : values.length = 2) :
    (pair container ordered).call values = (Object.collection container ordered values).alloc := by
  obtain ⟨v, w, rfl⟩ := List.length_eq_two.1 hlength
  rfl

theorem blind_pair (base : Heap) (container : String) (ordered : Bool) :
    (generic (pair container ordered)).Blind base :=
  (isPlain_collection base _ container ordered).blind.congr fun _ ↦ call_pair container ordered

theorem naNFree_pair (container : String) (ordered : Bool) :
    (generic (pair container ordered)).NaNFree :=
  (isPlain_collection .empty _ container ordered).numbers.congr
    fun _ ↦ call_pair container ordered

end Factory

theorem Assembly.isPlain_record (base : Heap) (d : Descriptor) (fields : List Field) :
    IsPlain base (fun values ↦ values.length = (fields.map Field.type).length) id
      (record d fields) := by
  have hparts (values : List Value) : ∀ v ∈
      (Object.record d ((fields.map Field.name).zip values)).parts, v ∈ values := by
    intro v hv
    obtain ⟨field, hfield, rfl⟩ := List.mem_map.1 hv
    exact (List.of_mem_zip hfield).2
  refine ⟨.alloc (fun _ _ ↦ trivial) (fun values _ ↦ hparts values) (fun _ ↦ rfl)
    fun as bs _ _ h ↦ ?_, .alloc fun values _ ↦ hparts values⟩
  have hshape : as.map Value.shape = bs.map Value.shape := map_shape_eq_of_alike h
  have hzip (values : List Value) :
      ((fields.map Field.name).zip values).map (fun field ↦ (field.1, field.2.shape)) =
        (fields.map Field.name).zip (values.map Value.shape) := by
    rw [List.zip_map_right]
    rfl
  rw [Object.shape, Object.shape, shapeFields_eq_map, shapeFields_eq_map, hzip, hzip, hshape]

theorem Factory.plain_recipe {base : Heap} {factory : Factory} (hblind : factory.Blind base)
    (hnumbers : factory.NaNFree) {d : Descriptor} {recipe : Recipe}
    (hrecipe : factory.recipe d = .ok recipe) : recipe.Plain base := by
  cases factory with
  | constant triple =>
    obtain rfl : recipe = .fixed triple := recipe_eq_ok hrecipe
    exact ⟨⟨hnumbers.1, hblind.1⟩, ⟨hnumbers.2.1, hblind.2.1⟩, ⟨hnumbers.2.2, hblind.2.2⟩⟩
  | collection build =>
    obtain rfl : recipe = .parts (d.firstArguments 1) (build d) := recipe_eq_ok hrecipe
    exact ⟨hblind d, hnumbers d⟩
  | copy underlying convert =>
    obtain ⟨source, rfl⟩ : ∃ source, recipe = .conversion source convert := recipe_eq_ok hrecipe
    exact ⟨hblind, hnumbers⟩
  | map =>
    obtain rfl : recipe = .pairing _ _ _ := recipe_eq_ok hrecipe
    trivial
  | generic constructor =>
    obtain rfl : recipe = .parts (d.firstArguments constructor.arity) constructor.call :=
      recipe_eq_ok hrecipe
    rw [Recipe.Plain, Descriptor.length_firstArguments]
    exact ⟨hblind, hnumbers⟩

theorem Assembly.plain_recipe {base : Heap} {catalog : Catalog}
    (hcatalog : ∀ identity layout, catalog.layout? identity = some layout → layout.ExistsIn base)
    {d : Descriptor} {recipe : Recipe} (hrecipe : Assembly.recipe catalog d = .ok recipe) :
    recipe.Plain base := by
  rcases recipe_eq_ok hrecipe with
    ⟨layout, first, others, hlayout, hkind, rfl⟩ | ⟨fields, -, rfl⟩
  · have hexists := hcatalog _ layout hlayout
    simp only [Layout.ExistsIn, Layout.constants, hkind] at hexists
    exact hexists
  · exact isPlain_record base d fields

theorem Sources.Blind.plain_recipe {base : Heap} {sources : Sources}
    (hsources : sources.Blind base) (hnumbers : sources.NaNFree) {d : Descriptor}
    {recipe : Recipe} (hrecipe : sources.recipe d = .ok recipe) : recipe.Plain base := by
  rcases recipe_eq_ok hrecipe with ⟨factory, hfactory, hfound⟩ | hfound
  · exact Factory.plain_recipe (hsources.factories _ factory hfactory)
      (hnumbers _ factory hfactory) hfound
  · exact Assembly.plain_recipe hsources.layouts hfound

/-! ### Following a plain recipe -/

namespace Recipe

theorem shapeEntries_eq_of_alike {as bs : List (Value × Value)}
    (h : List.Forall₂ Value.Alike (as.flatMap fun entry ↦ [entry.1, entry.2])
      (bs.flatMap fun entry ↦ [entry.1, entry.2])) : shapeEntries as = shapeEntries bs := by
  induction as generalizing bs with
  | nil =>
    cases bs with
    | nil => rfl
    | cons b bs => cases h
  | cons a as ih =>
    cases bs with
    | nil => cases h
    | cons b bs =>
      obtain ⟨key, value⟩ := a
      obtain ⟨other, otherValue⟩ := b
      rw [List.flatMap_cons, List.flatMap_cons] at h
      cases h with
      | cons hkey h =>
        cases h with
        | cons hvalue h =>
          rw [shapeEntries, shapeEntries, shapeEntry, shapeEntry, hkey, hvalue, ih h]

/-- Maps with at most one entry are plain. -/
theorem isPlain_map (base : Heap) (container : String) :
    IsPlain base (fun entries ↦ entries.length ≤ 1)
      (fun entries ↦ (Object.map container entries).parts)
      fun entries ↦ (Object.map container entries).alloc := by
  refine ⟨.alloc (fun entries hlength ↦ ?_) (fun _ _ _ hv ↦ hv) (fun _ ↦ rfl)
    fun as bs _ _ h ↦ ?_, .alloc fun _ _ _ hv ↦ hv⟩
  · rcases entries with _ | ⟨entry, _ | ⟨other, entries⟩⟩
    · exact List.Pairwise.nil
    · exact List.pairwise_singleton _ _
    · simp at hlength
  · rw [Object.shape, Object.shape, shapeEntries_eq_of_alike h]

theorem length_blackEntries (keys values : Triple) : (blackEntries keys values).length ≤ 1 := by
  unfold blackEntries
  split <;> simp

/-- How the entries of a map are given to the call that makes it. -/
abbrev SuitsMap (heap : Heap) (container : String) (entries : List (Value × Value)) : Prop :=
  heap.Suits (fun entries ↦ entries.length ≤ 1)
    (fun entries ↦ (Object.map container entries).parts) entries

theorem suits_redEntries {keys values : Triple} {heap : Heap} (hkeys : keys.SupportedBy heap)
    (hvalues : values.SupportedBy heap) (container : String) :
    SuitsMap heap container [(keys.red, values.black)] := by
  refine ⟨by simp, fun v hv ↦ ?_⟩
  simp only [Object.parts, List.flatMap_cons, List.flatMap_nil, List.append_nil, List.mem_cons,
    List.not_mem_nil, or_false] at hv
  rcases hv with rfl | rfl
  · exact hkeys.red
  · exact hvalues.black

theorem suits_blackEntries {keys values : Triple} {heap : Heap} (hkeys : keys.SupportedBy heap)
    (hvalues : values.SupportedBy heap) (container : String) :
    SuitsMap heap container (blackEntries keys values) := by
  refine ⟨length_blackEntries keys values, fun v hv ↦ ?_⟩
  unfold blackEntries at hv
  split at hv
  · cases hv
  · simp only [Object.parts, List.flatMap_cons, List.flatMap_nil, List.append_nil, List.mem_cons,
      List.not_mem_nil, or_false] at hv
    rcases hv with rfl | rfl
    · exact hkeys.black
    · exact hvalues.black

theorem suits_map_color {heap : Heap} {triples : List Triple} {count : Nat}
    (hlength : triples.length = count) {color : Triple → Value}
    (hcolor : ∀ triple ∈ triples, heap.Supports (color triple)) :
    heap.Suits (fun values ↦ values.length = count) id (triples.map color) := by
  refine ⟨by simpa using hlength, fun v hv ↦ ?_⟩
  obtain ⟨triple, htriple, rfl⟩ := List.mem_map.1 hv
  exact hcolor triple htriple

theorem suits_singleton {heap : Heap} {v : Value} (hv : heap.Supports v) :
    heap.Suits (fun _ ↦ True) (fun v ↦ [v]) v :=
  ⟨trivial, by simpa using hv⟩

variable {base heap larger : Heap} {recipe : Recipe} {number later : Nat}

/-- What a plain recipe makes lives on top of the heap of what it is given. -/
theorem Plain.supported (hrecipe : recipe.Plain base) (hbase : base.Extends heap)
    (hfresh : heap.FreshFrom number) {triples : List Triple}
    (hlength : triples.length = recipe.requirements.length)
    (htriples : ∀ triple ∈ triples, triple.SupportedBy heap) :
    number ≤ (recipe.combine triples number).2 ∧ ∃ larger : Heap, heap.Extends larger ∧
      larger.FreshFrom (recipe.combine triples number).2 ∧
      (recipe.combine triples number).1.SupportedBy larger := by
  cases recipe with
  | fixed triple => exact ⟨Nat.le_refl _, heap, .refl heap, hfresh, hrecipe.extends hbase⟩
  | constants layout first others =>
    have hconstant (c : Constant) (hc : c ∈ first :: others) :
        heap.Supports (layout.constantValue c) :=
      ⟨.of_ref trivial nofun, .of_ref ⟨hbase _ _ (hrecipe c hc), trivial⟩ nofun⟩
    have hhead : others.headD first ∈ first :: others := by cases others <;> simp
    exact ⟨Nat.le_refl _, heap, .refl heap, hfresh, hconstant first List.mem_cons_self,
      hconstant _ hhead, hconstant first List.mem_cons_self⟩
  | parts types build =>
    rw [combine_parts]
    exact IsPlain.supported_threeCalls hrecipe hbase hfresh
      (suits_map_color hlength fun triple h ↦ (htriples triple h).red)
      (suits_map_color hlength fun triple h ↦ (htriples triple h).black)
      (suits_map_color hlength fun triple h ↦ (htriples triple h).red)
  | conversion source convert =>
    obtain ⟨triple, rfl⟩ := List.length_eq_one_iff.1 hlength
    have htriple := htriples triple List.mem_cons_self
    rw [combine_conversion]
    exact IsPlain.supported_threeCalls hrecipe hbase hfresh (suits_singleton htriple.red)
      (suits_singleton htriple.black) (suits_singleton htriple.redCopy)
  | pairing container key value =>
    obtain ⟨keys, values, rfl⟩ := List.length_eq_two.1 hlength
    have hkeys := htriples keys List.mem_cons_self
    have hvalues := htriples values (by simp)
    rw [combine_pairing]
    exact IsPlain.supported_threeCalls (isPlain_map base container) hbase hfresh
      (suits_redEntries hkeys hvalues container) (suits_blackEntries hkeys hvalues container)
      (suits_redEntries hkeys hvalues container)

/-- Keys of the same shapes differ alike, so both maps for black have an entry, or none of them. -/
theorem alike_blackEntries {keys values keys' values' : Triple} (hlarger : heap.Extends larger)
    (hkeys : keys.SupportedBy heap) (hkeys' : keys'.SupportedBy larger)
    (hkey : keys.Alike keys') (hvalue : values.Alike values') (container : String) :
    List.Forall₂ Value.Alike (Object.map container (blackEntries keys values)).parts
      (Object.map container (blackEntries keys' values')).parts := by
  have hequal : keys.red.equal keys.black = keys'.red.equal keys'.black :=
    hkey.red.equal_eq ⟨hkeys.red.numbers, hkeys.red.holds.extends hlarger⟩ hkeys'.red.holds
      ⟨hkeys.black.numbers, hkeys.black.holds.extends hlarger⟩ hkeys'.black.holds hkey.black
  unfold blackEntries
  rw [hequal]
  split
  · exact .nil
  · exact .cons hkey.black (.cons hvalue.black .nil)

/-- A plain recipe makes values of the same shapes from values of the same shapes. -/
theorem Plain.alike (hrecipe : recipe.Plain base) (hbase : base.Extends heap)
    (hlarger : heap.Extends larger) (hfresh : heap.FreshFrom number)
    (hfresh' : larger.FreshFrom later) {triples others : List Triple}
    (hlength : triples.length = recipe.requirements.length)
    (htriples : ∀ triple ∈ triples, triple.SupportedBy heap)
    (hothers : ∀ triple ∈ others, triple.SupportedBy larger)
    (halike : List.Forall₂ Triple.Alike triples others) :
    (recipe.combine triples number).1.Alike (recipe.combine others later).1 := by
  have hlength' := halike.length_eq.symm.trans hlength
  have hcolors {color : Triple → Value}
      (himp : ∀ triple other, triple.Alike other → (color triple).Alike (color other)) :
      List.Forall₂ Value.Alike (triples.map color) (others.map color) := by
    rw [List.forall₂_map_left_iff, List.forall₂_map_right_iff]
    exact halike.imp himp
  cases recipe with
  | fixed triple => exact .refl triple
  | constants layout first others => exact .refl _
  | parts types build =>
    rw [combine_parts, combine_parts]
    exact IsPlain.alike_threeCalls hrecipe hbase hlarger hfresh hfresh'
      (suits_map_color hlength fun triple h ↦ (htriples triple h).red)
      (suits_map_color hlength fun triple h ↦ (htriples triple h).black)
      (suits_map_color hlength fun triple h ↦ (htriples triple h).red)
      (suits_map_color hlength' fun triple h ↦ (hothers triple h).red)
      (suits_map_color hlength' fun triple h ↦ (hothers triple h).black)
      (suits_map_color hlength' fun triple h ↦ (hothers triple h).red)
      (hcolors fun _ _ ↦ Triple.Alike.red) (hcolors fun _ _ ↦ Triple.Alike.black)
      (hcolors fun _ _ ↦ Triple.Alike.red)
  | conversion source convert =>
    obtain ⟨triple, rfl⟩ := List.length_eq_one_iff.1 hlength
    obtain ⟨other, rfl⟩ := List.length_eq_one_iff.1 hlength'
    have htriple := htriples triple List.mem_cons_self
    have hother := hothers other List.mem_cons_self
    obtain ⟨hred, hblack, hcopy⟩ : triple.Alike other := by simpa using halike
    rw [combine_conversion, combine_conversion]
    exact IsPlain.alike_threeCalls hrecipe hbase hlarger hfresh hfresh'
      (suits_singleton htriple.red) (suits_singleton htriple.black)
      (suits_singleton htriple.redCopy) (suits_singleton hother.red)
      (suits_singleton hother.black) (suits_singleton hother.redCopy) (.cons hred .nil)
      (.cons hblack .nil) (.cons hcopy .nil)
  | pairing container key value =>
    obtain ⟨keys, values, rfl⟩ := List.length_eq_two.1 hlength
    obtain ⟨keys', values', rfl⟩ := List.length_eq_two.1 hlength'
    have hkeys := htriples keys List.mem_cons_self
    have hvalues := htriples values (by simp)
    have hkeys' := hothers keys' List.mem_cons_self
    have hvalues' := hothers values' (by simp)
    obtain ⟨hkey, hvalue⟩ : keys.Alike keys' ∧ values.Alike values' := by simpa using halike
    rw [combine_pairing, combine_pairing]
    exact IsPlain.alike_threeCalls (isPlain_map base container) hbase hlarger hfresh hfresh'
      (suits_redEntries hkeys hvalues container) (suits_blackEntries hkeys hvalues container)
      (suits_redEntries hkeys hvalues container) (suits_redEntries hkeys' hvalues' container)
      (suits_blackEntries hkeys' hvalues' container) (suits_redEntries hkeys' hvalues' container)
      (.cons hkey.red (.cons hvalue.black .nil))
      (alike_blackEntries hlarger hkeys hkeys' hkey hvalue container)
      (.cons hkey.red (.cons hvalue.black .nil))

end Recipe

end Exemplar
