import Exemplar.Proofs.Synthesis.Requirement

/-!
Which types can be made by themselves, whatever becomes of the types that they require. The way in
which a type is made is chosen by its name and the number of its arguments, before anything is
requested: its factory, or its layout if there is no factory or the factory declines the type. The
failure of a requested type changes nothing about this choice (`Sources.create_eq_serve`).
-/

set_option autoImplicit false
set_option relaxedAutoImplicit false

namespace Exemplar

/-! ### Accepted and declined types -/

namespace Factory

/-- A factory declines a type that has more arguments than the factory understands. -/
def Declines (factory : Factory) (d : Descriptor) : Prop :=
  match factory with
  | constant _ => False
  | copy _ _ => False
  | collection _ => 1 < d.arguments.length
  | map => 2 < d.arguments.length
  | generic constructor => constructor.arity < d.arguments.length

instance (factory : Factory) (d : Descriptor) : Decidable (factory.Declines d) :=
  match factory with
  | constant _ => inferInstanceAs (Decidable False)
  | copy _ _ => inferInstanceAs (Decidable False)
  | collection _ => inferInstanceAs (Decidable (1 < d.arguments.length))
  | map => inferInstanceAs (Decidable (2 < d.arguments.length))
  | generic constructor => inferInstanceAs (Decidable (constructor.arity < d.arguments.length))

/-- A factory accepts a type if it makes its values from those that it requests. It has to find at
most as many arguments as it understands, and a conversion needs the name of another type. -/
def Accepts (factory : Factory) (d : Descriptor) : Prop :=
  match factory with
  | constant _ => True
  | copy underlying _ => IsTypeName (Text.trimChars underlying.toList)
  | collection _ => d.arguments.length ≤ 1
  | map => d.arguments.length ≤ 2
  | generic constructor => d.arguments.length ≤ constructor.arity

end Factory

/-- Values of a type can be assembled from its layout: it is an enumeration with a constant, or a
type with storage whose fields can be listed. -/
def Catalog.Assembles (catalog : Catalog) (d : Descriptor) : Prop :=
  ∃ layout, catalog.layout? d.identity = some layout ∧
    match layout.kind with
    | .enumeration constants => constants ≠ []
    | .interface => False
    | .ordinary | .abstract => ∃ fields, catalog.fields d = .ok fields

/-- A type can be made by itself: its factory accepts it, or its layout serves where there is no
factory or the factory declines the type. -/
def Sources.IsBuildable (sources : Sources) (d : Descriptor) : Prop :=
  match sources.registry.lookup? d.identity with
  | none => sources.catalog.Assembles d
  | some factory => factory.Accepts d ∨ factory.Declines d ∧ sources.catalog.Assembles d

/-! ### Buildable types have recipes -/

namespace TypeName

variable {text : String}

/-- A text names a type if what is left of it after trimming does. -/
theorem exists_ofString_iff :
    (∃ name, ofString text = .ok name) ↔ IsTypeName (Text.trimChars text.toList) := by
  constructor
  · rintro ⟨name, hname⟩
    unfold ofString at hname
    dsimp only at hname
    split at hname
    · cases hname
    · rename_i hempty
      split at hname
      · cases hname
      · rename_i hplain
        exact ⟨hempty, Text.trimmed_trimChars _, by simpa using hplain⟩
  · intro hvalid
    have hplain : ¬(Text.trimChars text.toList).any isDelimiter = true := by
      simpa using hvalid.plain
    exact ⟨_, by rw [ofString, dif_neg hvalid.nonempty, dif_neg hplain]⟩

theorem isUnsupported_of_ofString {fault : Fault} (hname : ofString text = .error fault) :
    fault.isUnsupported = false := by
  unfold ofString at hname
  dsimp only at hname
  split at hname
  · cases hname
    rfl
  · split at hname
    · cases hname
      rfl
    · cases hname

end TypeName

namespace Factory

variable {factory : Factory} {d : Descriptor}

/-- The recipe of a conversion is found by reading the name of the other type. -/
theorem recipe_copy (underlying : String) (convert : Value → Fresh Value) (d : Descriptor) :
    (copy underlying convert).recipe d =
      match TypeName.ofString underlying with
      | .ok name => .ok (.conversion ⟨name, d.arguments⟩ convert)
      | .error fault => .error fault := by
  rw [recipe, Descriptor.rename, Descriptor.ofName]
  cases TypeName.ofString underlying <;> rfl

theorem exists_recipe_iff : (∃ recipe, factory.recipe d = .ok recipe) ↔ factory.Accepts d := by
  cases factory with
  | constant triple => simp [recipe, Accepts]
  | copy underlying convert =>
    rw [Accepts, ← TypeName.exists_ofString_iff, recipe_copy]
    cases TypeName.ofString underlying <;> simp
  | collection build | map | generic constructor =>
    simp only [recipe, Accepts]
    split
    · rename_i hmore
      exact iff_of_false (by simp) (Nat.not_le.2 hmore)
    · rename_i hfits
      exact iff_of_true ⟨_, rfl⟩ (Nat.not_lt.1 hfits)

/-- A factory states that it declines a type just where it does. -/
theorem declines_iff_of_recipe {fault : Fault} (hrecipe : factory.recipe d = .error fault) :
    factory.Declines d ↔ fault.isUnsupported = true := by
  cases factory with
  | constant triple => cases hrecipe
  | copy underlying convert =>
    rw [recipe_copy] at hrecipe
    cases hname : TypeName.ofString underlying with
    | ok name => rw [hname] at hrecipe; cases hrecipe
    | error stated =>
      rw [hname] at hrecipe
      cases hrecipe
      simp [Declines, TypeName.isUnsupported_of_ofString hname]
  | collection build | map | generic constructor =>
    simp only [recipe] at hrecipe
    split at hrecipe
    · rename_i hmore
      cases hrecipe
      exact iff_of_true hmore rfl
    · cases hrecipe

theorem not_declines_of_recipe {found : Recipe} (hrecipe : factory.recipe d = .ok found) :
    ¬factory.Declines d := by
  have haccepts := exists_recipe_iff.1 ⟨found, hrecipe⟩
  cases factory with
  | constant triple | copy underlying convert => exact id
  | collection build | map | generic constructor => exact Nat.not_lt.2 haccepts

end Factory

theorem Assembly.exists_recipe_iff {catalog : Catalog} {d : Descriptor} :
    (∃ found, recipe catalog d = .ok found) ↔ catalog.Assembles d := by
  unfold recipe Catalog.Assembles
  cases catalog.layout? d.identity with
  | none => simp
  | some layout =>
    simp only [Option.some.injEq, exists_eq_left']
    cases layout.kind with
    | enumeration constants => cases constants <;> simp
    | interface => simp
    | ordinary | abstract =>
      cases catalog.fields d with
      | error fault => exact iff_of_false (by simp [bind, Except.bind]) (by simp)
      | ok fields => exact iff_of_true ⟨_, rfl⟩ ⟨_, rfl⟩

namespace Sources

variable {sources : Sources} {d : Descriptor} {fault : Fault}

/-- The buildable types are those that have a recipe. -/
theorem isBuildable_iff : sources.IsBuildable d ↔ ∃ recipe, sources.recipe d = .ok recipe := by
  unfold IsBuildable recipe
  cases sources.registry.lookup? d.identity with
  | none => exact Assembly.exists_recipe_iff.symm
  | some factory =>
    dsimp only
    rw [← Factory.exists_recipe_iff, ← Assembly.exists_recipe_iff]
    cases hfactory : factory.recipe d with
    | ok found => simp
    | error fault =>
      rw [Factory.declines_iff_of_recipe hfactory]
      cases hfault : fault.isUnsupported <;> simp [hfault]

theorem not_isBuildable_of_recipe (hrecipe : sources.recipe d = .error fault) :
    ¬sources.IsBuildable d := by
  rw [isBuildable_iff]
  rintro ⟨recipe, hfound⟩
  rw [hrecipe] at hfound
  cases hfound

/-! ### One way of making values serves a type -/

/-- The values of a type by the only way that serves it: its factory, or its layout if there is no
factory or the factory declines the type. A failure on this way is not recovered. -/
def serve (sources : Sources) (request : Request) (d : Descriptor) : Resolution Triple :=
  match sources.registry.lookup? d.identity with
  | none => Assembly.create request sources.catalog d
  | some factory =>
    if factory.Declines d then Assembly.create request sources.catalog d
    else factory.create request d

end Sources

theorem Assembly.create_isFinal {request : Request} (hrequest : request.IsFinal)
    (catalog : Catalog) (d : Descriptor) : (create request catalog d).IsFinal := by
  rw [create_eq_follow]
  exact Resolution.isFinal_bind (Resolution.isFinal_ofExcept (recipe_isFinal catalog d))
    hrequest.follow

theorem Factory.create_isFinal {request : Request} (hrequest : request.IsFinal)
    {factory : Factory} {d : Descriptor} (hserves : ¬factory.Declines d) :
    (factory.create request d).IsFinal := by
  rw [create_eq]
  refine Resolution.isFinal_bind (Resolution.isFinal_ofExcept fun fault hfault ↦ ?_)
    hrequest.follow
  rw [declines_iff_of_recipe hfault] at hserves
  simpa using hserves

namespace Sources

variable {sources : Sources} {d : Descriptor} {fault : Fault}

/-- When requests never end with a declined type, as those of the resolver, the layout of a type is
tried after its factory only if the factory declines the type. -/
theorem create_eq_serve (sources : Sources) {request : Request} (hrequest : request.IsFinal)
    (d : Descriptor) : sources.create request d = sources.serve request d := by
  have hassemble : sources.assemble request d = Assembly.create request sources.catalog d :=
    Resolution.fatal_of_isFinal (Assembly.create_isFinal hrequest sources.catalog d)
  unfold create serve
  cases sources.registry.lookup? d.identity with
  | none => exact hassemble
  | some factory =>
    dsimp only
    by_cases hdeclines : factory.Declines d
    · rw [if_pos hdeclines, hassemble, Factory.create_eq]
      cases hrecipe : factory.recipe d with
      | ok found => exact absurd hdeclines (Factory.not_declines_of_recipe hrecipe)
      | error fault =>
        have hfault := (Factory.declines_iff_of_recipe hrecipe).1 hdeclines
        rw [Resolution.ofExcept_error_bind, Resolution.orIfUnsupported_ofExcept_error, if_pos hfault]
    · rw [if_neg hdeclines]
      exact Resolution.orIfUnsupported_of_isFinal (Factory.create_isFinal hrequest hdeclines) _

/-- Making the values of the type fails with the fault by itself: at once, whatever the answers to
its requests would be. -/
def FailsLocally (sources : Sources) (d : Descriptor) (fault : Fault) : Prop :=
  ∀ request progress, sources.create request d progress = .error (.fault fault) progress

/-- A type without a recipe fails by itself. Where the factory declined the type, the fault is that
of the layout. -/
theorem failsLocally_of_recipe (hrecipe : sources.recipe d = .error fault) :
    sources.FailsLocally d fault := by
  intro request progress
  have hassemble {stated : Fault} (hlayout : Assembly.recipe sources.catalog d = .error stated) :
      sources.assemble request d = Resolution.ofExcept (.error stated) := by
    rw [assemble, Assembly.create_eq_follow, hlayout, Resolution.ofExcept_error_bind]
    refine Resolution.fatal_of_isFinal (Resolution.isFinal_ofExcept fun other hother ↦ ?_)
    cases hother
    exact Assembly.recipe_isFinal _ _ _ hlayout
  unfold recipe at hrecipe
  unfold create
  cases hlookup : sources.registry.lookup? d.identity with
  | none =>
    rw [hlookup] at hrecipe
    dsimp only at hrecipe ⊢
    rw [hassemble hrecipe]
    rfl
  | some factory =>
    rw [hlookup] at hrecipe
    dsimp only at hrecipe ⊢
    rw [Factory.create_eq]
    cases hfactory : factory.recipe d with
    | ok found => rw [hfactory] at hrecipe; cases hrecipe
    | error stated =>
      rw [hfactory] at hrecipe
      dsimp only at hrecipe
      rw [Resolution.ofExcept_error_bind, Resolution.orIfUnsupported_ofExcept_error]
      split at hrecipe
      · rename_i hdeclined
        rw [if_pos hdeclined, hassemble hrecipe]
        rfl
      · rename_i hfinal
        cases hrecipe
        rw [if_neg hfinal]
        rfl

end Sources

end Exemplar
