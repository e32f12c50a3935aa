import Exemplar.Storage.Catalog
import Mathlib.Data.Option.Basic
import Mathlib.Logic.Relation

/-!
Superclass chains. The fields of a type are found by going up its chain, and what is read of each
layout on the way are its type parameters, its superclass and its non-static fields. So catalogs
that agree on these along a chain list the same fields, or fail with the same fault.
-/

set_option autoImplicit false
set_option relaxedAutoImplicit false

namespace Exemplar

/-! ### What is missing on both sides or on none -/

theorem eq_none_of_rel_none {α β : Type} {r : α → β → Prop} {other : Option β}
    (h : Option.Rel r none other) : other = none := by
  cases h
  rfl

theorem exists_of_rel_some {α β : Type} {r : α → β → Prop} {a : α} {other : Option β}
    (h : Option.Rel r (some a) other) : ∃ b, other = some b ∧ r a b := by
  cases h with
  | some hab => exact ⟨_, rfl, hab⟩

theorem rel_of_imp {α β : Type} {r s : α → β → Prop} {a : Option α} {b : Option β}
    (h : Option.Rel r a b) (himp : ∀ a b, r a b → s a b) : Option.Rel s a b := by
  cases h with
  | some hab => exact .some (himp _ _ hab)
  | none => exact .none

/-! ### Superclass chains -/

namespace Catalog

/-- The superclass of a type, with the type arguments passed up. -/
def HasSuperclass (catalog : Catalog) (d e : Descriptor) : Prop :=
  ∃ layout superclass, catalog.layout? d.identity = some layout ∧
    layout.superclass = some superclass ∧ e = superclass.substitute layout.parameters d.arguments

/-- The second type is met on the superclass chain of the first one, which begins with the first one
itself. -/
def Descends (catalog : Catalog) : Descriptor → Descriptor → Prop :=
  Relation.ReflTransGen catalog.HasSuperclass

end Catalog

/-- Two layouts give the same fields to their values. Their kinds, constructors and static fields
may differ. -/
structure Layout.SameFields (first second : Layout) : Prop where
  parameters : second.parameters = first.parameters
  superclass : second.superclass = first.superclass
  fields : second.fields.filter (fun field ↦ !field.isStatic) =
    first.fields.filter fun field ↦ !field.isStatic

theorem Layout.SameFields.instanceFields {first second : Layout} (h : first.SameFields second)
    (arguments : List Descriptor) :
    second.instanceFields arguments = first.instanceFields arguments := by
  rw [Layout.instanceFields, Layout.instanceFields, h.fields, h.parameters]

namespace Catalog

variable {first second : Catalog} {layouts others : Table String Layout} {visited : List String}
variable {start d : Descriptor}

theorem layout?_identity (catalog : Catalog) (d : Descriptor) :
    catalog.layout? d.identity = catalog.layouts.get? d.identity := by
  rw [layout?, Descriptor.identity, TypeName.trim_text]

/-! ### One step up the chain -/

theorem fieldsFrom_of_visited (hvisited : d.identity ∈ visited) :
    fieldsFrom start layouts visited d =
      .error (.invalidArgument (.superclassLoop start.display d.identity)) := by
  rw [fieldsFrom, if_pos hvisited]

theorem fieldsFrom_of_no_layout (hvisited : d.identity ∉ visited)
    (hlayout : layouts.get? d.identity = none) :
    fieldsFrom start layouts visited d = .error (.cannotSynthesize d.display .noLayout) := by
  rw [fieldsFrom, if_neg hvisited]
  split
  · rfl
  · rename_i hfound
    rw [hlayout] at hfound
    cases hfound

theorem fieldsFrom_of_layout {layout : Layout} (hvisited : d.identity ∉ visited)
    (hlayout : layouts.get? d.identity = some layout) :
    fieldsFrom start layouts visited d =
      match layout.superclass with
      | none => .ok (layout.instanceFields d.arguments)
      | some superclass =>
        (fieldsFrom start (layouts.erase d.identity) (d.identity :: visited)
          (superclass.substitute layout.parameters d.arguments)).map
            (· ++ layout.instanceFields d.arguments) := by
  rw [fieldsFrom, if_neg hvisited]
  split
  · rename_i hmissing
    rw [hlayout] at hmissing
    cases hmissing
  · rename_i found hfound
    obtain rfl : layout = found := Option.some.inj (hlayout.symm.trans hfound)
    cases layout.superclass with
    | none => rfl
    | some superclass =>
      dsimp only
      cases fieldsFrom start (layouts.erase d.identity) (d.identity :: visited)
        (superclass.substitute layout.parameters d.arguments) <;> rfl

/-- A type without a superclass has its own fields. -/
theorem fields_of_root {catalog : Catalog} {layout : Layout}
    (hlayout : catalog.layouts.get? d.identity = some layout) (hroot : layout.superclass = none) :
    catalog.fields d = .ok (layout.instanceFields d.arguments) := by
  rw [fields, fieldsFrom_of_layout List.not_mem_nil hlayout, hroot]

/-- A type whose superclass has none itself has the fields of the superclass before its own. -/
theorem fields_of_superclass {catalog : Catalog} {layout above : Layout} {superclass : Descriptor}
    (hlayout : catalog.layouts.get? d.identity = some layout)
    (hsuperclass : layout.superclass = some superclass)
    (hne : d.identity ≠ (superclass.substitute layout.parameters d.arguments).identity)
    (habove : catalog.layouts.get? (superclass.substitute layout.parameters d.arguments).identity =
      some above) (hroot : above.superclass = none) :
    catalog.fields d =
      .ok (above.instanceFields (superclass.substitute layout.parameters d.arguments).arguments ++
        layout.instanceFields d.arguments) := by
  generalize hparent : superclass.substitute layout.parameters d.arguments = parent at *
  have hleft : (catalog.layouts.erase d.identity).get? parent.identity = some above := by
    rw [Table.get?_erase, if_neg hne, habove]
  have hvisited : parent.identity ∉ [d.identity] := fun hmem ↦
    hne (List.mem_singleton.1 hmem).symm
  have hinherited : fieldsFrom d (catalog.layouts.erase d.identity) [d.identity] parent =
      .ok (above.instanceFields parent.arguments) := by
    rw [fieldsFrom_of_layout hvisited hleft, hroot]
  rw [fields, fieldsFrom_of_layout List.not_mem_nil hlayout, hsuperclass]
  dsimp only
  rw [hparent, hinherited]
  rfl

/-! ### Agreement along a chain -/

/-- A table has the layouts of a catalog, except for those of the visited types. -/
def LeftOf (catalog : Catalog) (visited : List String) (layouts : Table String Layout) : Prop :=
  ∀ identity, identity ∉ visited → layouts.get? identity = catalog.layouts.get? identity

theorem LeftOf.erase (h : first.LeftOf visited layouts) (identity : String) :
    first.LeftOf (identity :: visited) (layouts.erase identity) := by
  intro other hother
  rw [List.mem_cons, not_or] at hother
  rw [Table.get?_erase, if_neg fun hsame ↦ hother.1 hsame.symm, h other hother.2]

theorem LeftOf.rel {r : Layout → Layout → Prop} (hlayouts : first.LeftOf visited layouts)
    (hothers : second.LeftOf visited others) (hvisited : d.identity ∉ visited)
    (hsame : Option.Rel r (first.layout? d.identity) (second.layout? d.identity)) :
    Option.Rel r (layouts.get? d.identity) (others.get? d.identity) := by
  rwa [hlayouts _ hvisited, hothers _ hvisited, ← layout?_identity, ← layout?_identity]

/-- Going up the chain of a type lists the same fields in both catalogs. The layouts that were
already passed do not matter, because a chain that comes back to one of them is refused. -/
theorem fieldsFrom_congr (hlayouts : first.LeftOf visited layouts)
    (hothers : second.LeftOf visited others)
    (hsame : ∀ e, first.Descends d e →
      Option.Rel Layout.SameFields (first.layout? e.identity) (second.layout? e.identity)) :
    fieldsFrom start others visited d = fieldsFrom start layouts visited d := by
  fun_induction fieldsFrom start layouts visited d generalizing others with
  | case1 layouts visited d hvisited => exact fieldsFrom_of_visited hvisited
  | case2 layouts visited d hvisited hlayout =>
    have hself := hlayouts.rel hothers hvisited (hsame d .refl)
    rw [hlayout] at hself
    exact fieldsFrom_of_no_layout hvisited (eq_none_of_rel_none hself)
  | case3 layouts visited d hvisited layout hlayout hsuperclass =>
    have hself := hlayouts.rel hothers hvisited (hsame d .refl)
    rw [hlayout] at hself
    obtain ⟨other, hother, hfields⟩ := exists_of_rel_some hself
    rw [fieldsFrom_of_layout hvisited hother, hfields.superclass, hsuperclass,
      hfields.instanceFields]
  | case4 layouts visited d hvisited layout hlayout superclass hsuperclass ih =>
    have hself := hlayouts.rel hothers hvisited (hsame d .refl)
    rw [hlayout] at hself
    obtain ⟨other, hother, hfields⟩ := exists_of_rel_some hself
    have hparent : first.HasSuperclass d (superclass.substitute layout.parameters d.arguments) :=
      ⟨layout, superclass, by rw [layout?_identity, ← hlayouts _ hvisited, hlayout], hsuperclass,
        rfl⟩
    have hinherited := ih (hlayouts.erase _) (hothers.erase _) fun e he ↦ hsame e (.head hparent he)
    rw [fieldsFrom_of_layout hvisited hother, hfields.superclass, hsuperclass, hfields.parameters,
      hfields.instanceFields]
    dsimp only
    rw [hinherited]
    cases fieldsFrom start (layouts.erase d.identity) (d.identity :: visited)
      (superclass.substitute layout.parameters d.arguments) <;> rfl

/-- Catalogs that agree along the superclass chain of a type list the same fields for it. -/
theorem fields_congr (hsame : ∀ e, first.Descends d e →
      Option.Rel Layout.SameFields (first.layout? e.identity) (second.layout? e.identity)) :
    second.fields d = first.fields d :=
  fieldsFrom_congr (fun _ _ ↦ rfl) (fun _ _ ↦ rfl) hsame

end Catalog

end Exemplar
