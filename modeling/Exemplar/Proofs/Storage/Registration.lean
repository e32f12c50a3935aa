import Exemplar.Storage.Catalog

/-!
Layouts as they are declared and catalogs as they are filled. A layout starts with its kind and is
extended declaration by declaration, and the constants of an enumeration are made when it starts, so
they have numbers of their own. A catalog is filled by registering such layouts, so a layout is
found under its own identity and under no other.
-/

set_option autoImplicit false
set_option relaxedAutoImplicit false

namespace Exemplar

namespace Layout

/-! ### Constants -/

theorem le_number_of_mem_allocConstants {names : List String} {unused : Nat} {c : Constant}
    (hc : c ∈ (allocConstants names unused).1) : unused ≤ c.number := by
  induction names generalizing unused with
  | nil => cases hc
  | cons name names ih =>
    rcases List.mem_cons.1 hc with rfl | hc
    · exact Nat.le_refl _
    · exact Nat.le_of_succ_le (ih hc)

/-- Each constant gets a new number. -/
theorem nodup_number_allocConstants (names : List String) (unused : Nat) :
    ((allocConstants names unused).1.map Constant.number).Nodup := by
  induction names generalizing unused with
  | nil => exact List.nodup_nil
  | cons name names ih =>
    refine List.nodup_cons.2 ⟨fun hmem ↦ ?_, ih (unused + 1)⟩
    obtain ⟨c, hc, hnumber⟩ := List.mem_map.1 hmem
    have hlater : unused + 1 ≤ c.number := le_number_of_mem_allocConstants hc
    change c.number = unused at hnumber
    omega

/-- A layout starts with a fault only if its identity is blank. -/
theorem fault_ofKind_eq_some_iff {identity : String} {kind : LayoutKind} {fault : Fault} :
    (ofKind identity kind).fault = some fault ↔
      Text.trim identity = "" ∧ fault = .invalidArgument .emptyLayoutIdentity := by
  rw [ofKind, Option.ite_none_right_eq_some, Option.some_inj, eq_comm (b := fault)]

theorem fault_ofKind_eq_none_iff {identity : String} {kind : LayoutKind} :
    (ofKind identity kind).fault = none ↔ Text.trim identity ≠ "" := by
  rw [ofKind, ite_eq_right_iff]
  simp

/-- A field with a new name and a readable type is put to the fields declared before. -/
theorem declare_of_new {layout : Layout} {name : String} (hname : Text.trim name ≠ "")
    (hnew : name ∉ layout.fields.map Field.name) (d : Descriptor) (isStatic : Bool) :
    layout.declare name (.ok d) isStatic =
      { layout with fields := layout.fields ++ [⟨name, d, isStatic⟩] } := by
  have hfresh : (layout.fields.any fun field ↦ field.name = name) = false := by
    simpa using hnew
  rw [declare, if_neg hname, hfresh, if_neg Bool.false_ne_true]

/-- The layouts that declarations give. -/
inductive Declared : Layout → Prop
  | ofKind (identity : String) {kind : LayoutKind}
    (hkind : ∀ constants, kind ≠ .enumeration constants) : Declared (ofKind identity kind)
  | enumeration (identity : String) (names : List String) (unused : Nat) :
    Declared (enumeration identity names unused).1
  | withParameters {layout : Layout} (parameters : List String) (h : Declared layout) :
    Declared (layout.withParameters parameters)
  | withSuperclass {layout : Layout} (superclass : Except Fault Descriptor)
    (h : Declared layout) : Declared (layout.withSuperclass superclass)
  | declare {layout : Layout} (name : String) (type : Except Fault Descriptor) (isStatic : Bool)
    (h : Declared layout) : Declared (layout.declare name type isStatic)
  | withConstructor {layout : Layout} (constructor : List Value → Fresh Value)
    (h : Declared layout) : Declared (layout.withConstructor constructor)

theorem constants_withSuperclass (layout : Layout) (superclass : Except Fault Descriptor) :
    (layout.withSuperclass superclass).constants = layout.constants := by
  cases superclass <;> rfl

theorem constants_declare (layout : Layout) (name : String) (type : Except Fault Descriptor)
    (isStatic : Bool) : (layout.declare name type isStatic).constants = layout.constants := by
  unfold declare
  split
  · rfl
  · split
    · rfl
    · cases type <;> rfl

/-- The constants of a declared layout have different numbers. -/
theorem Declared.nodup_number {layout : Layout} (h : layout.Declared) :
    (layout.constants.map Constant.number).Nodup := by
  induction h with
  | @ofKind identity kind hkind =>
    cases kind with
    | enumeration constants => exact absurd rfl (hkind constants)
    | ordinary | abstract | interface => exact List.nodup_nil
  | enumeration identity names unused => exact nodup_number_allocConstants names unused
  | withParameters parameters _ ih => exact ih
  | withSuperclass superclass _ ih => rwa [constants_withSuperclass]
  | declare name type isStatic _ ih => rwa [constants_declare]
  | withConstructor constructor _ ih => exact ih

end Layout

namespace Catalog

/-! ### Filled catalogs -/

/-- The catalogs that registering declared layouts gives. -/
inductive Registered : Catalog → Prop
  | empty : Registered empty
  | register {catalog later : Catalog} {layout : Layout} (h : Registered catalog)
    (hlayout : layout.Declared) (hlater : catalog.register layout = .ok later) : Registered later

theorem register_eq_ok {catalog later : Catalog} {layout : Layout}
    (h : catalog.register layout = .ok later) :
    later = ⟨catalog.layouts.insert layout.identity layout⟩ := by
  unfold register at h
  split at h <;> cases h
  rfl

/-- Registering fails exactly with the fault of the layout. -/
theorem register_eq_error_iff {catalog : Catalog} {layout : Layout} {fault : Fault} :
    catalog.register layout = .error fault ↔ layout.fault = some fault := by
  unfold register
  cases layout.fault <;> simp

/-- A registered layout is found under its identity. -/
theorem layout?_of_register {catalog later : Catalog} {layout : Layout}
    (h : catalog.register layout = .ok later) {identity : String}
    (hidentity : layout.identity = Text.trim identity) :
    later.layout? identity = some layout := by
  rw [register_eq_ok h, layout?, Table.get?_insert, if_pos hidentity]

/-- A layout that a filled catalog has for an identity was declared for this identity. -/
theorem Registered.declared_of_layout? {catalog : Catalog} (h : catalog.Registered)
    {identity : String} {layout : Layout} (hlayout : catalog.layout? identity = some layout) :
    layout.Declared ∧ layout.identity = Text.trim identity := by
  induction h with
  | empty => cases hlayout
  | register _ hnew hlater ih =>
    rw [register_eq_ok hlater, layout?, Table.get?_insert] at hlayout
    split at hlayout
    · rename_i hidentity
      cases hlayout
      exact ⟨hnew, hidentity⟩
    · exact ih hlayout

end Catalog

end Exemplar
