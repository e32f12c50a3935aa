import Exemplar.Proofs.Storage.Clauses
import Exemplar.Proofs.Text.Padding

/-!
Layouts clause by clause, and catalogs layout by layout. The fields of a layout are the accepted
declarations in order, and its fault is that of the first clause that is refused, unless the
identity is blank. A catalog takes a layout without a fault in the place of the one that it had for
the identity. It finds the last layout it took, however the identity is padded.
-/

set_option autoImplicit false
set_option relaxedAutoImplicit false

namespace Exemplar

/-! ### Layouts -/

/-- A layout as it is written down: its identity and its kind, and then its clauses in order. -/
structure Draft where
  identity : String
  kind : LayoutKind
  clauses : List Clause

namespace Draft

/-- The layout of a draft. -/
def layout (draft : Draft) : Layout :=
  draft.clauses.foldl Clause.addTo (.ofKind draft.identity draft.kind)

/-- The draft with one more clause. -/
def add (draft : Draft) (clause : Clause) : Draft :=
  { draft with clauses := draft.clauses ++ [clause] }

/-- The draft with more clauses. -/
def addAll (draft : Draft) (clauses : List Clause) : Draft :=
  { draft with clauses := draft.clauses ++ clauses }

/-- The fault that is told of a draft: the identity is blank or, if it is not, this is the fault of
the first clause that is refused. -/
def Blames (draft : Draft) (fault : Fault) : Prop :=
  Text.trim draft.identity = "" ∧ fault = .invalidArgument .emptyLayoutIdentity ∨
    Text.trim draft.identity ≠ "" ∧
      Clause.FirstRefused (Text.trim draft.identity) draft.clauses fault

/-- There is nothing to tell of a draft. -/
def IsSound (draft : Draft) : Prop :=
  Text.trim draft.identity ≠ "" ∧ Clause.AllAccepted (Text.trim draft.identity) draft.clauses

/-- A layout is what a draft says. -/
structure Describes (draft : Draft) (layout : Layout) : Prop where
  identity : layout.identity = Text.trim draft.identity
  kind : layout.kind = draft.kind
  parameters : layout.parameters = (Clause.lastGiven? Clause.parameters? draft.clauses).getD []
  superclass : layout.superclass = Clause.lastGiven? Clause.superclass? draft.clauses
  fields : layout.fields = Clause.accepted draft.clauses
  constructor : layout.constructor = Clause.lastGiven? Clause.constructor? draft.clauses
  fault : ∀ fault, layout.fault = some fault ↔ draft.Blames fault
  sound : layout.fault = none ↔ draft.IsSound

variable {draft : Draft} {layout : Layout}

theorem describes_ofKind (identity : String) (kind : LayoutKind) :
    Describes ⟨identity, kind, []⟩ (.ofKind identity kind) where
  identity := rfl
  kind := rfl
  parameters := rfl
  superclass := rfl
  fields := rfl
  constructor := rfl
  fault fault := by
    rw [Layout.fault_ofKind_eq_some_iff, Blames]
    simp [Clause.not_firstRefused_nil]
  sound := by
    rw [Layout.fault_ofKind_eq_none_iff, IsSound]
    simp [Clause.allAccepted_nil]

/-- A clause that is refused. -/
theorem Describes.refuse (h : draft.Describes layout) {clause : Clause} {fault : Fault}
    (hclause : Clause.Refused layout.identity layout.fields clause fault) :
    (draft.add clause).Describes (layout.reject fault) := by
  obtain ⟨hparameters, hsuperclass, hconstructor⟩ := hclause.gives_nothing
  rw [h.identity, h.fields] at hclause
  refine ⟨h.identity, h.kind, ?_, ?_, ?_, ?_, fun other ↦ ?_, ?_⟩
  · rw [add, Clause.lastGiven?_concat, hparameters, Option.none_or]
    exact h.parameters
  · rw [add, Clause.lastGiven?_concat, hsuperclass, Option.none_or]
    exact h.superclass
  · rw [add, hclause.accepted_concat]
    exact h.fields
  · rw [add, Clause.lastGiven?_concat, hconstructor, Option.none_or]
    exact h.constructor
  -- The fault of this clause counts only if there was nothing to tell before.
  · rw [Layout.reject, Option.or_eq_some_iff, h.fault, h.sound, Option.some_inj, Blames, Blames,
      add, Clause.firstRefused_concat_iff, IsSound]
    constructor
    · rintro ((hblank | ⟨hname, hfirst⟩) | ⟨⟨hname, haccepted⟩, rfl⟩)
      · exact .inl hblank
      · exact .inr ⟨hname, .inl hfirst⟩
      · exact .inr ⟨hname, .inr ⟨haccepted, hclause⟩⟩
    · rintro (hblank | ⟨hname, hfirst | ⟨haccepted, hother⟩⟩)
      · exact .inl (.inl hblank)
      · exact .inl (.inr ⟨hname, hfirst⟩)
      · exact .inr ⟨⟨hname, haccepted⟩, hother.unique hclause⟩
  · rw [Layout.reject, IsSound, add, Clause.allAccepted_concat_iff]
    refine iff_of_false (by simp) fun hsound ↦ hsound.2.2 fault hclause

/-- A clause that is accepted. -/
theorem Describes.accept (h : draft.Describes layout) {clause : Clause}
    (hclause : ∀ fault, ¬Clause.Refused layout.identity layout.fields clause fault) :
    (draft.add clause).Describes (clause.give layout) := by
  rw [h.identity, h.fields] at hclause
  refine ⟨h.identity, h.kind, ?_, ?_, ?_, ?_, fun other ↦ ?_, ?_⟩
  · rw [add, Clause.lastGiven?_concat, Clause.give, h.parameters]
    cases clause.parameters? <;> rfl
  · rw [add, Clause.lastGiven?_concat, Clause.give, h.superclass]
  · rw [add, Clause.accepted_concat_of_not_refused hclause, Clause.give, h.fields]
  · rw [add, Clause.lastGiven?_concat, Clause.give, h.constructor]
  · rw [Clause.give, h.fault, Blames, Blames, add, Clause.firstRefused_concat_iff]
    simp only [hclause, and_false, or_false]
  · rw [Clause.give, h.sound, IsSound, IsSound, add, Clause.allAccepted_concat_iff]
    simp only [hclause, not_false_eq_true, implies_true, and_true]

/-- One more clause. -/
theorem Describes.addTo (h : draft.Describes layout) (clause : Clause) :
    (draft.add clause).Describes (clause.addTo layout) := by
  rcases clause.addTo_cases layout with ⟨fault, hrefused, hadd⟩ | ⟨haccepted, hadd⟩
  · exact hadd ▸ h.refuse hrefused
  · exact hadd ▸ h.accept haccepted

/-- Clauses in a row. -/
theorem Describes.foldl (h : draft.Describes layout) (clauses : List Clause) :
    (draft.addAll clauses).Describes (clauses.foldl Clause.addTo layout) := by
  induction clauses generalizing draft layout with
  | nil => simpa [addAll] using h
  | cons clause clauses ih => simpa [add, addAll] using ih (h.addTo clause)

theorem describes_layout (draft : Draft) : draft.Describes draft.layout :=
  (describes_ofKind draft.identity draft.kind).foldl draft.clauses

/-- What one more clause does to the fields of a layout. -/
structure Extends (layout later : Layout) (clause : Clause) : Prop where
  refused : ∀ fault, Clause.Refused layout.identity layout.fields clause fault →
    later.fields = layout.fields
  accepted : (∀ fault, ¬Clause.Refused layout.identity layout.fields clause fault) →
    later.fields = layout.fields ++ clause.readable?.toList

theorem layout_add (draft : Draft) (clause : Clause) :
    (draft.add clause).layout = clause.addTo draft.layout := by
  rw [Draft.layout, add, List.foldl_append]
  rfl

theorem extends_add (draft : Draft) (clause : Clause) :
    Extends draft.layout (draft.add clause).layout clause := by
  rw [layout_add]
  rcases clause.addTo_cases draft.layout with ⟨fault, hrefused, hadd⟩ | ⟨haccepted, hadd⟩
  · refine ⟨fun _ _ ↦ ?_, fun haccepted ↦ absurd hrefused (haccepted fault)⟩
    rw [hadd, Layout.reject]
  · refine ⟨fun fault hrefused ↦ absurd hrefused (haccepted fault), fun _ ↦ ?_⟩
    rw [hadd, Clause.give]

/-- More clauses do not change a fault. -/
theorem fault_addAll {fault : Fault} (hfault : draft.layout.fault = some fault)
    (clauses : List Clause) : (draft.addAll clauses).layout.fault = some fault := by
  rw [(describes_layout _).fault] at hfault ⊢
  rcases hfault with hblank | ⟨hname, before, clause, after, hclauses, hfirst⟩
  · exact .inl hblank
  · refine .inr ⟨hname, before, clause, after ++ clauses, ?_, hfirst⟩
    rw [addAll, hclauses, List.append_assoc, List.cons_append]

end Draft

namespace Catalog

/-! ### Registration -/

/-- The catalog after a layout was offered to it. A layout with a fault leaves it as it was. -/
def offer (catalog : Catalog) (layout : Layout) : Catalog :=
  match catalog.register layout with
  | .ok later => later
  | .error _ => catalog

/-- The catalog after the layouts of several drafts were offered to it. -/
def offerAll (catalog : Catalog) (drafts : List Draft) : Catalog :=
  drafts.foldl (fun catalog draft ↦ catalog.offer draft.layout) catalog

/-- A catalog differs from an earlier one in the entry of a layout alone, which is found under the
paddings of its identity. -/
structure Replaces (catalog later : Catalog) (layout : Layout) : Prop where
  entry : ∀ key, later.layouts.get? key =
    if layout.identity = key then some layout else catalog.layouts.get? key
  found : ∀ padded, Text.IsPadding layout.identity padded → later.layout? padded = some layout
  others : ∀ padded, ¬Text.IsPadding layout.identity padded →
    later.layout? padded = catalog.layout? padded

variable {catalog later : Catalog} {draft : Draft}

theorem layout?_eq_of_isPadding {identity padded : String} (h : Text.IsPadding identity padded) :
    catalog.layout? padded = catalog.layout? identity := by
  rw [layout?, h.trim_eq, layout?]

theorem replaces_of_register {layout : Layout} (h : catalog.register layout = .ok later)
    (hidentity : Text.trim layout.identity = layout.identity) :
    catalog.Replaces later layout := by
  obtain rfl := register_eq_ok h
  refine ⟨fun key ↦ Table.get?_insert _ _ _ _, fun padded hpadded ↦ ?_, fun padded hother ↦ ?_⟩
  · rw [layout?, Table.get?_insert, if_pos (hpadded.trim_eq.trans hidentity).symm]
  · rw [Text.isPadding_iff hidentity] at hother
    rw [layout?, Table.get?_insert, if_neg (Ne.symm hother), layout?]

theorem register_eq_error_iff_blames {fault : Fault} :
    catalog.register draft.layout = .error fault ↔ draft.Blames fault := by
  rw [register_eq_error_iff, draft.describes_layout.fault]

theorem exists_register_iff_isSound :
    (∃ later, catalog.register draft.layout = .ok later) ↔ draft.IsSound := by
  rw [← draft.describes_layout.sound, register]
  cases draft.layout.fault <;> simp

theorem offer_of_register {layout : Layout} (h : catalog.register layout = .ok later) :
    catalog.offer layout = later := by
  rw [offer, h]

theorem offer_of_not_isSound (h : ¬draft.IsSound) : catalog.offer draft.layout = catalog := by
  rw [offer]
  split
  · rename_i later hlater
    exact absurd (exists_register_iff_isSound.1 ⟨later, hlater⟩) h
  · rfl

theorem trim_identity_layout (draft : Draft) :
    Text.trim draft.layout.identity = draft.layout.identity := by
  rw [draft.describes_layout.identity, Text.trim_trim]

end Catalog

/-- A draft gives a layout to an identity. -/
def Draft.Serves (draft : Draft) (identity : String) : Prop :=
  draft.IsSound ∧ Text.trim draft.identity = Text.trim identity

namespace Catalog

variable {catalog later : Catalog} {draft : Draft} {identity : String}

/-- A draft that gives a layout to an identity is found there. -/
theorem layout?_offer_of_serves (h : draft.Serves identity) :
    (catalog.offer draft.layout).layout? identity = some draft.layout := by
  obtain ⟨later, hlater⟩ := exists_register_iff_isSound.2 h.1
  rw [offer_of_register hlater, layout?_of_register hlater]
  rw [draft.describes_layout.identity, h.2]

/-- Any other draft changes nothing there. -/
theorem layout?_offer_of_not_serves (h : ¬draft.Serves identity) :
    (catalog.offer draft.layout).layout? identity = catalog.layout? identity := by
  by_cases hsound : draft.IsSound
  · obtain ⟨later, hlater⟩ := exists_register_iff_isSound.2 hsound
    have hother : draft.layout.identity ≠ Text.trim identity := fun heq ↦
      h ⟨hsound, draft.describes_layout.identity.symm.trans heq⟩
    rw [offer_of_register hlater, register_eq_ok hlater, layout?, Table.get?_insert, if_neg hother,
      layout?]
  · rw [offer_of_not_isSound hsound]

theorem layout?_offerAll_of_forall_not_serves {drafts : List Draft}
    (h : ∀ draft ∈ drafts, ¬draft.Serves identity) :
    (catalog.offerAll drafts).layout? identity = catalog.layout? identity := by
  induction drafts generalizing catalog with
  | nil => rfl
  | cons draft drafts ih =>
    rw [offerAll, List.foldl_cons, ← offerAll, ih fun d hd ↦ h d (List.mem_cons_of_mem _ hd),
      layout?_offer_of_not_serves (h draft List.mem_cons_self)]

/-- The last draft that gives a layout to an identity is found there. -/
theorem layout?_offerAll_of_last_serves {before after : List Draft} (h : draft.Serves identity)
    (hafter : ∀ other ∈ after, ¬other.Serves identity) :
    (catalog.offerAll (before ++ draft :: after)).layout? identity = some draft.layout := by
  rw [offerAll, List.foldl_append, List.foldl_cons, ← offerAll, ← offerAll,
    layout?_offerAll_of_forall_not_serves hafter, layout?_offer_of_serves h]

/-- What is found under the paddings of an identity after layouts were offered: the layout of the
last draft that gave one to the identity, and the earlier one if no draft did. -/
structure FindsLast (catalog : Catalog) (drafts : List Draft) (identity : String) : Prop where
  given : ∀ before draft after, drafts = before ++ draft :: after → draft.Serves identity →
    (∀ other ∈ after, ¬other.Serves identity) → ∀ padded, Text.IsPadding identity padded →
      (catalog.offerAll drafts).layout? padded = some draft.layout
  kept : (∀ draft ∈ drafts, ¬draft.Serves identity) → ∀ padded, Text.IsPadding identity padded →
    (catalog.offerAll drafts).layout? padded = catalog.layout? identity

theorem findsLast (catalog : Catalog) (drafts : List Draft) (identity : String) :
    catalog.FindsLast drafts identity where
  given before draft after hdrafts hserves hafter padded hpadded := by
    rw [layout?_eq_of_isPadding hpadded, hdrafts, layout?_offerAll_of_last_serves hserves hafter]
  kept h padded hpadded := by
    rw [layout?_eq_of_isPadding hpadded, layout?_offerAll_of_forall_not_serves h]

end Catalog

namespace Draft

/-- What a layout is after its clauses, and what a catalog is after it was offered layouts. -/
theorem layout_and_registration_by_clauses (draft : Draft) (catalog : Catalog) :
    draft.Describes draft.layout ∧
    (draft.layout.fields.map Field.name).Nodup ∧
    (∀ field ∈ draft.layout.fields, Text.trim field.name ≠ "") ∧
    (∀ clause, Extends draft.layout (draft.add clause).layout clause) ∧
    (∀ clauses fault, draft.layout.fault = some fault →
      (draft.addAll clauses).layout.fault = some fault) ∧
    (∀ fault, catalog.register draft.layout = .error fault ↔ draft.Blames fault) ∧
    (¬draft.IsSound → catalog.offer draft.layout = catalog) ∧
    (draft.IsSound → ∃ later, catalog.register draft.layout = .ok later ∧
      catalog.offer draft.layout = later ∧ catalog.Replaces later draft.layout) ∧
    ∀ drafts identity, catalog.FindsLast drafts identity := by
  have hdescribes := draft.describes_layout
  refine ⟨hdescribes, ?_, ?_, draft.extends_add, fun clauses fault hfault ↦
    fault_addAll hfault clauses, fun fault ↦ Catalog.register_eq_error_iff_blames,
    Catalog.offer_of_not_isSound, fun hsound ↦ ?_, catalog.findsLast⟩
  · rw [hdescribes.fields]
    exact Clause.nodup_names_firstOfEachName _
  · rw [hdescribes.fields]
    exact fun field hfield ↦ Clause.trim_ne_of_mem_accepted hfield
  · obtain ⟨later, hlater⟩ := Catalog.exists_register_iff_isSound.2 hsound
    exact ⟨later, hlater, Catalog.offer_of_register hlater,
      Catalog.replaces_of_register hlater (Catalog.trim_identity_layout draft)⟩

/-! ### A refused layout behind a registered one -/

/-- A layout with one field. -/
def sound : Draft :=
  ⟨"P", .ordinary, [.field "a" (.ok ⟨.object, []⟩)]⟩

/-- A later layout of the same identity, which declares its first field twice. -/
def repeating : Draft :=
  ⟨" P ", .abstract, [.field "a" (.ok ⟨.object, []⟩), .staticField "a" (.ok ⟨.object, []⟩),
    .field " " (.ok ⟨.object, []⟩), .field "b" (.ok ⟨.object, []⟩)]⟩

theorem isSound_sound : sound.IsSound :=
  sound.describes_layout.sound.1 rfl

theorem fault_repeating :
    repeating.layout.fault = some (.invalidArgument (.repeatedField "P" "a")) :=
  rfl

theorem not_isSound_repeating : ¬repeating.IsSound := fun h ↦ by
  have hnone := repeating.describes_layout.sound.2 h
  rw [fault_repeating] at hnone
  cases hnone

/-- A layout that declares a field twice is refused for that, although a blank name follows, and the
layout that was registered before stays in its place, however its identity is padded. -/
theorem refused_layout_leaves_registered_one :
    (Catalog.empty.register repeating.layout = .error (.invalidArgument (.repeatedField "P" "a"))) ∧
    repeating.layout.fields = [⟨"a", ⟨.object, []⟩, false⟩, ⟨"b", ⟨.object, []⟩, false⟩] ∧
    (∃ later, Catalog.empty.register sound.layout = .ok later) ∧
    (Catalog.empty.offerAll [sound, repeating]).layout? "\tP\n" = some sound.layout := by
  obtain ⟨hrepeating, -, -, -, -, hfault, -, -, -⟩ :=
    layout_and_registration_by_clauses repeating .empty
  obtain ⟨-, -, -, -, -, -, -, hregister, hlast⟩ :=
    layout_and_registration_by_clauses sound .empty
  obtain ⟨later, hlater, -, -⟩ := hregister isSound_sound
  refine ⟨(hfault _).2 ((hrepeating.fault _).1 fault_repeating), rfl, ⟨later, hlater⟩, ?_⟩
  have hspaces : Text.IsPadding "P" "\tP\n" :=
    ⟨['\t'], ['\n'], List.forall_mem_singleton.2 rfl, List.forall_mem_singleton.2 rfl, rfl⟩
  refine (hlast _ "P").given [] sound [repeating] rfl ⟨isSound_sound, rfl⟩ (fun other hother ↦ ?_)
    _ hspaces
  obtain rfl := List.mem_singleton.1 hother
  exact fun hserves ↦ not_isSound_repeating hserves.1

end Draft

end Exemplar
