import Exemplar.Proofs.Storage.Superclass
import Exemplar.Proofs.Synthesis.Requirement
import Exemplar.Storage.Blank
import Mathlib.Data.List.Induction

/-!
The slots of a blank and what is written to them, by position or by name. There are three searches
for a name: to write a slot, to read one, and to read a field of the frozen record. All of them go
from the end, so all of them find the last slot of the name. A write never adds or renames a slot,
and a write that finds none changes nothing. So after any writes a slot holds what was written to it
last, or else its zero.
-/

set_option autoImplicit false
set_option relaxedAutoImplicit false

namespace Exemplar

/-! ### The last position of a name -/

/-- The last position of a name in a list. -/
structure IsLastOf (names : List String) (name : String) (i : Nat) : Prop where
  named : names[i]? = some name
  last : ∀ j, names[j]? = some name → j ≤ i

section

variable {names : List String} {name other : String} {i j : Nat}

theorem IsLastOf.unique (h : IsLastOf names name i) (hother : IsLastOf names name j) : i = j :=
  Nat.le_antisymm (hother.last i h.named) (h.last j hother.named)

theorem IsLastOf.lt_length (h : IsLastOf names name i) : i < names.length :=
  (List.getElem?_eq_some_iff.1 h.named).1

/-- One more name is the last one of its own and changes nothing for the others. -/
theorem isLastOf_concat_iff :
    IsLastOf (names ++ [other]) name i ↔
      if other = name then i = names.length else IsLastOf names name i := by
  have hend : (names ++ [other])[names.length]? = some other := List.getElem?_concat_length
  by_cases hname : other = name
  · rw [if_pos hname]
    subst hname
    constructor
    · intro h
      have hle := h.last _ hend
      have hlt := h.lt_length
      rw [List.length_append, List.length_singleton] at hlt
      omega
    · rintro rfl
      refine ⟨hend, fun j hj ↦ ?_⟩
      have hlt := (List.getElem?_eq_some_iff.1 hj).1
      rw [List.length_append, List.length_singleton] at hlt
      omega
  · rw [if_neg hname]
    have hbefore (j : Nat) : (names ++ [other])[j]? = some name ↔ names[j]? = some name := by
      rcases Nat.lt_trichotomy j names.length with hlt | rfl | hgt
      · rw [List.getElem?_append_left hlt]
      · simp [hname]
      · rw [List.getElem?_eq_none (by simp; omega), List.getElem?_eq_none (by omega)]
    constructor
    · exact fun h ↦ ⟨(hbefore i).1 h.named, fun j hj ↦ h.last j ((hbefore j).2 hj)⟩
    · exact fun h ↦ ⟨(hbefore i).2 h.named, fun j hj ↦ h.last j ((hbefore j).1 hj)⟩

theorem exists_isLastOf_iff : (∃ i, IsLastOf names name i) ↔ name ∈ names := by
  induction names using List.reverseRecOn with
  | nil => exact iff_of_false (fun ⟨_, h⟩ ↦ by cases h.named) List.not_mem_nil
  | append_singleton names other ih =>
    simp only [isLastOf_concat_iff, List.mem_append, List.mem_singleton, ← ih]
    by_cases hname : other = name
    · simp [hname]
    · simp [hname, Ne.symm hname]

end

theorem lastNamed?_concat {α : Type} (name : String) (named : List (String × α))
    (last : String × α) :
    lastNamed? name (named ++ [last]) =
      if last.1 = name then some last.2 else lastNamed? name named := by
  rw [lastNamed?, List.reverse_concat, List.find?_cons, lastNamed?]
  by_cases hname : last.1 = name <;> simp [hname]

/-- Reading by name finds the last value under the name. -/
theorem lastNamed?_of_isLastOf {α : Type} {named : List (String × α)} {name : String} {i : Nat}
    (h : IsLastOf (named.map Prod.fst) name i) :
    lastNamed? name named = (named.map Prod.snd)[i]? := by
  induction named using List.reverseRecOn with
  | nil => cases h.named
  | append_singleton named last ih =>
    rw [List.map_append, List.map_singleton, isLastOf_concat_iff] at h
    rw [lastNamed?_concat, List.map_append, List.map_singleton]
    by_cases hname : last.1 = name
    · rw [if_pos hname] at h ⊢
      simp [h]
    · rw [if_neg hname] at h ⊢
      rw [ih h, List.getElem?_append_left (by simpa using h.lt_length)]

theorem lastNamed?_of_not_mem {α : Type} {named : List (String × α)} {name : String}
    (h : name ∉ named.map Prod.fst) : lastNamed? name named = none := by
  rw [lastNamed?, Option.map_eq_none_iff, List.find?_eq_none]
  intro entry hentry
  rw [decide_eq_true_eq]
  rintro rfl
  exact h (List.mem_map_of_mem (List.mem_reverse.1 hentry))

/-! ### Primitive types by name -/

namespace Primitive

theorem identity_injective : Function.Injective identity := by
  have hall : ∀ p ∈ all, ∀ q ∈ all, p.identity = q.identity → p = q := by decide
  exact fun p q h ↦ hall p (mem_all p) q (mem_all q) h

theorem ofIdentity?_eq_some_iff {text : String} {primitive : Primitive} :
    ofIdentity? text = some primitive ↔ primitive.identity = text := by
  constructor
  · intro h
    simpa using List.find?_some h
  · rintro rfl
    cases hfound : ofIdentity? primitive.identity with
    | none => simpa using List.find?_eq_none.1 hfound primitive (mem_all primitive)
    | some other =>
      have hidentity : other.identity = primitive.identity := by
        simpa using List.find?_some hfound
      rw [identity_injective hidentity]

theorem ofIdentity?_eq_none_iff {text : String} :
    ofIdentity? text = none ↔ ∀ primitive : Primitive, primitive.identity ≠ text := by
  rw [Option.eq_none_iff_forall_ne_some]
  simp only [Ne, ofIdentity?_eq_some_iff]

end Primitive

namespace Blank

/-! ### One write -/

/-- The value of the slot at a position. -/
def slotValue? (blank : Blank) (i : Nat) : Option Value :=
  (blank.slots.map Prod.snd)[i]?

variable {blank : Blank} {name : String} {i : Nat}

theorem position?_concat (d : Descriptor) (slots : List (String × Value)) (last : String × Value)
    (name : String) :
    position? ⟨d, slots ++ [last]⟩ name =
      if last.1 = name then some slots.length else position? ⟨d, slots⟩ name := by
  rw [position?, List.reverse_concat, List.findIdx?_cons, size, position?, size]
  by_cases hname : last.1 = name
  · simp [hname]
  · simp only [hname, decide_false, Bool.false_eq_true, if_false, Option.map_map]
    congr 1
    funext index
    simp only [Function.comp, List.length_append, List.length_singleton]
    omega

/-- Writing by name finds the last slot of the name. -/
theorem position?_eq_some_iff : blank.position? name = some i ↔ IsLastOf blank.names name i := by
  obtain ⟨d, slots⟩ := blank
  -- The search starts at the last slot, so the induction takes slots away from the end.
  induction slots using List.reverseRecOn with
  | nil => exact iff_of_false nofun fun h ↦ by cases h.named
  | append_singleton slots last ih =>
    rw [position?_concat, names, List.map_append, List.map_singleton, isLastOf_concat_iff]
    by_cases hname : last.1 = name
    · rw [if_pos hname, if_pos hname, Option.some_inj, List.length_map, eq_comm]
    · rw [if_neg hname, if_neg hname]
      exact ih

theorem position?_eq_none_iff : blank.position? name = none ↔ name ∉ blank.names := by
  rw [Option.eq_none_iff_forall_ne_some, ← exists_isLastOf_iff, not_exists]
  simp only [Ne, position?_eq_some_iff]

theorem names_write (blank : Blank) (position : Nat) (value : Value) :
    (blank.write position value).names = blank.names := by
  rw [names, names, write]
  refine List.ext_getElem? fun i ↦ ?_
  rw [List.getElem?_map, List.getElem?_map, List.getElem?_modify]
  cases blank.slots[i]? with
  | none => rfl
  | some slot => by_cases hi : position = i <;> simp [hi]

theorem size_eq_length_names (blank : Blank) : blank.size = blank.names.length :=
  (List.length_map _).symm

/-- A write changes one slot. -/
theorem slotValue?_write (blank : Blank) (position : Nat) (value : Value) (i : Nat) :
    (blank.write position value).slotValue? i =
      if position = i then (blank.slotValue? i).map fun _ ↦ value else blank.slotValue? i := by
  rw [slotValue?, slotValue?, write, List.getElem?_map, List.getElem?_map, List.getElem?_modify]
  cases blank.slots[i]? with
  | none => simp
  | some slot => by_cases hi : position = i <;> simp [hi]

end Blank

/-! ### Writes -/

/-- A write of a slot, by name or by position. -/
inductive Write
  | named (name : String) (value : Value)
  | positioned (position : Nat) (value : Value)

namespace Write

/-- The value that is written. -/
def value : Write → Value
  | named _ value => value
  | positioned _ value => value

/-- The slot that is written. -/
inductive Hits (names : List String) : Write → Nat → Prop
  | named {name : String} {i : Nat} (value : Value) (h : IsLastOf names name i) :
    Hits names (named name value) i
  | positioned {i : Nat} (value : Value) (h : i < names.length) :
    Hits names (positioned i value) i

/-- There is no slot to write. -/
def Misses (names : List String) : Write → Prop
  | named name _ => name ∉ names
  | positioned position _ => names.length ≤ position

/-- The fault of a write for which a blank has no slot. -/
def fault (blank : Blank) : Write → Fault
  | named name _ => .invalidArgument (.unknownField blank.descriptor.display name)
  | positioned position _ =>
    .invalidArgument (.unknownSlot blank.descriptor.display blank.size position)

theorem misses_or_hits (names : List String) (write : Write) :
    write.Misses names ∨ ∃ i, write.Hits names i := by
  cases write with
  | named name value =>
    by_cases hname : name ∈ names
    · obtain ⟨i, hi⟩ := exists_isLastOf_iff.2 hname
      exact .inr ⟨i, .named value hi⟩
    · exact .inl hname
  | positioned position value =>
    rcases Nat.lt_or_ge position names.length with hlt | hge
    · exact .inr ⟨position, .positioned value hlt⟩
    · exact .inl hge

theorem Hits.lt_length {names : List String} {write : Write} {i : Nat} (h : write.Hits names i) :
    i < names.length := by
  obtain ⟨_, hlast⟩ | ⟨_, hlt⟩ := h
  · exact hlast.lt_length
  · exact hlt

end Write

namespace Blank

/-- The blank after a write, if there is a slot for it. -/
def perform (blank : Blank) : Write → Except Fault Blank
  | .named name value => blank.set name value
  | .positioned position value => blank.setSlot position value

/-- The blank after a write that may fail. -/
def attempt (blank : Blank) (write : Write) : Blank :=
  match blank.perform write with
  | .ok later => later
  | .error _ => blank

/-- The blank after several writes, some of which may fail. -/
def attemptAll (blank : Blank) (writes : List Write) : Blank :=
  writes.foldl attempt blank

variable {blank : Blank} {write : Write} {i : Nat}

theorem perform_of_hits (h : write.Hits blank.names i) :
    blank.perform write = .ok (blank.write i write.value) := by
  obtain ⟨value, hlast⟩ | ⟨value, hlt⟩ := h
  · rw [perform, set, position?_eq_some_iff.2 hlast]
    rfl
  · rw [perform, setSlot, size_eq_length_names, if_pos hlt]
    rfl

theorem perform_of_misses (h : write.Misses blank.names) :
    blank.perform write = .error (write.fault blank) := by
  cases write with
  | named name value => rw [perform, set, position?_eq_none_iff.2 h]; rfl
  | positioned position value =>
    rw [perform, setSlot, if_neg (by rw [size_eq_length_names]; exact Nat.not_lt.2 h)]
    rfl

/-- A write fails exactly if there is no slot for it. -/
theorem perform_fails_iff :
    (∃ fault, blank.perform write = .error fault) ↔ write.Misses blank.names := by
  constructor
  · rintro ⟨fault, hfault⟩
    rcases write.misses_or_hits blank.names with hmisses | ⟨i, hi⟩
    · exact hmisses
    · rw [perform_of_hits hi] at hfault
      cases hfault
  · exact fun h ↦ ⟨_, perform_of_misses h⟩

theorem attempt_of_hits (h : write.Hits blank.names i) :
    blank.attempt write = blank.write i write.value := by
  rw [attempt, perform_of_hits h]

theorem attempt_of_misses (h : write.Misses blank.names) : blank.attempt write = blank := by
  rw [attempt, perform_of_misses h]

theorem names_attempt (blank : Blank) (write : Write) :
    (blank.attempt write).names = blank.names := by
  rcases write.misses_or_hits blank.names with hmisses | ⟨i, hi⟩
  · rw [attempt_of_misses hmisses]
  · rw [attempt_of_hits hi, names_write]

theorem descriptor_attempt (blank : Blank) (write : Write) :
    (blank.attempt write).descriptor = blank.descriptor := by
  rcases write.misses_or_hits blank.names with hmisses | ⟨i, hi⟩
  · rw [attempt_of_misses hmisses]
  · rw [attempt_of_hits hi, Blank.write]

/-- The slot that is written holds the value. -/
theorem slotValue?_attempt_of_hits (h : write.Hits blank.names i) :
    (blank.attempt write).slotValue? i = some write.value := by
  have hlt : i < blank.size := size_eq_length_names blank ▸ h.lt_length
  rw [attempt_of_hits h, slotValue?_write, if_pos rfl, slotValue?, List.getElem?_map,
    List.getElem?_eq_getElem hlt]
  rfl

/-- Every other slot holds what it held. -/
theorem slotValue?_attempt_of_not_hits (h : ¬write.Hits blank.names i) :
    (blank.attempt write).slotValue? i = blank.slotValue? i := by
  rcases write.misses_or_hits blank.names with hmisses | ⟨j, hj⟩
  · rw [attempt_of_misses hmisses]
  · rw [attempt_of_hits hj, slotValue?_write, if_neg (by rintro rfl; exact h hj)]

/-! ### Runs of writes -/

theorem names_attemptAll (blank : Blank) (writes : List Write) :
    (blank.attemptAll writes).names = blank.names := by
  induction writes generalizing blank with
  | nil => rfl
  | cons write writes ih => exact (ih (blank.attempt write)).trans (names_attempt blank write)

theorem descriptor_attemptAll (blank : Blank) (writes : List Write) :
    (blank.attemptAll writes).descriptor = blank.descriptor := by
  induction writes generalizing blank with
  | nil => rfl
  | cons write writes ih =>
    exact (ih (blank.attempt write)).trans (descriptor_attempt blank write)

/-- A slot that is not written holds what it held. -/
theorem slotValue?_attemptAll_of_forall_not_hits {writes : List Write}
    (h : ∀ write ∈ writes, ¬write.Hits blank.names i) :
    (blank.attemptAll writes).slotValue? i = blank.slotValue? i := by
  induction writes generalizing blank with
  | nil => rfl
  | cons write writes ih =>
    obtain ⟨hwrite, hwrites⟩ := List.forall_mem_cons.1 h
    rw [← names_attempt blank write] at hwrites
    exact (ih hwrites).trans (slotValue?_attempt_of_not_hits hwrite)

/-- A slot holds what was written to it last. -/
theorem slotValue?_attemptAll_of_last_hits {before after : List Write}
    (h : write.Hits blank.names i) (hafter : ∀ later ∈ after, ¬later.Hits blank.names i) :
    (blank.attemptAll (before ++ write :: after)).slotValue? i = some write.value := by
  rw [← names_attemptAll blank before] at h hafter
  rw [← names_attempt _ write] at hafter
  rw [attemptAll, List.foldl_append, List.foldl_cons, ← attemptAll, ← attemptAll,
    slotValue?_attemptAll_of_forall_not_hits hafter, slotValue?_attempt_of_hits h]

/-! ### Blanks of a type -/

theorem exists_fields_of_allocate {catalog : Catalog} {d : Descriptor}
    (h : allocate catalog d = .ok blank) :
    ∃ fields, catalog.fields d = .ok fields ∧ blank = zeroed d fields := by
  rw [allocate] at h
  split at h
  · cases h
  · split at h
    · cases h
    · cases h
    all_goals
      cases hfields : catalog.fields d with
      | error fault =>
        rw [hfields] at h
        cases h
      | ok fields =>
        rw [hfields] at h
        cases h
        exact ⟨fields, rfl, rfl⟩

/-- The value that a field has before it is written: the zero of a primitive type, and null for any
other type. -/
structure IsZero (field : Field) (value : Value) : Prop where
  primitive : ∀ primitive : Primitive, primitive.identity = field.type.identity →
    value = primitive.zero
  other : (∀ primitive : Primitive, primitive.identity ≠ field.type.identity) → value = .null

theorem isZero_zero (field : Field) : IsZero field (zero field) where
  primitive primitive h := by
    rw [zero, Primitive.ofIdentity?_eq_some_iff.2 h]
  other h := by
    rw [zero, Primitive.ofIdentity?_eq_none_iff.2 h]

theorem names_zeroed (d : Descriptor) (fields : List Field) :
    (zeroed d fields).names = fields.map Field.name := by
  rw [names, zeroed, List.map_map]
  rfl

theorem slotValue?_zeroed (d : Descriptor) (fields : List Field) (i : Nat) :
    (zeroed d fields).slotValue? i = fields[i]?.map zero := by
  rw [slotValue?, zeroed, List.map_map, List.getElem?_map]
  rfl

/-! ### The searches for a name -/

/-- The field of the frozen blank under a name. -/
def frozenField? (blank : Blank) (name : String) (unused : Nat) : Option Value :=
  (blank.freeze unused).1.object?.bind (Object.field? name)

/-- A name means the slot at a position to all that write or read by name. -/
structure Means (blank : Blank) (name : String) (i : Nat) : Prop where
  last : IsLastOf blank.names name i
  set : ∀ value, blank.set name value = .ok (blank.write i value)
  get : blank.get? name = blank.slotValue? i
  frozen : ∀ unused, blank.frozenField? name unused = blank.slotValue? i

/-- A name means nothing to all that write or read by name. -/
structure Lacks (blank : Blank) (name : String) : Prop where
  absent : name ∉ blank.names
  set : ∀ value, blank.set name value =
    .error (.invalidArgument (.unknownField blank.descriptor.display name))
  get : blank.get? name = none
  frozen : ∀ unused, blank.frozenField? name unused = none

variable {name : String}

theorem means_of_isLastOf (h : IsLastOf blank.names name i) : blank.Means name i where
  last := h
  set value := perform_of_hits (.named value h)
  get := lastNamed?_of_isLastOf h
  frozen _ := lastNamed?_of_isLastOf h

theorem lacks_of_not_mem (h : name ∉ blank.names) : blank.Lacks name where
  absent := h
  set value :=
    have hmisses : (Write.named name value).Misses blank.names := h
    perform_of_misses hmisses
  get := lastNamed?_of_not_mem h
  frozen _ := lastNamed?_of_not_mem h

/-- A name means one slot, or it means nothing. -/
theorem means_or_lacks (blank : Blank) (name : String) :
    (∃ i, blank.Means name i) ∨ blank.Lacks name := by
  by_cases hname : name ∈ blank.names
  · obtain ⟨i, hi⟩ := exists_isLastOf_iff.2 hname
    exact .inl ⟨i, means_of_isLastOf hi⟩
  · exact .inr (lacks_of_not_mem hname)

/-! ### What writes leave -/

/-- A blank is what writes have left of a new one with the given fields. -/
structure Holds (d : Descriptor) (fields : List Field) (writes : List Write) (blank : Blank) :
    Prop where
  descriptor : blank.descriptor = d
  names : blank.names = fields.map Field.name
  size : blank.size = fields.length
  written : ∀ before write after, writes = before ++ write :: after →
    ∀ i, write.Hits blank.names i → (∀ later ∈ after, ¬later.Hits blank.names i) →
      blank.slotValue? i = some write.value
  unwritten : ∀ i field, fields[i]? = some field →
    (∀ write ∈ writes, ¬write.Hits blank.names i) →
      ∃ value, blank.slotValue? i = some value ∧ IsZero field value

theorem holds_attemptAll (d : Descriptor) (fields : List Field) (writes : List Write) :
    Holds d fields writes ((zeroed d fields).attemptAll writes) where
  descriptor := descriptor_attemptAll _ _
  names := (names_attemptAll _ _).trans (names_zeroed d fields)
  size := by rw [size_eq_length_names, names_attemptAll, names_zeroed, List.length_map]
  written before write after hwrites i hhits hafter := by
    rw [names_attemptAll] at hhits hafter
    rw [hwrites, slotValue?_attemptAll_of_last_hits hhits hafter]
  unwritten i field hfield hunwritten := by
    rw [names_attemptAll] at hunwritten
    refine ⟨zero field, ?_, isZero_zero field⟩
    rw [slotValue?_attemptAll_of_forall_not_hits hunwritten, slotValue?_zeroed, hfield]
    rfl

/-- What the slots of a blank are after any writes: they are those of the fields, a write fails
exactly if there is no slot for it and then changes nothing, each slot holds what was written to it
last or else its zero, and all that read or write by name mean one slot. -/
theorem slots_after_writes {catalog : Catalog} {d : Descriptor}
    (hblank : allocate catalog d = .ok blank) :
    ∃ fields, catalog.fields d = .ok fields ∧ ∀ writes,
      Holds d fields writes (blank.attemptAll writes) ∧
      (∀ write, (∃ fault, (blank.attemptAll writes).perform write = .error fault) ↔
        write.Misses (fields.map Field.name)) ∧
      (∀ write, write.Misses (fields.map Field.name) →
        (blank.attemptAll writes).perform write = .error (write.fault (blank.attemptAll writes)) ∧
        blank.attemptAll (writes ++ [write]) = blank.attemptAll writes) ∧
      ∀ name, (∃ i, (blank.attemptAll writes).Means name i) ∨
        (blank.attemptAll writes).Lacks name := by
  obtain ⟨fields, hfields, rfl⟩ := exists_fields_of_allocate hblank
  refine ⟨fields, hfields, fun writes ↦ ?_⟩
  have hholds := holds_attemptAll d fields writes
  refine ⟨hholds, fun write ↦ ?_, fun write hmisses ↦ ?_, means_or_lacks _⟩
  · rw [perform_fails_iff, hholds.names]
  · rw [← hholds.names] at hmisses
    refine ⟨perform_of_misses hmisses, ?_⟩
    rw [attemptAll, List.foldl_append, ← attemptAll]
    exact attempt_of_misses hmisses

end Blank

/-! ### A field that hides an inherited one -/

namespace Hidden

def typeH : Descriptor :=
  .ofLetter 'H' rfl rfl []

def typeJ : Descriptor :=
  .ofLetter 'J' rfl rfl []

def typeBool : Descriptor :=
  ⟨⟨"bool", isTypeName_of_all (by decide) rfl⟩, []⟩

def typeI32 : Descriptor :=
  ⟨⟨"i32", isTypeName_of_all (by decide) rfl⟩, []⟩

def layoutH : Layout :=
  (((Layout.ofKind "H" .abstract).withField "flag" (.ok typeBool)).withField "count"
    (.ok typeI32)).withField "x" (.ok typeH)

def layoutJ : Layout :=
  ((Layout.ofKind "J" .ordinary).withSuperclass (.ok typeH)).withField "x" (.ok typeJ)

def catalog : Catalog :=
  ⟨(Table.empty.insert "H" layoutH).insert "J" layoutJ⟩

def inherited : List Field :=
  [⟨"flag", typeBool, false⟩, ⟨"count", typeI32, false⟩, ⟨"x", typeH, false⟩]

theorem fields_typeJ : catalog.fields typeJ = .ok (inherited ++ [⟨"x", typeJ, false⟩]) := by
  have hlayoutJ : catalog.layouts.get? typeJ.identity = some layoutJ := rfl
  have hlayoutH : catalog.layouts.get? typeH.identity = some layoutH := rfl
  exact Catalog.fields_of_superclass hlayoutJ rfl (by decide) hlayoutH rfl

/-- The value `0` of the type `i32`. -/
def zeroI32 : Value :=
  .integer ⟨.i32, 0, by decide⟩

def blank : Blank :=
  ⟨typeJ, [("flag", .bool false), ("count", zeroI32), ("x", .null), ("x", .null)]⟩

theorem allocate_typeJ : Blank.allocate catalog typeJ = .ok blank := by
  have hlayout : catalog.layout? typeJ.identity = some layoutJ := rfl
  have hkind : layoutJ.kind = .ordinary := rfl
  simp only [Blank.allocate, hlayout, hkind, fields_typeJ]
  rfl

def names : List String :=
  ["flag", "count", "x", "x"]

/-- The inherited slot is written by its position and the one that hides it by the name. There is no
fifth slot, and nothing is written to those of primitive types. -/
def writes : List Write :=
  [.positioned 2 (.bool true), .named "x" (.bool false), .positioned 4 .null]

theorem isLastOf_names : IsLastOf names "x" 3 where
  named := rfl
  last _ hj := Nat.le_of_lt_succ (List.getElem?_eq_some_iff.1 hj).1

/-- The slots that are written are the last two. -/
theorem le_of_hits {write : Write} (hwrite : write ∈ writes) {i : Nat}
    (hhits : write.Hits names i) : 2 ≤ i := by
  rw [writes, List.mem_cons, List.mem_cons, List.mem_singleton] at hwrite
  rcases hwrite with rfl | rfl | rfl
  · cases hhits
    exact Nat.le_refl 2
  · cases hhits with
    | named _ hlast =>
      obtain rfl := hlast.unique isLastOf_names
      decide
  · cases hhits
    decide

end Hidden

namespace Blank

/-- The slot of an inherited field is written apart from the one that hides it, and reading by name
finds the latter. Slots of primitive types that are not written are false and zero, and a write
behind the last slot fails. -/
theorem hidden_slots_after_writes :
    (Hidden.blank.attemptAll Hidden.writes).slotValue? 0 = some (.bool false) ∧
    (Hidden.blank.attemptAll Hidden.writes).slotValue? 1 = some Hidden.zeroI32 ∧
    (Hidden.blank.attemptAll Hidden.writes).slotValue? 2 = some (.bool true) ∧
    (Hidden.blank.attemptAll Hidden.writes).get? "x" = some (.bool false) ∧
    (Hidden.blank.attemptAll Hidden.writes).perform (.positioned 4 .null) =
      .error (.invalidArgument (.unknownSlot "J" 4 4)) := by
  obtain ⟨fields, hfields, hslots⟩ := slots_after_writes Hidden.allocate_typeJ
  obtain rfl := Except.ok.inj (Hidden.fields_typeJ.symm.trans hfields)
  obtain ⟨hholds, -, hmisses, hmeans⟩ := hslots Hidden.writes
  have hnames : (Hidden.blank.attemptAll Hidden.writes).names = Hidden.names := hholds.names
  have hwritten := hholds.written
  have hunwritten := hholds.unwritten
  rw [hnames] at hwritten hunwritten
  refine ⟨?_, ?_, ?_, ?_, (hmisses (.positioned 4 .null) (Nat.le_refl 4)).1⟩
  · obtain ⟨value, hvalue, hzero⟩ := hunwritten 0 _ rfl fun write hwrite hhits ↦
      absurd (Hidden.le_of_hits hwrite hhits) (by decide)
    rw [hvalue, hzero.primitive .bool rfl]
    rfl
  · obtain ⟨value, hvalue, hzero⟩ := hunwritten 1 _ rfl fun write hwrite hhits ↦
      absurd (Hidden.le_of_hits hwrite hhits) (by decide)
    rw [hvalue, hzero.primitive (.integer .i32) rfl]
    rfl
  · refine hwritten [] _ _ rfl 2 (.positioned _ (by decide)) fun later hlater hhits ↦ ?_
    rw [List.mem_cons, List.mem_singleton] at hlater
    rcases hlater with rfl | rfl
    · obtain ⟨_, hlast⟩ := hhits
      cases hlast.unique Hidden.isLastOf_names
    · cases hhits
  · obtain ⟨i, hi⟩ | hlacks := hmeans "x"
    · obtain rfl := (hnames ▸ hi.last).unique Hidden.isLastOf_names
      rw [hi.get]
      refine hwritten [_] _ _ rfl 3 (.named _ Hidden.isLastOf_names) fun later hlater hhits ↦ ?_
      obtain rfl := List.mem_singleton.1 hlater
      cases hhits
    · exact absurd (hnames ▸ List.mem_of_getElem? Hidden.isLastOf_names.named) hlacks.absent

end Blank

end Exemplar
