import Exemplar.Proofs.Storage.Registration

/-!
The clauses of a layout. A clause is accepted or refused by what was accepted before it, and a
refused clause leaves nothing behind but its fault. So the accepted declarations are, of those with
one name, the first one that can be read. What a list of clauses accepts, and the first one that it
refuses, are said here of the list alone, with one lemma for one more clause.
-/

set_option autoImplicit false
set_option relaxedAutoImplicit false

namespace Exemplar

/-! ### Clauses -/

/-- A clause of a layout. -/
inductive Clause
  | parameters (names : List String)
  | superclass (type : Except Fault Descriptor)
  | field (name : String) (type : Except Fault Descriptor)
  | staticField (name : String) (type : Except Fault Descriptor)
  | constructor (make : List Value → Fresh Value)

namespace Clause

/-- The layout with one more clause. -/
def addTo (layout : Layout) : Clause → Layout
  | parameters names => layout.withParameters names
  | superclass type => layout.withSuperclass type
  | field name type => layout.withField name type
  | staticField name type => layout.withStaticField name type
  | constructor make => layout.withConstructor make

/-- The name of the field that the clause declares, its type, and whether it is static. -/
def declared? : Clause → Option (String × Except Fault Descriptor × Bool)
  | field name type => some (name, type, false)
  | staticField name type => some (name, type, true)
  | _ => none

/-- The field that the clause declares, if its name is not blank and its type can be read. -/
def readable? (clause : Clause) : Option Field :=
  match clause.declared? with
  | some (name, .ok d, isStatic) => if Text.trim name = "" then none else some ⟨name, d, isStatic⟩
  | _ => none

/-- The type parameters that the clause gives. -/
def parameters? : Clause → Option (List String)
  | parameters names => some names
  | _ => none

/-- The superclass that the clause gives, if it can be read. -/
def superclass? : Clause → Option Descriptor
  | superclass (.ok d) => some d
  | _ => none

/-- The constructor that the clause gives. -/
def constructor? : Clause → Option (List Value → Fresh Value)
  | constructor make => some make
  | _ => none

/-- Why a clause of a layout is refused after these fields were accepted. A name is checked before a
type, and a blank name before a repeated one. -/
inductive Refused (owner : String) (before : List Field) : Clause → Fault → Prop
  | superclass (fault : Fault) : Refused owner before (superclass (.error fault)) fault
  | blankName {clause : Clause} {name : String} {type : Except Fault Descriptor} {isStatic : Bool}
    (hclause : clause.declared? = some (name, type, isStatic)) (hblank : Text.trim name = "") :
    Refused owner before clause (.invalidArgument (.emptyFieldName owner))
  | repeatedName {clause : Clause} {name : String} {type : Except Fault Descriptor}
    {isStatic : Bool} (hclause : clause.declared? = some (name, type, isStatic))
    (hname : Text.trim name ≠ "") (hrepeated : name ∈ before.map Field.name) :
    Refused owner before clause (.invalidArgument (.repeatedField owner name))
  | unreadable {clause : Clause} {name : String} {fault : Fault} {isStatic : Bool}
    (hclause : clause.declared? = some (name, .error fault, isStatic))
    (hname : Text.trim name ≠ "") (hnew : name ∉ before.map Field.name) :
    Refused owner before clause fault

variable {owner : String} {before : List Field} {clause : Clause} {layout : Layout}

/-- A declaration is refused for its name, for its type, or not at all. -/
theorem refused_iff_of_declared {name : String} {type : Except Fault Descriptor} {isStatic : Bool}
    (hclause : clause.declared? = some (name, type, isStatic)) {fault : Fault} :
    Refused owner before clause fault ↔
      Text.trim name = "" ∧ fault = .invalidArgument (.emptyFieldName owner) ∨
      Text.trim name ≠ "" ∧ name ∈ before.map Field.name ∧
        fault = .invalidArgument (.repeatedField owner name) ∨
      Text.trim name ≠ "" ∧ name ∉ before.map Field.name ∧ type = .error fault := by
  constructor
  · intro h
    cases h with
    | superclass => cases hclause
    | blankName hdeclared hblank =>
      cases hclause.symm.trans hdeclared
      exact .inl ⟨hblank, rfl⟩
    | repeatedName hdeclared hname hrepeated =>
      cases hclause.symm.trans hdeclared
      exact .inr (.inl ⟨hname, hrepeated, rfl⟩)
    | unreadable hdeclared hname hnew =>
      cases hclause.symm.trans hdeclared
      exact .inr (.inr ⟨hname, hnew, rfl⟩)
  · rintro (⟨hblank, rfl⟩ | ⟨hname, hrepeated, rfl⟩ | ⟨hname, hnew, rfl⟩)
    · exact .blankName hclause hblank
    · exact .repeatedName hclause hname hrepeated
    · exact .unreadable hclause hname hnew

theorem addTo_of_declared {name : String} {type : Except Fault Descriptor} {isStatic : Bool}
    (hclause : clause.declared? = some (name, type, isStatic)) (layout : Layout) :
    clause.addTo layout = layout.declare name type isStatic := by
  cases clause with
  | parameters | superclass | constructor => cases hclause
  | field | staticField =>
    cases hclause
    rfl

/-- A clause that declares a field gives nothing else. -/
theorem of_declared? {declared : String × Except Fault Descriptor × Bool}
    (hclause : clause.declared? = some declared) :
    clause.parameters? = none ∧ clause.superclass? = none ∧ clause.constructor? = none := by
  cases clause with
  | parameters | superclass | constructor => cases hclause
  | field | staticField => exact ⟨rfl, rfl, rfl⟩

theorem not_refused_of_not_declared (hclause : clause.declared? = none)
    (hsuperclass : ∀ fault, clause ≠ superclass (.error fault)) (fault : Fault) :
    ¬Refused owner before clause fault := by
  intro h
  cases h with
  | superclass => exact hsuperclass fault rfl
  | blankName hdeclared | repeatedName hdeclared | unreadable hdeclared =>
    rw [hclause] at hdeclared
    cases hdeclared

/-- The layout with all that a clause gives. -/
def give (clause : Clause) (layout : Layout) : Layout :=
  { layout with
    parameters := clause.parameters?.getD layout.parameters
    superclass := clause.superclass?.or layout.superclass
    fields := layout.fields ++ clause.readable?.toList
    constructor := clause.constructor?.or layout.constructor }

theorem addTo_cases_of_declared {name : String} {type : Except Fault Descriptor} {isStatic : Bool}
    (hclause : clause.declared? = some (name, type, isStatic)) (layout : Layout) :
    (∃ fault, Refused layout.identity layout.fields clause fault ∧
      clause.addTo layout = layout.reject fault) ∨
    (∀ fault, ¬Refused layout.identity layout.fields clause fault) ∧
      clause.addTo layout = clause.give layout := by
  obtain ⟨hparameters, hsuperclass, hconstructor⟩ := of_declared? hclause
  rw [addTo_of_declared hclause]
  simp only [refused_iff_of_declared hclause]
  -- The cases are split in the order in which a declaration is checked.
  by_cases hblank : Text.trim name = ""
  · refine .inl ⟨_, .inl ⟨hblank, rfl⟩, ?_⟩
    unfold Layout.declare
    rw [if_pos hblank]
  by_cases hrepeated : name ∈ layout.fields.map Field.name
  · refine .inl ⟨_, .inr (.inl ⟨hblank, hrepeated, rfl⟩), ?_⟩
    have hany : (layout.fields.any fun field ↦ field.name = name) = true := by
      simpa using hrepeated
    unfold Layout.declare
    rw [if_neg hblank, if_pos hany]
  have hany : (layout.fields.any fun field ↦ field.name = name) = false := by
    simpa using hrepeated
  cases type with
  | error fault =>
    refine .inl ⟨fault, .inr (.inr ⟨hblank, hrepeated, rfl⟩), ?_⟩
    rw [Layout.declare, if_neg hblank, hany, if_neg Bool.false_ne_true]
  | ok d =>
    have hreadable : clause.readable? = some ⟨name, d, isStatic⟩ := by
      rw [readable?, hclause]
      exact if_neg hblank
    refine .inr ⟨fun fault h ↦ ?_, ?_⟩
    · rcases h with ⟨h, -⟩ | ⟨-, h, -⟩ | ⟨-, -, h⟩
      · exact hblank h
      · exact hrepeated h
      · cases h
    · rw [Layout.declare_of_new hblank hrepeated, give, hparameters, hsuperclass, hconstructor,
        hreadable]
      rfl

/-- A clause is refused and leaves its fault, or it is accepted and leaves what it gives. -/
theorem addTo_cases (clause : Clause) (layout : Layout) :
    (∃ fault, Refused layout.identity layout.fields clause fault ∧
      clause.addTo layout = layout.reject fault) ∨
    (∀ fault, ¬Refused layout.identity layout.fields clause fault) ∧
      clause.addTo layout = clause.give layout := by
  have hgiven (hclause : clause.declared? = none) :
      layout.fields ++ clause.readable?.toList = layout.fields := by
    rw [readable?, hclause, Option.toList_none, List.append_nil]
  cases clause with
  | field | staticField => exact addTo_cases_of_declared rfl layout
  | parameters | constructor =>
    refine .inr ⟨not_refused_of_not_declared rfl nofun, ?_⟩
    rw [give, hgiven rfl]
    rfl
  | superclass type =>
    cases type with
    | error fault => exact .inl ⟨fault, .superclass fault, rfl⟩
    | ok d =>
      refine .inr ⟨not_refused_of_not_declared rfl nofun, ?_⟩
      rw [give, hgiven rfl]
      rfl

/-! ### Accepted declarations -/

/-- Of fields with one name the first. -/
def firstOfEachName : List Field → List Field
  | [] => []
  | first :: others => first :: (firstOfEachName others).filter fun field ↦ field.name ≠ first.name

theorem map_name_filter (fields : List Field) (name : String) :
    (fields.filter fun field ↦ field.name ≠ name).map Field.name =
      (fields.map Field.name).filter (· ≠ name) := by
  rw [List.filter_map]
  rfl

theorem mem_names_firstOfEachName (fields : List Field) (name : String) :
    name ∈ (firstOfEachName fields).map Field.name ↔ name ∈ fields.map Field.name := by
  induction fields with
  | nil => exact Iff.rfl
  | cons first others ih =>
    rw [firstOfEachName, List.map_cons, List.map_cons, List.mem_cons, List.mem_cons,
      map_name_filter, List.mem_filter, ih]
    by_cases hname : name = first.name <;> simp [hname]

theorem nodup_names_firstOfEachName (fields : List Field) :
    ((firstOfEachName fields).map Field.name).Nodup := by
  induction fields with
  | nil => exact List.nodup_nil
  | cons first others ih =>
    rw [firstOfEachName, List.map_cons, map_name_filter]
    exact List.nodup_cons.2 ⟨by simp, ih.filter _⟩

theorem firstOfEachName_subset (fields : List Field) : firstOfEachName fields ⊆ fields := by
  induction fields with
  | nil => exact List.Subset.refl _
  | cons first others ih =>
    intro field hfield
    rcases List.mem_cons.1 hfield with rfl | hfield
    · exact List.mem_cons_self
    · exact List.mem_cons_of_mem _ (ih (List.mem_filter.1 hfield).1)

/-- One more field counts if no field before it has its name. -/
theorem firstOfEachName_concat (fields : List Field) (field : Field) :
    firstOfEachName (fields ++ [field]) =
      if field.name ∈ fields.map Field.name then firstOfEachName fields
      else firstOfEachName fields ++ [field] := by
  induction fields with
  | nil => rfl
  | cons first others ih =>
    rw [List.cons_append, firstOfEachName, ih, firstOfEachName, List.map_cons]
    by_cases hmem : field.name ∈ others.map Field.name
    · rw [if_pos hmem, if_pos (List.mem_cons_of_mem _ hmem)]
    · rw [if_neg hmem, List.filter_append]
      by_cases hname : field.name = first.name <;> simp [hname, hmem]

/-- The fields that clauses declare, in order. -/
def accepted (clauses : List Clause) : List Field :=
  firstOfEachName (clauses.filterMap readable?)

theorem readable?_eq_some_iff {field : Field} :
    clause.readable? = some field ↔
      clause.declared? = some (field.name, .ok field.type, field.isStatic) ∧
        Text.trim field.name ≠ "" := by
  unfold readable?
  split
  · rename_i name d isStatic hclause
    rw [hclause, Option.ite_none_left_eq_some]
    obtain ⟨other, e, mark⟩ := field
    simp only [Option.some.injEq, Field.mk.injEq, Prod.mk.injEq, Except.ok.injEq]
    constructor
    · rintro ⟨hname, rfl, rfl, rfl⟩
      exact ⟨⟨rfl, rfl, rfl⟩, hname⟩
    · rintro ⟨⟨rfl, rfl, rfl⟩, hname⟩
      exact ⟨hname, rfl, rfl, rfl⟩
  · rename_i hclause
    exact ⟨nofun, fun h ↦ absurd h.1 (hclause _ _ _)⟩

theorem mem_names_accepted {clauses : List Clause} {name : String} :
    name ∈ (accepted clauses).map Field.name ↔
      name ∈ (clauses.filterMap readable?).map Field.name :=
  mem_names_firstOfEachName _ name

theorem trim_ne_of_mem_accepted {clauses : List Clause} {field : Field}
    (hfield : field ∈ accepted clauses) : Text.trim field.name ≠ "" := by
  obtain ⟨clause, -, hclause⟩ := List.mem_filterMap.1 (firstOfEachName_subset _ hfield)
  exact (readable?_eq_some_iff.1 hclause).2

/-- The clauses before one that declares nothing, or nothing new, declare all. -/
theorem accepted_concat_of_old {clauses : List Clause}
    (hold : ∀ field, clause.readable? = some field →
      field.name ∈ (accepted clauses).map Field.name) :
    accepted (clauses ++ [clause]) = accepted clauses := by
  rw [accepted, List.filterMap_append]
  cases hclause : clause.readable? with
  | none => rw [List.filterMap_cons_none hclause, List.filterMap_nil, List.append_nil, accepted]
  | some field =>
    rw [List.filterMap_cons_some hclause, List.filterMap_nil, firstOfEachName_concat,
      if_pos (mem_names_accepted.1 (hold field hclause)), accepted]

theorem accepted_concat_of_new {clauses : List Clause}
    (hnew : ∀ field, clause.readable? = some field →
      field.name ∉ (accepted clauses).map Field.name) :
    accepted (clauses ++ [clause]) = accepted clauses ++ clause.readable?.toList := by
  rw [accepted, List.filterMap_append]
  cases hclause : clause.readable? with
  | none =>
    rw [List.filterMap_cons_none hclause, List.filterMap_nil, List.append_nil, Option.toList_none,
      List.append_nil, accepted]
  | some field =>
    rw [List.filterMap_cons_some hclause, List.filterMap_nil, firstOfEachName_concat,
      if_neg fun hmem ↦ hnew field hclause (mem_names_accepted.2 hmem), accepted]
    rfl

/-- A refused clause adds no field. -/
theorem Refused.accepted_concat {clauses : List Clause} {fault : Fault}
    (h : Refused owner (accepted clauses) clause fault) :
    accepted (clauses ++ [clause]) = accepted clauses := by
  refine accepted_concat_of_old fun field hfield ↦ ?_
  obtain ⟨hdeclared, hname⟩ := readable?_eq_some_iff.1 hfield
  rcases (refused_iff_of_declared hdeclared).1 h with
    ⟨hblank, -⟩ | ⟨-, hrepeated, -⟩ | ⟨-, -, htype⟩
  · exact absurd hblank hname
  · exact hrepeated
  · cases htype

/-- A clause that is not refused adds the field that it declares. -/
theorem accepted_concat_of_not_refused {clauses : List Clause}
    (h : ∀ fault, ¬Refused owner (accepted clauses) clause fault) :
    accepted (clauses ++ [clause]) = accepted clauses ++ clause.readable?.toList := by
  refine accepted_concat_of_new fun field hfield hrepeated ↦ ?_
  obtain ⟨hdeclared, hname⟩ := readable?_eq_some_iff.1 hfield
  exact h _ (.repeatedName hdeclared hname hrepeated)

/-! ### The first fault -/

/-- There is one fault for which a clause is refused. -/
theorem Refused.unique {fault other : Fault} (h : Refused owner before clause fault)
    (hother : Refused owner before clause other) : other = fault := by
  have hdeclared {name : String} {type : Except Fault Descriptor} {isStatic : Bool}
      (hclause : clause.declared? = some (name, type, isStatic)) : other = fault := by
    rw [refused_iff_of_declared hclause] at h hother
    by_cases hblank : Text.trim name = ""
    · simp only [hblank, true_and, ne_eq, not_true_eq_false, false_and, or_false] at h hother
      rw [h, hother]
    by_cases hold : name ∈ before.map Field.name
    · simp only [hblank, hold, false_and, ne_eq, not_false_eq_true, true_and, not_true_eq_false,
        or_false, false_or] at h hother
      rw [h, hother]
    · simp only [hblank, hold, false_and, ne_eq, not_false_eq_true, true_and, false_or] at h hother
      exact Except.error.inj (hother.symm.trans h)
  cases h with
  | superclass =>
    cases hother with
    | superclass => rfl
    | blankName hclause | repeatedName hclause | unreadable hclause => cases hclause
  | blankName hclause | repeatedName hclause | unreadable hclause => exact hdeclared hclause

/-- No clause is refused after those before it. -/
def AllAccepted (owner : String) (clauses : List Clause) : Prop :=
  ∀ before clause after, clauses = before ++ clause :: after →
    ∀ fault, ¬Refused owner (accepted before) clause fault

/-- The fault of the first clause that is refused after those before it. -/
def FirstRefused (owner : String) (clauses : List Clause) (fault : Fault) : Prop :=
  ∃ before clause after, clauses = before ++ clause :: after ∧ AllAccepted owner before ∧
    Refused owner (accepted before) clause fault

theorem concat_eq_append_cons_iff {α : Type} {items before after : List α} {item other : α} :
    items ++ [item] = before ++ other :: after ↔
      items = before ∧ item = other ∧ after = [] ∨
        ∃ rest, after = rest ++ [item] ∧ items = before ++ other :: rest := by
  rcases after.eq_nil_or_concat with rfl | ⟨rest, last, hafter⟩
  · constructor
    · intro h
      obtain ⟨hitems, hitem⟩ := List.append_inj' h rfl
      exact .inl ⟨hitems, List.head_eq_of_cons_eq hitem, rfl⟩
    · rintro (⟨rfl, rfl, -⟩ | ⟨rest, h, -⟩)
      · rfl
      · simp at h
  · rw [List.concat_eq_append] at hafter
    subst hafter
    constructor
    · intro h
      rw [← List.cons_append, ← List.append_assoc] at h
      obtain ⟨hitems, hitem⟩ := List.append_inj' h rfl
      obtain rfl := List.head_eq_of_cons_eq hitem
      exact .inr ⟨rest, rfl, hitems⟩
    · rintro (⟨-, -, h⟩ | ⟨others, h, rfl⟩)
      · simp at h
      · rw [h, List.append_assoc, List.cons_append]

theorem allAccepted_nil (owner : String) : AllAccepted owner [] :=
  fun _ _ _ h ↦ absurd h (by simp)

theorem not_firstRefused_nil (owner : String) (fault : Fault) : ¬FirstRefused owner [] fault := by
  rintro ⟨before, clause, after, h, -⟩
  simp at h

theorem allAccepted_concat_iff {clauses : List Clause} :
    AllAccepted owner (clauses ++ [clause]) ↔
      AllAccepted owner clauses ∧ ∀ fault, ¬Refused owner (accepted clauses) clause fault := by
  constructor
  · refine fun h ↦ ⟨fun before next after hsplit ↦ ?_, h clauses clause [] rfl⟩
    exact h before next (after ++ [clause]) (by rw [hsplit, List.append_assoc, List.cons_append])
  · rintro ⟨hbefore, hlast⟩ earlier next after hsplit
    rcases concat_eq_append_cons_iff.1 hsplit with ⟨rfl, rfl, -⟩ | ⟨rest, -, hrest⟩
    · exact hlast
    · exact hbefore earlier next rest hrest

/-- One more clause is the first one refused only if all before it were accepted. -/
theorem firstRefused_concat_iff {clauses : List Clause} {fault : Fault} :
    FirstRefused owner (clauses ++ [clause]) fault ↔
      FirstRefused owner clauses fault ∨
        AllAccepted owner clauses ∧ Refused owner (accepted clauses) clause fault := by
  constructor
  · rintro ⟨before, next, after, hsplit, hbefore, hnext⟩
    rcases concat_eq_append_cons_iff.1 hsplit with ⟨rfl, rfl, -⟩ | ⟨rest, -, hrest⟩
    · exact .inr ⟨hbefore, hnext⟩
    · exact .inl ⟨before, next, rest, hrest, hbefore, hnext⟩
  · rintro (⟨before, next, after, rfl, hbefore, hnext⟩ | ⟨hbefore, hlast⟩)
    · exact ⟨before, next, after ++ [clause], by simp, hbefore, hnext⟩
    · exact ⟨clauses, clause, [], rfl, hbefore, hlast⟩

/-- What the last clause gives that gives anything of a kind. -/
def lastGiven? {α : Type} (given? : Clause → Option α) (clauses : List Clause) : Option α :=
  clauses.reverse.findSome? given?

theorem lastGiven?_concat {α : Type} (given? : Clause → Option α) (clauses : List Clause)
    (clause : Clause) :
    lastGiven? given? (clauses ++ [clause]) = (given? clause).or (lastGiven? given? clauses) := by
  rw [lastGiven?, List.reverse_append, List.reverse_singleton, List.singleton_append,
    List.findSome?_cons, lastGiven?]
  cases given? clause <;> rfl

/-- A refused clause gives nothing. -/
theorem Refused.gives_nothing {fault : Fault} (h : Refused owner before clause fault) :
    clause.parameters? = none ∧ clause.superclass? = none ∧ clause.constructor? = none := by
  cases h with
  | superclass => exact ⟨rfl, rfl, rfl⟩
  | blankName hclause | repeatedName hclause | unreadable hclause => exact of_declared? hclause

end Clause

end Exemplar
