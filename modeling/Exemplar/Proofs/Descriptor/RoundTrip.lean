import Exemplar.Descriptor.Printer
import Exemplar.Proofs.Descriptor.Grammar

/-!
Displays read back. A name may have white space inside, which no written name has, so a descriptor
is read from its display exactly if none of its names has any. What was read from a text has no such
name, and its display is that text but for the white space.
-/

set_option autoImplicit false
set_option relaxedAutoImplicit false

namespace Exemplar

namespace Text

/-- The text with all white space deleted. -/
def withoutSpace (text : List Char) : List Char :=
  text.filter fun c ↦ !isSpace c

@[simp]
theorem withoutSpace_append (text other : List Char) :
    withoutSpace (text ++ other) = withoutSpace text ++ withoutSpace other :=
  List.filter_append text other

@[simp]
theorem withoutSpace_cons_of_not_space {c : Char} (hc : isSpace c = false) (text : List Char) :
    withoutSpace (c :: text) = c :: withoutSpace text :=
  List.filter_cons_of_pos (by simpa using hc)

@[simp]
theorem withoutSpace_cons_of_space {c : Char} (hc : isSpace c = true) (text : List Char) :
    withoutSpace (c :: text) = withoutSpace text :=
  List.filter_cons_of_neg (by simpa using hc)

theorem withoutSpace_nil : withoutSpace [] = [] :=
  rfl

theorem isSpace_delimiters :
    isSpace '<' = false ∧ isSpace '>' = false ∧ isSpace ',' = false ∧ isSpace ' ' = true :=
  ⟨rfl, rfl, rfl, rfl⟩

theorem withoutSpace_eq_nil {text : List Char} (h : ∀ c ∈ text, isSpace c = true) :
    withoutSpace text = [] :=
  List.filter_eq_nil_iff.2 fun c hc ↦ by simpa using h c hc

end Text

namespace Descriptor

mutual

/-- All names in a descriptor, outermost first. -/
def names : Descriptor → List TypeName
  | ⟨name, ds⟩ => name :: namesAll ds
termination_by structural d => d

/-- All names in the descriptors of a list. -/
def namesAll : List Descriptor → List TypeName
  | [] => []
  | d :: ds => names d ++ namesAll ds
termination_by structural ds => ds

end

/-- No name has white space inside. -/
def IsSpaceless (names : List TypeName) : Prop :=
  ∀ name ∈ names, ∀ c ∈ name.text.toList, Text.isSpace c = false

/-! ### Displays are derived -/

section Display

variable {text blank : List Char} {name : TypeName} {d : Descriptor} {ds : List Descriptor}

theorem WritesName.prepend_blank (h : WritesName text name) (hblank : IsBlank blank) :
    WritesName (blank ++ text) name := by
  cases h with
  | intro hbefore hword hname hafter =>
    simpa using WritesName.intro (hblank.append hbefore) hword hname hafter

theorem Derives.prepend_blank (h : Derives text d) (hblank : IsBlank blank) :
    Derives (blank ++ text) d := by
  cases h with
  | plain hname => exact .plain (hname.prepend_blank hblank)
  | generic hname harguments hafter =>
    simpa using Derives.generic (hname.prepend_blank hblank) harguments hafter

/-- A name without white space is a word of the grammar. -/
theorem writesName_of_spaceless (hname : IsSpaceless [name]) :
    WritesName name.text.toList name := by
  have hword : IsWord name.text.toList := by
    refine ⟨name.valid.nonempty, fun c hc ↦ ?_⟩
    have hplain := name.valid.plain c hc
    simp only [isDelimiter, Bool.or_eq_false_iff, decide_eq_false_iff_not] at hplain
    exact ⟨hplain.1.1, hplain.1.2, hplain.2, hname name List.mem_cons_self c hc⟩
  simpa using WritesName.intro .nil hword rfl .nil

mutual

/-- The display of a descriptor without white space in its names is derived. -/
theorem derives_chars : (d : Descriptor) → IsSpaceless d.names → Derives d.chars d
  | ⟨name, []⟩, hnames => .plain (writesName_of_spaceless hnames)
  | ⟨name, d :: ds⟩, hnames => by
    have hname : IsSpaceless [name] :=
      List.forall_mem_singleton.2 (hnames name List.mem_cons_self)
    have harguments : IsSpaceless (namesAll (d :: ds)) :=
      fun other hother ↦ hnames other (List.mem_cons_of_mem name hother)
    have hd := derives_chars d fun other hother ↦
      harguments other (List.mem_append_left _ hother)
    have hall := derivesAll_charsAfter ds
      (fun other hother ↦ harguments other (List.mem_append_right _ hother)) hd
    simpa [chars] using Derives.generic (writesName_of_spaceless hname) hall .nil

/-- The arguments after the first one are derived with the blank before each of them. -/
theorem derivesAll_charsAfter : (ds : List Descriptor) → IsSpaceless (namesAll ds) →
    ∀ {text : List Char} {d : Descriptor}, Derives text d →
      DerivesAll (text ++ charsAfter ds) (d :: ds)
  | [], _, text, d, hd => by simpa [charsAfter] using DerivesAll.last hd
  | e :: es, hnames, text, d, hd => by
    have he := derives_chars e fun other hother ↦ hnames other (List.mem_append_left _ hother)
    have hblank : IsBlank [' '] := .singleton rfl
    have hall := derivesAll_charsAfter es
      (fun other hother ↦ hnames other (List.mem_append_right _ hother)) (he.prepend_blank hblank)
    simpa [charsAfter] using DerivesAll.cons hd hall

end

end Display

/-! ### Derived texts and displays -/

section Derived

theorem WritesName.isSpaceless {text : List Char} {name : TypeName} (h : WritesName text name) :
    IsSpaceless [name] := by
  cases h with
  | intro _ hword hname _ =>
    intro other hother c hc
    obtain rfl := List.mem_singleton.1 hother
    rw [hname] at hc
    exact (hword.plain c hc).2.2.2

mutual

/-- No derived name has white space. -/
theorem Derives.isSpaceless {text : List Char} {d : Descriptor} :
    Derives text d → IsSpaceless d.names
  | .plain hname => hname.isSpaceless
  | .generic hname harguments _ => by
    intro name hmem
    rcases List.mem_cons.1 hmem with rfl | hmem
    · exact hname.isSpaceless name List.mem_cons_self
    · exact harguments.isSpaceless name hmem

theorem DerivesAll.isSpaceless {text : List Char} {ds : List Descriptor} :
    DerivesAll text ds → IsSpaceless (namesAll ds)
  | .last hd => by
    intro name hmem
    exact hd.isSpaceless name (by simpa [namesAll] using hmem)
  | .cons hd hds => by
    intro name hmem
    rcases List.mem_append.1 hmem with hmem | hmem
    · exact hd.isSpaceless name hmem
    · exact hds.isSpaceless name hmem

end

theorem WritesName.withoutSpace {text : List Char} {name : TypeName} (h : WritesName text name) :
    Text.withoutSpace text = Text.withoutSpace name.text.toList := by
  cases h with
  | intro hbefore _ hname hafter =>
    simp [Text.withoutSpace_eq_nil hbefore, Text.withoutSpace_eq_nil hafter, hname]

mutual

/-- A derived text has the characters of the display, but for the white space. -/
theorem Derives.withoutSpace {text : List Char} {d : Descriptor} :
    Derives text d → Text.withoutSpace text = Text.withoutSpace d.chars
  | .plain hname => hname.withoutSpace
  | @Derives.generic text inner after name ds hname harguments hafter => by
    have hinner := harguments.withoutSpace
    cases ds with
    | nil => cases harguments
    | cons d ds =>
      simp only [charsAfter, Text.withoutSpace_cons_of_not_space, Text.withoutSpace_cons_of_space,
        Text.isSpace_delimiters, List.cons.injEq, true_and] at hinner
      simp [chars, Text.isSpace_delimiters, hname.withoutSpace, Text.withoutSpace_eq_nil hafter,
        Text.withoutSpace_nil, hinner]

/-- The comma that the grammar has between two arguments stands before each of them here. -/
theorem DerivesAll.withoutSpace {text : List Char} {ds : List Descriptor} :
    DerivesAll text ds →
      Text.withoutSpace (',' :: text) = Text.withoutSpace (charsAfter ds)
  | .last hd => by
    simp [charsAfter, Text.isSpace_delimiters, hd.withoutSpace]
  | @DerivesAll.cons text rest d ds hd hds => by
    have hrest := hds.withoutSpace
    rw [← List.cons_append, Text.withoutSpace_append, hrest]
    simp [charsAfter, Text.isSpace_delimiters, hd.withoutSpace]

end

end Derived

/-! ### Round trips -/

/-- A descriptor is read from its display exactly if no name in it has white space. The display of a
descriptor that was read is read in turn, and it is the text it was read from but for white space.
-/
theorem ofString_display_iff :
    (∀ d : Descriptor, ofString d.display = .ok d ↔ IsSpaceless d.names) ∧
      ∀ (text : String) (d : Descriptor), ofString text = .ok d →
        ofString d.display = .ok d ∧
          Text.withoutSpace text.toList = Text.withoutSpace d.display.toList := by
  have hdisplay (d : Descriptor) : ofString d.display = .ok d ↔ IsSpaceless d.names := by
    rw [ofString_eq_ok_iff, display, String.toList_ofList]
    exact ⟨Derives.isSpaceless, derives_chars d⟩
  refine ⟨hdisplay, fun text d hread ↦ ?_⟩
  have hderives := ofString_eq_ok_iff.1 hread
  refine ⟨(hdisplay d).2 hderives.isSpaceless, ?_⟩
  rw [display, String.toList_ofList]
  exact hderives.withoutSpace

end Descriptor

end Exemplar
