import Exemplar.Descriptor.Reader

/-!
The grammar of written descriptors, `D ::= ws* N ws* [ '<' D (',' D)* '>' ws* ]`, as derivations of
a text together with its tree, and the proof that the reader accepts exactly the derived texts. In
one direction a derived text leads the reader, from wherever a type may begin, to a state in which
the type is complete. In the other one the text read so far is always a derivation cut off at this
place, and each character continues it.
-/

set_option autoImplicit false
set_option relaxedAutoImplicit false

namespace Exemplar

namespace Descriptor

/-! ### Derivations -/

/-- White space only, as often as one likes. -/
def IsBlank (text : List Char) : Prop :=
  ∀ c ∈ text, Text.isSpace c = true

/-- A name as it is written: a run of characters that neither write arguments nor are white space.
-/
structure IsWord (text : List Char) : Prop where
  nonempty : text ≠ []
  plain : ∀ c ∈ text, c ≠ '<' ∧ c ≠ '>' ∧ c ≠ ',' ∧ Text.isSpace c = false

/-- A name between white space, `ws* N ws*`. -/
inductive WritesName : List Char → TypeName → Prop
  | intro {before word after : List Char} {name : TypeName} (hbefore : IsBlank before)
    (hword : IsWord word) (hname : name.text.toList = word) (hafter : IsBlank after) :
    WritesName (before ++ word ++ after) name

mutual

/-- The text is derived from `D`, and the descriptor is the tree of a derivation. -/
inductive Derives : List Char → Descriptor → Prop
  | plain {text : List Char} {name : TypeName} (hname : WritesName text name) :
    Derives text ⟨name, []⟩
  | generic {text inner after : List Char} {name : TypeName} {ds : List Descriptor}
    (hname : WritesName text name) (harguments : DerivesAll inner ds) (hafter : IsBlank after) :
    Derives (text ++ '<' :: (inner ++ '>' :: after)) ⟨name, ds⟩

/-- The text is derived from `D (',' D)*`, with the trees in order. -/
inductive DerivesAll : List Char → List Descriptor → Prop
  | last {text : List Char} {d : Descriptor} (hd : Derives text d) : DerivesAll text [d]
  | cons {text rest : List Char} {d : Descriptor} {ds : List Descriptor} (hd : Derives text d)
    (hds : DerivesAll rest ds) : DerivesAll (text ++ ',' :: rest) (d :: ds)

end

theorem IsBlank.nil : IsBlank [] :=
  nofun

theorem IsBlank.append {text other : List Char} (h : IsBlank text) (h' : IsBlank other) :
    IsBlank (text ++ other) :=
  fun c hc ↦ (List.mem_append.1 hc).elim (h c) (h' c)

theorem IsBlank.singleton {c : Char} (hc : Text.isSpace c = true) : IsBlank [c] := by
  simpa [IsBlank] using hc

theorem IsWord.isNameChar_of_mem {text : List Char} (h : IsWord text) {c : Char} (hc : c ∈ text) :
    isNameChar c = true := by
  obtain ⟨hopen, hclose, hcomma, hspace⟩ := h.plain c hc
  simp [isNameChar, isDelimiter, hopen, hclose, hcomma, hspace]

/-- White space may follow wherever it could follow before. -/
theorem WritesName.append_blank {text after : List Char} {name : TypeName}
    (h : WritesName text name) (hafter : IsBlank after) : WritesName (text ++ after) name := by
  cases h with
  | intro hbefore hword hname hblank =>
    rw [List.append_assoc]
    exact .intro hbefore hword hname (hblank.append hafter)

theorem Derives.append_blank {text after : List Char} {d : Descriptor} (h : Derives text d)
    (hafter : IsBlank after) : Derives (text ++ after) d := by
  cases h with
  | plain hname => exact .plain (hname.append_blank hafter)
  | generic hname harguments hblank =>
    simpa using Derives.generic hname harguments (hblank.append hafter)

/-! ### Derived texts are read -/

end Descriptor

/-- A written name is a word of the grammar. -/
theorem Letters.isWord (letters : Letters) : Descriptor.IsWord letters.reversed.reverse where
  nonempty := by simpa using letters.nonempty
  plain c hc := by
    have hplain := letters.plain c (List.mem_reverse.1 hc)
    simp only [isNameChar, isDelimiter, Bool.and_eq_true, Bool.not_eq_true', Bool.or_eq_false_iff,
      decide_eq_false_iff_not] at hplain
    obtain ⟨⟨⟨hopen, hclose⟩, hcomma⟩, hspace⟩ := hplain
    exact ⟨hopen, hclose, hcomma, hspace⟩

theorem Letters.toList_name (letters : Letters) :
    letters.name.text.toList = letters.reversed.reverse :=
  String.toList_ofList

/-- A written name is determined by its letters. -/
theorem Letters.name_eq {letters : Letters} {name : TypeName}
    (h : name.text.toList = letters.reversed.reverse) : letters.name = name := by
  have htext : letters.name.text = name.text :=
    String.toList_injective (letters.toList_name.trans h.symm)
  cases name
  cases hletters : letters.name
  simp_all

namespace Descriptor

namespace Reading

/-- The state after several more characters. -/
def steps (reading : Reading) (text : List Char) : Except Stop Reading :=
  text.foldlM step reading

theorem steps_nil (reading : Reading) : reading.steps [] = .ok reading :=
  rfl

theorem steps_cons (reading : Reading) (c : Char) (text : List Char) :
    reading.steps (c :: text) = (reading.step c).bind fun next ↦ next.steps text :=
  rfl

theorem steps_cons_of_ok {reading next : Reading} {c : Char} (h : reading.step c = .ok next)
    (text : List Char) : reading.steps (c :: text) = next.steps text := by
  rw [steps_cons, h]
  rfl

/-- Reading a text in two parts. -/
theorem steps_append_of_ok {reading middle : Reading} {text : List Char}
    (h : reading.steps text = .ok middle) (rest : List Char) :
    reading.steps (text ++ rest) = middle.steps rest := by
  rw [steps, List.foldlM_append]
  change (reading.steps text).bind _ = _
  rw [h]
  rfl

/-- A text is read if the reader gets through it and the last type is complete. -/
theorem run_eq_ok_iff {reading : Reading} {offset : Nat} {text : List Char} {d : Descriptor} :
    reading.run offset text = .ok d ↔
      ∃ last, reading.steps text = .ok last ∧ last.complete? = some d ∧ last.frames = [] := by
  induction text generalizing reading offset with
  | nil =>
    have hfinish : reading.finish = .ok d ↔ reading.complete? = some d ∧ reading.frames = [] := by
      unfold finish
      cases hcomplete : reading.complete? with
      | none => simp
      | some e => cases hframes : reading.frames <;> simp
    simp [run, steps_nil, hfinish]
  | cons c text ih =>
    rw [run, steps_cons]
    cases hstep : reading.step c with
    | ok next => exact ih
    | error stop => cases stop <;> simp [Except.bind]

end Reading

/-- The reader has just read this name, with or without white space behind it. -/
inductive Focus.Names : Focus → TypeName → Prop
  | naming (letters : Letters) : Names (.naming letters) letters.name
  | named (name : TypeName) : Names (.named name) name

theorem Focus.Names.complete? {focus : Focus} {name : TypeName} (h : focus.Names name)
    (frames : List Frame) : Reading.complete? ⟨focus, frames⟩ = some ⟨name, []⟩ := by
  cases h <;> rfl

/-- After a name comes white space, a delimiter, or nothing. -/
theorem Focus.Names.step {focus : Focus} {name : TypeName} (h : focus.Names name)
    (frames : List Frame) {c : Char} (hdelimiter : isDelimiter c = true)
    (hspace : Text.isSpace c = false) :
    Reading.step ⟨focus, frames⟩ c = Reading.afterName name frames c := by
  have hplain : ¬isNameChar c = true := by simp [isNameChar, hdelimiter]
  cases h with
  | naming letters => simp [Reading.step, hplain, hspace]
  | named => simp [Reading.step, hspace]

/-- A complete type is followed by a comma or a closing bracket. -/
theorem Reading.step_of_complete {focus : Focus} {frames : List Frame} {d : Descriptor}
    (h : Reading.complete? ⟨focus, frames⟩ = some d) {c : Char} (hc : c = ',' ∨ c = '>') :
    Reading.step ⟨focus, frames⟩ c = Reading.afterType d frames c := by
  have hdelimiter : isDelimiter c = true := by rcases hc with rfl | rfl <;> rfl
  have hspace : Text.isSpace c = false := by rcases hc with rfl | rfl <;> rfl
  have hopen : c ≠ '<' := by rcases hc with rfl | rfl <;> decide
  cases focus with
  | expecting => cases h
  | naming letters =>
    cases h
    rw [(Focus.Names.naming letters).step frames hdelimiter hspace, afterName, if_neg hopen]
  | named name =>
    cases h
    rw [(Focus.Names.named name).step frames hdelimiter hspace, afterName, if_neg hopen]
  | closed e =>
    cases h
    simp [step, hspace]

section Complete

variable {text : List Char} {name : TypeName} {d : Descriptor} {ds : List Descriptor}

theorem IsBlank.steps_expecting (h : IsBlank text) (frames : List Frame) :
    Reading.steps ⟨.expecting, frames⟩ text = .ok ⟨.expecting, frames⟩ := by
  induction text with
  | nil => rfl
  | cons c text ih =>
    have hspace : Text.isSpace c = true := h c List.mem_cons_self
    have hplain : ¬isNameChar c = true := by simp [isNameChar, hspace]
    have hstep : Reading.step ⟨.expecting, frames⟩ c = .ok ⟨.expecting, frames⟩ := by
      simp [Reading.step, hplain, hspace]
    rw [Reading.steps_cons_of_ok hstep]
    exact ih fun d hd ↦ h d (List.mem_cons_of_mem c hd)

theorem IsBlank.steps_closed (h : IsBlank text) (d : Descriptor) (frames : List Frame) :
    Reading.steps ⟨.closed d, frames⟩ text = .ok ⟨.closed d, frames⟩ := by
  induction text with
  | nil => rfl
  | cons c text ih =>
    have hspace : Text.isSpace c = true := h c List.mem_cons_self
    have hstep : Reading.step ⟨.closed d, frames⟩ c = .ok ⟨.closed d, frames⟩ := by
      simp [Reading.step, hspace]
    rw [Reading.steps_cons_of_ok hstep]
    exact ih fun d hd ↦ h d (List.mem_cons_of_mem c hd)

theorem IsBlank.steps_names (h : IsBlank text) {focus : Focus} (hfocus : focus.Names name)
    (frames : List Frame) :
    ∃ focus' : Focus, focus'.Names name ∧
      Reading.steps ⟨focus, frames⟩ text = .ok ⟨focus', frames⟩ := by
  induction text generalizing focus with
  | nil => exact ⟨focus, hfocus, rfl⟩
  | cons c text ih =>
    have hspace : Text.isSpace c = true := h c List.mem_cons_self
    have hplain : ¬isNameChar c = true := by simp [isNameChar, hspace]
    have hstep : Reading.step ⟨focus, frames⟩ c = .ok ⟨.named name, frames⟩ := by
      cases hfocus <;> simp [Reading.step, hspace, hplain]
    rw [Reading.steps_cons_of_ok hstep]
    exact ih (fun d hd ↦ h d (List.mem_cons_of_mem c hd)) (.named name)

theorem steps_naming (letters : Letters) (frames : List Frame)
    (h : ∀ c ∈ text, isNameChar c = true) :
    ∃ longer : Letters, longer.reversed = text.reverse ++ letters.reversed ∧
      Reading.steps ⟨.naming letters, frames⟩ text = .ok ⟨.naming longer, frames⟩ := by
  induction text generalizing letters with
  | nil => exact ⟨letters, rfl, rfl⟩
  | cons c text ih =>
    have hc : isNameChar c = true := h c List.mem_cons_self
    obtain ⟨longer, hlonger, hsteps⟩ :=
      ih (letters.push c hc) fun d hd ↦ h d (List.mem_cons_of_mem c hd)
    refine ⟨longer, by simp [hlonger, Letters.push], ?_⟩
    have hstep : Reading.step ⟨.naming letters, frames⟩ c =
        .ok ⟨.naming (letters.push c hc), frames⟩ := by
      simp [Reading.step, hc]
    rw [Reading.steps_cons_of_ok hstep]
    exact hsteps

theorem IsWord.steps_expecting (h : IsWord text) (frames : List Frame) :
    ∃ letters : Letters, letters.reversed.reverse = text ∧
      Reading.steps ⟨.expecting, frames⟩ text = .ok ⟨.naming letters, frames⟩ := by
  cases text with
  | nil => exact absurd rfl h.nonempty
  | cons c text =>
    have hc : isNameChar c = true := h.isNameChar_of_mem List.mem_cons_self
    obtain ⟨letters, hletters, hsteps⟩ := steps_naming (.singleton c hc) frames
      fun d hd ↦ h.isNameChar_of_mem (List.mem_cons_of_mem c hd)
    refine ⟨letters, by simp [hletters, Letters.singleton], ?_⟩
    have hstep : Reading.step ⟨.expecting, frames⟩ c =
        .ok ⟨.naming (.singleton c hc), frames⟩ := by
      simp [Reading.step, hc]
    rw [Reading.steps_cons_of_ok hstep]
    exact hsteps

/-- A written name is read wherever a type may begin. -/
theorem WritesName.steps (h : WritesName text name) (frames : List Frame) :
    ∃ focus : Focus, focus.Names name ∧
      Reading.steps ⟨.expecting, frames⟩ text = .ok ⟨focus, frames⟩ := by
  cases h with
  | intro hbefore hword hname hafter =>
    obtain ⟨letters, hletters, hsteps⟩ := hword.steps_expecting frames
    obtain rfl : letters.name = name := Letters.name_eq (hname.trans hletters.symm)
    rw [List.append_assoc, Reading.steps_append_of_ok (hbefore.steps_expecting frames),
      Reading.steps_append_of_ok hsteps]
    exact hafter.steps_names (.naming letters) frames

mutual

/-- A derived type is read wherever a type may begin, and complete then. -/
theorem Derives.steps {text : List Char} {d : Descriptor} (frames : List Frame) :
    Derives text d → ∃ focus : Focus, Reading.complete? ⟨focus, frames⟩ = some d ∧
      Reading.steps ⟨.expecting, frames⟩ text = .ok ⟨focus, frames⟩
  | .plain hname => by
    obtain ⟨focus, hfocus, hsteps⟩ := hname.steps frames
    exact ⟨focus, hfocus.complete? frames, hsteps⟩
  | @Derives.generic _ _ _ name ds hname harguments hafter => by
    obtain ⟨focus, hfocus, hsteps⟩ := hname.steps frames
    have hopen : Reading.step ⟨focus, frames⟩ '<' = .ok ⟨.expecting, ⟨name, []⟩ :: frames⟩ := by
      rw [hfocus.step frames rfl rfl]
      rfl
    obtain ⟨focus', d, reversed, hds, hcomplete, hsteps'⟩ := harguments.steps name [] frames
    have hclose : Reading.step ⟨focus', ⟨name, reversed⟩ :: frames⟩ '>' =
        .ok ⟨.closed ⟨name, ds⟩, frames⟩ := by
      rw [Reading.step_of_complete hcomplete (.inr rfl), Reading.afterType,
        if_neg (by decide), if_pos rfl, hds]
      rfl
    refine ⟨.closed ⟨name, ds⟩, rfl, ?_⟩
    rw [Reading.steps_append_of_ok hsteps, Reading.steps_cons_of_ok hopen,
      Reading.steps_append_of_ok hsteps', Reading.steps_cons_of_ok hclose]
    exact hafter.steps_closed _ frames

/-- Derived arguments are read within an open bracket. The last one stays in the focus. -/
theorem DerivesAll.steps {text : List Char} {ds : List Descriptor} (name : TypeName)
    (reversed : List Descriptor) (frames : List Frame) :
    DerivesAll text ds → ∃ (focus : Focus) (d : Descriptor) (others : List Descriptor),
      (d :: others).reverse = reversed.reverse ++ ds ∧
      Reading.complete? ⟨focus, ⟨name, others⟩ :: frames⟩ = some d ∧
      Reading.steps ⟨.expecting, ⟨name, reversed⟩ :: frames⟩ text =
        .ok ⟨focus, ⟨name, others⟩ :: frames⟩
  | @DerivesAll.last _ d hd => by
    obtain ⟨focus, hcomplete, hsteps⟩ := hd.steps (⟨name, reversed⟩ :: frames)
    exact ⟨focus, d, reversed, by simp, hcomplete, hsteps⟩
  | @DerivesAll.cons _ _ d _ hd hds => by
    obtain ⟨focus, hcomplete, hsteps⟩ := hd.steps (⟨name, reversed⟩ :: frames)
    have hcomma : Reading.step ⟨focus, ⟨name, reversed⟩ :: frames⟩ ',' =
        .ok ⟨.expecting, ⟨name, d :: reversed⟩ :: frames⟩ := by
      rw [Reading.step_of_complete hcomplete (.inl rfl), Reading.afterType, if_pos rfl]
    obtain ⟨focus', d', others, hothers, hcomplete', hsteps'⟩ :=
      hds.steps name (d :: reversed) frames
    refine ⟨focus', d', others, by simpa using hothers, hcomplete', ?_⟩
    rw [Reading.steps_append_of_ok hsteps, Reading.steps_cons_of_ok hcomma]
    exact hsteps'

end

end Complete

/-! ### What is read is derived -/

/-- The arguments read within an open bracket, last first, each with the comma behind it. -/
inductive ReadsArguments : List Char → List Descriptor → Prop
  | nil : ReadsArguments [] []
  | snoc {text rest : List Char} {d : Descriptor} {reversed : List Descriptor}
    (hbefore : ReadsArguments text reversed) (hd : Derives rest d) :
    ReadsArguments (text ++ (rest ++ [','])) (d :: reversed)

/-- The text up to what was read last: the open types with their arguments, innermost first. -/
inductive ReadsFrames : List Char → List Frame → Prop
  | nil : ReadsFrames [] []
  | cons {outer text inner : List Char} {name : TypeName} {reversed : List Descriptor}
    {frames : List Frame} (houter : ReadsFrames outer frames) (hname : WritesName text name)
    (harguments : ReadsArguments inner reversed) :
    ReadsFrames (outer ++ (text ++ '<' :: inner)) (⟨name, reversed⟩ :: frames)

/-- What was read last. -/
inductive ReadsFocus : List Char → Focus → Prop
  | expecting {text : List Char} (h : IsBlank text) : ReadsFocus text .expecting
  | naming {before : List Char} (hbefore : IsBlank before) (letters : Letters) :
    ReadsFocus (before ++ letters.reversed.reverse) (.naming letters)
  | named {text : List Char} {name : TypeName} (h : WritesName text name) :
    ReadsFocus text (.named name)
  | closed {text : List Char} {d : Descriptor} (h : Derives text d) : ReadsFocus text (.closed d)

/-- The text that leads the reader to a state. -/
inductive Reads : List Char → Reading → Prop
  | intro {outer inner : List Char} {focus : Focus} {frames : List Frame}
    (hframes : ReadsFrames outer frames) (hfocus : ReadsFocus inner focus) :
    Reads (outer ++ inner) ⟨focus, frames⟩

section Sound

variable {text outer inner rest : List Char} {name : TypeName} {d : Descriptor}
variable {ds reversed : List Descriptor} {frames : List Frame} {focus : Focus}

theorem ReadsArguments.append (h : ReadsArguments text reversed) (hds : DerivesAll rest ds) :
    DerivesAll (text ++ rest) (reversed.reverse ++ ds) := by
  induction h generalizing rest ds with
  | nil => exact hds
  | snoc _ hd ih => simpa using ih (.cons hd hds)

theorem ReadsFocus.writesName (h : ReadsFocus inner focus) (hname : focus.Names name) :
    WritesName inner name := by
  cases hname with
  | naming letters =>
    cases h with
    | naming hbefore =>
      simpa using WritesName.intro hbefore letters.isWord letters.toList_name .nil
  | named =>
    cases h with
    | named hwrites => exact hwrites

/-- A complete type was derived. -/
theorem ReadsFocus.derives (h : ReadsFocus inner focus)
    (hcomplete : Reading.complete? ⟨focus, frames⟩ = some d) : Derives inner d := by
  cases focus with
  | expecting => cases hcomplete
  | naming letters =>
    cases hcomplete
    exact .plain (h.writesName (.naming letters))
  | named name =>
    cases hcomplete
    exact .plain (h.writesName (.named name))
  | closed e =>
    cases hcomplete
    cases h with
    | closed hd => exact hd

/-- A comma puts a complete type to the arguments, and a closing bracket completes the type around
it. -/
theorem reads_afterType (hframes : ReadsFrames outer frames) (hd : Derives inner d) {c : Char}
    {next : Reading} (hnext : Reading.afterType d frames c = .ok next) :
    Reads (outer ++ inner ++ [c]) next := by
  cases hframes with
  | nil => cases hnext
  | cons houter hname harguments =>
    simp only [Reading.afterType] at hnext
    split at hnext
    · rename_i hcomma
      cases hnext
      subst hcomma
      have hlonger := ReadsFrames.cons houter hname (harguments.snoc hd)
      simpa using Reads.intro hlonger (.expecting .nil)
    · split at hnext
      · rename_i hclose
        cases hnext
        subst hclose
        have hall := harguments.append (.last hd)
        rw [← List.reverse_cons] at hall
        have hclosed := Derives.generic hname hall .nil
        simpa using Reads.intro houter (.closed hclosed)
      · cases hnext

theorem reads_afterName (hframes : ReadsFrames outer frames) (hname : WritesName inner name)
    {c : Char} {next : Reading} (hnext : Reading.afterName name frames c = .ok next) :
    Reads (outer ++ inner ++ [c]) next := by
  unfold Reading.afterName at hnext
  split at hnext
  · rename_i hopen
    cases hnext
    subst hopen
    simpa using Reads.intro (hframes.cons hname .nil) (.expecting .nil)
  · exact reads_afterType hframes (.plain hname) hnext

/-- One more character continues what was read. -/
theorem Reads.step {reading next : Reading} (h : Reads text reading) {c : Char}
    (hnext : reading.step c = .ok next) : Reads (text ++ [c]) next := by
  obtain ⟨hframes, hfocus⟩ := h
  cases hfocus with
  | expecting hblank =>
    unfold Reading.step at hnext
    dsimp only at hnext
    split at hnext
    · rename_i hc
      cases hnext
      rw [List.append_assoc]
      exact .intro hframes (.naming hblank (.singleton c hc))
    · split at hnext
      · rename_i hspace
        cases hnext
        rw [List.append_assoc]
        exact .intro hframes (.expecting (hblank.append (.singleton hspace)))
      · cases hnext
  | naming hbefore letters =>
    have hname := (ReadsFocus.naming hbefore letters).writesName (.naming letters)
    unfold Reading.step at hnext
    dsimp only at hnext
    split at hnext
    · rename_i hc
      cases hnext
      simpa [Letters.push] using Reads.intro hframes (.naming hbefore (letters.push c hc))
    · split at hnext
      · rename_i hspace
        cases hnext
        rw [List.append_assoc]
        exact .intro hframes (.named (hname.append_blank (.singleton hspace)))
      · exact reads_afterName hframes hname hnext
  | named hname =>
    unfold Reading.step at hnext
    dsimp only at hnext
    split at hnext
    · rename_i hspace
      cases hnext
      rw [List.append_assoc]
      exact .intro hframes (.named (hname.append_blank (.singleton hspace)))
    · exact reads_afterName hframes hname hnext
  | closed hd =>
    unfold Reading.step at hnext
    dsimp only at hnext
    split at hnext
    · rename_i hspace
      cases hnext
      rw [List.append_assoc]
      exact .intro hframes (.closed (hd.append_blank (.singleton hspace)))
    · exact reads_afterType hframes hd hnext

theorem Reads.steps {reading last : Reading} (h : Reads text reading)
    (hlast : reading.steps rest = .ok last) : Reads (text ++ rest) last := by
  induction rest generalizing text reading with
  | nil =>
    cases hlast
    simpa using h
  | cons c rest ih =>
    rw [Reading.steps_cons] at hlast
    cases hstep : reading.step c with
    | error stop =>
      rw [hstep] at hlast
      cases hlast
    | ok next =>
      rw [hstep] at hlast
      simpa using ih (h.step hstep) hlast

end Sound

/-! ### The reader and the grammar -/

/-- The reader accepts the derived texts and finds their trees. -/
theorem ofChars_eq_ok_iff {text : List Char} {d : Descriptor} :
    ofChars text = .ok d ↔ Derives text d := by
  rw [ofChars, Reading.run_eq_ok_iff]
  constructor
  · rintro ⟨⟨focus, frames⟩, hsteps, hcomplete, rfl⟩
    have hreads : Reads text ⟨focus, []⟩ :=
      (Reads.intro .nil (.expecting .nil)).steps hsteps
    generalize hreading : (⟨focus, []⟩ : Reading) = reading at hreads
    obtain ⟨hframes, hfocus⟩ := hreads
    cases hreading
    cases hframes
    exact hfocus.derives hcomplete
  · intro hd
    obtain ⟨focus, hcomplete, hsteps⟩ := hd.steps []
    exact ⟨⟨focus, []⟩, hsteps, hcomplete, rfl⟩

theorem ofString_eq_ok_iff {text : String} {d : Descriptor} :
    ofString text = .ok d ↔ Derives text.toList d := by
  rw [← ofChars_eq_ok_iff, ofString]
  cases ofChars text.toList with
  | ok read =>
    exact ⟨fun h ↦ congrArg _ (Except.ok.inj h), fun h ↦ congrArg _ (Except.ok.inj h)⟩
  | error flaw => exact iff_of_false nofun nofun

/-- A text is read as a descriptor exactly if the grammar derives it with this tree. No text has two
trees, and a text without one is refused as an argument. -/
theorem ofString_accepts_grammar (text : String) :
    (∀ d, ofString text = .ok d ↔ Derives text.toList d) ∧
      (∀ d e, Derives text.toList d → Derives text.toList e → d = e) ∧
      ((∀ d, ¬Derives text.toList d) →
        ∃ misuse, ofString text = .error (.invalidArgument misuse)) := by
  refine ⟨fun d ↦ ofString_eq_ok_iff, fun d e hd he ↦ ?_, fun hnone ↦ ?_⟩
  · exact Except.ok.inj ((ofString_eq_ok_iff.2 hd).symm.trans (ofString_eq_ok_iff.2 he))
  · cases hread : ofChars text.toList with
    | ok d => exact absurd (ofChars_eq_ok_iff.1 hread) (hnone d)
    | error flaw =>
      refine ⟨.malformedDescriptor text flaw, ?_⟩
      rw [ofString, hread]
      rfl

end Descriptor

end Exemplar
