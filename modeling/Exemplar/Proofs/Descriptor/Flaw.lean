import Exemplar.Proofs.Descriptor.Grammar

/-!
Where an unreadable text goes wrong. The reader stops at the first character that no readable text
has in its place, and whatever was read before this character can be completed: if a type was read
last, then closing brackets for the types around it are all that is missing. So a text lacks closing
brackets only if the reader gets through all of it, and a text that breaks off where a name should
begin cannot be mended by closing brackets.
-/

set_option autoImplicit false
set_option relaxedAutoImplicit false

namespace Exemplar

namespace Descriptor

/-- As many closing brackets. -/
def closing (count : Nat) : String :=
  String.ofList (List.replicate count '>')

/-- The text is read as some descriptor. -/
def IsReadable (text : String) : Prop :=
  ∃ d, ofString text = .ok d

/-- The flaw of a text whose reader is stopped by a character at an offset. -/
def Stop.flaw (c : Char) (offset : Nat) : Stop → Flaw
  | missingIdentity => .missingIdentity
  | unexpected => .unexpected c offset

namespace Reading

variable {reading last : Reading} {offset : Nat} {text rest : List Char} {c : Char} {stop : Stop}

/-! ### Texts the reader does not get through -/

/-- The reader gets through the text and is stopped by the character behind it. -/
def StopsBehind (reading : Reading) (text : List Char) (c : Char) (stop : Stop) : Prop :=
  ∃ middle, reading.steps text = .ok middle ∧ middle.step c = .error stop

/-- Once stopped, the reader gets through no text with this beginning. -/
theorem StopsBehind.steps_ne_ok (h : reading.StopsBehind text c stop) (rest : List Char)
    (last : Reading) : reading.steps (text ++ c :: rest) ≠ .ok last := by
  obtain ⟨middle, hmiddle, hstop⟩ := h
  rw [steps_append_of_ok hmiddle, steps_cons, hstop]
  nofun

/-- A text is read through only if its beginning is. -/
theorem exists_of_steps_append (h : reading.steps (text ++ rest) = .ok last) :
    ∃ middle, reading.steps text = .ok middle ∧ middle.steps rest = .ok last := by
  rw [steps, List.foldlM_append] at h
  change (reading.steps text).bind _ = _ at h
  cases hmiddle : reading.steps text with
  | ok middle =>
    rw [hmiddle] at h
    exact ⟨middle, rfl, h⟩
  | error stop =>
    rw [hmiddle] at h
    cases h

theorem run_of_steps_eq_ok (h : reading.steps text = .ok last) :
    reading.run offset text = last.finish := by
  induction text generalizing reading offset with
  | nil =>
    cases h
    rfl
  | cons c text ih =>
    rw [steps_cons] at h
    cases hstep : reading.step c with
    | ok next =>
      rw [hstep] at h
      rw [run, hstep]
      exact ih h
    | error stop =>
      rw [hstep] at h
      cases h

/-- A text has a flaw either because it ends too early or because of a character in it. -/
theorem run_eq_error_cases {flaw : Flaw} (h : reading.run offset text = .error flaw) :
    (∃ last, reading.steps text = .ok last ∧ last.finish = .error flaw) ∨
      ∃ before c after stop, text = before ++ c :: after ∧ reading.StopsBehind before c stop ∧
        flaw = stop.flaw c (offset + (String.ofList before).utf8ByteSize) := by
  induction text generalizing reading offset with
  | nil => exact .inl ⟨reading, rfl, h⟩
  | cons c text ih =>
    rw [run] at h
    cases hstep : reading.step c with
    | error stop =>
      rw [hstep] at h
      refine .inr ⟨[], c, text, stop, rfl, ⟨reading, rfl, hstep⟩, ?_⟩
      cases stop <;> cases h <;> rfl
    | ok next =>
      rw [hstep] at h
      rcases ih h with ⟨last, hlast, hfinish⟩ | ⟨before, d, after, stop, rfl, hstop, rfl⟩
      · exact .inl ⟨last, (steps_cons_of_ok hstep text).trans hlast, hfinish⟩
      · obtain ⟨middle, hmiddle, hstop⟩ := hstop
        refine .inr ⟨c :: before, d, after, stop, rfl,
          ⟨middle, (steps_cons_of_ok hstep before).trans hmiddle, hstop⟩, ?_⟩
        rw [String.ofList_cons, String.utf8ByteSize_append, String.utf8ByteSize_singleton,
          Nat.add_assoc]

/-! ### Closing what is open -/

/-- Behind a complete type closing brackets are all that can be missing. -/
theorem exists_steps_closing {d : Descriptor} (h : reading.complete? = some d) :
    ∃ last e, reading.steps (List.replicate reading.frames.length '>') = .ok last ∧
      last.complete? = some e ∧ last.frames = [] := by
  obtain ⟨focus, frames⟩ := reading
  induction frames generalizing focus d with
  | nil => exact ⟨⟨focus, []⟩, d, rfl, h, rfl⟩
  | cons frame outer ih =>
    have hclose : step ⟨focus, frame :: outer⟩ '>' =
        .ok ⟨.closed ⟨frame.name, (d :: frame.reversed).reverse⟩, outer⟩ := by
      rw [step_of_complete h (.inr rfl), afterType, if_neg (by decide), if_pos rfl]
    rw [List.length_cons, List.replicate_succ, steps_cons_of_ok hclose]
    exact ih (.closed _) rfl

/-- Only a character behind a complete type is unexpected. -/
theorem exists_complete?_of_unexpected (h : reading.step c = .error .unexpected) :
    ∃ d, reading.complete? = some d := by
  obtain ⟨focus, frames⟩ := reading
  cases focus with
  | expecting =>
    unfold step at h
    dsimp only at h
    split at h
    · cases h
    · split at h <;> cases h
  | naming letters => exact ⟨_, rfl⟩
  | named name => exact ⟨_, rfl⟩
  | closed d => exact ⟨d, rfl⟩

/-- Where a name should begin no bracket can be closed. -/
theorem exists_complete?_of_step_close {next : Reading} (h : reading.step '>' = .ok next) :
    ∃ d, reading.complete? = some d := by
  obtain ⟨focus, frames⟩ := reading
  cases focus with
  | expecting => cases h
  | naming letters => exact ⟨_, rfl⟩
  | named name => exact ⟨_, rfl⟩
  | closed d => exact ⟨d, rfl⟩

theorem finish_eq_unclosedBracket_iff : reading.finish = .error .unclosedBracket ↔
    (∃ d, reading.complete? = some d) ∧ reading.frames ≠ [] := by
  unfold finish
  cases reading.complete? with
  | none => simp
  | some d => cases reading.frames <;> simp

end Reading

/-! ### Flaws of texts -/

variable {text : List Char} {flaw : Flaw}

/-- The characters are read as some descriptor if the reader gets through them, the last type is
complete and no type is open. -/
theorem exists_ofChars_iff : (∃ d, ofChars text = .ok d) ↔
    ∃ last d, Reading.start.steps text = .ok last ∧ last.complete? = some d ∧ last.frames = [] := by
  simp only [ofChars, Reading.run_eq_ok_iff]
  exact exists_comm

/-- Closing brackets can be all that is missing only if the reader gets through the text. -/
theorem ofChars_eq_unclosedBracket_iff (h : ofChars text = .error flaw) :
    flaw = .unclosedBracket ↔
      ∃ n, 1 ≤ n ∧ ∃ d, ofChars (text ++ List.replicate n '>') = .ok d := by
  simp only [exists_ofChars_iff]
  constructor
  · rintro rfl
    rcases Reading.run_eq_error_cases h with ⟨last, hlast, hfinish⟩ | ⟨_, _, _, stop, _, _, hflaw⟩
    · obtain ⟨⟨d, hcomplete⟩, hframes⟩ := Reading.finish_eq_unclosedBracket_iff.1 hfinish
      obtain ⟨closed, e, hsteps, hclosed⟩ := Reading.exists_steps_closing hcomplete
      refine ⟨last.frames.length, List.length_pos_iff.2 hframes, closed, e, ?_, hclosed⟩
      rw [Reading.steps_append_of_ok hlast, hsteps]
    · cases stop <;> cases hflaw
  · rintro ⟨n, hn, closed, e, hsteps, -⟩
    obtain ⟨last, hlast, hclosing⟩ := Reading.exists_of_steps_append hsteps
    obtain ⟨m, rfl⟩ := Nat.exists_eq_add_of_le' hn
    have hcomplete : ∃ d, last.complete? = some d := by
      rw [List.replicate_succ, Reading.steps_cons] at hclosing
      cases hstep : last.step '>' with
      | ok next => exact Reading.exists_complete?_of_step_close hstep
      | error stop =>
        rw [hstep] at hclosing
        cases hclosing
    have hframes : last.frames ≠ [] := by
      intro hnone
      obtain ⟨d, hd⟩ := hcomplete
      obtain ⟨read, hread⟩ := exists_ofChars_iff.2 ⟨last, d, hlast, hd, hnone⟩
      rw [hread] at h
      cases h
    have hflaw := Reading.finish_eq_unclosedBracket_iff.2 ⟨hcomplete, hframes⟩
    rw [ofChars, Reading.run_of_steps_eq_ok hlast, hflaw] at h
    cases h
    rfl

/-- Before an unexpected character stands a text that can be completed, and with it one that
cannot. -/
theorem exists_of_ofChars_eq_unexpected {c : Char} {offset : Nat}
    (h : ofChars text = .error (.unexpected c offset)) :
    ∃ before after, text = before ++ c :: after ∧
      (String.ofList before).utf8ByteSize = offset ∧
      (∃ n d, ofChars (before ++ List.replicate n '>') = .ok d) ∧
      ∀ rest d, ofChars (before ++ c :: rest) ≠ .ok d := by
  rcases Reading.run_eq_error_cases h with
    ⟨last, _, hfinish⟩ | ⟨before, _, after, stop, rfl, hstop, hflaw⟩
  · unfold Reading.finish at hfinish
    split at hfinish
    · cases hfinish
    · split at hfinish <;> cases hfinish
  · cases stop with
    | missingIdentity => cases hflaw
    | unexpected =>
      cases hflaw
      refine ⟨before, after, rfl, (Nat.zero_add _).symm, ?_, fun rest d hread ↦ ?_⟩
      · obtain ⟨middle, hmiddle, hstep⟩ := hstop
        obtain ⟨d, hcomplete⟩ := Reading.exists_complete?_of_unexpected hstep
        obtain ⟨last, e, hsteps, hlast⟩ := Reading.exists_steps_closing hcomplete
        refine ⟨middle.frames.length, exists_ofChars_iff.2 ⟨last, e, ?_, hlast⟩⟩
        rw [Reading.steps_append_of_ok hmiddle, hsteps]
      · obtain ⟨last, -, hsteps, -⟩ := exists_ofChars_iff.1 ⟨d, hread⟩
        exact hstop.steps_ne_ok rest last hsteps

theorem isReadable_iff {text : String} : IsReadable text ↔ ∃ d, ofChars text.toList = .ok d := by
  simp only [IsReadable, ofString_eq_ok_iff, ofChars_eq_ok_iff]

theorem isReadable_append_closing {text : String} {n : Nat} :
    IsReadable (text ++ closing n) ↔
      ∃ d, ofChars (text.toList ++ List.replicate n '>') = .ok d := by
  simp [isReadable_iff, closing]

/-- A text that is not read has one flaw. It is an open bracket exactly if closing brackets make the
text readable. An unexpected character stands at its offset, the text before it can be completed by
closing brackets, and no text that goes on with this character is readable. Otherwise a name is
missing, and no closing brackets make the text readable. -/
theorem flaw_is_first_impossible_character (text : String) (h : ¬IsReadable text) :
    ∃ flaw, ofString text = .error (.invalidArgument (.malformedDescriptor text flaw)) ∧
      (flaw = .unclosedBracket ↔ ∃ n, 1 ≤ n ∧ IsReadable (text ++ closing n)) ∧
      (∀ c offset, flaw = .unexpected c offset → ∃ before after : String,
        text = before ++ String.singleton c ++ after ∧ before.utf8ByteSize = offset ∧
        (∃ n, IsReadable (before ++ closing n)) ∧
        ∀ rest, ¬IsReadable (before ++ String.singleton c ++ rest)) ∧
      (flaw ≠ .unclosedBracket → (∀ c offset, flaw ≠ .unexpected c offset) →
        flaw = .missingIdentity ∧ ∀ n, ¬IsReadable (text ++ closing n)) := by
  cases hread : ofChars text.toList with
  | ok d => exact absurd (isReadable_iff.2 ⟨d, hread⟩) h
  | error flaw =>
    have hunclosed : flaw = .unclosedBracket ↔ ∃ n, 1 ≤ n ∧ IsReadable (text ++ closing n) := by
      simpa only [isReadable_append_closing] using ofChars_eq_unclosedBracket_iff hread
    refine ⟨flaw, ?_, hunclosed, ?_, fun hbracket hcharacter ↦ ⟨?_, fun n hn ↦ ?_⟩⟩
    · rw [ofString, hread]
      rfl
    · rintro c offset rfl
      obtain ⟨before, after, htext, hoffset, hcompleted, hstuck⟩ :=
        exists_of_ofChars_eq_unexpected hread
      refine ⟨String.ofList before, String.ofList after, ?_, hoffset, ?_, fun rest hrest ↦ ?_⟩
      · exact String.toList_injective (by simpa using htext)
      · simpa only [isReadable_append_closing, String.toList_ofList] using hcompleted
      · obtain ⟨d, hd⟩ := isReadable_iff.1 hrest
        exact hstuck rest.toList d (by simpa using hd)
    · cases flaw with
      | missingIdentity => rfl
      | unclosedBracket => exact absurd rfl hbracket
      | unexpected c offset => exact absurd rfl (hcharacter c offset)
    · cases n with
      | zero => exact h (by simpa [closing] using hn)
      | succ n => exact hbracket (hunclosed.2 ⟨n + 1, Nat.le_add_left 1 n, hn⟩)

/-- A letter behind a name of two bytes and a blank is unexpected, and behind a comma a name is
missing. -/
theorem flaws_of_argument_of_two_bytes :
    (¬IsReadable "K<é b" ∧ ¬IsReadable "K<é,") ∧
    (∃ before after : String, "K<é b" = before ++ String.singleton 'b' ++ after ∧
      before.utf8ByteSize = 5 ∧ (∃ n, IsReadable (before ++ closing n)) ∧
      ∀ rest, ¬IsReadable (before ++ String.singleton 'b' ++ rest)) ∧
    ∀ n, ¬IsReadable ("K<é," ++ closing n) := by
  have hletter : ofString "K<é b" =
      .error (.invalidArgument (.malformedDescriptor "K<é b" (.unexpected 'b' 5))) := rfl
  have hcomma : ofString "K<é," =
      .error (.invalidArgument (.malformedDescriptor "K<é," .missingIdentity)) := rfl
  have hunreadable : ¬IsReadable "K<é b" ∧ ¬IsReadable "K<é," := by
    constructor <;> rintro ⟨d, hd⟩
    · cases hletter.symm.trans hd
    · cases hcomma.symm.trans hd
  obtain ⟨flaw, hflaw, -, hunexpected, -⟩ := flaw_is_first_impossible_character _ hunreadable.1
  obtain ⟨flaw', hflaw', -, -, hmissing⟩ := flaw_is_first_impossible_character _ hunreadable.2
  cases hletter.symm.trans hflaw
  cases hcomma.symm.trans hflaw'
  exact ⟨hunreadable, hunexpected 'b' 5 rfl, (hmissing nofun nofun).2⟩

end Descriptor

end Exemplar
