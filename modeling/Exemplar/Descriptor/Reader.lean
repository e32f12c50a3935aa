import Exemplar.Descriptor.Basic

/-!
Descriptors are read from texts such as `Map<K, List<V>>`, with white space allowed around every
name and bracket. The reader goes through the text once and keeps the types that are still open on
a stack, so what it expects next depends only on the part already read. It stops at the first
character that no descriptor can continue with, and says so with the byte offset of that character.
-/

set_option autoImplicit false
set_option relaxedAutoImplicit false

namespace Exemplar

/-- The characters of names as they are written in texts. -/
def isNameChar (c : Char) : Bool :=
  !isDelimiter c && !Text.isSpace c

/-- A written name that is not empty, its last character first. -/
structure Letters where
  reversed : List Char
  nonempty : reversed ≠ []
  plain : ∀ c ∈ reversed, isNameChar c = true

namespace Letters

/-- The name of one character. -/
def singleton (c : Char) (hc : isNameChar c = true) : Letters :=
  ⟨[c], by simp, by simpa using hc⟩

/-- The name with one more character at its end. -/
def push (letters : Letters) (c : Char) (hc : isNameChar c = true) : Letters :=
  ⟨c :: letters.reversed, by simp, by
    intro d hd
    rcases List.mem_cons.1 hd with rfl | hmem
    · exact hc
    · exact letters.plain d hmem⟩

/-- A written name is a type name: it has no white space at all, so none at its ends. -/
def name (letters : Letters) : TypeName where
  text := String.ofList letters.reversed.reverse
  valid := by
    rw [String.toList_ofList]
    have hmem : ∀ c ∈ letters.reversed.reverse, isNameChar c = true :=
      fun c hc ↦ letters.plain c (List.mem_reverse.1 hc)
    have hspace : ∀ c ∈ letters.reversed.reverse, Text.isSpace c = false :=
      fun c hc ↦ by simpa using (Bool.and_eq_true_iff.1 (hmem c hc)).2
    exact ⟨by simpa using letters.nonempty,
      ⟨fun c hc ↦ hspace c (List.mem_of_head? hc),
        fun c hc ↦ hspace c (List.mem_of_getLast? hc)⟩,
      fun c hc ↦ by simpa using (Bool.and_eq_true_iff.1 (hmem c hc)).1⟩

end Letters

namespace Descriptor

/-- A type whose closing bracket is still to come, with the arguments read so far, last first. -/
structure Frame where
  name : TypeName
  reversed : List Descriptor

/-- What was read last: nothing of the next name yet, a part of a name, a name with white space
behind it, or a type with its closing bracket. -/
inductive Focus
  | expecting
  | naming (letters : Letters)
  | named (name : TypeName)
  | closed (d : Descriptor)

/-- The state of the reader: what was read last, and the open types around it, innermost first. -/
structure Reading where
  focus : Focus
  frames : List Frame

/-- Why the next character is impossible. -/
inductive Stop
  | missingIdentity
  | unexpected

namespace Reading

/-- A reader at the beginning of a text. -/
def start : Reading :=
  ⟨.expecting, []⟩

/-- A complete type is followed by a comma or a closing bracket of the innermost open type. -/
def afterType (d : Descriptor) (frames : List Frame) (c : Char) : Except Stop Reading :=
  match frames with
  | [] => .error .unexpected
  | frame :: outer =>
    if c = ',' then .ok ⟨.expecting, ⟨frame.name, d :: frame.reversed⟩ :: outer⟩
    else if c = '>' then .ok ⟨.closed ⟨frame.name, (d :: frame.reversed).reverse⟩, outer⟩
    else .error .unexpected

/-- A name is followed by its opening bracket, or else it is a complete type. -/
def afterName (name : TypeName) (frames : List Frame) (c : Char) : Except Stop Reading :=
  if c = '<' then .ok ⟨.expecting, ⟨name, []⟩ :: frames⟩
  else afterType ⟨name, []⟩ frames c

/-- The state after one more character. -/
def step (reading : Reading) (c : Char) : Except Stop Reading :=
  match reading.focus with
  | .expecting =>
    if hc : isNameChar c = true then .ok ⟨.naming (.singleton c hc), reading.frames⟩
    else if Text.isSpace c then .ok reading
    else .error .missingIdentity
  | .naming letters =>
    if hc : isNameChar c = true then .ok ⟨.naming (letters.push c hc), reading.frames⟩
    else if Text.isSpace c then .ok ⟨.named letters.name, reading.frames⟩
    else afterName letters.name reading.frames c
  | .named name =>
    if Text.isSpace c then .ok reading else afterName name reading.frames c
  | .closed d =>
    if Text.isSpace c then .ok reading else afterType d reading.frames c

/-- The type that was read last, if the last thing read can end one. -/
def complete? (reading : Reading) : Option Descriptor :=
  match reading.focus with
  | .expecting => none
  | .naming letters => some ⟨letters.name, []⟩
  | .named name => some ⟨name, []⟩
  | .closed d => some d

/-- The descriptor of a text that ends here. -/
def finish (reading : Reading) : Except Flaw Descriptor :=
  match reading.complete? with
  | none => .error .missingIdentity
  | some d => if reading.frames.isEmpty then .ok d else .error .unclosedBracket

/-- Reads the characters of a text from a byte offset on. -/
def run (reading : Reading) (offset : Nat) : List Char → Except Flaw Descriptor
  | [] => reading.finish
  | c :: cs =>
    match reading.step c with
    | .ok next => next.run (offset + c.utf8Size) cs
    | .error .missingIdentity => .error .missingIdentity
    | .error .unexpected => .error (.unexpected c offset)

end Reading

/-- The descriptor written by the characters of a text. -/
def ofChars (text : List Char) : Except Flaw Descriptor :=
  Reading.start.run 0 text

/-- The descriptor written in a text. -/
def ofString (text : String) : Except Fault Descriptor :=
  (ofChars text.toList).mapError fun flaw ↦ .invalidArgument (.malformedDescriptor text flaw)

end Descriptor

end Exemplar
