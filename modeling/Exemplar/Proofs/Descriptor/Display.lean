import Exemplar.Descriptor.Printer
import Exemplar.Proofs.Descriptor.Substitution

/-!
The display of a descriptor identifies it. Names may have white space inside, so the display need
not read back, but a name has no delimiter, and behind a name stands a delimiter or nothing. So the
first name ends at the first delimiter, whatever text follows the display, and the arguments are
told apart one after the other, each up to the comma or closing bracket behind it.
-/

set_option autoImplicit false
set_option relaxedAutoImplicit false

namespace Exemplar

namespace Descriptor

/-- A text that can stand behind an argument: it goes on with a comma or a closing bracket. -/
def FollowsType (text : List Char) : Prop :=
  ∀ c ∈ text.head?, c = ',' ∨ c = '>'

theorem followsType_nil : FollowsType [] :=
  nofun

theorem FollowsType.isDelimiter_head {text : List Char} (h : FollowsType text) {c : Char}
    (hc : c ∈ text.head?) : isDelimiter c = true := by
  rcases h c hc with rfl | rfl <;> rfl

/-- What stands behind the first argument is a further argument or the closing bracket. -/
theorem followsType_charsAfter (ds : List Descriptor) (rest : List Char) :
    FollowsType (charsAfter ds ++ '>' :: rest) := by
  intro c hc
  cases ds with
  | nil => exact .inr (Option.some.inj hc).symm
  | cons d ds => exact .inl (Option.some.inj hc).symm

/-- The name at the beginning of a text is what comes before the first delimiter. -/
theorem takeWhile_name (name : TypeName) {rest : List Char}
    (hrest : ∀ c ∈ rest.head?, isDelimiter c = true) :
    (name.text.toList ++ rest).takeWhile (fun c ↦ !isDelimiter c) = name.text.toList := by
  have hnone : rest.takeWhile (fun c ↦ !isDelimiter c) = [] := by
    cases rest with
    | nil => rfl
    | cons c rest => simp [hrest c rfl]
  rw [List.takeWhile_append_of_pos fun c hc ↦ by simp [name.valid.plain c hc], hnone,
    List.append_nil]

theorem name_append_inj {name other : TypeName} {rest rest' : List Char}
    (hrest : ∀ c ∈ rest.head?, isDelimiter c = true)
    (hrest' : ∀ c ∈ rest'.head?, isDelimiter c = true)
    (h : name.text.toList ++ rest = other.text.toList ++ rest') : name = other ∧ rest = rest' := by
  have hname : name.text.toList = other.text.toList := by
    rw [← takeWhile_name name hrest, h, takeWhile_name other hrest']
  rw [hname] at h
  exact ⟨TypeName.text_injective (String.toList_injective hname), List.append_cancel_left h⟩

/-- The display of a generic type with a text behind it. -/
theorem chars_generic_append (name : TypeName) (d : Descriptor) (ds : List Descriptor)
    (rest : List Char) : (Descriptor.mk name (d :: ds)).chars ++ rest =
      name.text.toList ++ '<' :: (d.chars ++ (charsAfter ds ++ '>' :: rest)) := by
  simp [chars]

/-- An opening bracket stands behind no complete type. -/
theorem chars_append_ne_generic (name other : TypeName) (e : Descriptor) (es : List Descriptor)
    {rest : List Char} (hrest : FollowsType rest) (rest' : List Char) :
    (Descriptor.mk name []).chars ++ rest ≠ (Descriptor.mk other (e :: es)).chars ++ rest' := by
  intro h
  rw [chars, chars_generic_append] at h
  obtain ⟨-, rfl⟩ := name_append_inj (fun _ ↦ hrest.isDelimiter_head)
    (fun c hc ↦ by cases hc; rfl) h
  rcases hrest '<' rfl with hc | hc <;> cases hc

mutual

/-- A display can be told from the text behind it. -/
theorem chars_append_inj : (d e : Descriptor) → ∀ {rest rest' : List Char}, FollowsType rest →
    FollowsType rest' → d.chars ++ rest = e.chars ++ rest' → d = e ∧ rest = rest'
  | ⟨name, []⟩, ⟨other, []⟩, rest, rest', hrest, hrest', h => by
    obtain ⟨rfl, hsame⟩ :=
      name_append_inj (fun _ ↦ hrest.isDelimiter_head) (fun _ ↦ hrest'.isDelimiter_head) h
    exact ⟨rfl, hsame⟩
  | ⟨name, []⟩, ⟨other, e :: es⟩, rest, rest', hrest, hrest', h =>
    absurd h (chars_append_ne_generic name other e es hrest rest')
  | ⟨name, d :: ds⟩, ⟨other, []⟩, rest, rest', hrest, hrest', h =>
    absurd h.symm (chars_append_ne_generic other name d ds hrest' rest)
  | ⟨name, d :: ds⟩, ⟨other, e :: es⟩, rest, rest', hrest, hrest', h => by
    rw [chars_generic_append, chars_generic_append] at h
    obtain ⟨rfl, harguments⟩ := name_append_inj (fun c hc ↦ by cases hc; rfl)
      (fun c hc ↦ by cases hc; rfl) h
    obtain ⟨rfl, hothers⟩ := chars_append_inj d e (followsType_charsAfter ds rest)
      (followsType_charsAfter es rest') (List.cons.inj harguments).2
    obtain ⟨rfl, hsame⟩ := charsAfter_append_inj ds es hothers
    exact ⟨rfl, hsame⟩

/-- The arguments after the first one end at the closing bracket. -/
theorem charsAfter_append_inj : (ds es : List Descriptor) → ∀ {rest rest' : List Char},
    charsAfter ds ++ '>' :: rest = charsAfter es ++ '>' :: rest' → ds = es ∧ rest = rest'
  | [], [], rest, rest', h => by
    cases h
    exact ⟨rfl, rfl⟩
  | [], e :: es, rest, rest', h => by
    rw [charsAfter, charsAfter] at h
    cases h
  | d :: ds, [], rest, rest', h => by
    rw [charsAfter, charsAfter] at h
    cases h
  | d :: ds, e :: es, rest, rest', h => by
    simp only [charsAfter, List.cons_append, List.cons.injEq, true_and, List.append_assoc] at h
    obtain ⟨rfl, hothers⟩ := chars_append_inj d e (followsType_charsAfter ds rest)
      (followsType_charsAfter es rest') h
    obtain ⟨rfl, hsame⟩ := charsAfter_append_inj ds es hothers
    exact ⟨rfl, hsame⟩

end

/-- Two descriptors have the same display only if they are the same. -/
theorem display_eq_display_iff (d e : Descriptor) : d.display = e.display ↔ d = e := by
  refine ⟨fun h ↦ ?_, congrArg display⟩
  have hchars : d.chars ++ [] = e.chars ++ [] := by
    simpa [display] using congrArg String.toList h
  exact (chars_append_inj d e followsType_nil followsType_nil hchars).1

end Descriptor

end Exemplar
