import Mathlib
import Foc.Platform.Logging

/-!
What is left of a text once it is masked: no email address and no password hash, though the
second pattern is replaced in what the first one left.
-/
namespace Foc.Platform.Logging
open Library
open Library.Utf16 (Units)

variable {text word : Units}

/-! ## The patterns -/

theorem literal_over {test : UInt16 → Bool} (all : text.all test) :
    (literal text).Over (test · = true) := by
  induction text with
  | nil =>
    intro unit here
    cases here
  | cons first more ih =>
    rw [List.all_cons, Bool.and_eq_true] at all
    obtain ⟨here, later⟩ := all
    cases more with
    | nil =>
      intro unit same
      rw [eq_of_beq same]
      exact here
    | cons second rest =>
      refine ⟨?_, ih later⟩
      intro unit same
      rw [eq_of_beq same]
      exact here

theorem literal_takes (takes : (literal text).Takes word) : word = text := by
  induction text generalizing word with
  | nil =>
    rw [List.eq_nil_iff_forall_not_mem]
    intro unit member
    cases takes unit member
  | cons first more ih =>
    cases more with
    | nil =>
      obtain ⟨unit, rfl, same⟩ := takes
      rw [eq_of_beq same]
    | cons second rest =>
      obtain ⟨one, two, rfl, ⟨unit, rfl, same⟩, later⟩ := takes
      rw [eq_of_beq same, ih later]
      rfl

/-- The symbols of an email address. -/
def emailUnit (unit : UInt16) : Bool := localUnit unit || domainUnit unit || unit == 64

theorem local_email {unit : UInt16} (here : localUnit unit) : emailUnit unit := by
  simp [emailUnit, here]

theorem domain_email {unit : UInt16} (here : domainUnit unit) : emailUnit unit := by
  simp [emailUnit, here]

theorem letter_email {unit : UInt16} (here : letter unit) : emailUnit unit := by
  simp [emailUnit, localUnit, here]

theorem email_over : emailPattern.Over (emailUnit · = true) := by
  refine ⟨⟨fun _ => local_email, fun _ => local_email⟩,
    ⟨literal_over (by decide), literal_over (by decide)⟩,
    ⟨fun _ => domain_email, fun _ => domain_email⟩, literal_over (by decide), ?_⟩
  exact ⟨fun _ => letter_email, fun _ => letter_email, fun _ => letter_email⟩

theorem email_proper : emailPattern.Proper := .inl (.inl trivial)

theorem hash_over : passwordHashPattern.Over (hashUnit · = true) := by
  refine ⟨literal_over (by decide), ⟨⟨literal_over (by decide), literal_over (by decide),
    literal_over (by decide), literal_over (by decide)⟩, literal_over (by decide), ?_⟩,
    literal_over (by decide), fun _ => id⟩
  intro unit here
  have listed : unit ∈ units "abxy" := of_decide_eq_true here
  have all : (units "abxy").all hashUnit := by decide
  exact List.all_eq_true.mp all unit listed

theorem hash_proper : passwordHashPattern.Proper := .inl trivial

/-- An email address has an `@` or a `%`. -/
theorem email_sign (takes : emailPattern.Takes word) : 64 ∈ word ∨ 37 ∈ word := by
  obtain ⟨name, _, rfl, -, sign, rest, rfl, at_, -⟩ := takes
  rcases at_ with plain | encoded
  · have there : 64 ∈ units "@" := by decide
    rw [literal_takes plain]
    exact .inl (List.mem_append_right _ (List.mem_append_left _ there))
  · have there : 37 ∈ units "%40" := by decide
    rw [literal_takes encoded]
    exact .inr (List.mem_append_right _ (List.mem_append_left _ there))

theorem hash_sign (takes : passwordHashPattern.Takes word) : 36 ∈ word := by
  obtain ⟨sign, rest, rfl, dollar, -⟩ := takes
  rw [literal_takes dollar]
  exact List.mem_append_left _ (by decide)

/-- No email address and no password hash is in the text. -/
structure Clean (text : Units) : Prop where
  email : ¬ emailPattern.Contains text
  hash : ¬ passwordHashPattern.Contains text

theorem clean_plain (at_ : 64 ∉ text) (percent : 37 ∉ text) (dollar : 36 ∉ text) : Clean text where
  email := by
    rintro ⟨word, takes, there⟩
    rcases email_sign takes with one | two
    · exact at_ (there.subset one)
    · exact percent (there.subset two)
  hash := by
    rintro ⟨word, takes, there⟩
    exact dollar (there.subset (hash_sign takes))

/-! ## Masking -/

theorem email_sealed {inner : Units} (clean : Clean inner) :
    Pattern.Sealed emailPattern (91 :: inner ++ [93]) :=
  ⟨⟨_, email_over, 91, 93, inner, rfl, by decide, by decide, clean.email⟩⟩

theorem hash_sealed {inner : Units} (clean : Clean inner) :
    Pattern.Sealed passwordHashPattern (91 :: inner ++ [93]) :=
  ⟨⟨_, hash_over, 91, 93, inner, rfl, by decide, by decide, clean.hash⟩⟩

theorem mask_clean (text : Units) : Clean (maskPersonalData text) where
  email := by
    have inside : Clean (units "hash") := clean_plain (by decide) (by decide) (by decide)
    have inner : Clean (units "email") := clean_plain (by decide) (by decide) (by decide)
    exact Pattern.replace_keeps hash_proper (email_sealed inside)
      (Pattern.replace_complete email_proper (email_sealed inner) text)
  hash := by
    have inside : Clean (units "hash") := clean_plain (by decide) (by decide) (by decide)
    exact Pattern.replace_complete hash_proper (hash_sealed inside) _

/-- A clean text is left as it is. -/
theorem mask_same (clean : Clean text) : maskPersonalData text = text := by
  rw [maskPersonalData, Pattern.replace_clean email_proper clean.email,
    Pattern.replace_clean hash_proper clean.hash]

theorem mask_again (text : Units) :
    maskPersonalData (maskPersonalData text) = maskPersonalData text :=
  mask_same (mask_clean text)

/-- A space is never masked. -/
theorem mask_spaces (text : Units) : (maskPersonalData text).count 32 = text.count 32 := by
  rw [maskPersonalData, Pattern.replace_count hash_proper hash_over (by decide) (by decide),
    Pattern.replace_count email_proper email_over (by decide) (by decide)]

end Foc.Platform.Logging
