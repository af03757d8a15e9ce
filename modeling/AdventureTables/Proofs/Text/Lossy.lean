import AdventureTables.Text.Utf8
import Mathlib.Algebra.Group.Nat.Even
/-!
# What is shown of octets

Octets that are no text are shown piece by piece.  What the reader does with an
octet is said once (`Yields`), and two things are taken from there.  None of the
octets goes unseen: where no piece ends, the reader is inside one.  So what is shown
of some octets is only empty if there are none (`lossy_ne_empty`).

Nor is a slash seen where there is none.  A slash is written by one octet, and the
octets that would write it in a longer way are not accepted: whatever is read of a
character of several octets is 128 or more in the end (`Wide`).  So a slash is only
shown for its octet (`slash_notMem_lossy`).
-/

namespace AdventureTables.Utf8

variable {name : List UInt8} {progress : Progress} {octet low : UInt8} {value more : Nat}

/-! ## Text -/

theorem octets_eq_flatMap (text : String) :
    octets text = text.toList.flatMap String.utf8EncodeChar := by
  rw [octets, ← String.utf8Encode_toList, List.utf8Encode, List.toList_data_toByteArray]

/-- The text that some octets write is written by these octets. -/
theorem octets_of_text? {text : String} (h : text? (ByteArray.mk name.toArray) = some text) :
    octets text = name := by
  unfold text? String.fromUTF8? at h
  split at h
  · obtain rfl := Option.some.inj h
    simp [octets, String.fromUTF8]
  · cases h

/-! ## What an octet does -/

/-- A character will be 128 or more, of which `value` is read, if the next octet is
at least `low` and `more` octets come after it. -/
def Wide (value more : Nat) (low : UInt8) : Prop :=
  0x80 ≤ (value * 64 + (low.toNat - 0x80)) * 64 ^ more

instance : Decidable (Wide value more low) :=
  inferInstanceAs (Decidable (_ ≤ _))

theorem Wide.of_le (h : Wide value more low) (hle : low ≤ octet) : Wide value more octet := by
  have hle := UInt8.le_iff_toNat_le.mp hle
  exact Nat.le_trans h (Nat.mul_le_mul_right _ (by omega))

/-- The reader is not inside a character that one octet could write. -/
def Progress.Sound : Progress → Prop
  | .between => True
  | .inside _ owed low _ value => ∃ more, owed = more + 1 ∧ Wide value more low

theorem sound_between : Progress.between.Sound := trivial

/-- What the reader may do with an octet. -/
inductive Yields (octet : UInt8) : List Piece × Progress → Prop
  | char {value : Nat} (h : value = octet.toNat ∨ 0x80 ≤ value) :
      Yields octet ([.char (Char.ofNat value)], .between)
  | stray {piece : List UInt8} : Yields octet ([.stray piece], .between)
  | inside {seen : List UInt8} {owed value : Nat} {low high : UInt8}
      (h : (Progress.inside seen owed low high value).Sound) :
      Yields octet ([], .inside seen owed low high value)
  | again {piece : List UInt8} {result : List Piece × Progress} (h : Yields octet result) :
      Yields octet (.stray piece :: result.1, result.2)

theorem yields_opening (octet : UInt8) : Yields octet (opening octet) := by
  have hlead : ∀ {value more : Nat} {low high : UInt8}, Wide value more low →
      Yields octet ([], .inside [octet] (more + 1) low high value) :=
    fun h => .inside ⟨_, rfl, h⟩
  have hbeyond : ∀ {bound : UInt8}, ¬ octet < bound → octet ≠ bound → bound.toNat < octet.toNat :=
    fun hle hne => Nat.lt_of_le_of_ne (Nat.le_of_not_lt hle)
      fun h => hne (UInt8.toNat_inj.mp h.symm)
  refine iteInduction (fun _ => .char (.inl rfl)) fun _ => ?_
  refine iteInduction (fun _ => .stray) fun hC2 => ?_
  refine iteInduction (fun _ => hlead ?_) fun hE0 => ?_
  · -- Two octets.  The first promises two times 64 at least.
    have h : 0xC2 ≤ octet.toNat := Nat.le_of_not_lt hC2
    show 0x80 ≤ ((octet.toNat - 0xC0) * 64 + 0) * 1
    omega
  refine iteInduction (fun _ => hlead (by decide)) fun hneE0 => ?_
  refine iteInduction (fun _ => hlead (by decide)) fun _ => ?_
  refine iteInduction (fun _ => hlead ?_) fun hF0 => ?_
  · have h : 0xE0 < octet.toNat := hbeyond hE0 hneE0
    show 0x80 ≤ ((octet.toNat - 0xE0) * 64 + 0) * 64
    omega
  refine iteInduction (fun _ => hlead (by decide)) fun hneF0 => ?_
  refine iteInduction (fun _ => hlead ?_) fun _ => ?_
  · have h : 0xF0 < octet.toNat := hbeyond hF0 hneF0
    show 0x80 ≤ ((octet.toNat - 0xF0) * 64 + 0) * 4096
    omega
  exact iteInduction (fun _ => hlead (by decide)) fun _ => .stray

theorem yields_step (h : progress.Sound) (octet : UInt8) : Yields octet (step progress octet) := by
  cases progress with
  | between => exact yields_opening octet
  | inside seen owed low high value =>
      obtain ⟨more, rfl, hwide⟩ := h
      refine iteInduction (fun hrange => ?_) fun _ => .again (yields_opening octet)
      have hread := hwide.of_le hrange.1
      cases more with
      | zero => exact .char (.inr (by simpa [Wide] using hread))
      | succ more =>
          have hmore : Wide (value * 64 + (octet.toNat - 0x80)) more 0x80 := by
            simpa [Wide, Nat.pow_succ', Nat.mul_assoc] using hread
          exact .inside ⟨more, rfl, hmore⟩

section Yields

variable {result : List Piece × Progress}

theorem Yields.sound (h : Yields octet result) : result.2.Sound := by
  induction h with
  | char => trivial
  | stray => trivial
  | inside h => exact h
  | again h ih => exact ih

/-- Where no piece ends, the reader is inside one. -/
theorem Yields.ne_between (h : Yields octet result) (hnone : result.1 = []) :
    result.2 ≠ .between := by
  cases h with
  | char => cases hnone
  | stray => cases hnone
  | inside => simp
  | again => cases hnone

theorem eq_of_ofNat_eq_slash (h : Char.ofNat value = '/') : value = 0x2F := by
  by_cases hvalid : value.isValidChar
  · rw [Char.ofNat, dif_pos hvalid] at h
    exact congrArg Char.toNat h
  · rw [Char.ofNat, dif_neg hvalid] at h
    cases h

/-- Only its own octet gives a slash. -/
theorem Yields.eq_of_slash (h : Yields octet result) (hslash : .char '/' ∈ result.1) :
    octet = 0x2F := by
  induction h with
  | @char value hvalue =>
      have hchar : Char.ofNat value = '/' := by simpa [eq_comm] using hslash
      have hslash := eq_of_ofNat_eq_slash hchar
      obtain hvalue | hvalue := hvalue
      · exact UInt8.toNat_inj.mp (hvalue.symm.trans hslash)
      · omega
  | stray => simp at hslash
  | inside => simp at hslash
  | again h ih => exact ih (by simpa using hslash)

end Yields

/-! ## What is shown -/

theorem pieces_cons (progress : Progress) (octet : UInt8) (rest : List UInt8) :
    pieces progress (octet :: rest) =
      (step progress octet).1 ++ pieces (step progress octet).2 rest := by
  cases progress <;> rfl

theorem pieces_eq_nil (hsound : progress.Sound) (h : pieces progress name = []) :
    progress = .between ∧ name = [] := by
  induction name generalizing progress with
  | nil =>
      cases progress with
      | between => exact ⟨rfl, rfl⟩
      | inside => cases h
  | cons octet rest ih =>
      have hyields := yields_step hsound octet
      obtain ⟨hnone, hrest⟩ := List.append_eq_nil_iff.mp (pieces_cons .. ▸ h)
      exact absurd (ih hyields.sound hrest).1 (hyields.ne_between hnone)

theorem slash_mem_pieces (hsound : progress.Sound) (h : .char '/' ∈ pieces progress name) :
    0x2F ∈ name := by
  induction name generalizing progress with
  | nil => cases progress <;> simp [pieces] at h
  | cons octet rest ih =>
      have hyields := yields_step hsound octet
      obtain hread | hrest := List.mem_append.mp (pieces_cons .. ▸ h)
      · exact hyields.eq_of_slash hread ▸ List.mem_cons_self
      · exact List.mem_cons_of_mem _ (ih hyields.sound hrest)

/-- Something is shown of any octets. -/
theorem lossy_ne_empty (h : name ≠ []) : lossy name ≠ "" := by
  unfold lossy
  split
  · next text htext =>
    rintro rfl
    exact h ((octets_of_text? htext).symm.trans rfl)
  · intro hempty
    have hpieces : (pieces .between name).map Piece.shown = [] := by
      rw [← String.toList_ofList (l := (pieces .between name).map Piece.shown), hempty]
      rfl
    exact h (pieces_eq_nil sound_between (List.map_eq_nil_iff.mp hpieces)).2

/-- A slash is only shown for its octet. -/
theorem slash_notMem_lossy (h : 0x2F ∉ name) : '/' ∉ (lossy name).toList := by
  unfold lossy
  split
  · next text htext =>
    intro hslash
    have hoctet : 0x2F ∈ octets text := by
      rw [octets_eq_flatMap]
      exact List.mem_flatMap.mpr ⟨'/', hslash, List.mem_singleton.mpr rfl⟩
    exact h (octets_of_text? htext ▸ hoctet)
  · rw [String.toList_ofList, List.mem_map]
    intro hslash
    obtain ⟨piece, hpiece, hshown⟩ := hslash
    cases piece with
    | char c =>
        obtain rfl : c = '/' := hshown
        exact h (slash_mem_pieces sound_between hpiece)
    | stray octets =>
        have hshown : '\uFFFD' = '/' := hshown
        exact absurd hshown (by decide)

end AdventureTables.Utf8
