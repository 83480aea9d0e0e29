import Snapl.Library.PythonText

/-!
# IPv4 addresses as text

Four octets between dots, and such an address with a prefix length behind a
slash.
-/

namespace Snapl.Library

/-- The address of four octets. -/
def dottedText (first second third fourth : Nat) : List Char :=
  Nat.toDigits 10 first ++ '.' :: (Nat.toDigits 10 second ++ '.' ::
    (Nat.toDigits 10 third ++ '.' :: Nat.toDigits 10 fourth))

/-- The text of an IPv4 address. -/
def Ipv4Address (address : List Char) : Prop :=
  ∃ first < 256, ∃ second < 256, ∃ third < 256, ∃ fourth < 256,
    address = dottedText first second third fourth

/-- The text of an IPv4 prefix. -/
def Ipv4Prefix (ipPrefix : List Char) : Prop :=
  ∃ address, Ipv4Address address ∧ ∃ length ≤ 32,
    ipPrefix = address ++ '/' :: Nat.toDigits 10 length

theorem toDigits_injective : Function.Injective (Nat.toDigits 10) := by
  have readBack : Function.LeftInverse (fun digits => Nat.ofDigitChars 10 digits 0)
      (Nat.toDigits 10) :=
    fun _ => Nat.ofDigitChars_ten_toDigits
  exact readBack.injective

/-- Only a natural number is written in digits alone. -/
theorem decimalText_eq_toDigits_iff (value : Int) (number : Nat) :
    decimalText value = Nat.toDigits 10 number ↔ value = number := by
  rw [decimalText]
  split_ifs with negative
  · constructor
    · intro same
      have sign : '-' ∈ Nat.toDigits 10 number := by
        rw [← same]
        exact List.mem_cons_self
      exact absurd (isDigit_of_mem_decimalDigits sign) (by decide)
    · intro same
      omega
  · constructor
    · intro same
      have equal := toDigits_injective same
      omega
    · rintro rfl
      rw [Int.natAbs_natCast]

section

variable {address rest : List Char}

theorem Ipv4Address.digit_or_dot (isAddress : Ipv4Address address) {char : Char}
    (member : char ∈ address) : char.isDigit = true ∨ char = '.' := by
  obtain ⟨first, -, second, -, third, -, fourth, -, rfl⟩ := isAddress
  simp only [dottedText, List.mem_append, List.mem_cons] at member
  rcases member with digit | rfl | digit | rfl | digit | rfl | digit
  · exact Or.inl (isDigit_of_mem_decimalDigits digit)
  · exact Or.inr rfl
  · exact Or.inl (isDigit_of_mem_decimalDigits digit)
  · exact Or.inr rfl
  · exact Or.inl (isDigit_of_mem_decimalDigits digit)
  · exact Or.inr rfl
  · exact Or.inl (isDigit_of_mem_decimalDigits digit)

theorem Ipv4Address.not_colon (isAddress : Ipv4Address address) : ':' ∉ address := by
  intro member
  rcases isAddress.digit_or_dot member with digit | dot
  · exact absurd digit (by decide)
  · exact absurd dot (by decide)

theorem Ipv4Address.not_slash (isAddress : Ipv4Address address) : '/' ∉ address := by
  intro member
  rcases isAddress.digit_or_dot member with digit | dot
  · exact absurd digit (by decide)
  · exact absurd dot (by decide)

/-- A prefix is split at its slash. -/
theorem ipv4Prefix_append_iff (noSlash : '/' ∉ address) :
    Ipv4Prefix (address ++ '/' :: rest) ↔
      Ipv4Address address ∧ ∃ length ≤ 32, rest = Nat.toDigits 10 length := by
  constructor
  · rintro ⟨other, isAddress, length, bound, same⟩
    have heads := congrArg (partitionHead '/') same
    have tails := congrArg (partitionTail '/') same
    rw [partitionHead_append _ noSlash, partitionHead_append _ isAddress.not_slash] at heads
    rw [partitionTail_append _ noSlash, partitionTail_append _ isAddress.not_slash] at tails
    subst heads
    exact ⟨isAddress, length, bound, tails⟩
  · rintro ⟨isAddress, length, bound, rfl⟩
    exact ⟨address, isAddress, length, bound, rfl⟩

end

end Snapl.Library
