import LibTsn.OnesComplement
import Mathlib.Data.UInt

/-!
# The ICMP checksum of the sample

`icmp_checksum` of the sample adds up an ICMP message in the 16-bit words of the
host, folds the carries into the sum while it runs, and stores the complement.
The host is little-endian: its words are those of the network with their bytes
swapped, which multiplies them by 256 modulo `0xFFFF`.

A message of an odd length ends in half a word.  The code puts that byte into the
upper half of the host's word, where the lower half belongs.
-/

namespace LibTsn

namespace Sample

/-- `struct icmp_header` and what follows it. -/
structure IcmpMessage where
  type : UInt8
  code : UInt8
  checksum : UInt16
  body : List UInt8
deriving DecidableEq, Repr

/-- The message in the memory of a little-endian host. -/
def IcmpMessage.bytes (icmp : IcmpMessage) : List UInt8 :=
  icmp.type :: icmp.code :: UInt8.ofNat (icmp.checksum.toNat % 2 ^ 8) ::
    UInt8.ofNat (icmp.checksum.toNat / 2 ^ 8) :: icmp.body

/-- `(checksum >> 16) + (checksum & 0xFFFF)`. -/
def foldCarry (checksum : Nat) : Nat :=
  checksum / 2 ^ 16 + checksum % 2 ^ 16

/-- Adds to the sum and folds a carry. -/
def addToChecksum (checksum word : Nat) : Nat :=
  if (checksum + word) / 2 ^ 16 > 0 then foldCarry (checksum + word)
  else checksum + word

/-- The loop of `icmp_checksum` and its last byte. -/
def sumWords (checksum : Nat) : List UInt8 → Nat
  | first :: second :: rest =>
      sumWords (addToChecksum checksum (first.toNat + second.toNat * 2 ^ 8)) rest
  | [last] => addToChecksum checksum (last.toNat * 2 ^ 8)
  | [] => checksum

def icmpChecksum (icmp : IcmpMessage) (len : UInt16) : IcmpMessage :=
  let icmp := { icmp with checksum := 0 }
  let checksum := sumWords 0 (icmp.bytes.take len.toNat)
  { icmp with checksum := ~~~ UInt16.ofNat (foldCarry (foldCarry checksum)) }

/-- The 16-bit words of the network, zero padded. -/
def networkWords : List UInt8 → List Nat
  | first :: second :: rest =>
      (first.toNat * 2 ^ 8 + second.toNat) :: networkWords rest
  | [last] => [last.toNat * 2 ^ 8]
  | [] => []

/-- A receiver that adds up the message gets ones only. -/
def ChecksumRight (icmp : IcmpMessage) : Prop :=
  OnesComplement.sum 0xFFFF (networkWords icmp.bytes) = 0xFFFF

instance (icmp : IcmpMessage) : Decidable (ChecksumRight icmp) :=
  inferInstanceAs (Decidable (_ = _))

/-! ## The sum of the code -/

/-- The words that the code adds. -/
def hostWords : List UInt8 → List Nat
  | first :: second :: rest =>
      (first.toNat + second.toNat * 2 ^ 8) :: hostWords rest
  | [last] => [last.toNat * 2 ^ 8]
  | [] => []

theorem hostWords_le (bytes : List UInt8) :
    ∀ word ∈ hostWords bytes, word ≤ 0xFFFF := by
  induction bytes using hostWords.induct with
  | case1 first second rest ih =>
      have low := first.toNat_lt
      have high := second.toNat_lt
      exact List.forall_mem_cons.mpr ⟨by omega, ih⟩
  | case2 last =>
      have high := last.toNat_lt
      exact List.forall_mem_singleton.mpr (by omega)
  | case3 => exact fun word member => absurd member List.not_mem_nil

theorem networkWords_le (bytes : List UInt8) :
    ∀ word ∈ networkWords bytes, word ≤ 0xFFFF := by
  induction bytes using networkWords.induct with
  | case1 first second rest ih =>
      have high := first.toNat_lt
      have low := second.toNat_lt
      exact List.forall_mem_cons.mpr ⟨by omega, ih⟩
  | case2 last =>
      have high := last.toNat_lt
      exact List.forall_mem_singleton.mpr (by omega)
  | case3 => exact fun word member => absurd member List.not_mem_nil

theorem addToChecksum_eq {checksum word : Nat} (checksumLe : checksum ≤ 0xFFFF)
    (wordLe : word ≤ 0xFFFF) :
    addToChecksum checksum word = OnesComplement.add 0xFFFF checksum word := by
  unfold addToChecksum foldCarry OnesComplement.add
  split_ifs <;> omega

/-- Folding while the sum runs adds with an end-around carry. -/
theorem sumWords_eq {checksum : Nat} (checksumLe : checksum ≤ 0xFFFF)
    (bytes : List UInt8) :
    sumWords checksum bytes =
      OnesComplement.addAll 0xFFFF checksum (hostWords bytes) := by
  induction bytes using hostWords.induct generalizing checksum with
  | case1 first second rest ih =>
      have wordLe := hostWords_le (first :: second :: rest) _ List.mem_cons_self
      rw [sumWords, hostWords, OnesComplement.addAll_cons,
        addToChecksum_eq checksumLe wordLe]
      exact ih (OnesComplement.add_le checksumLe wordLe)
  | case2 last =>
      exact addToChecksum_eq checksumLe
        (hostWords_le [last] _ List.mem_cons_self)
  | case3 => rfl

theorem foldCarry_of_le {checksum : Nat} (checksumLe : checksum ≤ 0xFFFF) :
    foldCarry checksum = checksum := by
  unfold foldCarry
  omega

theorem foldCarry_sumWords (bytes : List UInt8) :
    foldCarry (foldCarry (sumWords 0 bytes)) =
      OnesComplement.sum 0xFFFF (hostWords bytes) := by
  have bounded := OnesComplement.sum_le (hostWords_le bytes)
  have summed : sumWords 0 bytes = OnesComplement.sum 0xFFFF (hostWords bytes) :=
    sumWords_eq (Nat.zero_le _) bytes
  rw [summed, foldCarry_of_le bounded, foldCarry_of_le bounded]

/-- The checksum that is stored, for a message that is summed in full. -/
theorem icmpChecksum_toNat {icmp : IcmpMessage} {len : UInt16}
    (whole : icmp.bytes.length = len.toNat) :
    (icmpChecksum icmp len).checksum.toNat = 0xFFFF -
      OnesComplement.sum 0xFFFF
        (hostWords { icmp with checksum := 0 }.bytes) := by
  have bounded := OnesComplement.sum_le
    (hostWords_le { icmp with checksum := 0 }.bytes)
  have all : { icmp with checksum := 0 }.bytes.take len.toNat =
      { icmp with checksum := 0 }.bytes :=
    List.take_of_length_le whole.le
  simp only [icmpChecksum, all, foldCarry_sumWords]
  rw [UInt16.toNat_not, UInt16.toNat_ofNat_of_lt' (Nat.lt_succ_of_le bounded)]
  rfl

/-! ## The two byte orders -/

/-- The byte that is left over in a message of an odd length. -/
def oddByte : List UInt8 → UInt8
  | _ :: _ :: rest => oddByte rest
  | [last] => last
  | [] => 0

/-- Swapping the bytes of a word multiplies it by 256, and the byte that is left
over is not swapped. -/
theorem networkWords_sum_modEq (bytes : List UInt8) :
    (networkWords bytes).sum ≡
      256 * (hostWords bytes).sum + 255 * (oddByte bytes).toNat [MOD 0xFFFF] := by
  induction bytes using networkWords.induct with
  | case1 first second rest ih =>
      simp only [networkWords, hostWords, oddByte, List.sum_cons]
      unfold Nat.ModEq at *
      omega
  | case2 last =>
      simp only [networkWords, hostWords, oddByte, List.sum_singleton]
      unfold Nat.ModEq
      omega
  | case3 => rfl

theorem sum_hostWords_eq_zero {bytes : List UInt8}
    (zero : (networkWords bytes).sum = 0) : (hostWords bytes).sum = 0 := by
  induction bytes using networkWords.induct with
  | case1 first second rest ih =>
      simp only [networkWords, hostWords, List.sum_cons] at *
      have later := ih (by omega)
      omega
  | case2 last => exact zero
  | case3 => rfl

theorem oddByte_eq_zero_iff (bytes : List UInt8) :
    oddByte bytes = 0 ↔ bytes.length % 2 = 1 → bytes.getLast? = some 0 := by
  induction bytes using networkWords.induct with
  | case1 first second rest ih =>
      have parity : (rest.length + 1 + 1) % 2 = rest.length % 2 := by omega
      rw [oddByte, ih, List.length_cons, List.length_cons, parity]
      cases rest with
      | nil => simp
      | cons third rest => simp
  | case2 last => simp [oddByte]
  | case3 => simp [oddByte]

/-! ## What a receiver adds up -/

theorem networkWords_bytes_sum (icmp : IcmpMessage) :
    (networkWords icmp.bytes).sum =
      icmp.type.toNat * 2 ^ 8 + icmp.code.toNat +
        (icmp.checksum.toNat % 2 ^ 8 * 2 ^ 8 + icmp.checksum.toNat / 2 ^ 8) +
        (networkWords icmp.body).sum := by
  have bounded := icmp.checksum.toNat_lt
  simp only [IcmpMessage.bytes, networkWords, List.sum_cons, UInt8.toNat_ofNat']
  omega

theorem hostWords_bytes_sum (icmp : IcmpMessage) :
    (hostWords icmp.bytes).sum =
      icmp.type.toNat + icmp.code.toNat * 2 ^ 8 + icmp.checksum.toNat +
        (hostWords icmp.body).sum := by
  have bounded := icmp.checksum.toNat_lt
  simp only [IcmpMessage.bytes, hostWords, List.sum_cons, UInt8.toNat_ofNat']
  omega

/-- The numbers of the network add up to the byte that is left over, 255 times,
and they are not all zero. -/
theorem icmpChecksum_sum {icmp : IcmpMessage} {len : UInt16}
    (whole : icmp.bytes.length = len.toNat) :
    (networkWords (icmpChecksum icmp len).bytes).sum ≡
        255 * (oddByte icmp.body).toNat [MOD 0xFFFF] ∧
      (networkWords (icmpChecksum icmp len).bytes).sum ≠ 0 := by
  have stored := icmpChecksum_toNat whole
  have bounded := OnesComplement.sum_le
    (hostWords_le { icmp with checksum := 0 }.bytes)
  have summed := @OnesComplement.sum_modEq 0xFFFF
    (hostWords { icmp with checksum := 0 }.bytes)
  have nothing := @OnesComplement.sum_eq_zero_iff 0xFFFF
    (hostWords { icmp with checksum := 0 }.bytes)
  have host := hostWords_bytes_sum { icmp with checksum := 0 }
  have swapped := networkWords_sum_modEq icmp.body
  have network := networkWords_bytes_sum (icmpChecksum icmp len)
  have clear := @sum_hostWords_eq_zero icmp.body
  have same : (icmpChecksum icmp len).type = icmp.type ∧
      (icmpChecksum icmp len).code = icmp.code ∧
      (icmpChecksum icmp len).body = icmp.body := ⟨rfl, rfl, rfl⟩
  rw [same.1, same.2.1, same.2.2, stored] at network
  have zero : (0 : UInt16).toNat = 0 := rfl
  simp only [zero] at host
  rw [network]
  unfold Nat.ModEq at *
  constructor
  · omega
  · omega

/-- **The ICMP checksum.**  For every message of a length that fits the argument,
a receiver gets ones only exactly when the length is even or the last byte is
zero. -/
theorem checksumRight_icmpChecksum_iff (icmp : IcmpMessage) (len : UInt16)
    (whole : icmp.bytes.length = len.toNat) :
    ChecksumRight (icmpChecksum icmp len) ↔
      (len.toNat % 2 = 1 → icmp.bytes.getLast? = some 0) := by
  obtain ⟨congruent, nonzero⟩ := icmpChecksum_sum whole
  have odd : oddByte icmp.bytes = oddByte icmp.body := rfl
  rw [ChecksumRight, OnesComplement.sum_eq_ones_iff (by decide)
    (networkWords_le _), congruent, ← whole, ← oddByte_eq_zero_iff, odd]
  have small := (oddByte icmp.body).toNat_lt
  rw [and_iff_left nonzero, ← UInt8.toNat_inj]
  have zero : (0 : UInt8).toNat = 0 := rfl
  omega

/-- An echo reply with the nine bytes `1` to `9` after the checksum. -/
def oddReply : IcmpMessage :=
  ⟨0, 0, 0, [1, 2, 3, 4, 5, 6, 7, 8, 9]⟩

theorem checksumRight_evenReply :
    ChecksumRight (icmpChecksum ⟨0, 0, 0, [1, 2, 3, 4, 5, 6, 7, 8]⟩ 12) :=
  (checksumRight_icmpChecksum_iff ⟨0, 0, 0, [1, 2, 3, 4, 5, 6, 7, 8]⟩ 12
    rfl).mpr (by decide)

theorem not_checksumRight :
    ¬ ∀ (icmp : IcmpMessage) (len : UInt16), 8 ≤ len →
      icmp.bytes.length = len.toNat → ChecksumRight (icmpChecksum icmp len) := by
  intro always
  have right := always oddReply 13 (by decide) rfl
  revert right
  decide +kernel

end Sample

end LibTsn
