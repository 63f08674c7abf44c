import HomeCore.Types.Device
import Mathlib.Data.Nat.Bitwise

/-! The text of an identifier says which it is. -/
namespace HomeCore

theorem Uuid.hexDigit_injective {m n : Nat} (mSmall : m < 16) (nSmall : n < 16)
    (same : Uuid.hexDigit m = Uuid.hexDigit n) : m = n := by
  have table : ∀ a : Fin 16, ∀ b : Fin 16, Uuid.hexDigit a = Uuid.hexDigit b → a = b := by decide
  exact congrArg Fin.val (table ⟨m, mSmall⟩ ⟨n, nSmall⟩ same)

theorem Uuid.hexDigit_ne_hyphen {n : Nat} (small : n < 16) : Uuid.hexDigit n ≠ '-' := by
  have table : ∀ a : Fin 16, Uuid.hexDigit a ≠ '-' := by decide
  exact table ⟨n, small⟩

def Uuid.digits (id : Uuid) : List Char :=
  (List.range 32).map fun i => Uuid.hexDigit ((id.bits.toNat >>> (4 * (31 - i))) % 16)

theorem Uuid.text_filter (id : Uuid) : id.text.toList.filter (· ≠ '-') = id.digits := by
  have plain : ∀ c ∈ id.digits, c ≠ '-' := by
    intro c member
    obtain ⟨i, _, rfl⟩ := List.mem_map.mp member
    exact hexDigit_ne_hyphen (Nat.mod_lt _ (by decide))
  have kept : ∀ part : List Char, (∀ c ∈ part, c ∈ id.digits) → part.filter (· ≠ '-') = part := by
    intro part inside
    exact List.filter_eq_self.mpr fun c member => by simpa using plain c (inside c member)
  change (String.ofList (id.digits.take 8 ++ '-' :: (id.digits.drop 8).take 4 ++
    '-' :: (id.digits.drop 12).take 4 ++ '-' :: (id.digits.drop 16).take 4 ++
    '-' :: id.digits.drop 20)).toList.filter (· ≠ '-') = id.digits
  have split : id.digits.take 8 ++ (id.digits.drop 8).take 4 ++ (id.digits.drop 12).take 4 ++
      (id.digits.drop 16).take 4 ++ id.digits.drop 20 = id.digits := by rfl
  have taken : ∀ n m, ((id.digits.drop n).take m).filter (· ≠ '-') = (id.digits.drop n).take m :=
    fun n m => kept _ fun c member => List.mem_of_mem_drop (List.mem_of_mem_take member)
  have hyphen : ∀ part : List Char, ('-' :: part).filter (· ≠ '-') = part.filter (· ≠ '-') :=
    fun part => rfl
  rw [String.toList_ofList, List.filter_append, List.filter_append, List.filter_append,
    List.filter_append, hyphen, hyphen, hyphen, hyphen, taken, taken, taken,
    kept _ fun c member => List.mem_of_mem_take member,
    kept _ fun c member => List.mem_of_mem_drop member, split]

theorem Uuid.nibble_testBit (n k j : Nat) (small : j < 4) :
    ((n >>> (4 * k)) % 16).testBit j = n.testBit (4 * k + j) := by
  have mod : ((n >>> (4 * k)) % 2 ^ 4).testBit j = (decide (j < 4) && (n >>> (4 * k)).testBit j) :=
    Nat.testBit_mod_two_pow _ _ _
  rw [show (16 : Nat) = 2 ^ 4 from rfl, mod, Nat.testBit_shiftRight]
  simp [small]

theorem Uuid.text_injective {a b : Uuid} (same : a.text = b.text) : a = b := by
  have digits : a.digits = b.digits := by rw [← text_filter, ← text_filter, same]
  have nibbles : ∀ k < 32, (a.bits.toNat >>> (4 * k)) % 16 = (b.bits.toNat >>> (4 * k)) % 16 := by
    intro k small
    have entry := List.map_inj_left.mp digits (31 - k) (List.mem_range.mpr (by omega))
    rw [show 31 - (31 - k) = k by omega] at entry
    exact hexDigit_injective (Nat.mod_lt _ (by decide)) (Nat.mod_lt _ (by decide)) entry
  have bits : a.bits.toNat = b.bits.toNat := by
    apply Nat.eq_of_testBit_eq
    intro i
    by_cases small : i < 128
    · have here := congrArg (·.testBit (i % 4)) (nibbles (i / 4) (by omega))
      simp only [nibble_testBit _ _ _ (Nat.mod_lt i (by decide))] at here
      rwa [Nat.div_add_mod] at here
    · have high : ∀ id : Uuid, id.bits.toNat.testBit i = false := fun id =>
        Nat.testBit_lt_two_pow (id.bits.isLt.trans_le (Nat.pow_le_pow_right (by decide) (by omega)))
      rw [high, high]
  cases a
  cases b
  exact congrArg Uuid.mk (BitVec.eq_of_toNat_eq bits)

theorem Uuid.text_inj {a b : Uuid} : a.text = b.text ↔ a = b :=
  ⟨Uuid.text_injective, congrArg Uuid.text⟩

end HomeCore
