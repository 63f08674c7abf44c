import Mathlib

/-! Texts cut at byte offsets, as UTF-8 counts them. A cut that would fall inside a character,
past the end, or behind another cut gives nothing. -/
namespace Slices

def bytes (text : List Char) : Nat := (text.map Char.utf8Size).sum

@[simp] theorem bytes_nil : bytes [] = 0 := rfl

@[simp] theorem bytes_cons (c : Char) (rest : List Char) : bytes (c :: rest) = c.utf8Size + bytes rest := by
  simp [bytes]

@[simp] theorem bytes_append (front back : List Char) : bytes (front ++ back) = bytes front + bytes back := by
  simp [bytes]

def front? : List Char → Nat → Option (List Char)
  | _, 0 => some []
  | [], _ + 1 => none
  | c :: rest, offset + 1 =>
    if c.utf8Size ≤ offset + 1 then (front? rest (offset + 1 - c.utf8Size)).map (c :: ·) else none

def back? : List Char → Nat → Option (List Char)
  | text, 0 => some text
  | [], _ + 1 => none
  | c :: rest, offset + 1 =>
    if c.utf8Size ≤ offset + 1 then back? rest (offset + 1 - c.utf8Size) else none

/-- What lies between two offsets. -/
def slice? (text : List Char) (first last : Nat) : Option (List Char) :=
  if first ≤ last then (front? text last).bind (back? · first) else none

/-- The offset of a character, where it first stands. -/
def find? (sought : Char) : List Char → Option Nat
  | [] => none
  | c :: rest => if c = sought then some 0 else (find? sought rest).map (c.utf8Size + ·)

theorem bytes_cons_succ (c : Char) (rest : List Char) : ∃ offset, bytes (c :: rest) = offset + 1 ∧
    c.utf8Size ≤ offset + 1 ∧ offset + 1 - c.utf8Size = bytes rest := by
  have positive := c.utf8Size_pos
  refine ⟨c.utf8Size + bytes rest - 1, ?_, ?_, ?_⟩
  · rw [bytes_cons]
    omega
  · omega
  · omega

theorem front?_append (front back : List Char) : front? (front ++ back) (bytes front) = some front := by
  induction front with
  | nil => cases back <;> rfl
  | cons c rest ih =>
    obtain ⟨offset, isOffset, reaches, left⟩ := bytes_cons_succ c rest
    rw [isOffset, List.cons_append, front?, if_pos reaches, left, ih, Option.map_some]

theorem back?_append (front back : List Char) : back? (front ++ back) (bytes front) = some back := by
  induction front with
  | nil => cases back <;> rfl
  | cons c rest ih =>
    obtain ⟨offset, isOffset, reaches, left⟩ := bytes_cons_succ c rest
    rw [isOffset, List.cons_append, back?, if_pos reaches, left, ih]

theorem slice?_between (front middle back : List Char) :
    slice? (front ++ middle ++ back) (bytes front) (bytes front + bytes middle) = some middle := by
  have ends := front?_append (front ++ middle) back
  rw [bytes_append] at ends
  rw [slice?, if_pos (Nat.le_add_right _ _), ends, Option.bind_some, back?_append]

theorem slice?_crossed (text : List Char) {first last : Nat} (crossed : last < first) :
    slice? text first last = none := by
  rw [slice?, if_neg (by omega)]

theorem find?_eq_none {sought : Char} {text : List Char} (absent : sought ∉ text) :
    find? sought text = none := by
  induction text with
  | nil => rfl
  | cons c rest ih =>
    rw [List.mem_cons, not_or] at absent
    rw [find?, if_neg (fun same => absent.1 same.symm), ih absent.2, Option.map_none]

theorem find?_append {sought : Char} {front : List Char} (absent : sought ∉ front) (back : List Char) :
    find? sought (front ++ sought :: back) = some (bytes front) := by
  induction front with
  | nil => rw [List.nil_append, find?, if_pos rfl, bytes_nil]
  | cons c rest ih =>
    rw [List.mem_cons, not_or] at absent
    rw [List.cons_append, find?, if_neg (fun same => absent.1 same.symm), ih absent.2, Option.map_some,
      bytes_cons]

end Slices
