import VmProvisioning.Proofs.Text.Bytes
import VmProvisioning.Proofs.Text.Pieces

/-!
# Byte offsets

Texts can be cut at byte offsets. A cut fails beyond the end of the text, and between the bytes of
one character.

## Main definitions

* `byteCount`: how many bytes a text has
* `cutAt?`, `sliceBytes?`: a text cut at byte offsets
* `offset?`: where a character first occurs

## Main results

* `cutAt?_eq_some_iff`: the two parts of a text that is cut, and so when it cannot be cut
-/

namespace VmProvisioning.Text

variable {front back cs : List Char} {c : Char} {offset : Nat}

/-- **The number of bytes** of a text. -/
def byteCount : List Char → Nat
  | [] => 0
  | c :: cs => c.utf8Size + byteCount cs

/-- **A text cut at a byte offset**, if a character begins or the text ends there. -/
def cutAt? : (offset : Nat) → List Char → Option (List Char × List Char)
  | 0, cs => some ([], cs)
  | _ + 1, [] => none
  | offset + 1, c :: cs =>
    if c.utf8Size ≤ offset + 1 then
      (cutAt? (offset + 1 - c.utf8Size) cs).map fun (front, back) => (c :: front, back)
    else none

/-- The text between two byte offsets. -/
def sliceBytes? (start stop : Nat) (cs : List Char) : Option (List Char) :=
  if start ≤ stop then
    (cutAt? start cs).bind fun (_, back) => (cutAt? (stop - start) back).map Prod.fst
  else none

/-- The byte offset at which a character first occurs. -/
def offset? (c : Char) (cs : List Char) : Option Nat :=
  (cut? [c] cs).map fun (front, _) => byteCount front

theorem byteCount_cons (c : Char) (cs : List Char) :
    byteCount (c :: cs) = c.utf8Size + byteCount cs := by
  rfl

theorem byteCount_append (front back : List Char) :
    byteCount (front ++ back) = byteCount front + byteCount back := by
  induction front with
  | nil => rw [List.nil_append, byteCount, Nat.zero_add]
  | cons c front ih => rw [List.cons_append, byteCount_cons, byteCount_cons, ih, Nat.add_assoc]

/-- These are the bytes of UTF-8. -/
theorem byteCount_eq_length_bytes (text : String) :
    byteCount text.toList = (bytes text).length := by
  rw [bytes_eq_flatMap]
  induction text.toList with
  | nil => rfl
  | cons c cs ih =>
    rw [byteCount_cons, ih, List.flatMap_cons, List.length_append, String.length_utf8EncodeChar]

theorem byteCount_eq_zero_iff : byteCount cs = 0 ↔ cs = [] := by
  cases cs with
  | nil => simp [byteCount]
  | cons c cs =>
    have hpos := c.utf8Size_pos
    rw [byteCount_cons]
    simp only [reduceCtorEq, iff_false]
    omega

/-- **A text is cut into two parts**, the first of which has the given number of bytes. Where there
are no such parts there is no cut. -/
theorem cutAt?_eq_some_iff : cutAt? offset cs = some (front, back) ↔
    cs = front ++ back ∧ byteCount front = offset := by
  fun_induction cutAt? offset cs generalizing front with
  | case1 cs =>
    simp only [Option.some.injEq, Prod.mk.injEq, byteCount_eq_zero_iff]
    constructor
    · rintro ⟨rfl, rfl⟩
      exact ⟨rfl, rfl⟩
    · rintro ⟨rfl, rfl⟩
      exact ⟨rfl, rfl⟩
  | case2 offset =>
    refine ⟨nofun, ?_⟩
    rintro ⟨hnil, hcount⟩
    rw [(List.append_eq_nil_iff.mp hnil.symm).1] at hcount
    cases hcount
  | case3 offset c cs hle ih =>
    simp only [Option.map_eq_some_iff, Prod.mk.injEq, Prod.exists]
    constructor
    · rintro ⟨front, back, hcut, rfl, rfl⟩
      obtain ⟨rfl, hcount⟩ := ih.mp hcut
      rw [byteCount_cons]
      exact ⟨rfl, by omega⟩
    · rintro ⟨heq, hcount⟩
      rcases List.cons_eq_append_iff.mp heq with ⟨rfl, -⟩ | ⟨others, rfl, rfl⟩
      · cases hcount
      · rw [byteCount_cons] at hcount
        exact ⟨others, back, ih.mpr ⟨rfl, by omega⟩, rfl, rfl⟩
  | case4 offset c cs hlt =>
    -- the offset stands within the first character
    refine ⟨nofun, ?_⟩
    rintro ⟨heq, hcount⟩
    rcases List.cons_eq_append_iff.mp heq with ⟨rfl, -⟩ | ⟨others, rfl, rfl⟩
    · cases hcount
    · rw [byteCount_cons] at hcount
      omega

theorem cutAt?_append : cutAt? (byteCount front) (front ++ back) = some (front, back) :=
  cutAt?_eq_some_iff.mpr ⟨rfl, rfl⟩

theorem sliceBytes?_append (between : List Char) :
    sliceBytes? (byteCount front) (byteCount front + byteCount between)
      (front ++ (between ++ back)) = some between := by
  rw [sliceBytes?, if_pos (Nat.le_add_right _ _), cutAt?_append, Nat.add_sub_cancel_left]
  simp only [Option.bind_some, cutAt?_append, Option.map_some]

theorem offset?_append_cons (h : c ∉ front) :
    offset? c (front ++ c :: back) = some (byteCount front) := by
  rw [offset?, cut?_append_cons h]
  rfl

theorem offset?_of_notMem (h : c ∉ cs) : offset? c cs = none := by
  rw [offset?, cut?_eq_none_iff.mpr h]
  rfl

end VmProvisioning.Text
