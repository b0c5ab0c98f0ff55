import DocSearch.Text.Case.Lower
import DocSearch.Proofs.Text.Utf8

/-!
# Lower case is final

The lower case of a text is its own lower case. No image of the map holds a character that the map
changes, and the two lower-case sigmas are left alone as well; so the second time nothing is left
to be mapped, and the neighbours of a sigma do not come into it.
-/
namespace DocSearch

/-! ## Maps that leave their images alone -/

namespace CodeRun

/-- Whether a run holds none of the code points from `low` to `high`, taken in steps. Where the
ranges overlap, both must go by twos, and one over even numbers and the other over odd ones. -/
def misses (r : CodeRun) (low high step : Nat) : Bool :=
  Nat.blt high r.first || Nat.blt r.last low ||
    (Nat.beq r.step 2 && (Nat.beq step 2 || Nat.beq low high) &&
      Nat.beq ((r.first + low) % 2) 1)

theorem not_holds_of_misses {r : CodeRun} {low high step n : Nat}
    (misses : r.misses low high step = true) (above : low ≤ n) (below : n ≤ high)
    (reached : (n - low) % step = 0) : r.holds n = false := by
  rw [CodeRun.misses, Bool.or_eq_true, Bool.or_eq_true, Bool.and_eq_true, Bool.and_eq_true,
    Bool.or_eq_true] at misses
  simp only [Nat.blt_eq, Nat.beq_eq] at misses
  rw [← Bool.not_eq_true, holds, Bool.and_eq_true, Bool.and_eq_true]
  simp only [decide_eq_true_eq, beq_iff_eq]
  rintro ⟨⟨first, last⟩, held⟩
  obtain (early | late) | ⟨⟨twos, rfl | rfl⟩, parity⟩ := misses
  · omega
  · omega
  · rw [twos] at held
    omega
  · rw [twos] at held
    omega

/-- Whether no run of the map holds a code point of an image of this run. -/
def isSettledIn (map : CodeMap) (r : CodeRun) : Bool :=
  match r.image with
  | [] => true
  | target :: more =>
    map.all (·.misses target (target + (r.last - r.first)) r.step) &&
      more.all fun m => map.all (·.misses m m 1)

theorem not_holds_of_isSettledIn {map : CodeMap} {r s : CodeRun}
    (settled : r.isSettledIn map = true) (member : s ∈ map) {n m : Nat} (held : r.holds n = true)
    (image : m ∈ r.imageOf n) : s.holds m = false := by
  rw [isSettledIn] at settled
  rw [imageOf] at image
  cases parts : r.image with
  | nil => simp [parts] at image
  | cons target more =>
    rw [holds, Bool.and_eq_true, Bool.and_eq_true, decide_eq_true_eq, decide_eq_true_eq,
      beq_iff_eq] at held
    obtain ⟨⟨first, last⟩, along⟩ := held
    simp only [parts, Bool.and_eq_true, List.all_eq_true] at settled
    simp only [parts, List.mem_cons] at image
    obtain rfl | fixed := image
    · refine not_holds_of_misses (settled.1 s member) (by omega) (by omega) ?_
      rwa [Nat.add_sub_cancel_left]
    · exact not_holds_of_misses (settled.2 m fixed s member) (Nat.le_refl m) (Nat.le_refl m)
        (Nat.mod_one _)

end CodeRun

namespace CodeMap

/-- Whether the map has no image that it would change again. -/
def isSettled (map : CodeMap) : Bool :=
  map.all fun r => r.isSettledIn map && r.misses 0 0 1

theorem image?_eq_none_iff (map : CodeMap) (c : Char) :
    map.image? c = none ↔ ∀ r ∈ map, r.holds c.toNat = false := by
  simp [image?]

theorem image?_of_mem_image {map : CodeMap} (settled : map.isSettled = true) {c d : Char}
    {image : List Char} (mapped : map.image? c = some image) (member : d ∈ image) :
    map.image? d = none := by
  rw [isSettled, List.all_eq_true] at settled
  obtain ⟨r, found, rfl⟩ := Option.map_eq_some_iff.mp mapped
  have held := List.find?_some found
  obtain ⟨m, reached, rfl⟩ := List.mem_map.mp member
  rw [image?_eq_none_iff]
  intro s listed
  -- a number that is no code point gives the character zero
  obtain value | value : (Char.ofNat m).toNat = m ∨ (Char.ofNat m).toNat = 0 := by
    rw [Utf8.toNat_ofNat]
    split
    · exact .inl rfl
    · exact .inr rfl
  · have here := settled r (List.mem_of_find?_eq_some found)
    rw [Bool.and_eq_true] at here
    rw [value]
    exact CodeRun.not_holds_of_isSettledIn here.1 listed held reached
  · have there := settled s listed
    rw [Bool.and_eq_true] at there
    rw [value]
    exact CodeRun.not_holds_of_misses there.2 (Nat.le_refl 0) (Nat.le_refl 0) rfl

end CodeMap

/-! ## Lower case -/

namespace Case

theorem isSettled_lowerMap : lowerMap.isSettled = true := by decide +kernel

theorem image?_of_mem_lowerChar {c d : Char} (member : d ∈ lowerChar c) :
    lowerMap.image? d = none := by
  rw [lowerChar] at member
  cases mapped : lowerMap.image? c with
  | none =>
    rw [mapped] at member
    rw [List.mem_singleton.mp member]
    exact mapped
  | some image =>
    rw [mapped] at member
    exact CodeMap.image?_of_mem_image isSettled_lowerMap mapped member

/-- What is written in lower case is not in the map any more. -/
theorem image?_of_mem_lowerFrom {before text : List Char} {c : Char}
    (member : c ∈ lowerFrom before text) : lowerMap.image? c = none := by
  induction text generalizing before with
  | nil => cases member
  | cons d rest ih =>
    have inside : lowerMap.image? 'σ' = none := by decide +kernel
    have closing : lowerMap.image? 'ς' = none := by decide +kernel
    rw [lowerFrom, List.mem_append] at member
    obtain here | later := member
    · split at here
      · split at here <;> rw [List.mem_singleton.mp here] <;> assumption
      · exact image?_of_mem_lowerChar here
    · exact ih later

/-- A text that holds nothing of the map is left as it is, whatever stands before it. -/
theorem lowerFrom_of_forall_image? {text : List Char}
    (settled : ∀ c ∈ text, lowerMap.image? c = none) (before : List Char) :
    lowerFrom before text = text := by
  induction text generalizing before with
  | nil => rfl
  | cons c rest ih =>
    obtain ⟨here, later⟩ := List.forall_mem_cons.mp settled
    have capital : lowerMap.image? 'Σ' ≠ none := by decide +kernel
    have other : c ≠ 'Σ' := by
      rintro rfl
      exact capital here
    have kept : lowerChar c = [c] := by rw [lowerChar, here, Option.getD_none]
    rw [lowerFrom, if_neg other, kept, ih later, List.singleton_append]

theorem lowerChars_lowerChars (text : List Char) : lowerChars (lowerChars text) = lowerChars text :=
  lowerFrom_of_forall_image? (fun _ member => image?_of_mem_lowerFrom member) []

theorem lower_lower (s : String) : lower (lower s) = lower s := by
  rw [lower, lower, String.toList_ofList, lowerChars_lowerChars]

/-- The sigma at the end of a word and a letter that becomes two characters. -/
example : lowerChars ['İ', 'Ο', 'Σ'] = ['i', '\u0307', 'ο', 'ς'] := by decide +kernel

end Case
end DocSearch
